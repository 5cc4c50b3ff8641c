import Mathlib.Data.List.Basic

/-!
# Copying into a buffer

`overwrite` puts elements in the place of others, and everything around them stays.
`memcpyAt` is the copy that has to fit; `readAt` and `memmove` have to fit as well.
-/
namespace Memcpy
variable {α : Type}

/-- Elements in the place of others. -/
def overwrite (buffer : List α) (start : Nat) (input : List α) : List α :=
  buffer.take start ++ input ++ buffer.drop (start + input.length)

/-- `memcpy` to a place in a buffer; `none` if it leaves the buffer. -/
def memcpyAt (buffer : List α) (start : Nat) (input : List α) : Option (List α) :=
  if start + input.length ≤ buffer.length then some (overwrite buffer start input) else none

/-- Elements of a buffer; `none` if the place leaves it. -/
def readAt (buffer : List α) (start len : Nat) : Option (List α) :=
  if start + len ≤ buffer.length then some ((buffer.drop start).take len) else none

/-- `memmove`: all is read before anything is written. -/
def memmove (buffer : List α) (target source len : Nat) : Option (List α) :=
  (readAt buffer source len).bind (memcpyAt buffer target)

variable {buffer input : List α} {start : Nat}

theorem overwrite_nil (buffer : List α) (start : Nat) : overwrite buffer start [] = buffer := by
  rw [overwrite, List.append_nil, List.length_nil, Nat.add_zero, List.take_append_drop]

theorem length_overwrite (h : start + input.length ≤ buffer.length) :
    (overwrite buffer start input).length = buffer.length := by
  rw [overwrite, List.length_append, List.length_append, List.length_take, List.length_drop]
  omega

/-- What there is up to the end of the copy. -/
theorem take_overwrite (h : start + input.length ≤ buffer.length) :
    (overwrite buffer start input).take (start + input.length) = buffer.take start ++ input := by
  refine List.take_left' ?_
  rw [List.length_append, List.length_take]
  omega

/-- One copy behind the other. -/
theorem overwrite_overwrite (h : start + input.length ≤ buffer.length) (more : List α) :
    overwrite (overwrite buffer start input) (start + input.length) more =
      overwrite buffer start (input ++ more) := by
  have hlength : (buffer.take start ++ input).length = start + input.length := by
    rw [List.length_append, List.length_take]
    omega
  rw [overwrite, take_overwrite h, overwrite, List.drop_append, hlength, overwrite,
    List.length_append, List.append_assoc _ input, List.drop_eq_nil_of_le (by omega),
    List.nil_append, List.drop_drop]
  congr 2
  omega

theorem memcpyAt_eq (h : start + input.length ≤ buffer.length) :
    memcpyAt buffer start input = some (overwrite buffer start input) := if_pos h

/-- A copy that fits. -/
theorem fits_of_memcpyAt {result : List α} (h : memcpyAt buffer start input = some result) :
    start + input.length ≤ buffer.length ∧ result.length = buffer.length := by
  rw [memcpyAt] at h
  split at h
  · rename_i hfits
    exact ⟨hfits, by rw [← Option.some.inj h, length_overwrite hfits]⟩
  · cases h

/-- A place that is in the buffer. -/
theorem fits_of_readAt {len : Nat} {result : List α} (h : readAt buffer start len = some result) :
    start + len ≤ buffer.length := by
  rw [readAt] at h
  split at h
  · rename_i hfits
    exact hfits
  · cases h

/-- What is read of the front of a buffer. -/
theorem readAt_take {n len : Nat} (hn : n ≤ buffer.length) (h : start + len ≤ n) :
    readAt buffer start len = some (((buffer.take n).drop start).take len) := by
  rw [readAt, if_pos (Nat.le_trans h hn), List.drop_take, List.take_take, Nat.min_eq_left (by omega)]

/-- Moving something to the front. -/
theorem memmove_front {source len : Nat} (h : source + len ≤ buffer.length) :
    ∃ moved, memmove buffer 0 source len = some moved ∧ moved.length = buffer.length ∧
      moved.take len = (buffer.drop source).take len := by
  have hlen : ((buffer.drop source).take len).length = len := by
    rw [List.length_take, List.length_drop]
    omega
  have hfits : 0 + ((buffer.drop source).take len).length ≤ buffer.length := by omega
  refine ⟨_, ?_, length_overwrite hfits, ?_⟩
  · rw [memmove, readAt, if_pos h, Option.bind_some, memcpyAt_eq hfits]
  · have htake := take_overwrite hfits
    rwa [Nat.zero_add, hlen, List.take_zero, List.nil_append] at htake

end Memcpy
