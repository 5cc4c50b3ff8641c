import Mathlib.Algebra.BigOperators.Group.List.Basic
import Mathlib.Algebra.BigOperators.Intervals
import Mathlib.Algebra.Module.Defs

/-!
# Decimated convolution

`valueAt` is a value of the convolution of a stream with taps, where the stream is zero
before it starts.  It is the product of the reversed taps with a window of the stream behind
as many zeros as there are taps but one (`dot_reverse_window`).

A decimated convolution has the values at the multiples of a number.  The first of them that
is not below the end of the stream can be behind it: `overshoot` is how far.
-/
namespace Convolution

/-! ## Values -/

section Values
variable {K X : Type} [Semiring K] [AddCommMonoid X] [Module K X]

/-- The sum of the products. -/
def dot (taps : List K) (window : List X) : X := (List.zipWith (· • ·) taps window).sum

/-- The value at a place of the stream. -/
def valueAt (taps : List K) (stream : List X) (n : Nat) : X :=
  ∑ j ∈ Finset.range taps.length, taps.getD j 0 • if j ≤ n then stream.getD (n - j) 0 else 0

/-- The stream, with zeros before it. -/
def padded (taps : List K) (stream : List X) : List X :=
  List.replicate (taps.length - 1) 0 ++ stream

/-- The values at the multiples of `decimation`. -/
def decimated (taps : List K) (decimation : Nat) (stream : List X) : List X :=
  (List.range ((stream.length + decimation - 1) / decimation)).map fun k =>
    valueAt taps stream (k * decimation)

theorem dot_eq_sum (taps : List K) {window : List X} (h : taps.length ≤ window.length) :
    dot taps window = ∑ j ∈ Finset.range taps.length, taps.getD j 0 • window.getD j 0 := by
  induction taps generalizing window with
  | nil => rfl
  | cons tap taps ih =>
    cases window with
    | nil => exact absurd h (Nat.not_succ_le_zero _)
    | cons x window =>
      rw [List.length_cons, Finset.sum_range_succ', dot, List.zipWith_cons_cons, List.sum_cons,
        ← dot, ih (Nat.le_of_succ_le_succ h), add_comm]
      rfl

omit [Semiring K] [Module K X] in
theorem getD_padded (taps : List K) (stream : List X) (n : Nat) :
    (padded taps stream).getD n 0 =
      if taps.length - 1 ≤ n then stream.getD (n - (taps.length - 1)) 0 else 0 := by
  rw [padded, List.getD_eq_getElem?_getD, List.getElem?_append, List.length_replicate]
  split
  · rename_i h
    rw [if_neg (by omega), List.getElem?_replicate, if_pos h]
    rfl
  · rename_i h
    rw [if_pos (by omega), List.getD_eq_getElem?_getD]

/-- **The window that ends at a place of the stream.** -/
theorem dot_reverse_window (taps : List K) {stream : List X} {n : Nat} (h : n < stream.length) :
    dot taps.reverse (((padded taps stream).drop n).take taps.length) = valueAt taps stream n := by
  have hlength : taps.reverse.length ≤
      (((padded taps stream).drop n).take taps.length).length := by
    rw [List.length_reverse, List.length_take, List.length_drop, padded, List.length_append,
      List.length_replicate]
    omega
  rw [dot_eq_sum _ hlength, List.length_reverse, ← Finset.sum_range_reflect, valueAt]
  refine Finset.sum_congr rfl fun j hj => ?_
  have hj := Finset.mem_range.mp hj
  have htap : taps.reverse.getD (taps.length - 1 - j) 0 = taps.getD j 0 := by
    rw [List.getD_eq_getElem?_getD, List.getElem?_reverse (by omega), List.getD_eq_getElem?_getD]
    congr 2
    omega
  have hwindow : (((padded taps stream).drop n).take taps.length).getD (taps.length - 1 - j) 0 =
      if j ≤ n then stream.getD (n - j) 0 else 0 := by
    rw [List.getD_eq_getElem?_getD, List.getElem?_take_of_lt (by omega), List.getElem?_drop,
      ← List.getD_eq_getElem?_getD, getD_padded]
    by_cases hle : j ≤ n
    · rw [if_pos hle, if_pos (by omega)]
      congr 1
      omega
    · rw [if_neg hle, if_neg (by omega)]
  rw [htap, hwindow]

/-- Values do not depend on what comes later. -/
theorem valueAt_append (taps : List K) {stream : List X} {n : Nat} (h : n < stream.length)
    (more : List X) : valueAt taps (stream ++ more) n = valueAt taps stream n := by
  refine Finset.sum_congr rfl fun j _ => ?_
  have hget : (stream ++ more).getD (n - j) 0 = stream.getD (n - j) 0 := by
    rw [List.getD_eq_getElem?_getD, List.getElem?_append_left (by omega),
      List.getD_eq_getElem?_getD]
  rw [hget]

end Values

/-! ## Places -/

/-- How far the next multiple is behind the end. -/
def overshoot (decimation n : Nat) : Nat := (decimation - n % decimation) % decimation

variable {decimation : Nat}

theorem overshoot_lt (hpos : 0 < decimation) (n : Nat) : overshoot decimation n < decimation :=
  Nat.mod_lt _ hpos

/-- The first multiple that is not below the end. -/
theorem ceil_mul (hpos : 0 < decimation) (n : Nat) :
    (n + decimation - 1) / decimation * decimation = n + overshoot decimation n := by
  have hn := Nat.div_add_mod n decimation
  have hlt := Nat.mod_lt n hpos
  rcases Nat.eq_zero_or_pos (n % decimation) with hzero | hrest
  · have hsum : n + decimation - 1 = decimation - 1 + decimation * (n / decimation) := by omega
    rw [overshoot, hzero, Nat.sub_zero, Nat.mod_self, hsum, Nat.add_mul_div_left _ _ hpos,
      Nat.div_eq_of_lt (by omega), Nat.zero_add, Nat.mul_comm]
    omega
  · have hsum : n + decimation - 1 =
        n % decimation - 1 + decimation * (n / decimation + 1) := by
      rw [Nat.mul_succ]
      omega
    rw [overshoot, Nat.mod_eq_of_lt (by omega), hsum, Nat.add_mul_div_left _ _ hpos,
      Nat.div_eq_of_lt (by omega), Nat.zero_add, Nat.mul_comm, Nat.mul_succ]
    omega

theorem lt_ceil_iff (hpos : 0 < decimation) (n k : Nat) :
    k < (n + decimation - 1) / decimation ↔ k * decimation < n := by
  rw [Nat.lt_iff_add_one_le, Nat.le_div_iff_mul_le hpos, Nat.succ_mul]
  omega

/-- A longer stream has more multiples below its end. -/
theorem ceil_add (hpos : 0 < decimation) {n m : Nat} (h : overshoot decimation n ≤ m) :
    (n + m + decimation - 1) / decimation =
      (n + decimation - 1) / decimation +
        (m - overshoot decimation n + decimation - 1) / decimation := by
  have hsum : n + m + decimation - 1 = m - overshoot decimation n + decimation - 1 +
      decimation * ((n + decimation - 1) / decimation) := by
    rw [Nat.mul_comm, ceil_mul hpos]
    omega
  rw [hsum, Nat.add_mul_div_left _ _ hpos, Nat.add_comm]

end Convolution
