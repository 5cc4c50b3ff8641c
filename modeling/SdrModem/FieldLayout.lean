import Mathlib.Data.List.TakeDrop

/-!
# Records laid out in a buffer

A field is an offset and the cells stored there.  `writeFields` stores fields one
after the other, each at its own offset and over whatever stood there before; so
nothing in its definition keeps two fields from overlapping or from leaving a
hole.  `Adjacent` says that they do neither, and then the whole record is the
concatenation of its fields (`writeFields_eq`).  In the other direction, fields
that were all read from one buffer (`ReadFrom`) spell a piece of that buffer
(`fieldBytes_eq`).
-/
namespace FieldLayout
variable {α : Type}

/-- Store `cells` at `offset`, over what stands there. -/
def writeAt (buffer : List α) (offset : Nat) (cells : List α) : List α :=
  buffer.take offset ++ cells ++ buffer.drop (offset + cells.length)

/-- Store the fields in order. -/
def writeFields (buffer : List α) (fields : List (Nat × List α)) : List α :=
  fields.foldl (fun b field => writeAt b field.1 field.2) buffer

/-- The cells of all fields, in order. -/
def fieldBytes (fields : List (Nat × List α)) : List α := fields.flatMap Prod.snd

/-- Every field begins where the one before it ends, the first one at `start`. -/
def Adjacent : Nat → List (Nat × List α) → Prop
  | _, [] => True
  | start, (offset, cells) :: fields => offset = start ∧ Adjacent (start + cells.length) fields

/-- Every field holds the cells that `buffer` has at its offset. -/
def ReadFrom (buffer : List α) (fields : List (Nat × List α)) : Prop :=
  ∀ field ∈ fields, field.2 = (buffer.drop field.1).take field.2.length

@[simp] theorem fieldBytes_nil : fieldBytes ([] : List (Nat × List α)) = [] := rfl

@[simp] theorem fieldBytes_cons (field : Nat × List α) (fields : List (Nat × List α)) :
    fieldBytes (field :: fields) = field.2 ++ fieldBytes fields := rfl

/-- Storing cells right behind `front` leaves `front` alone. -/
theorem writeAt_append (front rest cells : List α) :
    writeAt (front ++ rest) front.length cells = front ++ cells ++ rest.drop cells.length := by
  rw [writeAt, List.take_left, ← List.drop_drop, List.drop_left]

/-- **Adjacent fields are stored as one block.** -/
theorem writeFields_append (front rest : List α) (fields : List (Nat × List α))
    (h : Adjacent front.length fields) :
    writeFields (front ++ rest) fields =
      front ++ fieldBytes fields ++ rest.drop (fieldBytes fields).length := by
  induction fields generalizing front rest with
  | nil => simp [writeFields]
  | cons field fields ih =>
    obtain ⟨offset, cells⟩ := field
    obtain ⟨rfl, htail⟩ := h
    rw [← List.length_append] at htail
    have hstep : writeFields (front ++ rest) ((front.length, cells) :: fields) =
        writeFields (front ++ cells ++ rest.drop cells.length) fields := by
      simp only [writeFields, List.foldl_cons, writeAt_append]
    rw [hstep, ih (front ++ cells) _ htail, fieldBytes_cons]
    simp only [List.append_assoc, List.drop_drop, List.length_append]

theorem writeFields_eq (buffer : List α) (fields : List (Nat × List α)) (h : Adjacent 0 fields) :
    writeFields buffer fields = fieldBytes fields ++ buffer.drop (fieldBytes fields).length := by
  have happ := writeFields_append [] buffer fields h
  simpa only [List.nil_append] using happ

/-- **Adjacent fields read from one buffer spell a piece of it.** -/
theorem fieldBytes_eq (buffer : List α) (start : Nat) (fields : List (Nat × List α))
    (h : Adjacent start fields) (hread : ReadFrom buffer fields) :
    fieldBytes fields = (buffer.drop start).take (fieldBytes fields).length := by
  induction fields generalizing start with
  | nil => simp
  | cons field fields ih =>
    obtain ⟨offset, cells⟩ := field
    obtain ⟨rfl, htail⟩ := h
    have hhead : cells = (buffer.drop offset).take cells.length := hread _ List.mem_cons_self
    have hrest := ih (offset + cells.length) htail fun f hf => hread f (List.mem_cons_of_mem _ hf)
    rw [fieldBytes_cons, List.length_append, List.take_add, List.drop_drop]
    rw [← hhead, ← hrest]

theorem readFrom_nil (buffer : List α) : ReadFrom buffer [] := List.forall_mem_nil _

theorem readFrom_cons {buffer : List α} {offset size : Nat} {cells : List α}
    {fields : List (Nat × List α)} (h : cells = (buffer.drop offset).take size)
    (hsize : cells.length = size) (hrest : ReadFrom buffer fields) :
    ReadFrom buffer ((offset, cells) :: fields) := by
  intro field hfield
  rcases List.mem_cons.mp hfield with rfl | hlater
  · rw [hsize]
    exact h
  · exact hrest field hlater

/-- In adjacent fields every field stands at its offset. -/
theorem drop_fieldBytes {start offset : Nat} {cells : List α} {fields : List (Nat × List α)}
    (h : Adjacent start fields) (hmem : (offset, cells) ∈ fields) (rest : List α) :
    start ≤ offset ∧
      ∃ tail, (fieldBytes fields ++ rest).drop (offset - start) = cells ++ tail := by
  induction fields generalizing start with
  | nil => cases hmem
  | cons field fields ih =>
    obtain ⟨first, front⟩ := field
    obtain ⟨rfl, htail⟩ := h
    rcases List.mem_cons.mp hmem with heq | hlater
    · obtain ⟨rfl, rfl⟩ := Prod.mk.inj heq
      refine ⟨Nat.le_refl _, fieldBytes fields ++ rest, ?_⟩
      simp
    · obtain ⟨hle, tail, hdrop⟩ := ih htail hlater
      refine ⟨by omega, tail, ?_⟩
      have hoffset : offset - first = front.length + (offset - (first + front.length)) := by omega
      rw [fieldBytes_cons, List.append_assoc, hoffset, ← List.drop_drop, List.drop_left]
      exact hdrop

end FieldLayout
