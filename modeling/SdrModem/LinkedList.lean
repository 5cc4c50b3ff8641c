import Mathlib.Data.List.Basic
import Mathlib.Logic.Function.Basic

/-!
# Singly linked lists with a head and a tail pointer

`Chain next p xs`: following `next` from the pointer `p` visits exactly the
addresses `xs`, in order, and then ends.  `Ends next first last xs` adds the
separately stored tail pointer.  The three ways a queue changes such a list —
unlinking the first node, linking a node behind the last one, and linking a
whole list behind it — are stated over the `next` function alone, so they apply
to any record of nodes.
-/
namespace LinkedList
variable {α : Type} [DecidableEq α] {next next' : α → Option α} {p : Option α} {xs ys : List α}

/-- The addresses visited from `p` along `next` are `xs`, and `next` of the last
one is no address. -/
def Chain (next : α → Option α) : Option α → List α → Prop
  | p, [] => p = none
  | p, x :: xs => p = some x ∧ Chain next (next x) xs

omit [DecidableEq α] in
theorem Chain.head (h : Chain next p xs) : p = xs.head? := by
  cases xs with
  | nil => exact h
  | cons x xs => exact h.1

omit [DecidableEq α] in
theorem Chain.eq_none_iff (h : Chain next p xs) : p = none ↔ xs = [] := by
  rw [h.head]
  cases xs <;> simp

/-- Following `next` for so many steps at most. -/
def walk (next : α → Option α) : Nat → Option α → List α
  | 0, _ => []
  | _ + 1, none => []
  | steps + 1, some x => x :: walk next steps (next x)

omit [DecidableEq α] in
theorem Chain.walk_eq (h : Chain next p xs) {steps : Nat} (hle : xs.length ≤ steps) :
    walk next steps p = xs := by
  induction xs generalizing p steps with
  | nil =>
    rw [h.eq_none_iff.mpr rfl]
    cases steps <;> rfl
  | cons x xs ih =>
    cases steps with
    | zero => exact absurd hle (Nat.not_succ_le_zero _)
    | succ steps =>
      rw [h.1, walk, ih h.2 (Nat.le_of_succ_le_succ hle)]

omit [DecidableEq α] in
/-- Only the `next` of the visited addresses matters. -/
theorem Chain.congr (h : Chain next p xs) (he : ∀ x ∈ xs, next' x = next x) :
    Chain next' p xs := by
  induction xs generalizing p with
  | nil => exact h
  | cons x xs ih =>
    refine ⟨h.1, ?_⟩
    rw [he x List.mem_cons_self]
    exact ih h.2 (fun y hy => he y (List.mem_cons_of_mem _ hy))

omit [DecidableEq α] in
/-- The last address of a chain has no successor. -/
theorem Chain.last_next {l : α} (h : Chain next p (xs ++ [l])) : next l = none := by
  induction xs generalizing p with
  | nil => exact h.2
  | cons x xs ih => exact ih h.2

/-- Linking the chain `ys` behind the last address of another chain. -/
theorem Chain.link {l : α} {q : Option α} (h : Chain next p (xs ++ [l])) (hq : Chain next q ys)
    (hlx : l ∉ xs) (hly : l ∉ ys) :
    Chain (Function.update next l q) p (xs ++ l :: ys) := by
  induction xs generalizing p with
  | nil =>
    refine ⟨h.1, ?_⟩
    rw [Function.update_self]
    exact hq.congr (fun y hy => Function.update_of_ne (ne_of_mem_of_not_mem hy hly) _ _)
  | cons x xs ih =>
    refine ⟨h.1, ?_⟩
    rw [Function.update_of_ne (ne_of_mem_of_not_mem List.mem_cons_self hlx)]
    exact ih h.2 (fun hm => hlx (List.mem_cons_of_mem _ hm))

/-- A chain with its head and tail pointers. -/
structure Ends (next : α → Option α) (first last : Option α) (xs : List α) : Prop where
  chain : Chain next first xs
  last_eq : last = xs.getLast?

variable {first last : Option α}

omit [DecidableEq α] in
theorem Ends.first_eq_none_iff (h : Ends next first last xs) : first = none ↔ xs = [] :=
  h.chain.eq_none_iff

omit [DecidableEq α] in
theorem Ends.last_eq_none_iff (h : Ends next first last xs) : last = none ↔ xs = [] := by
  rw [h.last_eq, List.getLast?_eq_none_iff]

omit [DecidableEq α] in
/-- Both pointers are set or neither is. -/
theorem Ends.first_eq_none_iff_last (h : Ends next first last xs) : first = none ↔ last = none :=
  h.first_eq_none_iff.trans h.last_eq_none_iff.symm

omit [DecidableEq α] in
/-- A set tail pointer is the last address, which has no successor. -/
theorem Ends.eq_concat {l : α} (h : Ends next first last xs) (hl : last = some l) :
    ∃ ys, xs = ys ++ [l] ∧ next l = none := by
  have hlast : xs.getLast? = some l := h.last_eq.symm.trans hl
  obtain ⟨ys, rfl⟩ := List.getLast?_eq_some_iff.mp hlast
  exact ⟨ys, rfl, h.chain.last_next⟩

omit [DecidableEq α] in
theorem Ends.congr (h : Ends next first last xs) (he : ∀ x ∈ xs, next' x = next x) :
    Ends next' first last xs :=
  ⟨h.chain.congr he, h.last_eq⟩

omit [DecidableEq α] in
theorem Ends.nil : Ends next none none [] := ⟨rfl, rfl⟩

omit [DecidableEq α] in
/-- **Unlinking the first node.**  The head pointer moves on; the tail pointer is
cleared when nothing is left. -/
theorem Ends.unlink {x : α} (h : Ends next first last (x :: xs)) :
    Ends next (next x) (if next x = none then none else last) xs := by
  refine ⟨h.chain.2, ?_⟩
  cases xs with
  | nil => rw [if_pos (show next x = none from h.chain.2)]; rfl
  | cons y ys => rw [if_neg (by rw [h.chain.2.1]; simp), h.last_eq]; simp

/-- `next` once `q` is linked behind the tail pointer. -/
def linkNext (next : α → Option α) (last q : Option α) : α → Option α :=
  match last with
  | none => next
  | some l => Function.update next l q

/-- The head pointer once `q` is linked behind the tail pointer: with no last
node the head pointer is set instead. -/
def linkFirst (first last q : Option α) : Option α :=
  match last with
  | none => q
  | some _ => first

/-- **Linking a list behind the last node.** -/
theorem Ends.link {first' last' : Option α} (h : Ends next first last xs)
    (h' : Ends next first' last' ys) (hne : ys ≠ []) (hnd : (xs ++ ys).Nodup) :
    Ends (linkNext next last first') (linkFirst first last first') last' (xs ++ ys) := by
  cases last with
  | none =>
    rw [h.last_eq_none_iff.mp rfl]
    exact h'
  | some l =>
    obtain ⟨zs, rfl, -⟩ := h.eq_concat rfl
    rw [List.append_assoc, List.nodup_append] at hnd
    obtain ⟨-, hnd', hdisj⟩ := hnd
    have hlz : l ∉ zs := fun hm => hdisj l hm l (by simp) rfl
    have hly : l ∉ ys := (List.nodup_cons.mp hnd').1
    refine ⟨?_, ?_⟩
    · rw [List.append_assoc]
      exact h.chain.link h'.chain hlz hly
    · rw [h'.last_eq, List.getLast?_append]
      cases hy : ys.getLast? with
      | none => exact absurd (List.getLast?_eq_none_iff.mp hy) hne
      | some y => rfl

/-- **Linking one node behind the last node.** -/
theorem Ends.push {t : α} (h : Ends next first last xs) (ht : next t = none)
    (hnd : (xs ++ [t]).Nodup) :
    Ends (linkNext next last (some t)) (linkFirst first last (some t)) (some t) (xs ++ [t]) :=
  h.link ⟨⟨rfl, ht⟩, rfl⟩ (by simp) hnd

/-- Linking behind the last node changes the `next` of that node alone. -/
theorem linkNext_of_ne {q : Option α} {x : α} (h : last ≠ some x) :
    linkNext next last q x = next x := by
  cases last with
  | none => rfl
  | some l => exact Function.update_of_ne (fun he => h (congrArg some he.symm)) _ _

end LinkedList
