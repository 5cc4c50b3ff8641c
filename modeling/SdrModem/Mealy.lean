import Mathlib.Data.List.Basic
import Mathlib.Data.List.Flatten

/-!
# Signal processing objects as Mealy machines

A filter, an oscillator or a mapper is a machine that answers every input with an
output and keeps a state in between.  An `Object` is such a machine in one of its
states; it processes a block of inputs in order, and `reset` takes it back to the
initial state.

`Streaming f` says of any stateful function on blocks that cutting a block in two
makes no difference.  It holds of an object, and it is kept by what a chain of
objects does to a block: flattening the answers, handing them to the next one,
leaving an object out.
-/
universe u

/-- A machine that answers every input. -/
structure Mealy (α β : Type) where
  State : Type
  init : State
  step : State → α → State × β

namespace Mealy

/-- A machine in one of its states. -/
structure Object (α β : Type) where
  machine : Mealy α β
  state : machine.State

namespace Object
variable {α β : Type}

/-- A new object. -/
def create (machine : Mealy α β) : Object α β := ⟨machine, machine.init⟩

/-- The object back in its initial state. -/
def reset (o : Object α β) : Object α β := create o.machine

/-- The object after a block of inputs, and its answers. -/
def process (o : Object α β) : List α → Object α β × List β
  | [] => (o, [])
  | x :: xs =>
    let next := o.machine.step o.state x
    let rest := process ⟨o.machine, next.1⟩ xs
    (rest.1, next.2 :: rest.2)

theorem process_append (o : Object α β) (xs ys : List α) :
    o.process (xs ++ ys) =
      (((o.process xs).1.process ys).1, (o.process xs).2 ++ ((o.process xs).1.process ys).2) := by
  induction xs generalizing o with
  | nil => rfl
  | cons x xs ih =>
    simp only [List.cons_append, process, ih]

@[simp] theorem length_process (o : Object α β) (xs : List α) :
    (o.process xs).2.length = xs.length := by
  induction xs generalizing o with
  | nil => rfl
  | cons x xs ih => rw [process, List.length_cons, ih, List.length_cons]

@[simp] theorem machine_process (o : Object α β) (xs : List α) :
    (o.process xs).1.machine = o.machine := by
  induction xs generalizing o with
  | nil => rfl
  | cons x xs ih => rw [process, ih]

@[simp] theorem reset_process (o : Object α β) (xs : List α) :
    (o.process xs).1.reset = o.reset := by
  rw [reset, machine_process, reset]

end Object

/-! ## Blocks that can be cut -/

section Streaming
variable {σ : Type u} {α β : Type}

/-- Nothing happens to an empty block, and a block can be cut anywhere. -/
structure Streaming (f : σ → List α → σ × List β) : Prop where
  nil : ∀ s, f s [] = (s, [])
  append : ∀ s xs ys, f s (xs ++ ys) = ((f (f s xs).1 ys).1, (f s xs).2 ++ (f (f s xs).1 ys).2)

/-- A block after the other, with the outputs joined. -/
def chunks (f : σ → List α → σ × List β) : σ → List (List α) → σ × List β
  | s, [] => (s, [])
  | s, xs :: xss => ((chunks f (f s xs).1 xss).1, (f s xs).2 ++ (chunks f (f s xs).1 xss).2)

/-- **However a block is cut, it makes no difference.** -/
theorem Streaming.chunks_eq {f : σ → List α → σ × List β} (h : Streaming f) (s : σ)
    (xss : List (List α)) : chunks f s xss = f s xss.flatten := by
  induction xss generalizing s with
  | nil => exact (h.nil s).symm
  | cons xs xss ih => rw [chunks, ih, List.flatten_cons, h.append]

/-- A block, one input after the other. -/
def steps (f : σ → α → σ × List β) : σ → List α → σ × List β
  | s, [] => (s, [])
  | s, x :: xs => ((steps f (f s x).1 xs).1, (f s x).2 ++ (steps f (f s x).1 xs).2)

theorem streaming_steps (f : σ → α → σ × List β) : Streaming (steps f) where
  nil _ := rfl
  append s xs ys := by
    induction xs generalizing s with
    | nil => rfl
    | cons x xs ih => simp only [List.cons_append, steps, ih, List.append_assoc]

/-- A stage that can be left out. -/
def optional (f : σ → List α → σ × List α) : Option σ → List α → Option σ × List α
  | none, xs => (none, xs)
  | some s, xs => (some (f s xs).1, (f s xs).2)

theorem Streaming.optional {f : σ → List α → σ × List α} (h : Streaming f) :
    Streaming (optional f) where
  nil s := by
    cases s with
    | none => rfl
    | some s => rw [Mealy.optional, h.nil]
  append s xs ys := by
    cases s with
    | none => rfl
    | some s => simp only [Mealy.optional, h.append]

end Streaming

/-! ## Objects that answer with blocks -/

namespace Object
variable {α β : Type} {k : Nat}

/-- An object that answers every input with `k` outputs. -/
def expand (o : Object α (Vector β k)) (xs : List α) : Object α (Vector β k) × List β :=
  ((o.process xs).1, (o.process xs).2.flatMap Vector.toList)

/-- An object that answers with any number of outputs. -/
def emit (o : Object α (List β)) (xs : List α) : Object α (List β) × List β :=
  ((o.process xs).1, (o.process xs).2.flatten)

theorem streaming_process : Streaming (process : Object α β → List α → Object α β × List β) :=
  ⟨fun _ => rfl, process_append⟩

theorem streaming_expand :
    Streaming (expand : Object α (Vector β k) → List α → Object α (Vector β k) × List β) where
  nil _ := rfl
  append o xs ys := by simp only [expand, process_append, List.flatMap_append]

theorem streaming_emit :
    Streaming (emit : Object α (List β) → List α → Object α (List β) × List β) where
  nil _ := rfl
  append o xs ys := by simp only [emit, process_append, List.flatten_append]

theorem length_expand (o : Object α (Vector β k)) (xs : List α) :
    (o.expand xs).2.length = xs.length * k := by
  have hblock : ∀ block ∈ (o.process xs).2, (Vector.toList block).length = k :=
    fun block _ => Vector.length_toList
  rw [expand, List.length_flatMap, List.map_congr_left hblock, List.map_const',
    List.sum_replicate_nat, length_process]

@[simp] theorem reset_expand (o : Object α (Vector β k)) (xs : List α) :
    (o.expand xs).1.reset = o.reset := reset_process o xs

@[simp] theorem reset_emit (o : Object α (List β)) (xs : List α) :
    (o.emit xs).1.reset = o.reset := reset_process o xs

end Object
end Mealy
