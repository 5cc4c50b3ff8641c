import Mathlib.Data.List.Basic

/-!
# Machines given by a partial step function

A machine is a function `step : State → Label → Option State`: `none` says that
the step is not enabled.  All non-determinism — the scheduler, the results of
system calls, the data a client sends — sits in the labels, so a run is a list
of labels and can be evaluated (`exec`).

`Run step allowed s ls s'` is a run from `s` to `s'` every one of whose steps was
`allowed` in the state it was taken from.  A property of all reachable states is
proved with `Run.invariant`: it holds in the first state and every allowed step
preserves it.  Since every prefix of a run is a run, a statement about the last
state of every run is a statement about every state reached.
-/
namespace Machine
variable {State Label : Type}

/-- The state after the steps `ls`, taken in order from `s`; `none` as soon as
one of them is not enabled. -/
def exec (step : State → Label → Option State) : State → List Label → Option State
  | s, [] => some s
  | s, l :: ls => (step s l).bind fun t => exec step t ls

/-- A run from `s` to `s'` through the steps `ls`, each of them `allowed` in the
state it is taken from. -/
def Run (step : State → Label → Option State) (allowed : State → Label → Prop) :
    State → List Label → State → Prop
  | s, [], s' => s' = s
  | s, l :: ls, s' => allowed s l ∧ ∃ t, step s l = some t ∧ Run step allowed t ls s'

/-- The machine that takes only the `allowed` steps of `step`. -/
def restrict (step : State → Label → Option State) (allowed : State → Label → Prop)
    [∀ s l, Decidable (allowed s l)] : State → Label → Option State :=
  fun s l => if allowed s l then step s l else none

variable {step : State → Label → Option State} {allowed : State → Label → Prop}

theorem exec_append (s : State) (ls ms : List Label) :
    exec step s (ls ++ ms) = (exec step s ls).bind fun t => exec step t ms := by
  induction ls generalizing s with
  | nil => rfl
  | cons l ls ih =>
    simp only [List.cons_append, exec, ih, Option.bind_assoc]

theorem exec_of_step {s t u : State} {l : Label} {ls : List Label} (h : step s l = some t)
    (hrest : exec step t ls = some u) : exec step s (l :: ls) = some u := by
  rw [exec, h, Option.bind_some, hrest]

theorem exec_of_last {s t : State} {l : Label} (h : step s l = some t) : exec step s [l] = some t :=
  exec_of_step h rfl

/-- A prefix of an execution is an execution. -/
theorem exec_prefix {s u : State} {ls ms : List Label} (h : exec step s (ls ++ ms) = some u) :
    ∃ t, exec step s ls = some t ∧ exec step t ms = some u := by
  rw [exec_append] at h
  exact Option.bind_eq_some_iff.mp h

/-- What holds of the last state of an execution that is enabled. -/
theorem exists_exec {s : State} {ls : List Label} {Q : State → Prop}
    (h : (exec step s ls).isSome = true) (hq : ∀ t, exec step s ls = some t → Q t) :
    ∃ t, exec step s ls = some t ∧ Q t := by
  obtain ⟨t, ht⟩ := Option.isSome_iff_exists.mp h
  exact ⟨t, ht, hq t ht⟩

/-- An execution of the restricted machine is a run of allowed steps. -/
theorem run_of_exec [∀ s l, Decidable (allowed s l)] {s s' : State} {ls : List Label}
    (h : exec (restrict step allowed) s ls = some s') : Run step allowed s ls s' := by
  induction ls generalizing s with
  | nil => exact (Option.some.inj h).symm
  | cons l ls ih =>
    obtain ⟨t, ht, hrest⟩ := Option.bind_eq_some_iff.mp h
    unfold restrict at ht
    split at ht
    · exact ⟨‹_›, t, ht, ih hrest⟩
    · cases ht

/-- An execution whose steps are allowed in every state is a run. -/
theorem run_of_labels {s s' : State} {ls : List Label} (hl : ∀ l ∈ ls, ∀ s, allowed s l)
    (h : exec step s ls = some s') : Run step allowed s ls s' := by
  induction ls generalizing s with
  | nil => exact (Option.some.inj h).symm
  | cons l ls ih =>
    obtain ⟨t, ht, hrest⟩ := Option.bind_eq_some_iff.mp h
    exact ⟨hl l List.mem_cons_self s, t, ht,
      ih (fun m hm => hl m (List.mem_cons_of_mem _ hm)) hrest⟩

/-- **The invariant rule.**  What holds in the first state and is preserved by
every allowed step holds in the last state. -/
theorem Run.invariant {Inv : State → Prop}
    (hstep : ∀ s l t, allowed s l → step s l = some t → Inv s → Inv t)
    {s s' : State} {ls : List Label} (h : Run step allowed s ls s') (hs : Inv s) : Inv s' := by
  induction ls generalizing s with
  | nil => exact h ▸ hs
  | cons l ls ih =>
    obtain ⟨hl, t, ht, hrest⟩ := h
    exact ih hrest (hstep s l t hl ht hs)

/-- A run of allowed steps is a run when more is allowed. -/
theorem Run.mono {allowed' : State → Label → Prop} (hsub : ∀ s l, allowed s l → allowed' s l)
    {s s' : State} {ls : List Label} (h : Run step allowed s ls s') :
    Run step allowed' s ls s' := by
  induction ls generalizing s with
  | nil => exact h
  | cons l ls ih =>
    obtain ⟨hl, t, ht, hrest⟩ := h
    exact ⟨hsub s l hl, t, ht, ih hrest⟩

/-- A single allowed step. -/
theorem Run.single {s t : State} {l : Label} (hl : allowed s l) (h : step s l = some t) :
    Run step allowed s [l] t := ⟨hl, t, h, rfl⟩

/-- One run after another. -/
theorem Run.append {s t u : State} {ls ms : List Label} (h : Run step allowed s ls t)
    (h' : Run step allowed t ms u) : Run step allowed s (ls ++ ms) u := by
  induction ls generalizing s with
  | nil => exact h ▸ h'
  | cons l ls ih =>
    obtain ⟨hl, v, hv, hrest⟩ := h
    exact ⟨hl, v, hv, ih hrest⟩

/-- How many steps of an execution are of the kind `p`. -/
def count (step : State → Label → Option State) (p : State → Label → Bool) :
    State → List Label → Nat
  | _, [] => 0
  | s, l :: ls => (if p s l then 1 else 0) + (step s l).elim 0 fun t => count step p t ls

/-- **The ranking rule.**  If an invariant holds, no step raises the rank and every step
of the kind `p` lowers it, then there are at most as many of them as the rank says. -/
theorem Run.count_le {Inv : State → Prop} (rank : State → Nat) (p : State → Label → Bool)
    (hstep : ∀ s l t, allowed s l → step s l = some t → Inv s →
      Inv t ∧ rank t + (if p s l then 1 else 0) ≤ rank s)
    {s s' : State} {ls : List Label} (h : Run step allowed s ls s') (hs : Inv s) :
    count step p s ls ≤ rank s := by
  induction ls generalizing s with
  | nil => exact Nat.zero_le _
  | cons l ls ih =>
    obtain ⟨hl, t, ht, hrest⟩ := h
    obtain ⟨hinv, hrank⟩ := hstep s l t hl ht hs
    have hle := ih hrest hinv
    rw [count, ht]
    change (if p s l then 1 else 0) + count step p t ls ≤ rank s
    omega

/-! ## States of any universe

A machine whose states hold machines of their own, with types for their states, runs with
`List.foldlM`. -/

section Fold
universe u v
variable {σ : Type u} {ι : Type v} {step : σ → ι → Option σ} {l : ι} {ls : List ι} {s t : σ}

theorem foldlM_cons_some (h : (l :: ls).foldlM step s = some t) :
    ∃ w, step s l = some w ∧ ls.foldlM step w = some t := by
  rw [List.foldlM_cons] at h
  exact Option.bind_eq_some_iff.mp h

/-- What every step of the run keeps. -/
theorem foldlM_invariant {Inv : σ → Prop}
    (hstep : ∀ s, ∀ l ∈ ls, ∀ t, step s l = some t → Inv s → Inv t)
    (h : ls.foldlM step s = some t) (hs : Inv s) : Inv t := by
  induction ls generalizing s with
  | nil =>
    cases h
    exact hs
  | cons l ls ih =>
    obtain ⟨w, hw, hrest⟩ := foldlM_cons_some h
    exact ih (fun s l hl => hstep s l (List.mem_cons_of_mem _ hl)) hrest
      (hstep s l List.mem_cons_self w hw hs)

end Fold

end Machine
