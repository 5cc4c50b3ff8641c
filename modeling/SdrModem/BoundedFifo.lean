import SdrModem.Machine

/-!
# A bounded first-in first-out queue with shutdown

What a blocking queue between several producers and one consumer is for, as a
machine over its visible events.  A producer's message is accepted (`put`) or
refused (`reject`); the consumer receives messages one at a time (`take`), tells
the queue when it is done with one (`complete`), and may look without finding
anything (`miss`).  After `close` nothing is accepted any more, and once
everything accepted has been received the consumer is told so (`drained`).

A producer that has to wait performs no event: `put` is simply not enabled while
`capacity` messages are pending or in flight.

The results are about whole histories: what was received is a prefix of what was
accepted, nothing is accepted after `close`, and `drained` is final.
-/
namespace BoundedFifo
open Machine
variable {α : Type}

/-- The messages waiting, the one being processed, and whether the queue is
closed. -/
structure Fifo (α : Type) where
  pending : List α
  inFlight : Option α
  closed : Bool
deriving DecidableEq, Repr

/-- The visible events of a bounded queue. -/
inductive Event (α : Type) where
  | put (a : α)
  | reject (a : α)
  | take (a : α)
  | miss
  | drained
  | complete
  | close
deriving DecidableEq, Repr

/-- Open, with nothing in it. -/
def Fifo.empty : Fifo α := ⟨[], none, false⟩

/-- How many slots are in use: the pending messages and the one in flight. -/
def Fifo.used (q : Fifo α) : Nat := q.pending.length + q.inFlight.toList.length

section Step
variable [DecidableEq α] (capacity : Nat) (fits : α → Bool)

/-- One event of a queue with `capacity` slots for messages that `fits`. -/
def step (q : Fifo α) : Event α → Option (Fifo α)
  | .put a =>
      if q.closed = false ∧ fits a = true ∧ q.used < capacity then
        some { q with pending := q.pending ++ [a] }
      else none
  | .reject a => if q.closed = true ∨ fits a = false then some q else none
  | .take a =>
      if q.pending.head? = some a ∧ q.inFlight = none then
        some { q with pending := q.pending.tail, inFlight := some a }
      else none
  | .miss => if q.pending = [] then some q else none
  | .drained => if q.pending = [] ∧ q.closed = true then some q else none
  | .complete => if q.inFlight.isSome then some { q with inFlight := none } else none
  | .close => some { q with closed := true }

/-- What a blocking producer gets: the queue with the message in it, the same
queue if the message is refused, and `none` while it has to wait. -/
def offer (q : Fifo α) (a : α) : Option (Fifo α) :=
  match step capacity fits q (.put a) with
  | some q' => some q'
  | none => step capacity fits q (.reject a)

end Step

/-- The messages accepted in a history, oldest first. -/
def accepted (h : List (Event α)) : List α :=
  h.filterMap fun | .put a => some a | _ => none

/-- The messages the consumer received in a history, oldest first. -/
def received (h : List (Event α)) : List α :=
  h.filterMap fun | .take a => some a | _ => none

@[simp] theorem accepted_append (h k : List (Event α)) :
    accepted (h ++ k) = accepted h ++ accepted k := List.filterMap_append

@[simp] theorem received_append (h k : List (Event α)) :
    received (h ++ k) = received h ++ received k := List.filterMap_append

variable [DecidableEq α] {capacity : Nat} {fits : α → Bool} {q q' : Fifo α}

/-! ## One event -/

theorem step_put {a : α} (h : step capacity fits q (.put a) = some q') :
    q.closed = false ∧ fits a = true ∧ q.used < capacity ∧
      q' = { q with pending := q.pending ++ [a] } := by
  simp only [step] at h
  split at h
  · rename_i hc
    exact ⟨hc.1, hc.2.1, hc.2.2, (Option.some.inj h).symm⟩
  · cases h

/-- What a blocking producer can get. -/
theorem offer_cases {a : α} (h : offer capacity fits q a = some q') :
    (q.closed = false ∧ fits a = true ∧ q' = { q with pending := q.pending ++ [a] }) ∨
      ((q.closed = true ∨ fits a = false) ∧ q' = q) := by
  unfold offer at h
  split at h
  · rename_i r hr
    cases h
    obtain ⟨hc, hf, -, hq⟩ := step_put hr
    exact Or.inl ⟨hc, hf, hq⟩
  · simp only [step] at h
    split at h
    · cases h; exact Or.inr ⟨‹_›, rfl⟩
    · cases h

/-- A producer does not wait while there is room. -/
theorem offer_isSome {a : α} (hroom : q.used < capacity) :
    (offer capacity fits q a).isSome = true := by
  unfold offer
  split
  · rfl
  · rename_i hput
    cases hclosed : q.closed with
    | true => simp [step, hclosed]
    | false =>
      cases hfits : fits a with
      | false => simp [step, hfits]
      | true => simp [step, hclosed, hfits, hroom] at hput

theorem step_take {a : α} (h : step capacity fits q (.take a) = some q') :
    q.pending = a :: q'.pending ∧ q.inFlight = none ∧ q'.inFlight = some a ∧
      q'.closed = q.closed := by
  simp only [step] at h
  split at h
  · rename_i hc
    cases h
    refine ⟨?_, hc.2, rfl, rfl⟩
    cases hp : q.pending with
    | nil => rw [hp] at hc; cases hc.1
    | cons b rest => rw [hp] at hc; cases hc.1; rfl
  · cases h

/-- Every event accounts for its messages: what was accepted before and by the
event is what was received before and by the event, then what is pending. -/
theorem step_conserves {e : Event α} (h : step capacity fits q e = some q') :
    q.pending ++ accepted [e] = received [e] ++ q'.pending := by
  cases e with
  | put a => obtain ⟨-, -, -, rfl⟩ := step_put h; simp [accepted, received]
  | take a => simp [accepted, received, (step_take h).1]
  | close => cases h; simp [accepted, received]
  | _ =>
    simp only [step] at h
    split at h
    · cases h; simp [accepted, received]
    · cases h

/-- A closed queue stays closed, and accepts nothing. -/
theorem step_closed {e : Event α} (h : step capacity fits q e = some q')
    (hc : q.closed = true) : q'.closed = true ∧ accepted [e] = [] := by
  cases e with
  | put a => obtain ⟨ho, -⟩ := step_put h; rw [hc] at ho; cases ho
  | take a => exact ⟨(step_take h).2.2.2.trans hc, rfl⟩
  | close => cases h; exact ⟨rfl, rfl⟩
  | _ =>
    simp only [step] at h
    split at h
    · cases h; exact ⟨hc, rfl⟩
    · cases h

/-! ## Whole histories -/

/-- **Nothing is lost, duplicated or reordered**: the messages accepted are the
messages received followed by the messages pending. -/
theorem accepted_eq {h : List (Event α)} (hq : exec (step capacity fits) q h = some q') :
    q.pending ++ accepted h = received h ++ q'.pending := by
  induction h generalizing q with
  | nil => cases hq; simp [accepted, received]
  | cons e h ih =>
    obtain ⟨r, hr, hrest⟩ := Option.bind_eq_some_iff.mp hq
    rw [show e :: h = [e] ++ h from rfl, accepted_append, received_append, ← List.append_assoc,
      step_conserves hr, List.append_assoc, ih hrest, List.append_assoc]

/-- What was received is a prefix of what was accepted. -/
theorem received_prefix {h : List (Event α)}
    (hq : exec (step capacity fits) Fifo.empty h = some q) : received h <+: accepted h := by
  have hall : accepted h = received h ++ q.pending := by simpa [Fifo.empty] using accepted_eq hq
  exact ⟨q.pending, hall.symm⟩

/-- Once closed, nothing is accepted any more. -/
theorem closed_accepts_nothing {h : List (Event α)}
    (hq : exec (step capacity fits) q h = some q') (hc : q.closed = true) :
    q'.closed = true ∧ accepted h = [] := by
  induction h generalizing q with
  | nil => cases hq; exact ⟨hc, rfl⟩
  | cons e h ih =>
    obtain ⟨r, hr, hrest⟩ := Option.bind_eq_some_iff.mp hq
    obtain ⟨hrc, he⟩ := step_closed hr hc
    obtain ⟨hqc, hh⟩ := ih hrest hrc
    exact ⟨hqc, by rw [show e :: h = [e] ++ h from rfl, accepted_append, he, hh]; rfl⟩

/-- **No message is accepted after `close`.** -/
theorem accepts_nothing_after_close {h k : List (Event α)}
    (hq : exec (step capacity fits) q (h ++ .close :: k) = some q') : accepted k = [] := by
  obtain ⟨r, -, hr⟩ := exec_prefix hq
  obtain ⟨t, ht, hk⟩ := Option.bind_eq_some_iff.mp hr
  cases ht
  exact (closed_accepts_nothing hk rfl).2

/-- **`drained` is reported only when everything accepted was received, and is
final**: nothing is accepted or received afterwards. -/
theorem drained_final {h k : List (Event α)}
    (hq : exec (step capacity fits) Fifo.empty (h ++ .drained :: k) = some q) :
    received h = accepted h ∧ .close ∈ h ∧ accepted k = [] ∧ received k = [] := by
  obtain ⟨r, hr, hrest⟩ := exec_prefix hq
  obtain ⟨t, ht, hk⟩ := Option.bind_eq_some_iff.mp hrest
  simp only [step] at ht
  split at ht
  · rename_i hcond
    cases ht
    have hall : accepted h = received h ++ r.pending := by simpa [Fifo.empty] using accepted_eq hr
    have hafter := closed_accepts_nothing hk hcond.2
    have hlast := accepted_eq hk
    rw [hcond.1, hafter.2] at hlast
    refine ⟨by rw [hall, hcond.1, List.append_nil], ?_, hafter.2,
      (List.append_eq_nil_iff.mp hlast.symm).1⟩
    -- a queue is closed only by `close`
    have hopen : ∀ {h : List (Event α)} {p p' : Fifo α}, exec (step capacity fits) p h = some p' →
        p'.closed = true → p.closed = true ∨ .close ∈ h := by
      intro h
      induction h with
      | nil => intro p p' hp hc; cases hp; exact Or.inl hc
      | cons e h ih =>
        intro p p' hp hc
        obtain ⟨u, hu, hurest⟩ := Option.bind_eq_some_iff.mp hp
        rcases ih hurest hc with hcu | hmem
        · cases e with
          | close => exact Or.inr List.mem_cons_self
          | take a => exact Or.inl ((step_take hu).2.2.2 ▸ hcu)
          | _ =>
            simp only [step] at hu
            split at hu
            · cases hu; exact Or.inl hcu
            · cases hu
        · exact Or.inr (List.mem_cons_of_mem _ hmem)
    exact (hopen hr hcond.2).resolve_left (by simp [Fifo.empty])
  · cases ht

/-- The message in flight is the last one received. -/
theorem inFlight_last {h : List (Event α)} {a : α}
    (hq : exec (step capacity fits) Fifo.empty h = some q) (ha : q.inFlight = some a) :
    (received h).getLast? = some a := by
  suffices key : ∀ {h : List (Event α)} {p p' : Fifo α}, exec (step capacity fits) p h = some p' →
      p'.inFlight = some a → (received h).getLast? = some a ∨ (received h = [] ∧ p.inFlight = some a) by
    exact (key hq ha).resolve_right (by simp [Fifo.empty])
  intro h
  induction h with
  | nil => intro p p' hp hc; cases hp; exact Or.inr ⟨rfl, hc⟩
  | cons e h ih =>
    intro p p' hp hc
    obtain ⟨u, hu, hurest⟩ := Option.bind_eq_some_iff.mp hp
    rw [show e :: h = [e] ++ h from rfl, received_append]
    rcases ih hurest hc with hlast | ⟨hnil, hin⟩
    · left
      rw [List.getLast?_append, hlast]; rfl
    · rw [hnil, List.append_nil]
      cases e with
      | take b =>
        rw [(step_take hu).2.2.1] at hin
        exact Or.inl (by simpa [received] using hin)
      | put b =>
        obtain ⟨-, -, -, rfl⟩ := step_put hu
        exact Or.inr ⟨rfl, hin⟩
      | close => cases hu; exact Or.inr ⟨rfl, hin⟩
      | complete =>
        simp only [step] at hu
        split at hu
        · cases hu; cases hin
        · cases hu
      | _ =>
        simp only [step] at hu
        split at hu
        · cases hu; exact Or.inr ⟨rfl, hin⟩
        · cases hu

end BoundedFifo
