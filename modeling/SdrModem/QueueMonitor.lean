import SdrModem.QueueShape

/-!
# What the threads around the queue can do to it

The sections of `queue_put` and `queue_take` are inverted once (`PutOutcome`,
`queueTake_cases`).  From that follow two invariants of every run of the monitor:
the representation of the queue stays well formed as long as its users keep to
the protocol of `queue.h` (`Monitor.Allowed`), and nobody sleeps through the
event it waits for unless `queue_reset` is called over the head of a waiting
producer.
-/
namespace SdrModem
open LinkedList Machine BoundedFifo

/-- How a section of `queue_put` can end, and when. -/
inductive PutOutcome (m : QueueMessage) (q : Queue) : Section Int → Prop where
  | refused (h : q.bufferSize < m.bufferLen ∨ q.poisonPill = true) :
      PutOutcome m q (.returns (-1) q false)
  | waits (hfree : q.firstFreeNode = none) (hpill : q.poisonPill = false)
      (hm : m.bufferLen ≤ q.bufferSize) : PutOutcome m q .waits
  | stored (q' : Queue) (hq : queuePutNode m q = some q') (hm : m.bufferLen ≤ q.bufferSize)
      (hopen : q.blocking = true → q.poisonPill = false ∧ q.firstFreeNode ≠ none) :
      PutOutcome m q (.returns 0 q' true)
  | undefined : PutOutcome m q .undefined

theorem queuePutCommit_outcome {m : QueueMessage} {q : Queue} (hm : m.bufferLen ≤ q.bufferSize)
    (hopen : q.blocking = true → q.poisonPill = false ∧ q.firstFreeNode ≠ none) :
    PutOutcome m q (queuePutCommit m q) := by
  unfold queuePutCommit
  cases hq : queuePutNode m q with
  | none => exact .undefined
  | some q' => exact .stored q' hq hm hopen

theorem queuePutWake_outcome {m : QueueMessage} {q : Queue} (hm : m.bufferLen ≤ q.bufferSize) :
    PutOutcome m q (queuePutWake m q) := by
  unfold queuePutWake
  split
  · exact .refused (Or.inr ‹_›)
  · rename_i hpill
    have hpill : q.poisonPill = false := by simpa using hpill
    split
    · exact .waits ‹_› hpill hm
    · exact queuePutCommit_outcome hm (fun _ => ⟨hpill, ‹_›⟩)

theorem queuePut_outcome (m : QueueMessage) (q : Queue) : PutOutcome m q (queuePut m q) := by
  unfold queuePut
  split
  · exact .refused (Or.inl ‹_›)
  · rename_i hm
    have hm : m.bufferLen ≤ q.bufferSize := by omega
    split
    · exact queuePutWake_outcome hm
    · rename_i hb
      exact queuePutCommit_outcome hm (fun h => absurd h hb)

/-- How `queue_take` can end. -/
theorem queueTake_cases (q : Queue) :
    (q.firstFilledNode = none ∧ q.poisonPill = true ∧ queueTake q = .returns none q false) ∨
    (q.firstFilledNode = none ∧ q.poisonPill = false ∧ queueTake q = .waits) ∨
    ∃ a, q.firstFilledNode = some a ∧
      queueTake q = .returns (some (q.message a)) (queueDetach q a) false := by
  unfold queueTake
  cases hf : q.firstFilledNode with
  | none => cases hp : q.poisonPill <;> simp
  | some a => exact Or.inr (Or.inr ⟨a, rfl, rfl⟩)

namespace Monitor
variable {P : Type} [DecidableEq P]

/-- The message a producer inside `queue_put` waits with. -/
def blocked (s : Monitor P) (p : P) (m : QueueMessage) : Prop :=
  s.producer p = .waiting m ∨ s.producer p = .notified m

/-! ## Inversion -/

/-- **What one step can do.**  The queue is changed by one section of one
operation, and the threads by the broadcast of that section. -/
inductive Effect (s : Monitor P) : MonitorLabel P → Monitor P → Prop where
  | refused (l) (p : P) (m : QueueMessage) (hl : l = .put p m ∨ l = .putWake p)
      (h : s.queue.bufferSize < m.bufferLen ∨ s.queue.poisonPill = true) :
      Effect s l { s with
        producer := Function.update s.producer p .running
        history := s.history ++ [.reject m] }
  | putWaits (l) (p : P) (m : QueueMessage) (hl : l = .put p m ∨ l = .putWake p)
      (hfree : s.queue.firstFreeNode = none) (hpill : s.queue.poisonPill = false)
      (hm : m.bufferLen ≤ s.queue.bufferSize) :
      Effect s l { s with producer := Function.update s.producer p (.waiting m) }
  | stored (l) (p : P) (m : QueueMessage) (q' : Queue) (hl : l = .put p m ∨ l = .putWake p)
      (hq : queuePutNode m s.queue = some q') (hm : m.bufferLen ≤ s.queue.bufferSize)
      (hopen : s.queue.blocking = true →
        s.queue.poisonPill = false ∧ s.queue.firstFreeNode ≠ none) :
      Effect s l
        { queue := q'
          producer := Function.update (fun p => (s.producer p).notify) p .running
          consumer := s.consumer.notify
          history := s.history ++ [.put m] }
  | taken (l) (a : Nat) (hl : l = .take ∨ l = .takeWake ∨ l = .peak)
      (hwake : l = .takeWake ↔ s.consumer ≠ .running)
      (ha : s.queue.firstFilledNode = some a) :
      Effect s l { s with
        queue := queueDetach s.queue a
        consumer := .running
        history := s.history ++ [.take (s.queue.message a)] }
  | drained (l) (hl : l = .take ∨ l = .takeWake) (hf : s.queue.firstFilledNode = none)
      (hpill : s.queue.poisonPill = true) :
      Effect s l { s with consumer := .running, history := s.history ++ [.drained] }
  | takeWaits (l) (hl : l = .take ∨ l = .takeWake) (hwake : l = .takeWake ↔ s.consumer ≠ .running)
      (hf : s.queue.firstFilledNode = none) (hpill : s.queue.poisonPill = false) :
      Effect s l { s with consumer := .waiting () }
  | missed (hf : s.queue.firstFilledNode = none) (hc : s.consumer = .running) :
      Effect s .peak { s with consumer := .running, history := s.history ++ [.miss] }
  | complete (hc : s.consumer = .running) :
      Effect s .complete
        { queue := queueComplete s.queue
          producer := fun p => (s.producer p).notify
          consumer := s.consumer.notify
          history := s.history ++ [.complete] }
  | interrupt :
      Effect s .interrupt
        { queue := queueInterrupt s.queue
          producer := fun p => (s.producer p).notify
          consumer := s.consumer.notify
          history := s.history ++ [.close] }
  | reset : Effect s .reset { s with queue := queueReset s.queue }

theorem effect_of_putSection {s t : Monitor P} {l : MonitorLabel P} {p : P} {m : QueueMessage}
    {sec : Section Int} (hl : l = .put p m ∨ l = .putWake p) (ho : PutOutcome m s.queue sec)
    (h : s.putSection p m sec = some t) : Effect s l t := by
  cases ho with
  | refused hr => cases h; exact .refused l p m hl hr
  | waits hf hp hm => cases h; exact .putWaits l p m hl hf hp hm
  | stored q' hq hm hopen => cases h; exact .stored l p m q' hl hq hm hopen
  | undefined => cases h

theorem effect_of_take {s t : Monitor P} {l : MonitorLabel P} (hl : l = .take ∨ l = .takeWake)
    (hwake : l = .takeWake ↔ s.consumer ≠ .running)
    (h : s.takeSection .drained (queueTake s.queue) = some t) : Effect s l t := by
  rcases queueTake_cases s.queue with ⟨hf, hp, he⟩ | ⟨hf, hp, he⟩ | ⟨a, ha, he⟩
  · rw [he] at h; cases h; exact .drained l hl hf hp
  · rw [he] at h; cases h; exact .takeWaits l hl hwake hf hp
  · rw [he] at h; cases h
    exact .taken l a (hl.imp id Or.inl) hwake ha

/-- Whoever is inside the wait loop of `queue_put` passed its length check. -/
def Fits (s : Monitor P) : Prop := ∀ p m, s.blocked p m → m.bufferLen ≤ s.queue.bufferSize

/-- Every step has one of these effects. -/
theorem step_effect {s t : Monitor P} {l : MonitorLabel P} (hfit : s.Fits)
    (h : s.step l = some t) : Effect s l t := by
  cases l with
  | put p m =>
    simp only [step] at h
    split at h
    · exact effect_of_putSection (Or.inl rfl) (queuePut_outcome m _) h
    · cases h
  | putWake p =>
    simp only [step] at h
    split at h
    · cases h
    · rename_i m hp
      exact effect_of_putSection (Or.inr rfl) (queuePutWake_outcome (hfit p m (Or.inl hp))) h
    · rename_i m hp
      exact effect_of_putSection (Or.inr rfl) (queuePutWake_outcome (hfit p m (Or.inr hp))) h
  | take =>
    simp only [step] at h
    split at h
    · exact effect_of_take (Or.inl rfl) (by simp [*]) h
    · cases h
  | takeWake =>
    simp only [step] at h
    split at h
    · cases h
    · rename_i hc
      exact effect_of_take (Or.inr rfl) (iff_of_true rfl hc) h
  | peak =>
    simp only [step] at h
    split at h
    · rename_i hc
      unfold queuePeak at h
      cases hf : s.queue.firstFilledNode with
      | none => rw [hf] at h; cases h; exact .missed hf hc
      | some a =>
        rw [hf] at h; cases h
        exact .taken .peak a (Or.inr (Or.inr rfl)) (by simp [hc]) hf
    · cases h
  | complete =>
    simp only [step] at h
    split at h
    · cases h; exact .complete ‹_›
    · cases h
  | interrupt => cases h; exact .interrupt
  | reset => cases h; exact .reset

/-! ## Fields that no operation touches -/

theorem putNode_fields {m : QueueMessage} {q q' : Queue} (hq : queuePutNode m q = some q') :
    q'.detachedNode = q.detachedNode ∧ q'.bufferSize = q.bufferSize ∧
      q'.poisonPill = q.poisonPill ∧ q'.blocking = q.blocking := by
  unfold queuePutNode at hq
  split at hq
  · obtain ⟨t, -, rfl⟩ := Option.map_eq_some_iff.mp hq
    exact ⟨rfl, rfl, rfl, rfl⟩
  · cases hq
    rw [Queue.addFilled_eq, Queue.removeFree_eq]
    exact ⟨rfl, rfl, rfl, rfl⟩

theorem reset_fields (q : Queue) :
    (queueReset q).detachedNode = q.detachedNode ∧ (queueReset q).bufferSize = q.bufferSize := by
  unfold queueReset
  split
  · exact ⟨rfl, rfl⟩
  · rw [Queue.addFree_eq]; exact ⟨rfl, rfl⟩

theorem Effect.bufferSize {s t : Monitor P} {l : MonitorLabel P} (h : Effect s l t) :
    t.queue.bufferSize = s.queue.bufferSize := by
  cases h with
  | stored _ p m q' hl hq hm hopen => exact (putNode_fields hq).2.1
  | taken _ a hl hwake ha => show (queueDetach s.queue a).bufferSize = _; rw [Queue.detach_eq]; rfl
  | complete hc => show (queueComplete s.queue).bufferSize = _; rw [queueComplete, Queue.addFree_eq]; rfl
  | reset => exact (reset_fields s.queue).2
  | _ => rfl

omit [DecidableEq P] in
theorem blocked_of_notify {s : Monitor P} {p : P} {m : QueueMessage}
    (h : (s.producer p).notify = .waiting m ∨ (s.producer p).notify = .notified m) :
    s.blocked p m := by
  cases hp : s.producer p with
  | running => rw [hp] at h; rcases h with h | h <;> cases h
  | waiting m' =>
    rw [hp] at h
    rcases h with h | h
    · cases h
    · cases h; exact Or.inl hp
  | notified m' =>
    rw [hp] at h
    rcases h with h | h
    · cases h
    · cases h; exact Or.inr hp

/-- A producer inside `queue_put` was there before the step, or just passed the
length check. -/
theorem Effect.blocked_cases {s t : Monitor P} {l : MonitorLabel P} (h : Effect s l t) {p : P}
    {m : QueueMessage} (hb : t.blocked p m) :
    s.blocked p m ∨ m.bufferLen ≤ s.queue.bufferSize := by
  cases h with
  | refused _ p' m' hl hr =>
    by_cases hp : p = p'
    · subst hp; simp [blocked] at hb
    · exact Or.inl (by simpa [blocked, hp] using hb)
  | putWaits _ p' m' hl hf hpill hm =>
    by_cases hp : p = p'
    · subst hp
      have hmm : m' = m := by simpa [blocked] using hb
      exact Or.inr (hmm ▸ hm)
    · exact Or.inl (by simpa [blocked, hp] using hb)
  | stored _ p' m' q' hl hq hm hopen =>
    by_cases hp : p = p'
    · subst hp; simp [blocked] at hb
    · exact Or.inl (blocked_of_notify (by simpa [blocked, hp] using hb))
  | complete hc => exact Or.inl (blocked_of_notify hb)
  | interrupt => exact Or.inl (blocked_of_notify hb)
  | _ => exact Or.inl hb

theorem step_fits {s t : Monitor P} {l : MonitorLabel P} (hfit : s.Fits)
    (h : s.step l = some t) : t.Fits := by
  intro p m hb
  have he := step_effect hfit h
  rw [he.bufferSize]
  exact (he.blocked_cases hb).elim (hfit p m) id

/-! ## The representation invariant -/

/-- **The protocol of `queue.h`**, for a consumer that processes one message at a
time: `queue_take` and `queue_peak` are called with no message in processing,
`queue_complete` only after one of them returned a message, and `queue_reset`
never between the two. -/
def Allowed (s : Monitor P) : MonitorLabel P → Prop
  | .take | .peak | .reset => s.queue.detachedNode = none
  | .complete => s.queue.detachedNode ≠ none
  | _ => True

instance (s : Monitor P) : ∀ l : MonitorLabel P, Decidable (s.Allowed l)
  | .take | .peak | .reset => inferInstanceAs (Decidable (s.queue.detachedNode = none))
  | .complete => inferInstanceAs (Decidable (s.queue.detachedNode ≠ none))
  | .put _ _ | .putWake _ | .takeWake | .interrupt => instDecidableTrue

/-- What `queue_put` does to the lists of the queue. -/
theorem shape_of_putNode {n : Nat} {q q' : Queue} {free filled : List Nat} {m : QueueMessage}
    (h : Shape n q free filled) (hm : m.bufferLen ≤ q.bufferSize)
    (hq : queuePutNode m q = some q') :
    (∃ t rest, free = t :: rest ∧ q' = ((q.removeFree t).addFilled t).fill t m ∧
      Shape n q' rest (filled ++ [t])) ∨
    (free = [] ∧ ∃ ys t, filled = ys ++ [t] ∧ q' = q.fill t m ∧ Shape n q' [] filled) := by
  cases free with
  | nil =>
    right
    have hnone : q.firstFreeNode = none := h.free_ends.chain
    unfold queuePutNode at hq
    rw [hnone] at hq
    obtain ⟨t, ht, rfl⟩ := Option.map_eq_some_iff.mp hq
    obtain ⟨ys, hys, -⟩ := h.filled_ends.eq_concat ht
    exact ⟨rfl, ys, t, hys, rfl, h.overwrite hm t⟩
  | cons t rest =>
    left
    have hsome : q.firstFreeNode = some t := h.free_ends.chain.1
    unfold queuePutNode at hq
    rw [hsome] at hq
    cases hq
    exact ⟨t, rest, rfl, rfl, h.put hm⟩

/-- The invariant of the monitor: the waiting messages fit, the lists of the queue
are well formed, and a consumer inside `queue_take` has nothing in processing. -/
structure Inv (n : Nat) (s : Monitor P) : Prop where
  fits : s.Fits
  shape : ∃ free filled, Shape n s.queue free filled
  consumer_free : s.consumer ≠ .running → s.queue.detachedNode = none

omit [DecidableEq P] in
theorem notify_ne_running {β : Type} {x : Thread β} (h : x.notify ≠ .running) : x ≠ .running := by
  rintro rfl
  exact h rfl

omit [DecidableEq P] in
/-- A step that takes a message finds nothing in processing. -/
theorem detached_of_take {n : Nat} {s : Monitor P} {l : MonitorLabel P} (hs : s.Inv n)
    (hl : s.Allowed l) (hlabel : l = .take ∨ l = .takeWake ∨ l = .peak)
    (hwake : l = .takeWake ↔ s.consumer ≠ .running) : s.queue.detachedNode = none := by
  rcases hlabel with rfl | rfl | rfl
  · exact hl
  · exact hs.consumer_free (hwake.mp rfl)
  · exact hl

theorem step_inv {n : Nat} {s t : Monitor P} {l : MonitorLabel P} (hl : s.Allowed l)
    (h : s.step l = some t) (hs : s.Inv n) : t.Inv n := by
  have hfits := step_fits hs.fits h
  obtain ⟨free, filled, hshape⟩ := hs.shape
  cases step_effect hs.fits h with
  | refused _ p m hput hr => exact ⟨hfits, hs.shape, hs.consumer_free⟩
  | putWaits _ p m hput hf hp hm => exact ⟨hfits, hs.shape, hs.consumer_free⟩
  | stored _ p m q' hput hq hm hopen =>
    refine ⟨hfits, ?_, fun hc => ?_⟩
    · rcases shape_of_putNode hshape hm hq with ⟨x, rest, -, -, hput⟩ | ⟨-, ys, x, -, -, hput⟩
      · exact ⟨rest, filled ++ [x], hput⟩
      · exact ⟨[], filled, hput⟩
    · exact (putNode_fields hq).1.trans (hs.consumer_free (notify_ne_running hc))
  | taken _ a hlabel hwake ha =>
    have hdet := detached_of_take hs hl hlabel hwake
    obtain ⟨rest, rfl⟩ : ∃ rest, filled = a :: rest := by
      have hhead := hshape.filled_ends.chain.head
      rw [ha] at hhead
      exact ⟨filled.tail, List.eq_cons_of_mem_head? hhead.symm⟩
    exact ⟨hfits, ⟨free, rest, hshape.detach hdet⟩, fun hc => absurd rfl hc⟩
  | drained _ hlabel hf hp => exact ⟨hfits, hs.shape, fun hc => absurd rfl hc⟩
  | takeWaits _ hlabel hwake hf hp =>
    -- `queue_take` may return much later, but nothing is detached while it waits
    have hdet := detached_of_take hs hl (hlabel.imp id Or.inl) hwake
    exact ⟨hfits, hs.shape, fun _ => hdet⟩
  | missed hf hc => exact ⟨hfits, hs.shape, fun hc => absurd rfl hc⟩
  | complete hc =>
    obtain ⟨d, hd⟩ := Option.ne_none_iff_exists'.mp (show s.queue.detachedNode ≠ none from hl)
    exact ⟨hfits, ⟨free ++ [d], filled, hshape.complete hd⟩, fun _ => rfl⟩
  | interrupt =>
    obtain ⟨h1, h2, h3, h4, h5⟩ := hshape
    exact ⟨hfits, ⟨free, filled, h1, h2, h3, h4, h5⟩,
      fun hc => hs.consumer_free (notify_ne_running hc)⟩
  | reset =>
    exact ⟨hfits, ⟨free ++ filled, [], hshape.reset hl⟩, fun _ => (reset_fields s.queue).1.trans hl⟩

omit [DecidableEq P] in
theorem start_fits (q : Queue) : (start q : Monitor P).Fits := by
  rintro p m (hb | hb) <;> cases hb

omit [DecidableEq P] in
theorem start_inv {memory : Nat → QueueNode} {bufferSize : UInt32} {queueSize : UInt16}
    {blocking : Bool} {q : Queue} (h : queueCreate memory bufferSize queueSize blocking = some q) :
    (start q : Monitor P).Inv queueSize.toNat := by
  obtain ⟨hshape, hdet, -⟩ := queueCreate_shape h
  exact ⟨start_fits q, ⟨_, _, hshape⟩, fun _ => hdet⟩

end Monitor

/-- **The representation invariant of the queue**: the free list, the filled list
and the detached node are the `n` nodes of the queue, each exactly once and in
exactly one of them; both pointers of a list are `NULL` or neither is; a tail
pointer points to the last node of its list, which has no successor; and no node
holds more than the buffer size. -/
def WellFormed (n : Nat) (q : Queue) : Prop :=
  ∃ free filled,
    Chain q.next q.firstFreeNode free ∧ Chain q.next q.firstFilledNode filled ∧
    (free ++ filled ++ q.detachedNode.toList).Nodup ∧
    (∀ a, a ∈ free ++ filled ++ q.detachedNode.toList ↔ a < n) ∧
    (q.firstFreeNode = none ↔ q.lastFreeNode = none) ∧
    (q.firstFilledNode = none ↔ q.lastFilledNode = none) ∧
    (∀ l, q.lastFreeNode = some l → free.getLast? = some l ∧ q.next l = none) ∧
    (∀ l, q.lastFilledNode = some l → filled.getLast? = some l ∧ q.next l = none) ∧
    ∀ a, a < n → (q.node a).len ≤ q.bufferSize

theorem Shape.wellFormed {n : Nat} {q : Queue} {free filled : List Nat}
    (h : Shape n q free filled) : WellFormed n q := by
  have hlast : ∀ {first last : Option Nat} {xs : List Nat}, Ends q.next first last xs →
      ∀ l, last = some l → xs.getLast? = some l ∧ q.next l = none := by
    intro first last xs he l hl
    obtain ⟨ys, rfl, hn⟩ := he.eq_concat hl
    exact ⟨by simp, hn⟩
  exact ⟨free, filled, h.free_ends.chain, h.filled_ends.chain, h.nodup, h.mem_nodes,
    h.free_ends.first_eq_none_iff_last, h.filled_ends.first_eq_none_iff_last,
    hlast h.free_ends, hlast h.filled_ends, h.len_le⟩

/-- **The queue stays well formed**, in both modes, for every number of producers
and every interleaving of calls that keeps to the protocol. -/
theorem queue_wellFormed {P : Type} [DecidableEq P] {memory : Nat → QueueNode}
    {bufferSize : UInt32} {queueSize : UInt16} {blocking : Bool} {q : Queue}
    {ls : List (MonitorLabel P)} {s : Monitor P}
    (h : queueCreate memory bufferSize queueSize blocking = some q)
    (hrun : Run Monitor.step Monitor.Allowed (Monitor.start q) ls s) :
    WellFormed queueSize.toNat s.queue := by
  have hinv := hrun.invariant
    (fun _ _ _ hl hstep hs => Monitor.step_inv hl hstep hs) (Monitor.start_inv h)
  obtain ⟨free, filled, hshape⟩ := hinv.shape
  exact hshape.wellFormed

/-- Memory full of zeros. -/
def zeroMemory : Nat → QueueNode := fun _ => ⟨0, 0, [], 0, none⟩

/-- Two puts, a take and its completion keep a queue of two nodes well formed. -/
theorem queue_wellFormed_two_nodes :
    ∃ q, queueCreate zeroMemory 4 2 true = some q ∧
      ∃ s : Monitor Unit, exec (restrict Monitor.step Monitor.Allowed) (Monitor.start q)
        [.put () ⟨1, 1, [7]⟩, .put () ⟨2, 2, [8]⟩, .take, .complete] = some s ∧
        WellFormed 2 s.queue := by
  refine ⟨_, rfl, exists_exec rfl fun s hs => ?_⟩
  exact queue_wellFormed (show queueCreate zeroMemory 4 2 true = some _ from rfl) (run_of_exec hs)

/-- **A second `queue_take` before `queue_complete` loses a node**: the first
detached node is in no list any more. -/
theorem queue_second_take_loses_node :
    ∃ q, queueCreate zeroMemory 4 2 true = some q ∧
      ∃ s : Monitor Unit, exec Monitor.step (Monitor.start q)
        [.put () ⟨1, 1, [7]⟩, .put () ⟨2, 2, [8]⟩, .take, .take] = some s ∧
        ¬ WellFormed 2 s.queue := by
  refine ⟨_, rfl, _, rfl, ?_⟩
  rintro ⟨free, filled, hfree, hfilled, -, hmem, -⟩
  have h1 : free = [] := hfree.eq_none_iff.mp rfl
  have h2 : filled = [] := hfilled.eq_none_iff.mp rfl
  subst h1 h2
  have h0 := (hmem 0).mpr (by decide)
  exact absurd h0 (by decide)

/-! ## Wakeups -/

namespace Monitor
variable {P : Type} [DecidableEq P]

/-- **Nobody sleeps through what it waits for**: a producer waits un-notified only
while there is no free node and no poison pill, and the consumer only while there
is no filled node and no poison pill. -/
def NoLostWakeup (s : Monitor P) : Prop :=
  (∀ p m, s.producer p = .waiting m →
    s.queue.firstFreeNode = none ∧ s.queue.poisonPill = false) ∧
  (s.consumer = .waiting () → s.queue.firstFilledNode = none ∧ s.queue.poisonPill = false)

/-- `queue_reset` is called only when it frees no node or no producer waits
un-notified. -/
def ResetSafe (s : Monitor P) (l : MonitorLabel P) : Prop :=
  l = .reset → s.queue.firstFilledNode = none ∨ ∀ p m, s.producer p ≠ .waiting m

theorem notify_ne_waiting {β : Type} (x : Thread β) (b : β) : x.notify ≠ .waiting b := by
  cases x <;> simp [Thread.notify]

omit [DecidableEq P] in
/-- After a broadcast nobody waits un-notified. -/
theorem noLostWakeup_of_notified {s : Monitor P} (hp : ∀ p m, s.producer p ≠ .waiting m)
    (hc : s.consumer ≠ .waiting ()) : s.NoLostWakeup :=
  ⟨fun p m h => absurd h (hp p m), fun h => absurd h hc⟩

/-- **One step loses no wakeup.**  No step that frees or fills a node, or sets the
poison pill, goes without a broadcast, except `queue_reset`. -/
theorem step_noLostWakeup {s t : Monitor P} {l : MonitorLabel P} (hfit : s.Fits)
    (hl : s.ResetSafe l) (h : s.step l = some t) (hs : s.NoLostWakeup) : t.NoLostWakeup := by
  obtain ⟨hprod, hcons⟩ := hs
  cases step_effect hfit h with
  | refused _ p m hput hr =>
    refine ⟨fun p' m' hw => ?_, hcons⟩
    by_cases hpp : p' = p
    · subst hpp; simp at hw
    · exact hprod p' m' (by simpa [hpp] using hw)
  | putWaits _ p m hput hf hp hm =>
    refine ⟨fun p' m' hw => ?_, hcons⟩
    by_cases hpp : p' = p
    · exact ⟨hf, hp⟩
    · exact hprod p' m' (by simpa [hpp] using hw)
  | stored _ p m q' hput hq hm hopen =>
    refine noLostWakeup_of_notified (fun p' m' hw => ?_) (notify_ne_waiting _ _)
    by_cases hpp : p' = p
    · subst hpp; simp at hw
    · exact notify_ne_waiting (s.producer p') m' (by simpa [hpp] using hw)
  | taken _ a hlabel hwake ha =>
    refine ⟨fun p' m' hw => ?_, fun hw => by cases hw⟩
    rw [Queue.detach_eq]
    exact hprod p' m' hw
  | drained _ hlabel hf hp => exact ⟨hprod, fun hw => by cases hw⟩
  | takeWaits _ hlabel hwake hf hp => exact ⟨hprod, fun _ => ⟨hf, hp⟩⟩
  | missed hf hc => exact ⟨hprod, fun hw => by cases hw⟩
  | complete hc =>
    exact noLostWakeup_of_notified (fun p m => notify_ne_waiting _ _) (notify_ne_waiting _ _)
  | interrupt =>
    exact noLostWakeup_of_notified (fun p m => notify_ne_waiting _ _) (notify_ne_waiting _ _)
  | reset =>
    unfold queueReset
    split
    · rename_i hf
      exact ⟨fun p m hw => ⟨(hprod p m hw).1, rfl⟩, fun hw => ⟨hf, rfl⟩⟩
    · -- nodes are freed without a broadcast, which is fine if no producer waits
      rename_i hf
      have hnone := (hl rfl).resolve_left hf
      exact ⟨fun p m hw => absurd hw (hnone p m), fun _ => ⟨rfl, rfl⟩⟩

end Monitor

/-- **No wakeup is lost** in any run, whatever the order of the calls, in which
`queue_reset` is never called over the head of a waiting producer. -/
theorem queue_no_lost_wakeup {P : Type} [DecidableEq P] {q : Queue} {ls : List (MonitorLabel P)}
    {s : Monitor P} (hrun : Run Monitor.step Monitor.ResetSafe (Monitor.start q) ls s) :
    s.NoLostWakeup := by
  have hstart : (Monitor.start q : Monitor P).NoLostWakeup :=
    ⟨fun p m hw => by (cases hw), fun hw => by (cases hw)⟩
  have hpreserved : ∀ (s : Monitor P) l t, s.ResetSafe l → s.step l = some t →
      s.Fits ∧ s.NoLostWakeup → t.Fits ∧ t.NoLostWakeup := fun s l t hl hstep hs =>
    ⟨Monitor.step_fits hs.1 hstep, Monitor.step_noLostWakeup hs.1 hl hstep hs.2⟩
  exact (hrun.invariant hpreserved ⟨Monitor.start_fits q, hstart⟩).2

/-- Two producers at a queue of one node, which is reset before anybody waits: the
second producer waits, and is notified when the consumer completes the message. -/
theorem queue_no_lost_wakeup_complete :
    ∃ q, queueCreate zeroMemory 4 1 true = some q ∧
      ∃ s : Monitor Bool, exec Monitor.step (Monitor.start q)
        [.put false ⟨1, 1, [7]⟩, .reset, .put false ⟨1, 1, [7]⟩, .put true ⟨2, 2, [8]⟩, .take,
          .complete] = some s ∧
        s.NoLostWakeup := by
  refine ⟨_, rfl, exists_exec rfl fun s hs => ?_⟩
  have hreset : ∀ (p : Bool) (m : QueueMessage),
      Function.update (fun _ => Thread.running) false .running p ≠ .waiting m := by
    intro p m hwaits
    cases p <;> cases hwaits
  have hrun : Run Monitor.step Monitor.ResetSafe
      (Monitor.start ((queueCreate zeroMemory 4 1 true).get rfl))
      (.put false ⟨1, 1, [7]⟩ :: .reset :: _) s :=
    ⟨nofun, _, rfl, fun _ => .inr hreset, _, rfl, run_of_labels (by simp [Monitor.ResetSafe]) hs⟩
  exact queue_no_lost_wakeup hrun

/-- **`queue_reset` loses a wakeup**: the producer waiting at a full queue is not
notified when the reset frees the node it waits for. -/
theorem queue_reset_loses_wakeup :
    ∃ q, queueCreate zeroMemory 4 1 true = some q ∧
      ∃ s : Monitor Bool, exec (restrict Monitor.step Monitor.Allowed) (Monitor.start q)
        [.put false ⟨1, 1, [7]⟩, .put true ⟨2, 2, [8]⟩, .reset] = some s ∧
        s.producer true = .waiting ⟨2, 2, [8]⟩ ∧ s.queue.firstFreeNode = some 0 ∧
        ¬ s.NoLostWakeup := by
  refine ⟨_, rfl, _, rfl, rfl, rfl, ?_⟩
  intro h
  exact absurd (h.1 true ⟨2, 2, [8]⟩ rfl).1 (by decide)

end SdrModem
