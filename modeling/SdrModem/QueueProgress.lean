import SdrModem.QueueRefinement

/-!
# The blocking queue never deadlocks

Whatever has happened, the calls under way can be finished without a new call of `queue_put` and
without a spurious wakeup: while a message is pending or in processing the consumer is not asleep,
and as soon as there is none a node is free, so that every producer has been notified.

The producers may come back in any order, and that is the order of their messages.  Nobody calls
`queue_reset`, which wakes no one.
-/
namespace SdrModem
open LinkedList Machine BoundedFifo

namespace Monitor
variable {P : Type} [DecidableEq P] {n bufferSize : Nat} {s t : Monitor P} {l : MonitorLabel P}
variable {free filled : List Nat} {p : P} {m : QueueMessage} {inside : List (P × QueueMessage)}

/-- **The calls under way go on**, and the consumer takes messages and completes them.  Nobody
wakes up that was not notified. -/
def GoesOn (s : Monitor P) : MonitorLabel P → Prop
  | .putWake p => ∃ m, s.producer p = .notified m
  | .takeWake => s.consumer = .notified ()
  | .take => s.queue.detachedNode = none
  | .complete => s.queue.detachedNode ≠ none
  | _ => False

omit [DecidableEq P] in
theorem GoesOn.consuming (h : s.GoesOn l) : s.Consuming l := by
  cases l with
  | putWake p => exact ⟨trivial, fun h => by cases h⟩
  | takeWake => exact ⟨trivial, fun h => by cases h⟩
  | take => exact ⟨h, fun h => by cases h⟩
  | complete => exact ⟨h, fun h => by cases h⟩
  | _ => exact h.elim

/-- The invariants of a run. -/
structure Awake (n bufferSize : Nat) (s : Monitor P) : Prop where
  refines : s.Refines n bufferSize
  wakeups : s.NoLostWakeup

theorem step_awake (hl : s.Consuming l) (h : s.step l = some t) (hs : s.Awake n bufferSize) :
    t.Awake n bufferSize :=
  ⟨step_refines hl h hs.refines,
    step_noLostWakeup hs.refines.inv.fits (fun hreset => absurd hreset hl.2) h hs.wakeups⟩

omit [DecidableEq P] in
theorem start_awake {memory : Nat → QueueNode} {size : UInt32} {queueSize : UInt16} {q : Queue}
    (h : queueCreate memory size queueSize true = some q) :
    (start q : Monitor P).Awake queueSize.toNat size.toNat :=
  ⟨start_refines h, nofun, nofun⟩

/-! ## Who is inside `queue_put` -/

/-- `inside` is a list of the producers inside `queue_put`, each of them once. -/
structure Inside (s : Monitor P) (inside : List (P × QueueMessage)) : Prop where
  nodup : (inside.map Prod.fst).Nodup
  mem_iff : ∀ p m, s.blocked p m ↔ (p, m) ∈ inside

omit [DecidableEq P] in
theorem Inside.congr (h : s.Inside inside) (hsame : ∀ p m, t.blocked p m ↔ s.blocked p m) :
    t.Inside inside :=
  ⟨h.nodup, fun p m => (hsame p m).trans (h.mem_iff p m)⟩

omit [DecidableEq P] in
theorem blocked_notify_iff (hp : t.producer p = (s.producer p).notify) :
    t.blocked p m ↔ s.blocked p m := by
  unfold blocked
  rw [hp]
  constructor
  · exact blocked_of_notify
  · intro h
    rcases h with h | h
    · exact Or.inr (by rw [h]; rfl)
    · exact Or.inr (by rw [h]; rfl)

/-- One producer has left. -/
def LeftBy (s t : Monitor P) (p : P) : Prop :=
  ∀ p' m', t.blocked p' m' ↔ p' ≠ p ∧ s.blocked p' m'

omit [DecidableEq P] in
theorem leftBy (hp : t.producer p = .running)
    (hother : ∀ p', p' ≠ p → ∀ m', t.blocked p' m' ↔ s.blocked p' m') : LeftBy s t p := by
  intro p' m'
  by_cases hpp : p' = p
  · subst hpp
    refine iff_of_false ?_ fun h => h.1 rfl
    intro h
    rcases h with h | h
    · rw [hp] at h
      cases h
    · rw [hp] at h
      cases h
  · rw [hother p' hpp m']
    exact (and_iff_right hpp).symm

/-- The step of a producer that returns with an error code. -/
theorem leftBy_refused {history : List (Event QueueMessage)} : LeftBy s
    { s with producer := Function.update s.producer p .running, history := history } p := by
  refine leftBy (Function.update_self ..) fun p' hpp m' => ?_
  unfold blocked
  dsimp only
  rw [Function.update_of_ne hpp]

/-- The step of a producer that stores its message. -/
theorem leftBy_stored {q' : Queue} {history : List (Event QueueMessage)} : LeftBy s
    { queue := q'
      producer := Function.update (fun p => (s.producer p).notify) p .running
      consumer := s.consumer.notify
      history := history } p := by
  refine leftBy ?_ fun p' hpp m' => blocked_notify_iff ?_
  · dsimp only
    rw [Function.update_self]
  · dsimp only
    rw [Function.update_of_ne hpp]

omit [DecidableEq P] in
theorem Inside.tail (h : s.Inside ((p, m) :: inside)) (hleft : LeftBy s t p) : t.Inside inside := by
  have hnodup := h.nodup
  rw [List.map_cons, List.nodup_cons] at hnodup
  refine ⟨hnodup.2, fun p' m' => ?_⟩
  rw [hleft p' m', h.mem_iff, List.mem_cons]
  constructor
  · rintro ⟨hpp, hhead | htail⟩
    · exact absurd (congrArg Prod.fst hhead) hpp
    · exact htail
  · intro htail
    refine ⟨?_, Or.inr htail⟩
    rintro rfl
    exact hnodup.1 (List.mem_map.mpr ⟨(p', m'), htail, rfl⟩)

theorem Inside.erase (h : s.Inside inside) (hleft : LeftBy s t p) :
    t.Inside (inside.filter fun x => decide (x.1 ≠ p)) := by
  refine ⟨h.nodup.sublist (List.filter_sublist.map _), fun p' m' => ?_⟩
  rw [hleft p' m', h.mem_iff, List.mem_filter, decide_eq_true_iff]
  exact and_comm

/-- **There is such a list in every run**: no more producers are inside than have called. -/
theorem step_inside (hfit : s.Fits) (h : s.step l = some t) (hs : ∃ inside, s.Inside inside) :
    ∃ inside, t.Inside inside := by
  obtain ⟨inside, hinside⟩ := hs
  cases step_effect hfit h with
  | refused _ p m hl hr => exact ⟨_, hinside.erase leftBy_refused⟩
  | stored _ p m q' hl hq hm hopen => exact ⟨_, hinside.erase leftBy_stored⟩
  | putWaits _ p m hl hf hp hm =>
    have hgone : ({ s with
        producer := Function.update s.producer p .running
        history := s.history } : Monitor P).Inside (inside.filter fun x => decide (x.1 ≠ p)) :=
      hinside.erase leftBy_refused
    refine ⟨(p, m) :: inside.filter fun x => decide (x.1 ≠ p), ?_, fun p' m' => ?_⟩
    · rw [List.map_cons, List.nodup_cons]
      refine ⟨?_, hgone.nodup⟩
      intro hmem
      obtain ⟨x, hx, rfl⟩ := List.mem_map.mp hmem
      exact of_decide_eq_true (List.mem_filter.mp hx).2 rfl
    · rw [List.mem_cons, ← hgone.mem_iff]
      unfold blocked
      dsimp only
      by_cases hpp : p' = p
      · subst hpp
        rw [Function.update_self, Function.update_self]
        simp [eq_comm]
      · rw [Function.update_of_ne hpp, Function.update_of_ne hpp]
        simp [hpp]
  | complete hc => exact ⟨inside, hinside.congr fun p m => blocked_notify_iff rfl⟩
  | interrupt => exact ⟨inside, hinside.congr fun p m => blocked_notify_iff rfl⟩
  | _ => exact ⟨inside, hinside.congr fun p m => Iff.rfl⟩

omit [DecidableEq P] in
theorem start_inside (q : Queue) : (start q : Monitor P).Inside [] := by
  refine ⟨List.nodup_nil, fun p m => iff_of_false ?_ List.not_mem_nil⟩
  rintro (hwaits | hnotified)
  · cases hwaits
  · cases hnotified

/-! ## One step more -/

/-- What the producers inside `queue_put` add. -/
def offered (s : Monitor P) (inside : List (P × QueueMessage)) : List QueueMessage :=
  if s.queue.poisonPill then [] else inside.map Prod.snd

omit [DecidableEq P] in
theorem offered_cons (p : P) (m : QueueMessage) :
    s.offered ((p, m) :: inside) =
      (if s.queue.poisonPill then [] else [m]) ++ s.offered inside := by
  unfold offered
  cases s.queue.poisonPill <;> rfl

/-- What is left to do. -/
def work (s : Monitor P) (inside : List (P × QueueMessage)) (filled : List Nat) : Nat :=
  3 * inside.length + 2 * filled.length + s.queue.detachedNode.toList.length

/-- **A step towards the end**: it leaves less to do, and adds the messages it takes off
`inside`. -/
def Moves (n : Nat) (s : Monitor P) (inside : List (P × QueueMessage)) (filled : List Nat) : Prop :=
  ∃ l t inside' free' filled', s.GoesOn l ∧ s.step l = some t ∧ Shape n t.queue free' filled' ∧
    t.Inside inside' ∧ t.queue.poisonPill = s.queue.poisonPill ∧
    t.work inside' filled' < s.work inside filled ∧
    accepted t.history ++ t.offered inside' = accepted s.history ++ s.offered inside

/-- The consumer completes what it processes. -/
theorem moves_complete (hs : s.Awake n bufferSize) (hshape : Shape n s.queue free filled)
    (hinside : s.Inside inside) {d : Nat} (hd : s.queue.detachedNode = some d) :
    s.Moves n inside filled := by
  have hdet : s.queue.detachedNode ≠ none := by
    rw [hd]
    intro h
    cases h
  have hrunning : s.consumer = .running := by
    by_contra hc
    exact hdet (hs.refines.inv.consumer_free hc)
  have hpill : (queueComplete s.queue).poisonPill = s.queue.poisonPill := by
    rw [queueComplete, Queue.addFree_eq]
    rfl
  refine ⟨.complete, _, inside, free ++ [d], filled, hdet, by rw [step, hrunning],
    hshape.complete hd, hinside.congr fun p m => blocked_notify_iff rfl, hpill, ?_, ?_⟩
  · rw [work, work, hd]
    exact Nat.lt_succ_self _
  · rw [offered, offered, hpill, accepted_append]
    exact congrArg (· ++ _) (List.append_nil _)

/-- The consumer takes a message. -/
theorem moves_take (hs : s.Awake n bufferSize) {a : Nat} {rest : List Nat}
    (hshape : Shape n s.queue free (a :: rest)) (hinside : s.Inside inside)
    (hdet : s.queue.detachedNode = none) : s.Moves n inside (a :: rest) := by
  have hfirst : s.queue.firstFilledNode = some a := hshape.filled_ends.chain.1
  have htake : queueTake s.queue =
      .returns (some (s.queue.message a)) (queueDetach s.queue a) false := by
    rw [queueTake, hfirst]
  have hpill : (queueDetach s.queue a).poisonPill = s.queue.poisonPill := by
    rw [Queue.detach_eq]
    rfl
  have hdetached : (queueDetach s.queue a).detachedNode = some a := by rw [Queue.detach_eq]
  have hmoves : ∀ l, s.GoesOn l → s.step l = s.takeSection .drained (queueTake s.queue) →
      s.Moves n inside (a :: rest) := by
    intro l hl hstep
    rw [htake] at hstep
    refine ⟨l, _, inside, free, rest, hl, hstep, hshape.detach hdet,
      hinside.congr fun p m => Iff.rfl, hpill, ?_, ?_⟩
    · dsimp only [work]
      rw [hdet, hdetached, List.length_cons, Option.toList_some, Option.toList_none,
        List.length_singleton, List.length_nil]
      omega
    · rw [offered, offered, hpill, accepted_append]
      exact congrArg (· ++ _) (List.append_nil _)
  cases hc : s.consumer with
  | running => exact hmoves .take hdet (by rw [step, hc])
  | notified u => exact hmoves .takeWake hc (by rw [step, hc])
  | waiting u =>
    have hnone := (hs.wakeups.2 hc).1
    rw [hfirst] at hnone
    cases hnone

/-- A producer comes back. -/
theorem moves_putWake (hn : 0 < n) (hs : s.Awake n bufferSize)
    (hshape : Shape n s.queue free []) (hinside : s.Inside ((p, m) :: inside))
    (hdet : s.queue.detachedNode = none) : s.Moves n ((p, m) :: inside) [] := by
  -- nothing is in use, so there is a free node, and nobody waits for one
  obtain ⟨x, rest, rfl⟩ : ∃ x rest, free = x :: rest := by
    have hused := hshape.used_add_free
    simp only [Queue.abstract, Fifo.used, hdet, List.map_nil, List.length_nil, Option.map_none,
      Option.toList_none] at hused
    exact List.exists_cons_of_length_pos (by omega)
  have hfirst : s.queue.firstFreeNode = some x := hshape.free_ends.chain.1
  have hblocked := (hinside.mem_iff p m).mpr List.mem_cons_self
  have hnotified : s.producer p = .notified m := by
    refine hblocked.resolve_left fun hwaits => ?_
    have hnone := (hs.wakeups.1 p m hwaits).1
    rw [hfirst] at hnone
    cases hnone
  have hstep : s.step (.putWake p) = s.putSection p m (queuePutWake m s.queue) := by
    rw [step, hnotified]
  by_cases hpill : s.queue.poisonPill = true
  · rw [queuePutWake, if_pos hpill] at hstep
    refine ⟨.putWake p, _, inside, x :: rest, [], ⟨m, hnotified⟩, hstep, hshape,
      hinside.tail leftBy_refused, rfl, ?_, ?_⟩
    · dsimp only [work, broadcast, List.length_cons]
      omega
    · rw [offered_cons, if_pos hpill, List.nil_append, accepted_append]
      exact congrArg (· ++ _) (List.append_nil _)
  · obtain ⟨q', hq⟩ : ∃ q', queuePutNode m s.queue = some q' := by
      rw [queuePutNode, hfirst]
      exact ⟨_, rfl⟩
    obtain ⟨hdetached, -, hpill', -⟩ := putNode_fields hq
    obtain ⟨free', hshape'⟩ : ∃ free', Shape n q' free' [x] := by
      rcases shape_of_putNode hshape (hs.refines.inv.fits p m hblocked) hq with
        ⟨y, rest', hcons, -, hput⟩ | ⟨hnil, -⟩
      · obtain ⟨rfl, rfl⟩ := List.cons.inj hcons
        exact ⟨rest, hput⟩
      · cases hnil
    have hfull : s.queue.firstFreeNode ≠ none := by
      rw [hfirst]
      intro h
      cases h
    rw [queuePutWake, if_neg hpill, if_neg hfull, queuePutCommit, hq] at hstep
    refine ⟨.putWake p, _, inside, free', [x], ⟨m, hnotified⟩, hstep, hshape',
      hinside.tail leftBy_stored, hpill', ?_, ?_⟩
    · dsimp only [work, broadcast, List.length_cons]
      rw [hdetached]
      dsimp only [List.length_nil]
      omega
    · rw [offered_cons, if_neg hpill, accepted_append, List.append_assoc]
      dsimp only [offered]
      rw [hpill']
      rfl

/-! ## To the end -/

/-- **Nothing is pending or in processing, and nobody is inside `queue_put`.** -/
structure Drained (s : Monitor P) : Prop where
  producers : ∀ p, s.producer p = .running
  pending : s.queue.firstFilledNode = none
  inFlight : s.queue.detachedNode = none

/-- **Somebody can go on** until all is done. -/
theorem moves_of_work (hn : 0 < n) (hs : s.Awake n bufferSize)
    (hshape : Shape n s.queue free filled) (hinside : s.Inside inside)
    (hwork : s.work inside filled ≠ 0) : s.Moves n inside filled := by
  cases hd : s.queue.detachedNode with
  | some d => exact moves_complete hs hshape hinside hd
  | none =>
    cases filled with
    | cons a rest => exact moves_take hs hshape hinside hd
    | nil =>
      cases inside with
      | cons x inside => exact moves_putWake hn hs hshape hinside hd
      | nil =>
        rw [work, hd] at hwork
        exact absurd rfl hwork

omit [DecidableEq P] in
theorem drained_of_work (hshape : Shape n s.queue free filled) (hinside : s.Inside inside)
    (hwork : s.work inside filled = 0) : s.Drained ∧ inside = [] := by
  rw [work, Nat.add_eq_zero_iff, Nat.add_eq_zero_iff] at hwork
  obtain ⟨⟨hlength, hpending⟩, hdet⟩ := hwork
  obtain rfl : inside = [] := List.eq_nil_of_length_eq_zero (by omega)
  obtain rfl : filled = [] := List.eq_nil_of_length_eq_zero (by omega)
  refine ⟨⟨fun p => ?_, hshape.filled_ends.chain, ?_⟩, rfl⟩
  · cases hp : s.producer p with
    | running => rfl
    | waiting m => cases (hinside.mem_iff p m).mp (Or.inl hp)
    | notified m => cases (hinside.mem_iff p m).mp (Or.inr hp)
  · cases hd : s.queue.detachedNode with
    | none => rfl
    | some d =>
      rw [hd] at hdet
      cases hdet

/-- **All calls of `queue_put` can be finished**, and what they add is taken. -/
theorem exists_drained (hn : 0 < n) (hs : s.Awake n bufferSize)
    (hshape : Shape n s.queue free filled) (hinside : s.Inside inside) :
    ∃ ls t, Run step GoesOn s ls t ∧ t.Drained ∧ t.Awake n bufferSize ∧
      t.queue.poisonPill = s.queue.poisonPill ∧
      accepted t.history = accepted s.history ++ s.offered inside := by
  induction hk : s.work inside filled using Nat.strongRecOn
    generalizing s inside free filled with
  | ind k ih =>
    by_cases hzero : s.work inside filled = 0
    · obtain ⟨hdrained, rfl⟩ := drained_of_work hshape hinside hzero
      refine ⟨[], s, rfl, hdrained, hs, rfl, ?_⟩
      unfold offered
      cases s.queue.poisonPill <;> exact (List.append_nil _).symm
    · obtain ⟨l, u, inside', free', filled', hl, hu, hshape', hinside', hpill, hless, haccepted⟩ :=
        moves_of_work hn hs hshape hinside hzero
      obtain ⟨ls, t, hrun, hdrained, ht, hpill', hall⟩ :=
        ih _ (hk ▸ hless) (step_awake hl.consuming hu hs) hshape' hinside' rfl
      exact ⟨l :: ls, t, ⟨hl, u, hu, hrun⟩, hdrained, ht, hpill'.trans hpill,
        hall.trans haccepted⟩

/-- The consumer of an interrupted queue comes back, too. -/
theorem exists_returned (hs : s.Awake n bufferSize) (hdrained : s.Drained)
    (hpill : s.queue.poisonPill = true) :
    ∃ ls t, Run step GoesOn s ls t ∧ t.Drained ∧ t.consumer = .running ∧
      accepted t.history = accepted s.history ∧ received t.history = received s.history := by
  cases hc : s.consumer with
  | running => exact ⟨[], s, rfl, hdrained, hc, rfl, rfl⟩
  | waiting u =>
    have hopen := (hs.wakeups.2 hc).2
    rw [hpill] at hopen
    cases hopen
  | notified u =>
    have hstep : s.step .takeWake = s.takeSection .drained (queueTake s.queue) := by rw [step, hc]
    rw [queueTake, hdrained.pending, if_pos hpill] at hstep
    refine ⟨[.takeWake], _, Run.single hc hstep, ⟨hdrained.producers, hdrained.pending,
      hdrained.inFlight⟩, rfl, ?_, ?_⟩
    · rw [accepted_append]
      exact List.append_nil _
    · rw [received_append]
      exact List.append_nil _

omit [DecidableEq P] in
/-- The consumer has got everything. -/
theorem received_of_drained (hs : s.Refines n bufferSize) (hdrained : s.Drained) :
    received s.history = accepted s.history := by
  obtain ⟨free, filled, hshape, hexec⟩ := hs.refines
  have hall := accepted_eq hexec
  rw [hshape.filled_ends.first_eq_none_iff.mp hdrained.pending] at hall
  simpa [Fifo.empty, Queue.abstract] using hall.symm

end Monitor

/-- **The blocking queue never deadlocks.**  After any run of any number of producers and one
consumer that keeps to the protocol, and without a `queue_reset`, a producer and the consumer are
not both asleep.  There are finitely many producers inside `queue_put`; and in whatever order they
are taken, all calls can be finished without a new one and without a spurious wakeup: the consumer
gets all messages that were accepted before and then those of the producers, in that order; or,
after `queue_interrupt`, the producers get an error code and the consumer `NULL`. -/
theorem queue_never_deadlocks {P : Type} [DecidableEq P] {memory : Nat → QueueNode}
    {bufferSize : UInt32} {queueSize : UInt16} {q : Queue} {ls : List (MonitorLabel P)}
    {s : Monitor P} (h : queueCreate memory bufferSize queueSize true = some q)
    (hrun : Run Monitor.step Monitor.Consuming (Monitor.start q) ls s) :
    (s.consumer = .waiting () → ∀ p m, s.producer p ≠ .waiting m) ∧
    (∃ inside, s.Inside inside) ∧
    ∀ inside, s.Inside inside → ∃ more t, Run Monitor.step Monitor.GoesOn s more t ∧ t.Drained ∧
      received t.history = accepted s.history ++
        (if s.queue.poisonPill then [] else inside.map Prod.snd) ∧
      (s.queue.poisonPill = true → t.consumer = .running) := by
  have hn : 0 < queueSize.toNat := by
    rw [queueCreate] at h
    split at h
    · cases h
    · exact UInt16.pos_iff_ne_zero.mpr ‹_›
  have hs := hrun.invariant
    (fun _ _ _ hl hstep hs => Monitor.step_awake hl hstep hs) (Monitor.start_awake h)
  obtain ⟨free, filled, hshape⟩ := hs.refines.inv.shape
  refine ⟨fun hc p m hp => ?_, ?_, fun inside hinside => ?_⟩
  · -- with nothing pending and nothing in processing there are only free nodes
    have hfilled := hshape.filled_ends.first_eq_none_iff.mp (hs.wakeups.2 hc).1
    have hfree := hshape.free_ends.first_eq_none_iff.mp (hs.wakeups.1 p m hp).1
    have hdet := hs.refines.inv.consumer_free (by rw [hc]; intro h; cases h)
    have hlength := hshape.nodes.length_eq
    rw [hfilled, hfree, hdet, List.length_range] at hlength
    exact absurd hlength (Nat.ne_of_lt hn)
  · have hpreserved : ∀ (s : Monitor P) l t, s.Consuming l → s.step l = some t →
        (s.Fits ∧ ∃ inside, s.Inside inside) → t.Fits ∧ ∃ inside, t.Inside inside :=
      fun s l t _ hstep hs =>
        ⟨Monitor.step_fits hs.1 hstep, Monitor.step_inside hs.1 hstep hs.2⟩
    exact (hrun.invariant hpreserved
      ⟨Monitor.start_fits q, [], Monitor.start_inside q⟩).2
  · obtain ⟨more, t, hmore, hdrained, ht, hpill, haccepted⟩ :=
      Monitor.exists_drained hn hs hshape hinside
    have hreceived := Monitor.received_of_drained ht.refines hdrained
    by_cases hclosed : s.queue.poisonPill = true
    · obtain ⟨last, u, hlast, hdrained', hconsumer, -, hreceived'⟩ :=
        Monitor.exists_returned ht hdrained (hpill.trans hclosed)
      exact ⟨more ++ last, u, hmore.append hlast, hdrained',
        hreceived'.trans (hreceived.trans haccepted), fun _ => hconsumer⟩
    · exact ⟨more, t, hmore, hdrained, hreceived.trans haccepted,
        fun h => absurd h hclosed⟩

/-- Two producers at a queue of one node, both asleep, the consumer processing the message of a
third call. -/
theorem queue_never_deadlocks_full :
    ∃ q, queueCreate zeroMemory 4 1 true = some q ∧
      ∃ s : Monitor Bool, exec (restrict Monitor.step Monitor.Consuming) (Monitor.start q)
          [.put false ⟨1, 1, [7]⟩, .take, .put false ⟨2, 2, [8]⟩, .put true ⟨3, 3, [9]⟩] = some s ∧
        ∃ more t, Run Monitor.step Monitor.GoesOn s more t ∧
          received t.history = [⟨1, 1, [7]⟩, ⟨3, 3, [9]⟩, ⟨2, 2, [8]⟩] := by
  obtain ⟨q, hq⟩ : ∃ q, queueCreate zeroMemory 4 1 true = some q := ⟨_, rfl⟩
  refine ⟨q, hq, exists_exec (by cases hq; rfl) fun s hs => ?_⟩
  obtain ⟨-, -, hfinish⟩ := queue_never_deadlocks hq (run_of_exec hs)
  have hfalse : s.producer false = .waiting ⟨2, 2, [8]⟩ := by
    cases hq
    cases hs
    rfl
  have htrue : s.producer true = .waiting ⟨3, 3, [9]⟩ := by
    cases hq
    cases hs
    rfl
  have hhistory : accepted s.history = [⟨1, 1, [7]⟩] ∧ s.queue.poisonPill = false := by
    cases hq
    cases hs
    exact ⟨rfl, rfl⟩
  have hinside : s.Inside [(true, ⟨3, 3, [9]⟩), (false, ⟨2, 2, [8]⟩)] := by
    refine ⟨by decide, fun p m => ?_⟩
    cases p with
    | false => simp [Monitor.blocked, hfalse, eq_comm]
    | true => simp [Monitor.blocked, htrue, eq_comm]
  obtain ⟨more, t, hmore, -, hreceived, -⟩ := hfinish _ hinside
  rw [hhistory.1, hhistory.2] at hreceived
  exact ⟨more, t, hmore, hreceived⟩

end SdrModem
