import SdrModem.QueueMonitor

/-!
# The blocking queue is a bounded first-in first-out queue

The lists of a well-formed queue are read as the state of `BoundedFifo.Fifo`: the
filled list is what is pending, the detached node is what is in flight, and the
poison pill is what closes the queue (`Queue.abstract`).  Every section that a
thread executes is then either invisible — a wait — or exactly one event of the
bounded queue (`step_refines`), and so the history of every run is a history of
the bounded queue.

The results about histories in `BoundedFifo` carry over: what the consumer gets,
what it reads while it processes a message, and what `queue_interrupt` does.
-/
namespace SdrModem
open LinkedList Machine BoundedFifo

/-- The bounded queue that a queue with this filled list stands for. -/
def Queue.abstract (q : Queue) (filled : List Nat) : Fifo QueueMessage :=
  ⟨filled.map q.message, q.detachedNode.map q.message, q.poisonPill⟩

/-- Messages longer than the buffers of the queue are refused. -/
def fitsBuffer (bufferSize : Nat) (m : QueueMessage) : Bool := m.bufferLen ≤ bufferSize

namespace Shape
variable {n : Nat} {q : Queue} {free filled : List Nat}

/-- A free node is a slot that is not in use. -/
theorem used_add_free (h : Shape n q free filled) :
    (q.abstract filled).used + free.length = n := by
  have hlen := h.nodes.length_eq
  simp only [List.length_append, List.length_range] at hlen
  have hused : (q.abstract filled).used = filled.length + q.detachedNode.toList.length := by
    cases hd : q.detachedNode <;> simp [Queue.abstract, Fifo.used, hd]
  omega

/-- **A put into a free node is a `put`** of the bounded queue. -/
theorem abstract_put {t : Nat} {m : QueueMessage} (h : Shape n q (t :: free) filled) :
    (((q.removeFree t).addFilled t).fill t m).abstract (filled ++ [t]) =
      { q.abstract filled with pending := (q.abstract filled).pending ++ [m] } := by
  obtain ⟨hff, hfd, -⟩ := h.disjoint
  have htfilled : t ∉ filled := hff t List.mem_cons_self
  have hkeep : ∀ a, a ≠ t →
      (((q.removeFree t).addFilled t).fill t m).message a = q.message a := fun a ha => by
    rw [message_put, if_neg ha]
  have hnew : (((q.removeFree t).addFilled t).fill t m).message t = m := by
    rw [message_put, if_pos rfl]
  have hput : queuePutNode m q = some (((q.removeFree t).addFilled t).fill t m) := by
    unfold queuePutNode
    rw [show q.firstFreeNode = some t from h.free_ends.chain.1]
  have hfields := Monitor.putNode_fields hput
  have hpending : filled.map (((q.removeFree t).addFilled t).fill t m).message =
      filled.map q.message :=
    List.map_congr_left fun a ha => hkeep a (ne_of_mem_of_not_mem ha htfilled)
  have hflight : q.detachedNode.map (((q.removeFree t).addFilled t).fill t m).message =
      q.detachedNode.map q.message := by
    cases hd : q.detachedNode with
    | none => rfl
    | some d => exact congrArg some (hkeep d fun he => hfd t List.mem_cons_self (he ▸ hd))
  simp only [Queue.abstract, List.map_append, List.map_cons, List.map_nil, hnew, hpending,
    hfields.1, hfields.2.2.1, hflight]

/-- **Detaching a node is a `take`** of the bounded queue. -/
theorem abstract_detach {a : Nat} :
    (queueDetach q a).abstract filled =
      { q.abstract (a :: filled) with
        pending := (q.abstract (a :: filled)).pending.tail, inFlight := some (q.message a) } := by
  have hmsg : (queueDetach q a).message = q.message := funext fun b => message_detach q a b
  have hdet : (queueDetach q a).detachedNode = some a := by rw [Queue.detach_eq]
  have hpill : (queueDetach q a).poisonPill = q.poisonPill := by rw [Queue.detach_eq]; rfl
  simp [Queue.abstract, hmsg, hdet, hpill]

/-- **Completing is a `complete`** of the bounded queue. -/
theorem abstract_complete :
    (queueComplete q).abstract filled = { q.abstract filled with inFlight := none } := by
  have hmsg : (queueComplete q).message = q.message := funext fun b => message_complete q b
  have hpill : (queueComplete q).poisonPill = q.poisonPill := by
    rw [queueComplete, Queue.addFree_eq]; rfl
  simp only [Queue.abstract, hmsg, hpill]
  rfl

end Shape

namespace Monitor
variable {P : Type} [DecidableEq P]

/-- **The protocol of one consumer**: that of `queue.h`, without `queue_reset`. -/
def Consuming (s : Monitor P) (l : MonitorLabel P) : Prop := s.Allowed l ∧ l ≠ .reset

instance (s : Monitor P) (l : MonitorLabel P) : Decidable (s.Consuming l) :=
  match l with
  | .put _ _ | .putWake _ | .take | .takeWake | .peak | .complete | .interrupt =>
      decidable_of_iff (s.Allowed _) ⟨fun h => ⟨h, nofun⟩, fun h => h.1⟩
  | .reset => isFalse fun h => h.2 rfl

/-- The history so far is one of the bounded queue, and leaves it in the state the
lists of the queue stand for. -/
structure Refines (n bufferSize : Nat) (s : Monitor P) : Prop where
  inv : s.Inv n
  blocking : s.queue.blocking = true
  size : s.queue.bufferSize = bufferSize
  refines : ∃ free filled, Shape n s.queue free filled ∧
    exec (BoundedFifo.step n (fitsBuffer bufferSize)) Fifo.empty s.history =
      some (s.queue.abstract filled)

theorem Effect.blocking {s t : Monitor P} {l : MonitorLabel P} (h : Effect s l t)
    (hr : l ≠ .reset) : t.queue.blocking = s.queue.blocking := by
  cases h with
  | stored _ p m q' hl hq hm hopen => exact (putNode_fields hq).2.2.2
  | taken _ a hl hwake ha => show (queueDetach s.queue a).blocking = _; rw [Queue.detach_eq]; rfl
  | complete hc => show (queueComplete s.queue).blocking = _; rw [queueComplete, Queue.addFree_eq]; rfl
  | reset => exact absurd rfl hr
  | _ => rfl

/-- **One step is at most one event of the bounded queue.** -/
theorem step_event {n bufferSize : Nat} {s t : Monitor P} {l : MonitorLabel P} {free filled : List Nat}
    (hl : s.Consuming l) (he : Effect s l t) (hs : s.Inv n) (hb : s.queue.blocking = true)
    (hsize : s.queue.bufferSize = bufferSize) (hshape : Shape n s.queue free filled) :
    ∃ events free' filled', t.history = s.history ++ events ∧ Shape n t.queue free' filled' ∧
      exec (BoundedFifo.step n (fitsBuffer bufferSize)) (s.queue.abstract filled) events =
        some (t.queue.abstract filled') := by
  have hempty : s.queue.firstFilledNode = none → filled = [] :=
    hshape.filled_ends.first_eq_none_iff.mp
  cases he with
  | refused _ p m hput hr =>
    refine ⟨[.reject m], free, filled, rfl, hshape, ?_⟩
    have hcond : (s.queue.abstract filled).closed = true ∨ fitsBuffer bufferSize m = false := by
      rcases hr with hlen | hpill
      · right
        simpa [fitsBuffer, ← hsize] using hlen
      · exact Or.inl hpill
    simp [exec, BoundedFifo.step, hcond]
  | putWaits _ p m hput hf hp hm =>
    exact ⟨[], free, filled, (List.append_nil _).symm, hshape, rfl⟩
  | stored _ p m q' hput hq hm hopen =>
    obtain ⟨hpill, hfree⟩ := hopen hb
    -- a blocking queue never overwrites: it stores only when a node is free
    rcases shape_of_putNode hshape hm hq with ⟨x, rest, rfl, rfl, hput⟩ | ⟨rfl, -⟩
    · refine ⟨[.put m], rest, filled ++ [x], rfl, hput, ?_⟩
      have hused := hshape.used_add_free
      simp only [List.length_cons] at hused
      have hcond : (s.queue.abstract filled).closed = false ∧ fitsBuffer bufferSize m = true ∧
          (s.queue.abstract filled).used < n :=
        ⟨hpill, by simpa [fitsBuffer, ← hsize] using hm, by omega⟩
      simp [exec, BoundedFifo.step, hcond, hshape.abstract_put]
    · exact absurd hshape.free_ends.chain hfree
  | taken _ a hlabel hwake ha =>
    have hdet := detached_of_take hs hl.1 hlabel hwake
    obtain ⟨rest, rfl⟩ : ∃ rest, filled = a :: rest := by
      have hhead := hshape.filled_ends.chain.head
      rw [ha] at hhead
      exact ⟨filled.tail, List.eq_cons_of_mem_head? hhead.symm⟩
    refine ⟨[.take (s.queue.message a)], free, rest, rfl, hshape.detach hdet, ?_⟩
    rw [Shape.abstract_detach]
    simp [exec, BoundedFifo.step, Queue.abstract, hdet]
  | drained _ hlabel hf hp =>
    refine ⟨[.drained], free, filled, rfl, hshape, ?_⟩
    simp [exec, BoundedFifo.step, Queue.abstract, hempty hf, hp]
  | takeWaits _ hlabel hwake hf hp =>
    exact ⟨[], free, filled, (List.append_nil _).symm, hshape, rfl⟩
  | missed hf hc =>
    refine ⟨[.miss], free, filled, rfl, hshape, ?_⟩
    simp [exec, BoundedFifo.step, Queue.abstract, hempty hf]
  | complete hc =>
    obtain ⟨d, hd⟩ := Option.ne_none_iff_exists'.mp (show s.queue.detachedNode ≠ none from hl.1)
    refine ⟨[.complete], free ++ [d], filled, rfl, hshape.complete hd, ?_⟩
    rw [Shape.abstract_complete]
    simp [exec, BoundedFifo.step, Queue.abstract, hd]
  | interrupt =>
    obtain ⟨h1, h2, h3, h4, h5⟩ := hshape
    exact ⟨[.close], free, filled, rfl, ⟨h1, h2, h3, h4, h5⟩, rfl⟩
  | reset => exact absurd rfl hl.2

theorem step_refines {n bufferSize : Nat} {s t : Monitor P} {l : MonitorLabel P}
    (hl : s.Consuming l) (h : s.step l = some t) (hs : s.Refines n bufferSize) :
    t.Refines n bufferSize := by
  have he := step_effect hs.inv.fits h
  obtain ⟨free, filled, hshape, hexec⟩ := hs.refines
  obtain ⟨events, free', filled', hhist, hshape', hevents⟩ :=
    step_event hl he hs.inv hs.blocking hs.size hshape
  refine ⟨step_inv hl.1 h hs.inv, (he.blocking hl.2).trans hs.blocking,
    he.bufferSize.trans hs.size, free', filled', hshape', ?_⟩
  rw [hhist, exec_append, hexec]
  exact hevents

omit [DecidableEq P] in
theorem start_refines {memory : Nat → QueueNode} {bufferSize : UInt32} {queueSize : UInt16}
    {q : Queue} (h : queueCreate memory bufferSize queueSize true = some q) :
    (start q : Monitor P).Refines queueSize.toNat bufferSize.toNat := by
  obtain ⟨hshape, hdet, hpill, hsize, hblocking, -⟩ := queueCreate_shape h
  refine ⟨start_inv h, hblocking, hsize, _, _, hshape, ?_⟩
  have habs : q.abstract [] = Fifo.empty := by simp [Queue.abstract, hdet, hpill, Fifo.empty]
  show some Fifo.empty = some (q.abstract [])
  rw [habs]

omit [DecidableEq P] in
/-- After `queue_interrupt` a `queue_take` never waits: it returns the next
message, or `NULL` if there is none. -/
theorem queueTake_closed {n bufferSize : Nat} {s : Monitor P} (hs : s.Refines n bufferSize)
    (hclose : .close ∈ s.history) :
    ∃ q' b, queueTake s.queue =
      .returns ((accepted s.history)[(received s.history).length]?) q' b := by
  obtain ⟨free, filled, hshape, hexec⟩ := hs.refines
  obtain ⟨h, k, hhk⟩ := List.append_of_mem hclose
  have hall : accepted s.history = received s.history ++ filled.map s.queue.message := by
    simpa [Fifo.empty, Queue.abstract] using accepted_eq hexec
  have hpill : s.queue.poisonPill = true := by
    rw [hhk] at hexec
    obtain ⟨r, -, hr⟩ := exec_prefix hexec
    -- the interrupt is in the history, and nothing opens the queue again
    obtain ⟨u, hu, hk⟩ := Option.bind_eq_some_iff.mp hr
    cases hu
    exact (closed_accepts_nothing hk rfl).1
  have hnext : (accepted s.history)[(received s.history).length]? =
      (filled.map s.queue.message).head? := by
    rw [hall, List.getElem?_append_right (Nat.le_refl _), Nat.sub_self, List.head?_eq_getElem?]
  rw [hnext]
  have hhead := hshape.filled_ends.chain.head
  rcases queueTake_cases s.queue with ⟨hf, -, he⟩ | ⟨-, hp, -⟩ | ⟨a, ha, he⟩
  · rw [hf] at hhead
    rw [List.head?_map, ← hhead]
    exact ⟨_, _, he⟩
  · rw [hpill] at hp; cases hp
  · rw [ha] at hhead
    rw [List.head?_map, ← hhead]
    exact ⟨_, _, he⟩

end Monitor

/-- **The blocking queue refines a bounded queue with shutdown.**  For every
accepted size, any number of producers, one consumer that keeps to the protocol
and every interleaving with spurious wakeups: the visible history is one of the
bounded queue; the messages handed to the consumer are a prefix of the accepted
ones; while a message is in processing its node holds what was put; nothing is
accepted after an interrupt; `NULL` from `queue_take` comes after everything
accepted and is final; and an interrupted queue hands out the rest without
waiting. -/
theorem queue_refines_boundedFifo {P : Type} [DecidableEq P] {memory : Nat → QueueNode}
    {bufferSize : UInt32} {queueSize : UInt16} {q : Queue} {ls : List (MonitorLabel P)}
    {s : Monitor P} (h : queueCreate memory bufferSize queueSize true = some q)
    (hrun : Run Monitor.step Monitor.Consuming (Monitor.start q) ls s) :
    (exec (BoundedFifo.step queueSize.toNat (fitsBuffer bufferSize.toNat)) Fifo.empty
      s.history).isSome ∧
    received s.history <+: accepted s.history ∧
    (∀ a, s.queue.detachedNode = some a →
      (received s.history).getLast? = some (s.queue.message a)) ∧
    (∀ h k, s.history = h ++ .close :: k → accepted k = []) ∧
    (∀ h k, s.history = h ++ .drained :: k →
      received h = accepted h ∧ .close ∈ h ∧ accepted k = [] ∧ received k = []) ∧
    (.close ∈ s.history → ∃ q' b, queueTake s.queue =
      .returns ((accepted s.history)[(received s.history).length]?) q' b) := by
  have hinv := hrun.invariant
    (fun _ _ _ hl hstep hs => Monitor.step_refines hl hstep hs) (Monitor.start_refines h)
  obtain ⟨free, filled, hshape, hexec⟩ := hinv.refines
  refine ⟨by rw [hexec]; rfl, received_prefix hexec, fun a ha => ?_, fun h k hhk => ?_,
    fun h k hhk => ?_, Monitor.queueTake_closed hinv⟩
  · exact inFlight_last hexec (by simp [Queue.abstract, ha])
  · rw [hhk] at hexec
    exact accepts_nothing_after_close hexec
  · rw [hhk] at hexec
    exact drained_final hexec

/-- Two producers, a waiting consumer, an interrupt and the end of the queue. -/
theorem queue_refines_boundedFifo_interrupted :
    ∃ q, queueCreate zeroMemory 4 2 true = some q ∧
      ∃ s : Monitor Bool, exec (restrict Monitor.step Monitor.Consuming) (Monitor.start q)
        [.take, .put false ⟨1, 1, [7]⟩, .put true ⟨2, 2, [8]⟩, .takeWake, .interrupt, .complete,
          .take, .complete, .take] = some s ∧
        received s.history = [⟨1, 1, [7]⟩, ⟨2, 2, [8]⟩] ∧
        received s.history <+: accepted s.history := by
  refine ⟨_, rfl, exists_exec rfl fun s hs => ⟨?_, ?_⟩⟩
  · cases hs
    rfl
  · exact (queue_refines_boundedFifo
      (show queueCreate zeroMemory 4 2 true = some _ from rfl) (run_of_exec hs)).2.1

end SdrModem
