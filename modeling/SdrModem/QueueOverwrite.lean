import SdrModem.QueueRefinement

/-!
# The queue that does not block

A put into a full queue goes to the last filled node.  There is one as long as the consumer
does not hold the only node of the queue.
-/
namespace SdrModem
open LinkedList Machine BoundedFifo

/-- The messages that are waiting, from the oldest to the newest. -/
def Queue.pending (q : Queue) (queueSize : Nat) : List QueueMessage :=
  (walk q.next queueSize q.firstFilledNode).map q.message

/-- **A put succeeds and keeps the oldest messages**: with a free node the message is appended,
and without one it replaces the newest. -/
def PutKeeps (n : Nat) (m : QueueMessage) (q : Queue) : Prop :=
  ∃ q', queuePut m q = .returns 0 q' true ∧
    (q.firstFreeNode ≠ none → q'.pending n = q.pending n ++ [m]) ∧
    (q.firstFreeNode = none → ∃ older newest,
      q.pending n = older ++ [newest] ∧ q'.pending n = older ++ [m])

namespace Shape
variable {n : Nat} {q : Queue} {free filled : List Nat}

theorem length_add (h : Shape n q free filled) :
    free.length + filled.length + q.detachedNode.toList.length = n := by
  have hlength := h.nodes.length_eq
  simp only [List.length_append, List.length_range] at hlength
  exact hlength

theorem pending_eq (h : Shape n q free filled) : q.pending n = filled.map q.message := by
  have hlength := h.length_add
  rw [Queue.pending, h.filled_ends.chain.walk_eq (by omega)]

/-- **There is a node for every put** unless the only one is detached. -/
theorem putNode_ne_none_iff (h : Shape n q free filled) (hpos : 0 < n) (m : QueueMessage) :
    queuePutNode m q ≠ none ↔ (n = 1 → q.detachedNode = none) := by
  have hlength := h.length_add
  have hfree := h.free_ends.first_eq_none_iff
  have hfilled := h.filled_ends.last_eq_none_iff
  unfold queuePutNode
  cases hfirst : q.firstFreeNode with
  | some t =>
    refine iff_of_true (by rintro ⟨⟩) fun hone => ?_
    have hsome : free ≠ [] := fun hnil => by rw [hfree.mpr hnil] at hfirst; cases hfirst
    have := List.length_pos_iff.mpr hsome
    exact Option.toList_eq_nil_iff.mp (List.eq_nil_of_length_eq_zero (by omega))
  | none =>
    rw [hfree.mp hfirst, List.length_nil, Nat.zero_add] at hlength
    cases hlast : q.lastFilledNode with
    | some t =>
      refine iff_of_true (by rintro ⟨⟩) fun hone => ?_
      have hsome : filled ≠ [] := fun hnil => by rw [hfilled.mpr hnil] at hlast; cases hlast
      have := List.length_pos_iff.mpr hsome
      exact Option.toList_eq_nil_iff.mp (List.eq_nil_of_length_eq_zero (by omega))
    | none =>
      refine iff_of_false (fun hne => hne rfl) fun hnone => ?_
      rw [hfilled.mp hlast, List.length_nil, Nat.zero_add] at hlength
      cases hdetached : q.detachedNode with
      | none =>
        rw [hdetached] at hlength
        exact Nat.ne_of_lt hpos hlength
      | some d =>
        rw [hdetached] at hlength
        cases (hnone hlength.symm).symm.trans hdetached

/-- The messages after a put. -/
theorem pending_put (h : Shape n q free filled) {m : QueueMessage}
    (hm : m.bufferLen ≤ q.bufferSize) {q' : Queue} (hput : queuePutNode m q = some q') :
    (q.firstFreeNode ≠ none → q'.pending n = q.pending n ++ [m]) ∧
    (q.firstFreeNode = none → ∃ older newest,
      q.pending n = older ++ [newest] ∧ q'.pending n = older ++ [m]) := by
  rcases Monitor.shape_of_putNode h hm hput with
    ⟨t, rest, rfl, rfl, hshape⟩ | ⟨rfl, older, t, rfl, rfl, hshape⟩
  · have hsome : q.firstFreeNode = some t := h.free_ends.chain.1
    refine ⟨fun _ => ?_, fun hnone => by rw [hsome] at hnone; cases hnone⟩
    have habstract := congrArg Fifo.pending (abstract_put (m := m) h)
    rw [hshape.pending_eq, h.pending_eq]
    exact habstract
  · have hnone : q.firstFreeNode = none := h.free_ends.chain
    refine ⟨fun hsome => absurd hnone hsome, fun _ => ?_⟩
    refine ⟨older.map q.message, q.message t, ?_, ?_⟩
    · rw [h.pending_eq, List.map_append]
      rfl
    · have hnodup := h.nodup
      rw [List.nil_append, List.nodup_append] at hnodup
      have hfresh : ∀ a ∈ older, a ≠ t := by
        intro a ha
        exact (List.nodup_append.mp hnodup.1).2.2 a ha t (List.mem_singleton_self t)
      have holder : older.map (q.fill t m).message = older.map q.message :=
        List.map_congr_left fun a ha => Queue.message_fill_of_ne _ _ _ _ (hfresh a ha)
      rw [hshape.pending_eq, List.map_append, holder, List.map_singleton, Queue.message_fill_self]

/-- A put does not touch the node of the consumer. -/
theorem detached_put (h : Shape n q free filled) {m : QueueMessage}
    (hm : m.bufferLen ≤ q.bufferSize) {q' : Queue} (hput : queuePutNode m q = some q') {d : Nat}
    (hd : q.detachedNode = some d) : q'.message d = q.message d := by
  obtain ⟨-, hfree, hfilled⟩ := h.disjoint
  rcases Monitor.shape_of_putNode h hm hput with
    ⟨t, rest, rfl, rfl, -⟩ | ⟨rfl, older, t, rfl, rfl, -⟩
  · have hne : d ≠ t := by
      rintro rfl
      exact hfree d List.mem_cons_self hd
    rw [message_put, if_neg hne]
  · have hne : d ≠ t := by
      rintro rfl
      exact hfilled d (List.mem_append_right _ (List.mem_singleton_self d)) hd
    exact Queue.message_fill_of_ne _ _ _ _ hne

end Shape

/-! ## Runs -/

namespace Monitor
variable {P : Type} [DecidableEq P]

/-- **The queue keeps its oldest messages**: every put that fits succeeds, and what the
consumer holds stays as it is until it is completed. -/
structure KeepsOldest (n bufferSize : Nat) (s : Monitor P) : Prop where
  put : ∀ m : QueueMessage, m.bufferLen ≤ bufferSize → PutKeeps n m s.queue
  detached : ∀ l t d, s.Allowed l → s.step l = some t → l ≠ .complete →
    s.queue.detachedNode = some d →
      t.queue.detachedNode = some d ∧ t.queue.message d = s.queue.message d

/-- The invariant of a queue that does not block. -/
structure NonBlocking (n bufferSize : Nat) (s : Monitor P) : Prop where
  inv : s.Inv n
  blocking : s.queue.blocking = false
  size : s.queue.bufferSize = bufferSize

theorem reset_blocking (q : Queue) : (queueReset q).blocking = q.blocking := by
  unfold queueReset
  split
  · rfl
  · rw [Queue.addFree_eq]
    rfl

theorem step_nonBlocking {n bufferSize : Nat} {s t : Monitor P} {l : MonitorLabel P}
    (hl : s.Allowed l) (h : s.step l = some t) (hs : s.NonBlocking n bufferSize) :
    t.NonBlocking n bufferSize := by
  have heffect := step_effect hs.inv.fits h
  refine ⟨step_inv hl h hs.inv, ?_, heffect.bufferSize.trans hs.size⟩
  by_cases hreset : l = .reset
  · subst hreset
    cases heffect with
    | reset => exact (reset_blocking s.queue).trans hs.blocking
    | refused _ _ _ hl => rcases hl with hl | hl <;> cases hl
    | putWaits _ _ _ hl => rcases hl with hl | hl <;> cases hl
    | stored _ _ _ _ hl => rcases hl with hl | hl <;> cases hl
    | taken _ _ hl => rcases hl with hl | hl | hl <;> cases hl
    | drained _ hl => rcases hl with hl | hl <;> cases hl
    | takeWaits _ hl => rcases hl with hl | hl <;> cases hl
  · exact (heffect.blocking hreset).trans hs.blocking

/-- **What the consumer holds stays as it is.** -/
theorem detached_kept {n bufferSize : Nat} {s t : Monitor P} {l : MonitorLabel P} {d : Nat}
    (hs : s.NonBlocking n bufferSize) (hl : s.Allowed l) (h : s.step l = some t)
    (hne : l ≠ .complete) (hd : s.queue.detachedNode = some d) :
    t.queue.detachedNode = some d ∧ t.queue.message d = s.queue.message d := by
  obtain ⟨free, filled, hshape⟩ := hs.inv.shape
  cases step_effect hs.inv.fits h with
  | stored _ p m q' hput hq hm hopen =>
    exact ⟨(putNode_fields hq).1.trans hd, hshape.detached_put hm hq hd⟩
  | taken _ a hlabel hwake ha =>
    have hnone := detached_of_take hs.inv hl hlabel hwake
    rw [hnone] at hd
    cases hd
  | complete hc => exact absurd rfl hne
  | reset =>
    rw [show s.queue.detachedNode = none from hl] at hd
    cases hd
  | _ => exact ⟨hd, rfl⟩

omit [DecidableEq P] in
theorem NonBlocking.queuePut_eq {n bufferSize : Nat} {s : Monitor P}
    (hs : s.NonBlocking n bufferSize) {m : QueueMessage} (hm : m.bufferLen ≤ bufferSize) :
    queuePut m s.queue = queuePutCommit m s.queue := by
  rw [queuePut, if_neg (by rw [hs.size]; omega), hs.blocking]
  rfl

omit [DecidableEq P] in
/-- **When a put is possible.** -/
theorem NonBlocking.putKeeps_iff {n bufferSize : Nat} {s : Monitor P}
    (hs : s.NonBlocking n bufferSize) (hpos : 0 < n) {m : QueueMessage}
    (hm : m.bufferLen ≤ bufferSize) :
    PutKeeps n m s.queue ↔ (n = 1 → s.queue.detachedNode = none) := by
  obtain ⟨free, filled, hshape⟩ := hs.inv.shape
  rw [← hshape.putNode_ne_none_iff hpos m, PutKeeps, hs.queuePut_eq hm, queuePutCommit]
  cases hput : queuePutNode m s.queue with
  | none => exact iff_of_false (by rintro ⟨_, ⟨⟩, -⟩) fun hne => hne rfl
  | some q' =>
    exact iff_of_true ⟨q', rfl, hshape.pending_put (by rw [hs.size]; exact hm) hput⟩
      (by rintro ⟨⟩)

end Monitor

/-- **When a queue that does not block keeps its oldest messages**, in every state that its
users reach by the protocol. -/
theorem nonblocking_keeps_oldest_iff {P : Type} [DecidableEq P] {memory : Nat → QueueNode}
    {bufferSize : UInt32} {queueSize : UInt16} {q : Queue} {ls : List (MonitorLabel P)}
    {s : Monitor P} (h : queueCreate memory bufferSize queueSize false = some q)
    (hrun : Run Monitor.step Monitor.Allowed (Monitor.start q) ls s) :
    s.KeepsOldest queueSize.toNat bufferSize.toNat ↔
      (queueSize = 1 → s.queue.detachedNode = none) := by
  obtain ⟨-, -, -, hsize, hblocking, hpos⟩ := queueCreate_shape h
  have hs : s.NonBlocking queueSize.toNat bufferSize.toNat := hrun.invariant
    (fun _ _ _ hl hstep hs => Monitor.step_nonBlocking hl hstep hs)
    ⟨Monitor.start_inv h, hblocking, hsize⟩
  have hone : queueSize = 1 ↔ queueSize.toNat = 1 := UInt16.toNat_inj.symm
  rw [hone]
  constructor
  · intro hkeeps
    have hempty : (⟨0, 0, []⟩ : QueueMessage).bufferLen ≤ bufferSize.toNat := Nat.zero_le _
    exact (hs.putKeeps_iff hpos hempty).mp (hkeeps.put _ hempty)
  · intro hnone
    exact ⟨fun m hm => (hs.putKeeps_iff hpos hm).mpr hnone,
      fun _ _ _ hl hstep hne hd => Monitor.detached_kept hs hl hstep hne hd⟩

/-- Two nodes, of which the consumer holds one: the second of two puts replaces the first. -/
theorem nonblocking_keeps_oldest_two :
    ∃ q, queueCreate zeroMemory 4 2 false = some q ∧
      ∃ s : Monitor Unit, exec (restrict Monitor.step Monitor.Allowed) (Monitor.start q)
        [.put () ⟨1, 1, [7]⟩, .take, .put () ⟨2, 2, [8]⟩] = some s ∧ s.KeepsOldest 2 4 := by
  refine ⟨_, rfl, exists_exec rfl fun s hs => ?_⟩
  exact (nonblocking_keeps_oldest_iff
    (show queueCreate zeroMemory 4 2 false = some _ from rfl) (run_of_exec hs)).mpr
      (fun hone => absurd hone (by decide))

/-- **The only node is held by the consumer**: the next put dereferences `NULL`. -/
theorem single_node_put_is_undefined :
    ∃ q, queueCreate zeroMemory 4 1 false = some q ∧
      ∃ s : Monitor Unit, exec (restrict Monitor.step Monitor.Allowed) (Monitor.start q)
        [.put () ⟨1, 1, [7]⟩, .take] = some s ∧
        queuePut ⟨2, 2, [8]⟩ s.queue = .undefined ∧ ¬ s.KeepsOldest 1 4 := by
  refine ⟨_, rfl, _, rfl, rfl, fun h => ?_⟩
  obtain ⟨q', hput, -⟩ := h.put ⟨2, 2, [8]⟩ (by decide)
  cases hput

end SdrModem
