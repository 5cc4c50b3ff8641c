import SdrModem.Queue
import SdrModem.LinkedList
import Mathlib.Data.List.Nodup
import Mathlib.Data.List.Perm.Basic

/-!
# The nodes of the queue

`Shape n q free filled`: the free list of `q` is `free`, its filled list is
`filled`, and these two and the detached node are the `n` nodes that
`queue_create` allocated, each once.  One lemma per operation says how the two
lists move, and what happens to the messages in the nodes.
-/
namespace SdrModem
open LinkedList

namespace Queue
variable (q : Queue) (a b : Nat) (p : Option Nat) (m : QueueMessage)

@[simp] theorem next_setNext : (q.setNext a p).next = Function.update q.next a p := by
  funext x
  by_cases hx : x = a
  · subst hx; simp [next, setNext]
  · simp [next, setNext, hx]

@[simp] theorem message_setNext : (q.setNext a p).message b = q.message b := by
  by_cases hb : b = a
  · subst hb; simp [message, setNext]
  · simp [message, setNext, hb]

@[simp] theorem len_setNext : ((q.setNext a p).node b).len = (q.node b).len := by
  by_cases hb : b = a
  · subst hb; simp [setNext]
  · simp [setNext, hb]

@[simp] theorem next_fill : (q.fill a m).next = q.next := by
  funext x
  by_cases hx : x = a
  · subst hx; simp [next, fill]
  · simp [next, fill, hx]

@[simp] theorem message_fill_self : (q.fill a m).message a = m := by
  simp [message, fill, QueueMessage.bufferLen]

theorem message_fill_of_ne (h : b ≠ a) : (q.fill a m).message b = q.message b := by
  simp [message, fill, h]

theorem len_fill : ((q.fill a m).node b).len = if b = a then m.bufferLen else (q.node b).len := by
  by_cases hb : b = a
  · subst hb; simp [fill]
  · simp [fill, hb]

/-! The three splices, field by field. -/

theorem removeFree_eq : q.removeFree a =
    { q.setNext a none with
      firstFreeNode := q.next a
      lastFreeNode := if q.next a = none then none else q.lastFreeNode } := by
  by_cases h : q.next a = none <;> simp [removeFree, setNext, h]

theorem detach_eq : queueDetach q a =
    { q.setNext a none with
      detachedNode := some a
      firstFilledNode := q.next a
      lastFilledNode := if q.next a = none then none else q.lastFilledNode } := by
  by_cases h : q.next a = none <;> simp [queueDetach, setNext, h]

/-- The queue after `last->next = p`, if there is a last node. -/
def linkLast (last : Option Nat) : Queue :=
  { q with
    node := match last with
      | none => q.node
      | some l => (q.setNext l p).node }

theorem addFilled_eq : q.addFilled a =
    { q.linkLast (some a) q.lastFilledNode with
      firstFilledNode := linkFirst q.firstFilledNode q.lastFilledNode (some a)
      lastFilledNode := some a } := by
  cases h : q.lastFilledNode <;> simp [addFilled, linkLast, linkFirst, setNext, h]

theorem addFree_eq (last : Option Nat) : q.addFree p last =
    { q.linkLast p q.lastFreeNode with
      firstFreeNode := linkFirst q.firstFreeNode q.lastFreeNode p
      lastFreeNode := last } := by
  cases h : q.lastFreeNode <;> simp [addFree, linkLast, linkFirst, setNext, h]

@[simp] theorem next_linkLast (last : Option Nat) :
    (q.linkLast p last).next = linkNext q.next last p := by
  cases last with
  | none => rfl
  | some l => exact next_setNext q l p

@[simp] theorem message_linkLast (last : Option Nat) :
    (q.linkLast p last).message b = q.message b := by
  cases last with
  | none => rfl
  | some l => exact message_setNext q l b p

@[simp] theorem len_linkLast (last : Option Nat) :
    ((q.linkLast p last).node b).len = (q.node b).len := by
  cases last with
  | none => rfl
  | some l => exact len_setNext q l b p

end Queue

/-- The lists of the queue and its `n` nodes. -/
structure Shape (n : Nat) (q : Queue) (free filled : List Nat) : Prop where
  free_ends : Ends q.next q.firstFreeNode q.lastFreeNode free
  filled_ends : Ends q.next q.firstFilledNode q.lastFilledNode filled
  detached_next : ∀ d, q.detachedNode = some d → q.next d = none
  nodes : (free ++ filled ++ q.detachedNode.toList).Perm (List.range n)
  len_le : ∀ a, a < n → (q.node a).len ≤ q.bufferSize

namespace Shape
variable {n : Nat} {q : Queue} {free filled : List Nat} {t : Nat}

theorem nodup (h : Shape n q free filled) :
    (free ++ filled ++ q.detachedNode.toList).Nodup :=
  h.nodes.nodup_iff.mpr List.nodup_range

theorem mem_nodes (h : Shape n q free filled) (a : Nat) :
    a ∈ free ++ filled ++ q.detachedNode.toList ↔ a < n := by
  rw [h.nodes.mem_iff, List.mem_range]

/-- The free list, the filled list and the detached node have no node in common. -/
theorem disjoint (h : Shape n q free filled) :
    (∀ a ∈ free, a ∉ filled) ∧ (∀ a ∈ free, q.detachedNode ≠ some a) ∧
      ∀ a ∈ filled, q.detachedNode ≠ some a := by
  have hnd := h.nodup
  rw [List.nodup_append, List.nodup_append] at hnd
  obtain ⟨⟨-, -, hff⟩, -, hd⟩ := hnd
  exact ⟨fun a ha hb => hff a ha a hb rfl,
    fun a ha he => hd a (List.mem_append_left _ ha) a (by simp [he]) rfl,
    fun a ha he => hd a (List.mem_append_right _ ha) a (by simp [he]) rfl⟩

end Shape

/-! ## `queue_create` -/

/-- After `n` iterations of the loop in `queue_create` the nodes `0 … n - 1` are
linked in order, and hold nothing. -/
theorem queueCreate_nodes (bufferSize : Nat) (memory : Nat → QueueNode) (n : Nat) :
    let s := (List.range n).foldl (queueCreateNode bufferSize) ⟨memory, none, none⟩
    Ends (fun a => (s.node a).next) s.firstNode s.lastNode (List.range n) ∧
      ∀ a, a < n → (s.node a).len = 0 := by
  induction n with
  | zero => exact ⟨Ends.nil, by simp⟩
  | succ n ih =>
    obtain ⟨hends, hlen⟩ := ih
    simp only [List.range_succ, List.foldl_append, List.foldl_cons, List.foldl_nil]
    generalize hs : (List.range n).foldl (queueCreateNode bufferSize) ⟨memory, none, none⟩ = s
      at hends hlen
    have hn : n ∉ List.range n := by simp
    -- the new node is unlinked before it is linked behind the last one
    have hfresh : Ends (Function.update (fun a => (s.node a).next) n none) s.firstNode s.lastNode
        (List.range n) :=
      hends.congr (fun x hx => Function.update_of_ne (ne_of_mem_of_not_mem hx hn) _ _)
    have hnd : (List.range n ++ [n]).Nodup := List.range_succ ▸ List.nodup_range
    have hpush := hfresh.push (by simp) hnd
    cases hl : s.lastNode with
    | none =>
      rw [hl] at hpush
      refine ⟨?_, ?_⟩
      · simp only [queueCreateNode, hl]
        refine Ends.congr hpush ?_
        intro x _
        by_cases hx : x = n <;> simp [linkNext, hx]
      · intro a ha
        simp only [queueCreateNode, hl, Function.update_apply]
        split
        · rfl
        · exact hlen a (by omega)
    | some l =>
      rw [hl] at hpush
      refine ⟨?_, ?_⟩
      · simp only [queueCreateNode, hl]
        refine Ends.congr hpush ?_
        intro x _
        by_cases hx : x = l
        · subst hx; simp [linkNext]
        · simp only [linkNext, Function.update_of_ne hx]
          by_cases hxn : x = n
          · subst hxn; simp
          · simp [hxn]
      · intro a ha
        simp only [queueCreateNode, hl, Function.update_apply]
        split
        · split
          · rfl
          · rename_i hal han
            exact hlen l (by omega)
        · split
          · rfl
          · exact hlen a (by omega)

/-- **A new queue has all its nodes in the free list.** -/
theorem queueCreate_shape {memory : Nat → QueueNode} {bufferSize : UInt32} {queueSize : UInt16}
    {blocking : Bool} {q : Queue} (h : queueCreate memory bufferSize queueSize blocking = some q) :
    Shape queueSize.toNat q (List.range queueSize.toNat) [] ∧ q.detachedNode = none ∧
      q.poisonPill = false ∧ q.bufferSize = bufferSize.toNat ∧ q.blocking = blocking ∧
      0 < queueSize.toNat := by
  unfold queueCreate at h
  split at h
  · cases h
  · split at h
    · cases h
    · rename_i hsize _
      cases h
      obtain ⟨hends, hlen⟩ := queueCreate_nodes bufferSize.toNat memory queueSize.toNat
      refine ⟨⟨hends, Ends.nil, by simp, by simp, ?_⟩, rfl, rfl, rfl, rfl, ?_⟩
      · intro a ha
        exact Nat.le_trans (Nat.le_of_eq (hlen a ha)) (Nat.zero_le _)
      · exact Nat.pos_of_ne_zero fun h0 => hsize (UInt16.toNat_inj.mp h0)

/-! ## `queue_put` -/

namespace Shape
variable {n : Nat} {q : Queue} {free filled : List Nat} {t : Nat} {m : QueueMessage}

/-- The tail pointer of the filled list points into the filled list. -/
theorem lastFilled_ne (h : Shape n q free filled) {x : Nat} (hx : x ∉ filled) :
    q.lastFilledNode ≠ some x := by
  intro he
  obtain ⟨ys, rfl, -⟩ := h.filled_ends.eq_concat he
  exact hx (by simp)

/-- The tail pointer of the free list points into the free list. -/
theorem lastFree_ne (h : Shape n q free filled) {x : Nat} (hx : x ∉ free) :
    q.lastFreeNode ≠ some x := by
  intro he
  obtain ⟨ys, rfl, -⟩ := h.free_ends.eq_concat he
  exact hx (by simp)

/-- **A put into a free node**: the first free node moves to the back of the
filled list. -/
theorem put (h : Shape n q (t :: free) filled) (hm : m.bufferLen ≤ q.bufferSize) :
    Shape n (((q.removeFree t).addFilled t).fill t m) free (filled ++ [t]) := by
  obtain ⟨hff, hfd, hdd⟩ := h.disjoint
  have htfilled : t ∉ filled := hff t List.mem_cons_self
  have htdet : q.detachedNode ≠ some t := hfd t List.mem_cons_self
  have hnd := h.nodup
  rw [List.append_assoc, List.cons_append, List.nodup_cons] at hnd
  have htfree : t ∉ free := fun hmem => hnd.1 (List.mem_append_left _ hmem)
  have hfilledNodup : (filled ++ [t]).Nodup := by
    refine List.nodup_append.mpr ⟨?_, List.nodup_singleton t, ?_⟩
    · exact (List.nodup_append.mp (List.nodup_append.mp hnd.2).2.1).1
    · intro a ha b hb
      rw [List.mem_singleton.mp hb]
      exact ne_of_mem_of_not_mem ha htfilled
  -- `to_fill->next = NULL` leaves the other links of both lists alone
  have hfree : Ends (Function.update q.next t none) (q.next t)
      (if q.next t = none then none else q.lastFreeNode) free :=
    h.free_ends.unlink.congr fun x hx => Function.update_of_ne (ne_of_mem_of_not_mem hx htfree) _ _
  have hfilled : Ends (Function.update q.next t none) q.firstFilledNode q.lastFilledNode filled :=
    h.filled_ends.congr fun x hx => Function.update_of_ne (ne_of_mem_of_not_mem hx htfilled) _ _
  have hnext : (((q.removeFree t).addFilled t).fill t m).next =
      linkNext (Function.update q.next t none) q.lastFilledNode (some t) := by
    rw [Queue.next_fill, Queue.addFilled_eq, Queue.removeFree_eq]
    exact (Queue.next_linkLast _ _ _).trans (by rw [← Queue.next_setNext]; rfl)
  have hkeep : ∀ x, x ∉ filled →
      linkNext (Function.update q.next t none) q.lastFilledNode (some t) x =
        Function.update q.next t none x := fun x hx => linkNext_of_ne (h.lastFilled_ne hx)
  have hlen : ∀ a, ((((q.removeFree t).addFilled t).fill t m).node a).len =
      if a = t then m.bufferLen else (q.node a).len := by
    intro a
    rw [Queue.len_fill, Queue.addFilled_eq, Queue.removeFree_eq]
    exact congrArg _ ((Queue.len_linkLast _ _ _ _).trans (Queue.len_setNext q t a none))
  have hdet : (((q.removeFree t).addFilled t).fill t m).detachedNode = q.detachedNode := by
    rw [Queue.addFilled_eq, Queue.removeFree_eq]; rfl
  refine ⟨?_, ?_, ?_, ?_, ?_⟩
  · rw [hnext, Queue.addFilled_eq, Queue.removeFree_eq]
    exact hfree.congr fun x hx => hkeep x (hff x (List.mem_cons_of_mem _ hx))
  · rw [hnext, Queue.addFilled_eq, Queue.removeFree_eq]
    exact hfilled.push (by simp) hfilledNodup
  · intro d hd
    rw [hdet] at hd
    have hdt : d ≠ t := fun he => htdet (he ▸ hd)
    rw [hnext, hkeep d (fun hmem => hdd d hmem hd), Function.update_of_ne hdt]
    exact h.detached_next d hd
  · rw [hdet]
    have hmove : (free ++ (filled ++ [t]) ++ q.detachedNode.toList).Perm
        (t :: (free ++ filled ++ q.detachedNode.toList)) := by
      rw [← List.append_assoc free, List.append_assoc (free ++ filled)]
      exact List.perm_middle
    exact hmove.trans h.nodes
  · intro a ha
    rw [hlen a, Queue.addFilled_eq, Queue.removeFree_eq]
    split
    · exact hm
    · exact h.len_le a ha

/-- A put writes the message into the node and leaves every other message as it
was. -/
theorem message_put (q : Queue) (t a : Nat) (m : QueueMessage) :
    (((q.removeFree t).addFilled t).fill t m).message a = if a = t then m else q.message a := by
  split
  · rename_i ha
    rw [ha, Queue.message_fill_self]
  · rename_i ha
    rw [Queue.message_fill_of_ne _ _ _ _ ha, Queue.addFilled_eq, Queue.removeFree_eq]
    exact (Queue.message_linkLast _ _ _ _).trans (Queue.message_setNext q t a none)

/-- **A put into a full queue** overwrites a node and moves none. -/
theorem overwrite (h : Shape n q free filled) (hm : m.bufferLen ≤ q.bufferSize) (t : Nat) :
    Shape n (q.fill t m) free filled := by
  refine ⟨?_, ?_, ?_, h.nodes, ?_⟩
  · rw [Queue.next_fill]; exact h.free_ends
  · rw [Queue.next_fill]; exact h.filled_ends
  · intro d hd
    rw [Queue.next_fill]
    exact h.detached_next d hd
  · intro a ha
    rw [Queue.len_fill]
    split
    · exact hm
    · exact h.len_le a ha

/-! ## `queue_take` and `queue_peak` -/

/-- **Detaching**: the first filled node becomes the detached node. -/
theorem detach (h : Shape n q free (t :: filled)) (hd : q.detachedNode = none) :
    Shape n (queueDetach q t) free filled := by
  obtain ⟨hff, -, -⟩ := h.disjoint
  have htfree : t ∉ free := fun hmem => hff t hmem List.mem_cons_self
  have hnd := h.nodup
  rw [List.append_assoc, List.nodup_append] at hnd
  have htfilled : t ∉ filled := by
    have := hnd.2.1
    rw [List.cons_append, List.nodup_cons] at this
    exact fun hmem => this.1 (List.mem_append_left _ hmem)
  have hnext : (queueDetach q t).next = Function.update q.next t none := by
    rw [Queue.detach_eq, ← Queue.next_setNext]; rfl
  refine ⟨?_, ?_, ?_, ?_, ?_⟩
  · rw [hnext, Queue.detach_eq]
    exact h.free_ends.congr fun x hx =>
      Function.update_of_ne (ne_of_mem_of_not_mem hx htfree) _ _
  · rw [hnext, Queue.detach_eq]
    exact h.filled_ends.unlink.congr fun x hx =>
      Function.update_of_ne (ne_of_mem_of_not_mem hx htfilled) _ _
  · intro d hd'
    rw [Queue.detach_eq] at hd'
    cases hd'
    simp [hnext]
  · have hnodes := h.nodes
    rw [hd] at hnodes
    rw [Queue.detach_eq]
    have hmove : (free ++ filled ++ [t]).Perm (free ++ t :: filled) := by
      rw [List.append_assoc]
      exact List.Perm.append_left free (List.perm_append_singleton t filled)
    exact hmove.trans (by simpa using hnodes)
  · intro a ha
    rw [Queue.detach_eq]
    exact Nat.le_trans (Nat.le_of_eq (Queue.len_setNext q t a none)) (h.len_le a ha)

/-- Detaching a node changes no message. -/
theorem message_detach (q : Queue) (t a : Nat) : (queueDetach q t).message a = q.message a := by
  rw [Queue.detach_eq]
  exact Queue.message_setNext q t a none

/-! ## `queue_complete` and `queue_reset` -/

/-- **A list of nodes is linked behind the free list.** -/
theorem addFree_ends {first last : Option Nat} {xs : List Nat} (h : Shape n q free filled)
    (hx : Ends q.next first last xs) (hne : xs ≠ []) (hnd : (free ++ xs).Nodup) :
    Ends (q.addFree first last).next (q.addFree first last).firstFreeNode
      (q.addFree first last).lastFreeNode (free ++ xs) := by
  rw [Queue.addFree_eq]
  have hnext : (q.linkLast first q.lastFreeNode).next = linkNext q.next q.lastFreeNode first :=
    Queue.next_linkLast _ _ _
  have hlink := h.free_ends.link hx hne hnd
  rw [← hnext] at hlink
  exact hlink

/-- Linking nodes behind the free list changes the `next` of free nodes only. -/
theorem addFree_next (h : Shape n q free filled) (first last : Option Nat) {x : Nat}
    (hx : x ∉ free) : (q.addFree first last).next x = q.next x := by
  rw [Queue.addFree_eq]
  have hnext : (q.linkLast first q.lastFreeNode).next = linkNext q.next q.lastFreeNode first :=
    Queue.next_linkLast _ _ _
  exact (congrFun hnext x).trans (linkNext_of_ne (h.lastFree_ne hx))

/-- **Completing**: the detached node goes to the back of the free list. -/
theorem complete {d : Nat} (h : Shape n q free filled) (hd : q.detachedNode = some d) :
    Shape n (queueComplete q) (free ++ [d]) filled := by
  obtain ⟨hff, hfd, hdd⟩ := h.disjoint
  have hends : Ends q.next q.detachedNode q.detachedNode [d] := by
    rw [hd]
    exact ⟨⟨rfl, h.detached_next d hd⟩, rfl⟩
  have hfree : free.Nodup := (List.nodup_append.mp (List.nodup_append.mp h.nodup).1).1
  have hnd : (free ++ [d]).Nodup := by
    refine List.nodup_append.mpr ⟨hfree, List.nodup_singleton d, ?_⟩
    intro a ha b hb
    rw [List.mem_singleton.mp hb]
    exact fun he => hfd a ha (he ▸ hd)
  refine ⟨h.addFree_ends hends (by simp) hnd, ?_, (fun d' hd' => by cases hd'), ?_, ?_⟩
  · have hfilled := h.filled_ends.congr fun x hx =>
      h.addFree_next q.detachedNode q.detachedNode (fun hmem => hff x hmem hx)
    rw [Queue.addFree_eq] at hfilled
    rw [queueComplete, Queue.addFree_eq]
    exact hfilled
  · have hnodes := h.nodes
    rw [hd] at hnodes
    have hmove : (free ++ [d] ++ filled).Perm (free ++ filled ++ [d]) := by
      rw [List.append_assoc, List.append_assoc]
      exact List.Perm.append_left free (List.perm_append_comm)
    exact (by simpa [queueComplete] using hmove.trans hnodes)
  · intro a ha
    rw [queueComplete, Queue.addFree_eq]
    exact Nat.le_trans (Nat.le_of_eq (Queue.len_linkLast _ _ _ _)) (h.len_le a ha)

/-- Completing changes no message. -/
theorem message_complete (q : Queue) (a : Nat) : (queueComplete q).message a = q.message a := by
  rw [queueComplete, Queue.addFree_eq]
  exact Queue.message_linkLast _ _ _ _

/-- **Resetting**: the filled nodes go to the back of the free list. -/
theorem reset (h : Shape n q free filled) (hd : q.detachedNode = none) :
    Shape n (queueReset q) (free ++ filled) [] := by
  by_cases hf : q.firstFilledNode = none
  · have hnil := h.filled_ends.first_eq_none_iff.mp hf
    have hlast := h.filled_ends.last_eq_none_iff.mpr hnil
    rw [queueReset, if_pos hf, hnil, List.append_nil]
    rw [hnil] at h
    exact ⟨h.free_ends, h.filled_ends, h.detached_next, h.nodes, h.len_le⟩
  · have hne : filled ≠ [] := fun hnil => hf (h.filled_ends.first_eq_none_iff.mpr hnil)
    have hnd : (free ++ filled).Nodup := (List.nodup_append.mp h.nodup).1
    have hdet : (queueReset q).detachedNode = none := by
      rw [queueReset, if_neg hf, Queue.addFree_eq]
      exact hd
    have hends := h.addFree_ends h.filled_ends hne hnd
    refine ⟨?_, ?_, by rw [hdet]; simp, ?_, ?_⟩
    · rw [queueReset, if_neg hf]
      exact hends
    · rw [queueReset, if_neg hf]
      exact Ends.nil
    · have hnodes := h.nodes
      rw [hd] at hnodes
      rw [hdet, List.append_nil]
      exact hnodes
    · intro a ha
      rw [queueReset, if_neg hf, Queue.addFree_eq]
      exact Nat.le_trans (Nat.le_of_eq (Queue.len_linkLast _ _ _ _)) (h.len_le a ha)

end Shape

end SdrModem
