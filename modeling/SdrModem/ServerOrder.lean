import Mathlib.Data.List.Nodup
import SdrModem.ServerTrace
import SdrModem.ServerAnswers

/-!
# Answers in the order of the requests

Do the RESPONSEs of a connection come in the order in which its requests were read?
The acceptor thread answers some requests itself, and the others are answered by two
workers with a queue each, so a later request may be answered first: the tests take
the answer to a ping for a sign that everything sent before was handled, which it is
not.

The order is kept in every run in which the RESPONSE to a request is put into the
client queue only when no worker owes one to an earlier request of the connection,
and no worker's queue refuses settings for their length (`Server.InOrder`).
-/
namespace SdrModem
open BoundedFifo Machine

/-- Whether a message is to be answered by a RESPONSE: it is neither a frame nor a
shutdown. -/
def Handled.responds : Handled → Bool
  | .rejected _ => true
  | .dispatched header _ =>
      header.type ≠ MessageType.txFrame.code ∧ header.type ≠ MessageType.shutdown.code

namespace Server

/-- The requests of the connection `c` for which a call is still to be made. -/
def callsTo (c : Nat) (s : Server) : List Nat :=
  s.todo.filterMap fun a => a.call?.bind (Item.request? c)

/-- The requests of the connection `c` that a worker has to answer. -/
def owedTo (c : Nat) (s : Server) : List Nat := s.working.filterMap (Item.request? c)

/-- The request to which a step puts the RESPONSE into the client queue: the acceptor
thread answers it itself, or a worker has handled it. -/
def answering (s : Server) : ServerLabel → Option (Item About)
  | .acceptor => s.todo.head?.bind fun a => a.message?.bind Sent.item?
  | .rx _ =>
      match s.rx.pc with
      | .respond c _ _ _ => some (c.map RxCommand.about)
      | _ => none
  | .tx _ =>
      s.tx.bind fun w =>
        match w.pc with
        | .respond c _ _ => some (c.map TxCommand.about)
        | _ => none
  | _ => none

/-- **The condition on a step.**  When it puts the RESPONSE to a request of the
connection `c` into the client queue, no worker owes one to an earlier request of the
connection; and when it hands a request of the connection to a worker, the queue of
the worker takes it. -/
def InOrder (c : Nat) (s : Server) (l : ServerLabel) : Prop :=
  (∀ x ∈ s.answering l, ∀ k ∈ x.request? c, ∀ j ∈ s.owedTo c, k ≤ j) ∧
    (l = .acceptor → ∀ a ∈ s.todo.head?, a.message? = none → ∀ x ∈ a.call?,
      (x.request? c).isSome = true → s.config.takes a.val = true)

instance (c : Nat) (s : Server) (l : ServerLabel) : Decidable (s.InOrder c l) :=
  inferInstanceAs (Decidable (_ ∧ _))

/-- **A request has been handled**: the acceptor thread has made its call, and the
worker that the call went to has done what it asks for, since only then it answers. -/
def Settled (s : Server) (t : Tag) : Prop :=
  (∀ a ∈ s.todo, ∀ x, a.call? = some x → x.tag ≠ some t) ∧ ∀ x ∈ s.working, x.tag ≠ some t

/-- **The RESPONSEs of a connection are in the order of its requests**, and when one of
them is written, every earlier request has been handled and its RESPONSE written
before. -/
def AnswersInOrder (c : Nat) (s : Server) : Prop :=
  ∀ part, (s.responses part c).Pairwise (· < ·) ∧
    ∀ k ∈ s.responses part c, ∀ j h, (⟨c, j⟩, h) ∈ s.received → h.responds = true → j < k →
      j ∈ s.responses part c ∧ s.Settled ⟨c, j⟩

variable {s s' : Server} {l : ServerLabel} {c : Nat}

/-! ## Requests and the calls about them -/

/-- What an iteration reads and is to be answered, it makes a call about. -/
theorem calls_of_iteration {server : TcpServer} {it : Iteration} (hit : IterationEffect server it)
    {hd : Handled} (hhandled : it.handled = some hd) (hresponds : hd.responds = true) :
    ∃ a ∈ it.acts, a.about? = some ⟨hd.pair.1.requestId, false⟩ := by
  cases hit with
  | idle hnone => rw [hnone] at hhandled; cases hhandled
  | lost hnone => rw [hnone] at hhandled; cases hhandled
  | rejected header hsome hacts =>
    rw [hsome] at hhandled
    cases hhandled
    rw [hacts]
    exact ⟨_, List.mem_cons_self, rfl⟩
  | dispatched header payload hsome hacts hdisc =>
    rw [hsome] at hhandled
    cases hhandled
    have hne := of_decide_eq_true hresponds
    rw [hacts]
    rcases tcpWorkerDispatch_cases server header payload with ⟨a, ha, habout⟩ | ⟨-, htype, -⟩ | ⟨-, htype⟩
    · refine ⟨a, by rw [ha]; exact List.mem_cons_self, ?_⟩
      rw [habout, Handled.about, Handled.isFrame, decide_eq_false hne.1]
      rfl
    · exact absurd htype hne.1
    · exact absurd htype hne.2

/-- An iteration makes at most one call about a request. -/
theorem about_of_iteration {server : TcpServer} {it : Iteration} (hit : IterationEffect server it) :
    (it.acts.filterMap ServerAct.about?).length ≤ 1 := by
  cases hit with
  | idle hhandled hacts => rw [hacts]; exact Nat.zero_le 1
  | lost hhandled hacts => rw [hacts]; exact Nat.zero_le 1
  | rejected header hhandled hacts =>
    rw [hacts]
    split <;> exact Nat.le_refl 1
  | dispatched header payload hhandled hacts hdisc =>
    rw [hacts]
    rcases tcpWorkerDispatch_cases server header payload with ⟨a, ha, habout⟩ | ⟨ha, -⟩ | ⟨ha, -⟩
    · rw [ha, List.filterMap_cons, habout]
      exact Nat.le_refl 1
    · rw [ha]; exact Nat.zero_le 1
    · rw [ha]; exact Nat.zero_le 1

/-- The calls an iteration makes are about the request it has read. -/
theorem callsTo_afterIteration {it : Iteration} (hit : IterationEffect s.config.tcpServer it) :
    (s.afterIteration it).callsTo c = [] ∨
      (c = s.client.conn ∧ (s.afterIteration it).callsTo c = [s.client.count]) := by
  have hcalls : (s.afterIteration it).callsTo c = (it.acts.filterMap ServerAct.about?).filterMap
      fun b => Item.request? c ⟨b, some ⟨s.client.conn, s.client.count⟩⟩ := by
    rw [callsTo, afterIteration, List.filterMap_map, List.filterMap_filterMap]
    refine List.filterMap_congr fun a _ => ?_
    change (a.about?.map _).bind _ = _
    cases a.about? <;> rfl
  have hlength := about_of_iteration hit
  rw [hcalls]
  cases hacts : it.acts.filterMap ServerAct.about? with
  | nil => exact Or.inl rfl
  | cons b rest =>
    obtain rfl : rest = [] := by
      rw [hacts, List.length_cons] at hlength
      exact List.eq_nil_of_length_eq_zero (by omega)
    cases hreq : Item.request? c ⟨b, some ⟨s.client.conn, s.client.count⟩⟩ with
    | none => exact Or.inl (by simp [hreq])
    | some k =>
      obtain ⟨-, htag⟩ := Item.request?_eq_some.mp hreq
      cases htag
      exact Or.inr ⟨rfl, by simp [hreq]⟩

/-- The first call, and the requests of the others. -/
theorem callsTo_cons {a : Item ServerAct} {rest : List (Item ServerAct)}
    (htodo : s.todo = a :: rest) :
    s.callsTo c = (a.call?.bind (Item.request? c)).toList ++
      rest.filterMap fun a => a.call?.bind (Item.request? c) := by
  rw [callsTo, htodo, List.filterMap_cons]
  cases a.call?.bind (Item.request? c) <;> rfl

/-- What a worker answers with a RESPONSE is what the step says. -/
theorem WorkerStep.answering {rx : RxWorker} {tx : Option TxWorker} {m : Sent} {x : Item About}
    (h : s.WorkerStep l rx tx (some m)) (htyped : ∀ w, s.tx = some w → w.pc.Typed)
    (hx : m.item? = some x) {k : Nat}
    (hreq : x.request? c = some k) : (s.answering l).bind (Item.request? c) = some k := by
  cases h with
  | rx r _ _ h =>
    cases RxWorker.workerStep_effect h with
    | respond cmd status details modem hpc =>
      cases hx
      rw [Server.answering, hpc]
      exact hreq
    | callback _ pc v pc' _ hpc hcb =>
      rw [Sent.item?_softBits (RxWorker.callback_sent hcb m rfl)] at hx
      cases hx
  | device r _ _ h =>
    rw [Sent.item?_softBits (RxWorker.deviceStep_sent h m rfl)] at hx
    cases hx
  | tx r w w' _ hw h =>
    cases TxWorker.step_effect h with
    | report cmd status details t hpc =>
      cases hx
      cases hreq
    | respond cmd status details hpc =>
      cases hx
      obtain ⟨-, htag⟩ := Item.request?_eq_some.mp hreq
      have hframe := htyped w hw
      rw [hpc] at hframe
      rw [Server.answering, hw, Option.bind_some, hpc]
      exact Item.request?_eq_some.mpr ⟨hframe, htag⟩

end Server

namespace Traced
variable {s t : Traced} {l : ServerLabel} {c : Nat}

/-- **Where the requests of a connection are.**  Those answered come before those that a
worker owes an answer to, and both before the one for which a call is to be made.
None gets lost, except that nothing is answered any more once the client queue is
closed. -/
structure InLine (c : Nat) (s : Traced) : Prop where
  fits : 4 ≤ s.server.config.sdrBufferLen.toNat
  sorted : (s.answers c).Pairwise (· < ·)
  owed : ∀ j ∈ s.answers c, ∀ k ∈ s.server.owedTo c, j < k
  nodup : (s.server.owedTo c).Nodup
  single : (s.server.callsTo c).length ≤ 1
  calls : ∀ k ∈ s.server.callsTo c,
    (∀ j ∈ s.answers c, j < k) ∧ ∀ j ∈ s.server.owedTo c, j < k
  complete : ∀ j h, (⟨c, j⟩, h) ∈ s.server.received → h.responds = true →
    j ∈ s.server.callsTo c ∨ j ∈ s.server.owedTo c ∨ j ∈ s.answers c ∨
      (s.server.clientTx.queue.closed = true ∧ ∀ k ∈ s.answers c, k < j)
  unique : (s.server.received.map Prod.fst).Nodup

theorem create_inLine {config : AppConfig} (hn : 4 ≤ config.sdrBufferLen.toNat) :
    (create config).InLine c := by
  have howed : (create config).server.owedTo c = [] := by
    cases hc : config.canTransmit <;>
      simp [create, Server.create, Server.owedTo, Server.working, Server.owedBy, RxWorker.owed,
        RxWorker.unanswered, RxWorker.create, RxPc.unanswered?, Fifo.empty, TxWorker.owed,
        TxWorker.unanswered, TxWorker.create, TxPc.unanswered?, hc]
  refine ⟨hn, List.Pairwise.nil, by rintro _ ⟨⟩, ?_, Nat.zero_le 1, by rintro _ ⟨⟩,
    by rintro _ _ ⟨⟩, List.nodup_nil⟩
  rw [howed]
  exact List.nodup_nil

/-- The requests of a connection that were answered or are owed an answer were
received. -/
theorem Inv.lt_count {part : Part} (hs : s.Inv part) {k : Nat}
    (hk : k ∈ s.answers s.conn ∨ k ∈ s.server.owedTo s.conn) : k < s.server.client.count := by
  have hjust : ∀ x : Item About, Server.Justified s.server.config s.server.received x →
      x.request? s.conn = some k → k < s.server.client.count := by
    intro x hx hreq
    obtain ⟨-, htag⟩ := Item.request?_eq_some.mp hreq
    obtain ⟨h, hmem, -⟩ := hx _ htag
    exact (hs.provenance.received _ hmem).2 rfl
  rcases hk with hk | hk
  · obtain ⟨e, he, hreq⟩ := List.mem_filterMap.mp hk
    obtain ⟨x, hx, hreq⟩ := Sent.request?_eq_some.mp hreq
    exact hjust x (hs.accepted e he x hx) hreq
  · obtain ⟨x, hx, hreq⟩ := List.mem_filterMap.mp hk
    exact hjust x (hs.provenance.working x hx) hreq

/-! ## How a request moves on -/

/-- A step that neither changes the settings nor reads a request, and does not open the
client queue again. -/
structure Onward (s t : Traced) : Prop where
  config : t.server.config = s.server.config
  received : t.server.received = s.server.received
  closed : s.server.clientTx.queue.closed = true → t.server.clientTx.queue.closed = true

/-- No request moves. -/
theorem InLine.stay (hs : s.InLine c) (hon : Onward s t) (hanswers : t.answers c = s.answers c)
    (howed : (t.server.owedTo c).Perm (s.server.owedTo c))
    (hcalls : t.server.callsTo c = s.server.callsTo c) : t.InLine c := by
  refine ⟨hon.config ▸ hs.fits, ?_, ?_, ?_, ?_, ?_, ?_, hon.received ▸ hs.unique⟩
  · rw [hanswers]
    exact hs.sorted
  · intro j hj k hk
    rw [hanswers] at hj
    exact hs.owed j hj k (howed.subset hk)
  · exact howed.nodup_iff.mpr hs.nodup
  · rw [hcalls]
    exact hs.single
  · rw [hcalls, hanswers]
    intro k hk
    obtain ⟨hA, hO⟩ := hs.calls k hk
    exact ⟨hA, fun j hj => hO j (howed.subset hj)⟩
  · rw [hon.received, hcalls, hanswers]
    intro j h hmem hresponds
    rcases hs.complete j h hmem hresponds with hj | hj | hj | ⟨hclosed, hj⟩
    · exact Or.inl hj
    · exact Or.inr (Or.inl (howed.symm.subset hj))
    · exact Or.inr (Or.inr (Or.inl hj))
    · exact Or.inr (Or.inr (Or.inr ⟨hon.closed hclosed, hj⟩))

/-- A request goes to a worker. -/
theorem InLine.hand (hs : s.InLine c) (hon : Onward s t) (hanswers : t.answers c = s.answers c)
    {k : Nat} (hcall : s.server.callsTo c = [k]) (hcalls : t.server.callsTo c = [])
    (howed : (t.server.owedTo c).Perm (k :: s.server.owedTo c)) : t.InLine c := by
  obtain ⟨hA, hO⟩ := hs.calls k (hcall ▸ List.mem_cons_self)
  refine ⟨hon.config ▸ hs.fits, ?_, ?_, ?_, ?_, ?_, ?_, hon.received ▸ hs.unique⟩
  · rw [hanswers]
    exact hs.sorted
  · intro j hj i hi
    rw [hanswers] at hj
    rcases List.mem_cons.mp (howed.subset hi) with rfl | hi
    · exact hA j hj
    · exact hs.owed j hj i hi
  · refine howed.nodup_iff.mpr (List.nodup_cons.mpr ⟨?_, hs.nodup⟩)
    exact fun hk => absurd (hO k hk) (Nat.lt_irrefl k)
  · rw [hcalls]
    exact Nat.zero_le 1
  · rw [hcalls]
    intro i hi
    cases hi
  · rw [hon.received, hanswers]
    intro j h hmem hresponds
    rcases hs.complete j h hmem hresponds with hj | hj | hj | ⟨hclosed, hj⟩
    · rw [hcall] at hj
      rw [List.mem_singleton.mp hj]
      exact Or.inr (Or.inl (howed.symm.subset List.mem_cons_self))
    · exact Or.inr (Or.inl (howed.symm.subset (List.mem_cons_of_mem _ hj)))
    · exact Or.inr (Or.inr (Or.inl hj))
    · exact Or.inr (Or.inr (Or.inr ⟨hon.closed hclosed, hj⟩))

/-- The acceptor thread answers a request. -/
theorem InLine.respond (hs : s.InLine c) (hon : Onward s t) {k : Nat}
    (hopen : s.server.clientTx.queue.closed = false)
    (hanswers : t.answers c = s.answers c ++ [k]) (hcall : s.server.callsTo c = [k])
    (hcalls : t.server.callsTo c = []) (howed : t.server.owedTo c = s.server.owedTo c)
    (hfirst : ∀ j ∈ s.server.owedTo c, k ≤ j) : t.InLine c := by
  obtain ⟨hA, hO⟩ := hs.calls k (hcall ▸ List.mem_cons_self)
  -- what a worker owes is earlier, so it owes nothing
  have hnone : ∀ j, j ∉ s.server.owedTo c := by
    intro j hj
    have hlt := hO j hj
    have hle := hfirst j hj
    omega
  refine ⟨hon.config ▸ hs.fits, ?_, ?_, ?_, ?_, ?_, ?_, hon.received ▸ hs.unique⟩
  · rw [hanswers, List.pairwise_append]
    refine ⟨hs.sorted, List.pairwise_singleton _ _, ?_⟩
    intro j hj i hi
    rw [List.mem_singleton.mp hi]
    exact hA j hj
  · intro j _ i hi
    exact absurd (howed ▸ hi) (hnone i)
  · rw [howed]
    exact hs.nodup
  · rw [hcalls]
    exact Nat.zero_le 1
  · rw [hcalls]
    intro i hi
    cases hi
  · rw [hon.received, hanswers]
    intro j h hmem hresponds
    rcases hs.complete j h hmem hresponds with hj | hj | hj | ⟨hclosed, hj⟩
    · rw [hcall] at hj
      exact Or.inr (Or.inr (Or.inl (List.mem_append_right _ hj)))
    · exact absurd hj (hnone j)
    · exact Or.inr (Or.inr (Or.inl (List.mem_append_left _ hj)))
    · rw [hopen] at hclosed
      cases hclosed

/-- A worker answers a request, or finds the client queue closed. -/
theorem InLine.answer (hs : s.InLine c) (hon : Onward s t) {k : Nat}
    (hanswers : (t.answers c = s.answers c ++ [k] ∧ s.server.clientTx.queue.closed = false) ∨
      (t.answers c = s.answers c ∧ s.server.clientTx.queue.closed = true))
    (hcalls : t.server.callsTo c = s.server.callsTo c)
    (howed : (s.server.owedTo c).Perm (k :: t.server.owedTo c))
    (hfirst : ∀ j ∈ s.server.owedTo c, k ≤ j) : t.InLine c := by
  have hk : k ∈ s.server.owedTo c := howed.symm.subset List.mem_cons_self
  have hsub : ∀ j ∈ t.server.owedTo c, j ∈ s.server.owedTo c :=
    fun j hj => howed.symm.subset (List.mem_cons_of_mem _ hj)
  obtain ⟨hnot, hnodup⟩ := List.nodup_cons.mp (howed.nodup_iff.mp hs.nodup)
  have hmem : ∀ j ∈ t.answers c, j ∈ s.answers c ∨ j = k := by
    intro j hj
    rcases hanswers with ⟨ha, -⟩ | ⟨ha, -⟩
    · rw [ha] at hj
      exact (List.mem_append.mp hj).imp_right List.mem_singleton.mp
    · exact Or.inl (ha ▸ hj)
  refine ⟨hon.config ▸ hs.fits, ?_, ?_, hnodup, ?_, ?_, ?_, hon.received ▸ hs.unique⟩
  · rcases hanswers with ⟨ha, -⟩ | ⟨ha, -⟩
    · rw [ha, List.pairwise_append]
      refine ⟨hs.sorted, List.pairwise_singleton _ _, ?_⟩
      intro j hj i hi
      rw [List.mem_singleton.mp hi]
      exact hs.owed j hj k hk
    · rw [ha]
      exact hs.sorted
  · intro j hj i hi
    rcases hmem j hj with hj | rfl
    · exact hs.owed j hj i (hsub i hi)
    · have hle := hfirst i (hsub i hi)
      have hne : i ≠ j := fun h => hnot (h ▸ hi)
      omega
  · rw [hcalls]
    exact hs.single
  · rw [hcalls]
    intro i hi
    obtain ⟨hA, hO⟩ := hs.calls i hi
    refine ⟨fun j hj => ?_, fun j hj => hO j (hsub j hj)⟩
    rcases hmem j hj with hj | rfl
    · exact hA j hj
    · exact hO j hk
  · rw [hon.received, hcalls]
    intro j h hreceived hresponds
    have hkeep : ∀ i ∈ s.answers c, i ∈ t.answers c := by
      intro i hi
      rcases hanswers with ⟨ha, -⟩ | ⟨ha, -⟩
      · rw [ha]
        exact List.mem_append_left _ hi
      · exact ha ▸ hi
    rcases hs.complete j h hreceived hresponds with hj | hj | hj | ⟨hclosed, hj⟩
    · exact Or.inl hj
    · rcases List.mem_cons.mp (howed.subset hj) with rfl | hj
      · rcases hanswers with ⟨ha, -⟩ | ⟨ha, hclosed⟩
        · rw [ha]
          exact Or.inr (Or.inr (Or.inl (List.mem_append_right _ List.mem_cons_self)))
        · rw [ha]
          exact Or.inr (Or.inr (Or.inr ⟨hon.closed hclosed, fun i hi => hs.owed i hi j hk⟩))
      · exact Or.inr (Or.inl hj)
    · exact Or.inr (Or.inr (Or.inl (hkeep j hj)))
    · rcases hanswers with ⟨-, hopen⟩ | ⟨ha, -⟩
      · rw [hopen] at hclosed
        cases hclosed
      · rw [ha]
        exact Or.inr (Or.inr (Or.inr ⟨hon.closed hclosed, hj⟩))

/-- A request is read. -/
theorem InLine.read (hs : s.InLine c) {part : Part} (hinv : s.Inv part) {it : Iteration}
    (htodo : s.server.todo = []) (hit : IterationEffect s.server.config.tcpServer it)
    (ht : t.server = s.server.afterIteration it) (hanswers : t.answers c = s.answers c) :
    t.InLine c := by
  have howed : t.server.owedTo c = s.server.owedTo c := by rw [ht]; rfl
  have hbefore : s.server.callsTo c = [] := by rw [Server.callsTo, htodo]; rfl
  have hafter := Server.callsTo_afterIteration (c := c) hit
  rw [← ht] at hafter
  have hreceived : t.server.received = s.server.received ++
      it.handled.toList.map fun h => (⟨s.conn, s.server.client.count⟩, h) := by rw [ht]; rfl
  have hclosed : t.server.clientTx.queue.closed = s.server.clientTx.queue.closed := by rw [ht]; rfl
  refine ⟨by rw [ht]; exact hs.fits, ?_, ?_, ?_, ?_, ?_, ?_, ?_⟩
  · rw [hanswers]
    exact hs.sorted
  · rw [hanswers, howed]
    exact hs.owed
  · rw [howed]
    exact hs.nodup
  · rcases hafter with hafter | ⟨-, hafter⟩
    · rw [hafter]
      exact Nat.zero_le 1
    · rw [hafter]
      exact Nat.le_refl 1
  · intro k hk
    rcases hafter with hafter | ⟨rfl, hafter⟩
    · rw [hafter] at hk
      cases hk
    · rw [hafter] at hk
      rw [List.mem_singleton.mp hk, hanswers, howed]
      exact ⟨fun j hj => hinv.lt_count (Or.inl hj), fun j hj => hinv.lt_count (Or.inr hj)⟩
  · rw [hreceived, howed, hanswers, hclosed]
    intro j h hmem hresponds
    rcases List.mem_append.mp hmem with hmem | hmem
    · have hold := hs.complete j h hmem hresponds
      rw [hbefore] at hold
      exact Or.inr (hold.resolve_left List.not_mem_nil)
    · -- the request that was just read
      obtain ⟨hd, hhd, heq⟩ := List.mem_map.mp hmem
      cases heq
      obtain ⟨a, ha, habout⟩ :=
        Server.calls_of_iteration hit (Option.mem_toList.mp hhd) hresponds
      left
      rw [ht, Server.callsTo]
      refine List.mem_filterMap.mpr ⟨_, List.mem_map_of_mem ha, ?_⟩
      rw [Item.call?, habout]
      simp [Item.request?]
  · rw [hreceived, List.map_append, List.nodup_append]
    refine ⟨hs.unique, ?_, ?_⟩
    · cases it.handled with
      | none => exact List.nodup_nil
      | some hd => simp
    · intro tag htag tag' htag' heq
      obtain ⟨r, hr, rfl⟩ := List.mem_map.mp htag
      obtain ⟨r', hr', rfl⟩ := List.mem_map.mp htag'
      obtain ⟨hd, -, rfl⟩ := List.mem_map.mp hr'
      have hlt := (hinv.provenance.received r hr).2
      rw [heq] at hlt
      exact absurd (hlt rfl) (Nat.lt_irrefl _)

/-! ## Every step -/

theorem owedTo_perm {xs ys : List (Item About)} (h : xs.Perm ys) :
    (xs.filterMap (Item.request? c)).Perm (ys.filterMap (Item.request? c)) :=
  h.filterMap _

theorem filterMap_cons_none {x : Item About} (xs : List (Item About)) (h : x.request? c = none) :
    (x :: xs).filterMap (Item.request? c) = xs.filterMap (Item.request? c) := by
  rw [List.filterMap_cons, h]

theorem filterMap_cons_some {x : Item About} {k : Nat} (xs : List (Item About))
    (h : x.request? c = some k) :
    (x :: xs).filterMap (Item.request? c) = k :: xs.filterMap (Item.request? c) := by
  rw [List.filterMap_cons, h]

/-- The first call is about a request: it is the only one. -/
theorem InLine.first (hs : s.InLine c) {a : Item ServerAct} {rest : List (Item ServerAct)}
    (htodo : s.server.todo = a :: rest) {k : Nat}
    (hk : a.call?.bind (Item.request? c) = some k) :
    s.server.callsTo c = [k] ∧ rest.filterMap (fun a => a.call?.bind (Item.request? c)) = [] := by
  have hsplit := Server.callsTo_cons (c := c) htodo
  have hsingle := hs.single
  rw [hk] at hsplit
  rw [hsplit, List.length_append] at hsingle
  have hnil : rest.filterMap (fun a => a.call?.bind (Item.request? c)) = [] := by
    apply List.eq_nil_of_length_eq_zero
    change 1 + _ ≤ 1 at hsingle
    omega
  rw [hnil] at hsplit
  exact ⟨hsplit, hnil⟩

theorem InLine.callClient (hs : s.InLine c) {part : Part} (hinv : s.Inv part)
    (hl : s.server.InOrder c .acceptor) {a : Item ServerAct} {rest : List (Item ServerAct)}
    {m : Sent} (htodo : s.server.todo = a :: rest) (hm : a.message? = some m)
    (ht : t.server = { s.server with
      todo := rest
      clientTx := s.server.clientTx.put s.server.config.sdrBufferLen.toNat m })
    (hanswers : t.answers c = s.answers c ++ (s.server.added t.server).filterMap (Sent.request? c)) :
    t.InLine c := by
  have hserving := hinv.wellFormed.serving_of_todo htodo
  have hopen : s.server.clientTx.queue.closed = false :=
    (hinv.wellFormed.queuesOpen (by intro hf; rw [hf] at hserving; cases hserving)).clientTx
  have hon : Onward s t := by
    refine ⟨by rw [ht], by rw [ht], fun hclosed => ?_⟩
    rw [hopen] at hclosed
    cases hclosed
  have howed : t.server.owedTo c = s.server.owedTo c := by rw [ht]; rfl
  have hitem := Item.item?_of_message? hm
  have hreq : m.request? c = a.call?.bind (Item.request? c) := by rw [Sent.request?, hitem]
  have hcalls : t.server.callsTo c =
      rest.filterMap fun a => a.call?.bind (Item.request? c) := by rw [ht]; rfl
  rw [Server.added_of_put (by rw [ht])] at hanswers
  cases hk : a.call?.bind (Item.request? c) with
  | none =>
    refine hs.stay hon ?_ (List.Perm.of_eq howed) ?_
    · rw [hanswers]
      split
      · simp [hreq, hk]
      · exact List.append_nil _
    · rw [hcalls, Server.callsTo_cons htodo, hk]
      rfl
  | some k =>
    obtain ⟨hcall, hnil⟩ := hs.first htodo hk
    obtain ⟨x, hx, hxk⟩ := Option.bind_eq_some_iff.mp hk
    have hfits : fitsClientTx s.server.config.sdrBufferLen.toNat m = true :=
      Server.fits_answer hs.fits (hitem.trans hx)
    refine hs.respond hon hopen ?_ hcall (hcalls.trans hnil) howed ?_
    · rw [hanswers, if_pos ⟨hopen, hfits⟩]
      simp [hreq, hk]
    · refine hl.1 x ?_ k hxk
      rw [Server.answering, htodo]
      simp [hm, hitem, hx]

theorem InLine.callWorker (hs : s.InLine c) {part : Part} (hinv : s.Inv part)
    (hl : s.server.InOrder c .acceptor) {a : Item ServerAct} {rest : List (Item ServerAct)}
    {rx : RxWorker} {tx : Option TxWorker} (htodo : s.server.todo = a :: rest)
    (hcall : s.server.WorkerCall a rx tx)
    (ht : t.server = { s.server with todo := rest, rx := rx, tx := tx })
    (hanswers : t.answers c = s.answers c) : t.InLine c := by
  have hserving := hinv.wellFormed.serving_of_todo htodo
  have hopen : s.server.QueuesOpen :=
    hinv.wellFormed.queuesOpen (by intro hf; rw [hf] at hserving; cases hserving)
  have hon : Onward s t := ⟨by rw [ht], by rw [ht], fun h => by rw [ht]; exact h⟩
  have hcalls : t.server.callsTo c =
      rest.filterMap fun a => a.call?.bind (Item.request? c) := by rw [ht]; rfl
  have hworking : t.server.working = Server.owedBy rx tx := by rw [ht]; rfl
  obtain ⟨x, hx, howed⟩ := hcall.owed
  have hmessage : a.message? = none := by
    cases hcall with
    | rx cmd _ hc => obtain ⟨val, tag⟩ := a; cases val <;> cases hc <;> rfl
    | tx cmd w w' hc => obtain ⟨val, tag⟩ := a; cases val <;> cases hc <;> rfl
  cases hk : x.request? c with
  | none =>
    refine hs.stay hon hanswers ?_ ?_
    · rw [Server.owedTo, hworking, Server.owedTo]
      rcases howed with ⟨-, howed⟩ | ⟨-, howed⟩
      · exact (owedTo_perm howed).trans (List.Perm.of_eq (filterMap_cons_none _ hk))
      · rw [howed]
    · rw [hcalls, Server.callsTo_cons htodo, hx, Option.bind_some, hk]
      rfl
  | some k =>
    have hbind : a.call?.bind (Item.request? c) = some k := by rw [hx]; exact hk
    obtain ⟨hone, hnil⟩ := hs.first htodo hbind
    -- the queue of the worker is open and takes the request
    have htakes : s.server.config.takes a.val = true :=
      hl.2 rfl a (by rw [htodo]; rfl) hmessage x hx (by rw [hk]; rfl)
    have hperm : (Server.owedBy rx tx).Perm (x :: s.server.working) := by
      rcases howed with ⟨-, howed⟩ | ⟨hrefused | hclosed, -⟩
      · exact howed
      · rw [htakes] at hrefused
        cases hrefused
      · exact absurd hopen hclosed
    refine hs.hand hon hanswers hone (hcalls.trans hnil) ?_
    rw [Server.owedTo, hworking]
    exact (owedTo_perm hperm).trans (List.Perm.of_eq (filterMap_cons_some _ hk))

theorem InLine.worker (hs : s.InLine c) {part : Part} (hinv : s.Inv part)
    (hl : s.server.InOrder c l) {rx : RxWorker} {tx : Option TxWorker} {sent : Option Sent}
    (hstep : s.server.WorkerStep l rx tx sent)
    (ht : t.server = { s.server with
      rx := rx
      tx := tx
      clientTx := s.server.clientTx.put? s.server.config.sdrBufferLen.toNat sent })
    (hanswers : t.answers c = s.answers c ++ (s.server.added t.server).filterMap (Sent.request? c)) :
    t.InLine c := by
  have hon : Onward s t := by
    refine ⟨by rw [ht], by rw [ht], fun hclosed => ?_⟩
    rw [ht]
    exact (ClientTxWorker.put?_closed sent).trans hclosed
  have hcalls : t.server.callsTo c = s.server.callsTo c := by rw [ht]; rfl
  have hworking : t.server.working = Server.owedBy rx tx := by rw [ht]; rfl
  -- a message that is no RESPONSE to the connection adds nothing
  have hquiet : (∀ m ∈ sent, m.request? c = none) → t.answers c = s.answers c := by
    intro hnone
    cases sent with
    | none =>
      rw [hanswers, Server.added_of_pending_eq (by rw [ht]; rfl)]
      exact List.append_nil _
    | some m =>
      rw [hanswers, Server.added_of_put (by rw [ht]; rfl)]
      split
      · simp [hnone m rfl]
      · exact List.append_nil _
  have hworked := hstep.worked hinv.wellFormed.typed
  rw [← hworking] at hworked
  cases hworked with
  | quiet _ howed hsent =>
    refine hs.stay hon (hquiet fun m hm => ?_) (List.Perm.of_eq ?_) hcalls
    · rw [Sent.request?, hsent m hm]
      rfl
    · rw [Server.owedTo, howed]
      rfl
  | drops x howed hx =>
    obtain ⟨r, w, -, -, -, cmd, -, -, hframe⟩ := hx
    have hnone : x.request? c = none := by rw [Item.request?, if_pos hframe]
    refine hs.stay hon (hquiet (by rintro _ ⟨⟩)) ?_ hcalls
    exact ((owedTo_perm howed).trans (List.Perm.of_eq (filterMap_cons_none _ hnone))).symm
  | answers x m howed hm =>
    cases hk : x.request? c with
    | none =>
      refine hs.stay hon (hquiet ?_) ?_ hcalls
      · rintro _ ⟨⟩
        rw [Sent.request?, hm]
        exact hk
      · exact ((owedTo_perm howed).trans (List.Perm.of_eq (filterMap_cons_none _ hk))).symm
    | some k =>
      have hreq : m.request? c = some k := by rw [Sent.request?, hm]; exact hk
      refine hs.answer (k := k) hon ?_ hcalls ?_ ?_
      · rw [hanswers, Server.added_of_put (by rw [ht]; rfl)]
        cases hclosed : s.server.clientTx.queue.closed with
        | false =>
          left
          rw [if_pos ⟨rfl, Server.fits_answer hs.fits hm⟩]
          simp [hreq]
        | true =>
          right
          rw [if_neg (by rintro ⟨h, -⟩; cases h)]
          exact ⟨List.append_nil _, rfl⟩
      · exact (owedTo_perm howed).trans (List.Perm.of_eq (filterMap_cons_some _ hk))
      · obtain ⟨y, hy, hyk⟩ :=
          Option.bind_eq_some_iff.mp (hstep.answering hinv.wellFormed.typed hm hk)
        exact hl.1 y hy k hyk

/-- **The requests of a connection stay in line**, as long as the steps meet the
condition. -/
theorem InLine.step (hs : s.InLine c) {part : Part} (hinv : s.Inv part)
    (hl : s.server.InOrder c l) (h : s.step l = some t) : t.InLine c := by
  have hanswers := answers_of_step h c
  obtain ⟨heffect, -, -⟩ := step_effect h
  have hsame : t.server.clientTx.queue.pending = s.server.clientTx.queue.pending →
      t.answers c = s.answers c := by
    intro hpending
    rw [hanswers, Server.added_of_pending_eq hpending]
    exact List.append_nil _
  have hnil : s.server.todo = [] → s.server.callsTo c = [] := by
    intro htodo
    rw [Server.callsTo, htodo]
    rfl
  generalize hu : t.server = u at heffect
  cases heffect with
  | accepted fd script hpc hfd =>
    have htodo := (hinv.wellFormed.outside (by rw [hpc]; rfl)).2
    refine hs.stay ⟨by rw [hu]; rfl, by rw [hu]; rfl, fun h => by rw [hu]; exact h⟩
      (hsame (by rw [hu]; rfl)) (List.Perm.of_eq (by rw [hu]; rfl)) ?_
    rw [hu, hnil htodo]
    rfl
  | iteration it hpc htodo hrun hit =>
    exact hs.read hinv htodo (tcpWorkerIteration_effect hit) hu (hsame (by rw [hu]; rfl))
  | leave hpc htodo =>
    -- `sdr_rx_worker_stop(0)` is no request of a client
    refine hs.stay ⟨by rw [hu], by rw [hu], fun h => by rw [hu]; exact h⟩
      (hsame (by rw [hu])) (List.Perm.of_eq (by rw [hu]; rfl)) ?_
    rw [hu, hnil htodo]
    rfl
  | callClient a rest m htodo hm => exact hs.callClient hinv hl htodo hm hu hanswers
  | callWorker a rest rx tx htodo hcall =>
    exact hs.callWorker hinv hl htodo hcall hu (hsame (by rw [hu]))
  | worker _ rx tx sent hstep => exact hs.worker hinv hl hstep hu hanswers
  | clientTx l w out hallowed hstep =>
    refine hs.stay ⟨by rw [hu], by rw [hu], fun h => ?_⟩ ?_ (List.Perm.of_eq (by rw [hu]; rfl))
      (by rw [hu]; rfl)
    · rw [hu]
      exact (ClientTxWorker.step_closed hstep).trans h
    · rw [hanswers, hu, Server.added_of_step hstep]
      exact List.append_nil _
  | interruptTx hpc =>
    refine hs.stay ⟨by rw [hu], by rw [hu], fun h => by rw [hu]; exact h⟩ (hsame (by rw [hu]))
      (List.Perm.of_eq ?_) (by rw [hu]; rfl)
    rw [hu, Server.owedTo, Server.working, Server.working_interruptTx]
    rfl
  | interruptClientTx hpc =>
    exact hs.stay ⟨by rw [hu], by rw [hu], fun _ => by rw [hu]⟩ (hsame (by rw [hu]))
      (List.Perm.of_eq (by rw [hu]; rfl)) (by rw [hu]; rfl)
  | _ =>
    exact hs.stay ⟨by rw [hu], by rw [hu], fun h => by rw [hu]; exact h⟩ (hsame (by rw [hu]))
      (List.Perm.of_eq (by rw [hu]; rfl)) (by rw [hu]; rfl)

/-- What is earlier than an answer that was written was written too. -/
theorem mem_of_prefix {xs ys : List Nat} (hp : xs <+: ys) (hsorted : ys.Pairwise (· < ·)) {j k : Nat}
    (hk : k ∈ xs) (hj : j ∈ ys) (hlt : j < k) : j ∈ xs := by
  obtain ⟨rest, rfl⟩ := hp
  rcases List.mem_append.mp hj with hj | hj
  · exact hj
  · have hkj := (List.pairwise_append.mp hsorted).2.2 k hk j hj
    omega

/-- A request that has been answered has been handled. -/
theorem InLine.settled (hs : s.InLine c) {part : Part} (hinv : s.Inv part) {j : Nat} {h : Handled}
    (hreceived : (⟨c, j⟩, h) ∈ s.server.received) (hresponds : h.responds = true)
    (hj : j ∈ s.answers c) : s.server.Settled ⟨c, j⟩ := by
  -- what carries the tag is about this request, which is no frame
  have hreq : ∀ x : Item About, Server.Justified s.server.config s.server.received x →
      x.tag = some ⟨c, j⟩ → x.request? c = some j := by
    intro x hx htag
    obtain ⟨h', hmem, hval⟩ := hx _ htag
    have heq : h' = h := congrArg Prod.snd
      (List.inj_on_of_nodup_map hs.unique hmem hreceived rfl)
    refine Item.request?_eq_some.mpr ⟨?_, htag⟩
    rw [hval, heq, Handled.about]
    cases h with
    | rejected header => rfl
    | dispatched header payload =>
      have hne := of_decide_eq_true hresponds
      rw [Handled.isFrame, decide_eq_false hne.1]
      rfl
  refine ⟨fun a ha x hx htag => ?_, fun x hx htag => ?_⟩
  · have hcalls : j ∈ s.server.callsTo c := by
      refine List.mem_filterMap.mpr ⟨a, ha, ?_⟩
      rw [hx]
      exact hreq x (hinv.provenance.todo a ha x hx) htag
    exact absurd ((hs.calls j hcalls).1 j hj) (Nat.lt_irrefl j)
  · have howed : j ∈ s.server.owedTo c :=
      List.mem_filterMap.mpr ⟨x, hx, hreq x (hinv.provenance.working x hx) htag⟩
    exact absurd (hs.owed j hj j howed) (Nat.lt_irrefl j)

/-- A run of the server is one of the server with its record. -/
theorem exists_run {allowed : Server → ServerLabel → Prop} {s : Traced} {u : Server}
    {ls : List ServerLabel} (h : Run Server.step allowed s.server ls u) :
    ∃ t, Run Traced.step (fun s l => allowed s.server l) s ls t ∧ t.server = u := by
  induction ls generalizing s with
  | nil => exact ⟨s, rfl, h.symm⟩
  | cons l ls ih =>
    obtain ⟨hl, v, hv, hrest⟩ := h
    have hstep : s.step l = some
        ⟨v, if s.server.handlesStart l then s.starts + 1 else s.starts, s.accepted ++
          (s.server.added v).map fun m => ⟨m, s.server.answersStop l, s.starts⟩⟩ := by
      rw [Traced.step, hv]
      rfl
    obtain ⟨t, ht, hserver⟩ := ih (s := ⟨v, _, _⟩) hrest
    exact ⟨t, ⟨hl, _, hstep, ht⟩, hserver⟩

end Traced

/-- **Answers come in the order of the requests** in every run whose steps meet the
condition: the RESPONSEs written to a connection are in the order in which its
requests were read, and when one is there, every earlier request (that is neither a
frame nor a shutdown) has been handled and its RESPONSE is there as well. -/
theorem answers_in_order {config : AppConfig} {c : Nat} {ls : List ServerLabel} {s : Server}
    (hrun : Run Server.step (Server.InOrder c) (Server.create config) ls s) :
    s.AnswersInOrder c := by
  intro part
  by_cases hn : 4 ≤ config.sdrBufferLen.toNat
  · obtain ⟨t, ht, rfl⟩ := Traced.exists_run (s := Traced.create config) hrun
    have hboth : t.InLine c ∧ t.Inv part := by
      have hkeep : ∀ (s : Traced) (l : ServerLabel) (t : Traced), s.server.InOrder c l →
          s.step l = some t → s.InLine c ∧ s.Inv part → t.InLine c ∧ t.Inv part :=
        fun s l t hl hstep hs => ⟨hs.1.step hs.2 hl hstep, hs.2.step hstep⟩
      exact ht.invariant hkeep ⟨Traced.create_inLine hn, Traced.create_inv config⟩
    obtain ⟨hline, hinv⟩ := hboth
    have hfront := hinv.front c
    refine ⟨hline.sorted.sublist hfront.sublist, ?_⟩
    intro k hk j h hreceived hresponds hlt
    have hkA : k ∈ t.answers c := hfront.subset hk
    have hj : j ∈ t.answers c := by
      rcases hline.complete j h hreceived hresponds with hj | hj | hj | ⟨-, hj⟩
      · have := (hline.calls j hj).1 k hkA
        omega
      · have := hline.owed k hkA j hj
        omega
      · exact hj
      · have := hj k hkA
        omega
    exact ⟨Traced.mem_of_prefix hfront hline.sorted hk hj hlt,
      hline.settled hinv hreceived hresponds hj⟩
  · -- nothing is ever written
    have hnone : s.responses part c = [] := by
      rw [Server.responses, Server.run_mute hrun (by omega)]
      rfl
    rw [hnone]
    exact ⟨List.Pairwise.nil, by rintro _ ⟨⟩⟩

/-- The rx worker answers before the acceptor thread reads the ping. -/
def answerInTurn : List ServerLabel :=
  readFirst [rxSettings, ping] ++ exchangeRxModem ++ confirmRxSettings ++ readNext ++
    skipMessage ++ writeMessage ++ writeMessage

/-- The settings and then the ping. -/
theorem settings_before_ping :
    ∃ s, exec (restrict Server.step (Server.InOrder 0)) (Server.create smallConfig)
        answerInTurn = some s ∧ s.responses .payload 0 = [0, 1] ∧ s.AnswersInOrder 0 := by
  refine exists_exec rfl fun s hs => ?_
  refine ⟨?_, answers_in_order (run_of_exec hs)⟩
  cases hs
  rfl

/-- The ping is read and answered while the settings wait for the rx worker. -/
def pingOvertakes : List ServerLabel :=
  readFirst [rxSettings, ping] ++ readNext ++ skipMessage ++ writeMessage

/-- **The answer to a ping says nothing about the requests before it**: it is written,
and the settings sent before have not even been looked at. -/
theorem ping_overtakes_settings :
    appConfigValidate smallConfig = some smallConfig ∧
    ∃ s, exec Server.step (Server.create smallConfig) pingOvertakes = some s ∧
      Sends smallConfig.tcpServer s.client.script [rxSettings, ping] ∧
      s.responses .payload 0 = [1] ∧ ¬ s.Settled ⟨0, 0⟩ ∧ ¬ s.AnswersInOrder 0 := by
  have hsends : Sends smallConfig.tcpServer (atOnce (encodeAll [rxSettings, ping]))
      [rxSettings, ping] := sends_atOnce (by decide) (by decide)
  refine ⟨rfl, _, rfl, hsends, rfl, ?_, ?_⟩
  · intro h
    exact h.2 _ List.mem_cons_self rfl
  · intro h
    obtain ⟨hmem, -⟩ := (h .payload).2 1 List.mem_cons_self 0
      (.dispatched rxSettings.header rxSettings.payload) List.mem_cons_self (by decide) (by decide)
    exact absurd hmem (by decide)

end SdrModem
