import SdrModem.ServerEffect

/-!
# Answers come from requests

Two invariants of every run of the server.  `WellFormed` is about the threads: the
queues stay open as long as the acceptor thread is there, and a connection is open
exactly while it is served.  `Provenance` says that every call, command and answer
that carries the tag of a request is about a request that was received under that
tag.
-/
namespace SdrModem
open BoundedFifo Machine

/-- The acceptor thread is inside `tcp_worker_callback`. -/
def AcceptorPc.serving : AcceptorPc → Bool
  | .serve | .leave | .close => true
  | .head | .accepting | .finished => false

namespace Server
variable {s s' : Server} {l : ServerLabel}

/-! ## The threads -/

/-- What holds of the threads in every state. -/
structure WellFormed (s : Server) : Prop where
  typed : ∀ w, s.tx = some w → w.pc.Typed
  queuesOpen : s.acceptor ≠ .finished → s.QueuesOpen
  outside : s.acceptor.serving = false → s.isOpen = false ∧ s.todo = []
  inside : s.acceptor.serving = true → s.isOpen = true ∧ 0 ≤ s.client.clientSocket

theorem create_wellFormed (config : AppConfig) : (create config).WellFormed := by
  refine ⟨?_, fun _ => ⟨rfl, ?_, rfl⟩, fun _ => ⟨rfl, rfl⟩, fun h => by cases h⟩
  · intro w hw
    cases hc : config.canTransmit <;> simp [create, hc] at hw
    rw [← hw]
    trivial
  · intro w hw
    cases hc : config.canTransmit <;> simp [create, hc] at hw
    rw [← hw]
    rfl

/-- The acceptor thread with a call to make is serving a client. -/
theorem WellFormed.serving_of_todo (hs : s.WellFormed) {a : Item ServerAct}
    {rest : List (Item ServerAct)} (htodo : s.todo = a :: rest) : s.acceptor.serving = true := by
  by_contra hne
  rw [Bool.not_eq_true] at hne
  have hnil := (hs.outside hne).2
  rw [htodo] at hnil
  cases hnil

theorem Effect.wellFormed (h : Effect s l s') (hs : s.WellFormed) : s'.WellFormed := by
  obtain ⟨htyped, hopen, hout, hin⟩ := id hs
  cases h with
  | shutdown => exact ⟨htyped, hopen, hout, hin⟩
  | acceptFailed fd script ok hpc hfd =>
    have := hout (by rw [hpc]; rfl)
    exact ⟨htyped, fun h => absurd rfl h, fun _ => this, fun h => by cases h⟩
  | accepted fd script hpc hfd =>
    exact ⟨htyped, fun _ => hopen (by rw [hpc]; decide), fun h => (by cases h), fun _ => ⟨rfl, hfd⟩⟩
  | optionFailed fd script hpc =>
    have := hout (by rw [hpc]; rfl)
    exact ⟨htyped, fun _ => hopen (by rw [hpc]; decide), fun _ => this, fun h => by cases h⟩
  | head pc hpc htodo hpc' =>
    have hout := hout (by rw [hpc]; rfl)
    have hopen := hopen (by rw [hpc]; decide)
    refine ⟨htyped, fun _ => hopen, fun _ => hout, fun h => ?_⟩
    rcases hpc' with rfl | rfl <;> cases h
  | iteration it hpc htodo hrun hit =>
    have hin := hin (by rw [hpc]; rfl)
    have hopen := hopen (by rw [hpc]; decide)
    refine ⟨htyped, fun _ => hopen, fun h => ?_, fun _ => hin⟩
    unfold afterIteration at h
    cases hd : it.clientDisconnected <;> simp [hd, AcceptorPc.serving] at h
  | stopServing hpc htodo hrun =>
    have hin := hin (by rw [hpc]; rfl)
    exact ⟨htyped, fun _ => hopen (by rw [hpc]; decide), fun h => (by cases h), fun _ => hin⟩
  | leave hpc htodo =>
    have hin := hin (by rw [hpc]; rfl)
    exact ⟨htyped, fun _ => hopen (by rw [hpc]; decide), fun h => (by cases h), fun _ => hin⟩
  | close hpc htodo =>
    exact ⟨htyped, fun _ => hopen (by rw [hpc]; decide), fun _ => ⟨rfl, htodo⟩,
      fun h => by cases h⟩
  | callClient a rest m htodo hm =>
    have hserving := hs.serving_of_todo htodo
    refine ⟨htyped, fun hf => ⟨(hopen hf).rx, (hopen hf).tx, ?_⟩,
      fun h => absurd hserving (by rw [show s.acceptor.serving = false from h]; decide), hin⟩
    exact (ClientTxWorker.put_closed m).trans (hopen hf).clientTx
  | callWorker a rest rx tx htodo hcall =>
    have hserving := hs.serving_of_todo htodo
    refine ⟨fun w' hw' => ?_, fun hf => ?_,
      fun h => absurd hserving (by rw [show s.acceptor.serving = false from h]; decide), hin⟩
    · obtain ⟨w, hw, hpc, -⟩ := hcall.tx_pc w' hw'
      rw [hpc]
      exact htyped w hw
    · obtain ⟨h1, h2⟩ := hcall.closed (hopen hf)
      exact ⟨h1, h2, (hopen hf).clientTx⟩
  | worker _ rx tx sent hstep =>
    refine ⟨hstep.typed htyped, fun hf => ?_, hout, hin⟩
    obtain ⟨h1, h2⟩ := hstep.closed (hopen hf)
    exact ⟨h1, h2, (ClientTxWorker.put?_closed sent).trans (hopen hf).clientTx⟩
  | clientTx l w out hallowed hstep =>
    refine ⟨htyped, fun hf => ⟨(hopen hf).rx, (hopen hf).tx, ?_⟩, hout, hin⟩
    exact (ClientTxWorker.step_closed hstep).trans (hopen hf).clientTx
  | interruptRx hpc => exact ⟨htyped, fun hf => absurd hpc hf, hout, hin⟩
  | interruptTx hpc =>
    refine ⟨fun w hw => ?_, fun hf => absurd hpc hf, hout, hin⟩
    obtain ⟨w', hw', rfl⟩ := Option.map_eq_some_iff.mp hw
    exact htyped w' hw'
  | interruptClientTx hpc => exact ⟨htyped, fun hf => absurd hpc hf, hout, hin⟩

/-! ## Where answers come from -/

/-- What carries the tag of a request is about a request received under it. -/
def Justified (config : AppConfig) (received : List (Tag × Handled)) (x : Item About) : Prop :=
  ∀ t, x.tag = some t → ∃ h, (t, h) ∈ received ∧ x.val = h.about config.canTransmit

theorem Justified.mono {config : AppConfig} {received received' : List (Tag × Handled)}
    {x : Item About} (h : Justified config received x) (hsub : received ⊆ received') :
    Justified config received' x := by
  intro t ht
  obtain ⟨hd, hmem, hval⟩ := h t ht
  exact ⟨hd, hsub hmem, hval⟩

/-- **Every answer, wherever it is, comes from a request**, and the tags of the
requests are those given out so far. -/
structure Provenance (s : Server) : Prop where
  todo : ∀ a ∈ s.todo, ∀ x, a.call? = some x → Justified s.config s.received x
  working : ∀ x ∈ s.working, Justified s.config s.received x
  upcoming : ∀ p ∈ s.clientTx.upcoming .payload, ∀ x, p.2.item? = some x →
    Justified s.config s.received x
  written : ∀ o ∈ s.written, ∀ x, o.2.sent.item? = some x → Justified s.config s.received x
  received : ∀ r ∈ s.received,
    r.1.conn < s.nextConn ∧ (r.1.conn = s.client.conn → r.1.index < s.client.count)
  conn : s.isOpen = true → s.client.conn < s.nextConn

theorem create_provenance (config : AppConfig) : (create config).Provenance := by
  refine ⟨?_, ?_, ?_, ?_, ?_, nofun⟩
  · intro a ha; cases ha
  · intro x hx
    cases hc : config.canTransmit <;>
      simp [create, Server.working, owedBy, RxWorker.owed, RxWorker.unanswered, RxWorker.create,
        RxPc.unanswered?, Fifo.empty, TxWorker.owed, TxWorker.unanswered, TxWorker.create,
        TxPc.unanswered?, hc] at hx
  · intro p hp; cases hp
  · intro o ho; cases ho
  · intro r hr; cases hr

theorem working_interruptTx (rx : RxWorker) (tx : Option TxWorker) :
    owedBy rx (tx.map TxWorker.interrupt) = owedBy rx tx := by
  cases tx <;> rfl

/-- Whatever is written is a message that was on its way. -/
theorem mem_record {s : Server} {l : ClientTxLabel} {w : ClientTxWorker} {out : Option Written}
    (hstep : s.clientTx.step l = some (w, out)) {o : Option Nat × Written}
    (ho : o ∈ s.record out) :
    o ∈ s.written ∨ (o.1 = s.owner s.clientTx.clientSocket ∧
      (s.clientTx.clientSocket, o.2.sent) ∈ s.clientTx.upcoming .payload) := by
  rcases List.mem_append.mp ho with ho | ho
  · exact Or.inl ho
  · cases out with
    | none => cases ho
    | some v =>
      obtain ⟨hsocket, hmem⟩ := ClientTxWorker.mem_upcoming_of_write hstep
      cases List.mem_singleton.mp ho
      exact Or.inr ⟨congrArg s.owner hsocket, hmem⟩

theorem Provenance.callClient (hs : s.Provenance) {a : Item ServerAct}
    {rest : List (Item ServerAct)} {m : Sent} (htodo : s.todo = a :: rest)
    (hm : a.message? = some m) :
    Provenance { s with todo := rest, clientTx := s.clientTx.put s.config.sdrBufferLen.toNat m } := by
  have ha : a ∈ s.todo := htodo ▸ List.mem_cons_self
  refine ⟨fun b hb => hs.todo b (htodo ▸ List.mem_cons_of_mem _ hb), hs.working, ?_, hs.written,
    hs.received, hs.conn⟩
  intro p hp x hx
  rcases ClientTxWorker.mem_upcoming_put hp with hp | rfl
  · exact hs.upcoming p hp x hx
  · exact hs.todo a ha x (Item.item?_of_message? hm ▸ hx)

theorem Provenance.callWorker (hs : s.Provenance) {a : Item ServerAct}
    {rest : List (Item ServerAct)} {rx : RxWorker} {tx : Option TxWorker}
    (htodo : s.todo = a :: rest) (hcall : s.WorkerCall a rx tx) :
    Provenance { s with todo := rest, rx := rx, tx := tx } := by
  have ha : a ∈ s.todo := htodo ▸ List.mem_cons_self
  refine ⟨fun b hb => hs.todo b (htodo ▸ List.mem_cons_of_mem _ hb), ?_, hs.upcoming, hs.written,
    hs.received, hs.conn⟩
  intro y hy
  have hy : y ∈ owedBy rx tx := hy
  obtain ⟨x, hx, ⟨-, howed⟩ | ⟨-, howed⟩⟩ := hcall.owed
  · rcases List.mem_cons.mp (howed.subset hy) with rfl | hy
    · exact hs.todo a ha y hx
    · exact hs.working y hy
  · exact hs.working y (howed ▸ hy)

theorem Provenance.worker (hs : s.Provenance) (hw : s.WellFormed) {rx : RxWorker}
    {tx : Option TxWorker} {sent : Option Sent} (hstep : s.WorkerStep l rx tx sent) :
    Provenance { s with
      rx := rx, tx := tx, clientTx := s.clientTx.put? s.config.sdrBufferLen.toNat sent } := by
  have hworked := hstep.worked hw.typed
  refine ⟨hs.todo, fun x hx => hs.working x (hworked.subset hx), ?_, hs.written, hs.received,
    hs.conn⟩
  intro p hp x hx
  cases sent with
  | none => exact hs.upcoming p hp x hx
  | some m =>
    rcases ClientTxWorker.mem_upcoming_put hp with hp | rfl
    · exact hs.upcoming p hp x hx
    · exact hs.working x (hworked.mem hx)

theorem Provenance.clientTx (hs : s.Provenance) {l : ClientTxLabel} {w : ClientTxWorker}
    {out : Option Written} (hstep : s.clientTx.step l = some (w, out)) :
    Provenance { s with clientTx := w, written := s.record out } := by
  refine ⟨hs.todo, hs.working, ?_, ?_, hs.received, hs.conn⟩
  · intro p hp x hx
    rcases ClientTxWorker.mem_upcoming_of_step hstep hp with hp | ⟨-, hp⟩
    · exact hs.upcoming p hp x hx
    · exact hs.upcoming _ hp x hx
  · intro o ho x hx
    rcases mem_record hstep ho with ho | ⟨-, hup⟩
    · exact hs.written o ho x hx
    · exact hs.upcoming _ hup x hx

theorem Provenance.iteration (hs : s.Provenance) (hopen : s.isOpen = true) {it : Iteration}
    (hit : IterationEffect s.config.tcpServer it) : (s.afterIteration it).Provenance := by
  have hsub : s.received ⊆ (s.afterIteration it).received := List.subset_append_left _ _
  refine ⟨?_, fun x hx => (hs.working x hx).mono hsub,
    fun p hp x hx => (hs.upcoming p hp x hx).mono hsub,
    fun o ho x hx => (hs.written o ho x hx).mono hsub, ?_, fun _ => hs.conn hopen⟩
  · intro a ha x hx t ht
    obtain ⟨act, hact, rfl⟩ := List.mem_map.mp ha
    obtain ⟨b, hb, rfl⟩ := Option.map_eq_some_iff.mp hx
    cases ht
    obtain ⟨hd, hhandled, rfl⟩ := hit.about hact hb
    refine ⟨hd, List.mem_append_right _ ?_, rfl⟩
    rw [hhandled]
    exact List.mem_singleton_self _
  · intro r hr
    rcases List.mem_append.mp hr with hr | hr
    · obtain ⟨h1, h2⟩ := hs.received r hr
      exact ⟨h1, fun hc => Nat.lt_of_lt_of_le (h2 hc) (Nat.le_add_right _ _)⟩
    · obtain ⟨hd, hhd, rfl⟩ := List.mem_map.mp hr
      refine ⟨hs.conn hopen, fun _ => Nat.lt_add_of_pos_right ?_⟩
      exact List.length_pos_of_mem hhd

/-- **Provenance is preserved by every step.** -/
theorem Effect.provenance (h : Effect s l s') (hw : s.WellFormed) (hs : s.Provenance) :
    s'.Provenance := by
  cases h with
  | accepted fd script hpc hfd =>
    refine ⟨?_, hs.working, hs.upcoming, hs.written, ?_, fun _ => Nat.lt_succ_self _⟩
    · intro a ha x hx
      cases List.mem_singleton.mp ha
      cases hx
    · -- the number of the new connection is above those of all requests
      intro r hr
      have hlt := (hs.received r hr).1
      exact ⟨Nat.lt_succ_of_lt hlt, fun hc => absurd hc (Nat.ne_of_lt hlt)⟩
  | iteration it hpc htodo hrun hit =>
    exact hs.iteration (hw.inside (by rw [hpc]; rfl)).1 (tcpWorkerIteration_effect hit)
  | leave hpc htodo =>
    refine ⟨?_, hs.working, hs.upcoming, hs.written, hs.received, hs.conn⟩
    -- `sdr_rx_worker_stop(0)` is no request of a client and carries no tag
    intro a ha x hx t ht
    cases List.mem_singleton.mp ha
    cases hx
    cases ht
  | close hpc htodo =>
    exact ⟨hs.todo, hs.working, hs.upcoming, hs.written, hs.received, nofun⟩
  | callClient a rest m htodo hm => exact hs.callClient htodo hm
  | callWorker a rest rx tx htodo hcall => exact hs.callWorker htodo hcall
  | worker _ rx tx sent hstep => exact hs.worker hw hstep
  | clientTx l w out hallowed hstep => exact hs.clientTx hstep
  | interruptTx hpc =>
    refine ⟨hs.todo, ?_, hs.upcoming, hs.written, hs.received, hs.conn⟩
    intro x hx
    rw [working, working_interruptTx] at hx
    exact hs.working x hx
  | _ => exact ⟨hs.todo, hs.working, hs.upcoming, hs.written, hs.received, hs.conn⟩

end Server
end SdrModem
