import SdrModem.ServerProvenance

/-!
# Sessions one after another

Does an answer reach the client whose request it answers, and nobody else?  The
client tx worker is told of a client through its queue (`sendNew`), so this is a
question about the socket that a message will meet when its turn comes
(`ClientTxWorker.upcoming`, `ClientTxWorker.endSocket`).

It does not in three kinds of run: a worker owes an answer when the next client is
announced, the next client gets the descriptor that messages in the queue are
still to meet, or the loop is left because the server is stopping, so that the
client is not disconnected before `sdr_rx_worker_stop(0)`.  Where none of them
happens, sessions are isolated (`Isolated`).
-/
namespace SdrModem
open BoundedFifo Machine

/-- The client tx worker will be told of nobody, and of nothing else before. -/
def Leaving (endSocket : Int) (acts : List ServerAct) : Prop :=
  (endSocket = -1 ∧ ∀ fd, .sendNew fd ∉ acts) ∨
    ∃ before, acts = before ++ [.sendNew (-1)] ∧ ∀ fd, .sendNew fd ∉ before

/-- **What the client tx worker has been told and will be told**, depending on where
the acceptor thread is. -/
def AcceptorPc.Announces (pc : AcceptorPc) (clientSocket endSocket : Int)
    (acts : List ServerAct) : Prop :=
  match pc with
  | .serve =>
      (endSocket = -1 ∨ endSocket = clientSocket) ∧ ∀ fd, .sendNew fd ∈ acts → fd = clientSocket
  | .leave => (endSocket = -1 ∨ endSocket = clientSocket) ∧ Leaving endSocket acts
  | .close => endSocket = -1 ∧ ∀ fd, .sendNew fd ∉ acts
  | .head | .accepting | .finished => endSocket = -1

namespace AcceptorPc.Announces
variable {pc : AcceptorPc} {clientSocket endSocket : Int} {acts : List ServerAct}

theorem socket (h : pc.Announces clientSocket endSocket acts) :
    endSocket = -1 ∨ (pc.serving = true ∧ pc ≠ .close ∧ endSocket = clientSocket) := by
  cases pc with
  | serve => exact h.1.imp_right fun he => ⟨rfl, nofun, he⟩
  | leave => exact h.1.imp_right fun he => ⟨rfl, nofun, he⟩
  | close => exact Or.inl h.1
  | head | accepting | finished => exact Or.inl h

/-- The socket may be given up at any time. -/
theorem lost (h : pc.Announces clientSocket endSocket acts) :
    pc.Announces clientSocket (-1) acts := by
  cases pc with
  | serve => exact ⟨Or.inl rfl, h.2⟩
  | leave => exact ⟨Or.inl rfl, h.2.imp_left fun he => ⟨rfl, he.2⟩⟩
  | close => exact ⟨rfl, h.2⟩
  | head | accepting | finished => rfl

/-- A call that announces nobody is made. -/
theorem tail {a : ServerAct} (h : pc.Announces clientSocket endSocket (a :: acts))
    (ha : ∀ fd, a ≠ .sendNew fd) : pc.Announces clientSocket endSocket acts := by
  cases pc with
  | serve => exact ⟨h.1, fun fd hfd => h.2 fd (List.mem_cons_of_mem _ hfd)⟩
  | leave =>
    refine ⟨h.1, ?_⟩
    rcases h.2 with ⟨he, hn⟩ | ⟨before, hb, hn⟩
    · exact Or.inl ⟨he, fun fd hfd => hn fd (List.mem_cons_of_mem _ hfd)⟩
    · cases before with
      | nil => cases hb; exact absurd rfl (ha _)
      | cons b before =>
        obtain ⟨rfl, rfl⟩ := List.cons.inj hb
        exact Or.inr ⟨before, rfl, fun fd hfd => hn fd (List.mem_cons_of_mem _ hfd)⟩
  | close => exact ⟨h.1, fun fd hfd => h.2 fd (List.mem_cons_of_mem _ hfd)⟩
  | head | accepting | finished => exact h

/-- A client, or nobody, is announced. -/
theorem announce {fd : Int} (h : pc.Announces clientSocket endSocket (.sendNew fd :: acts))
    (hpc : pc.serving = true) :
    pc.Announces clientSocket fd acts ∧
      ((pc = .serve ∧ fd = clientSocket) ∨ (pc = .leave ∧ fd = -1 ∧ acts = [])) := by
  cases pc with
  | serve =>
    have hfd := h.2 fd List.mem_cons_self
    exact ⟨⟨Or.inr hfd, fun fd' h' => h.2 fd' (List.mem_cons_of_mem _ h')⟩, Or.inl ⟨rfl, hfd⟩⟩
  | leave =>
    rcases h.2 with ⟨he, hn⟩ | ⟨before, hb, hn⟩
    · exact absurd List.mem_cons_self (hn fd)
    · cases before with
      | nil =>
        cases hb
        exact ⟨⟨Or.inl rfl, Or.inl ⟨rfl, by simp⟩⟩, Or.inr ⟨rfl, rfl, rfl⟩⟩
      | cons b before =>
        obtain ⟨rfl, rfl⟩ := List.cons.inj hb
        exact absurd List.mem_cons_self (hn fd)
  | close => exact absurd List.mem_cons_self (h.2 fd)
  | head | accepting | finished => cases hpc

end AcceptorPc.Announces

/-- A client is announced. -/
def ServerAct.announces : ServerAct → Bool
  | .sendNew fd => 0 ≤ fd
  | _ => false

namespace Server
variable {s s' : Server} {l : ServerLabel}

/-- **The condition on a step.**  A client gets a descriptor that no answer on its
way is to meet; it is announced when no worker owes an answer; and the loop is not
left for a shutdown while the client tx worker knows the client. -/
def Undisturbed (s : Server) : ServerLabel → Prop
  | .accept fd _ _ => ∀ p ∈ s.clientTx.upcoming .payload, p.1 = fd → p.2.item? = none
  | .acceptor =>
      (s.todo = [] → s.acceptor = .serve → s.isRunning = false →
        s.clientTx.endSocket ≠ s.client.clientSocket) ∧
      (s.todo.head?.any (fun a => a.val.announces) = true → s.working = [])
  | _ => True

instance (s : Server) : (l : ServerLabel) → Decidable (s.Undisturbed l)
  | .accept _ _ _ => inferInstanceAs (Decidable (∀ p ∈ s.clientTx.upcoming .payload, _ → _))
  | .acceptor => inferInstanceAs (Decidable (_ ∧ _))
  | .shutdown | .rx _ | .device _ | .tx _ | .clientTx _ | .interruptRx | .interruptTx
  | .interruptClientTx => instDecidableTrue

/-! ## The socket of the messages to come -/

/-- What the client tx worker is told in every state; with buffers too small for a
descriptor it is told nothing. -/
structure Announced (s : Server) : Prop where
  phase : s.acceptor.Announces s.client.clientSocket s.clientTx.endSocket (s.todo.map Item.val)
  small : s.config.sdrBufferLen.toNat < 4 → s.clientTx.endSocket = -1

theorem create_announced (config : AppConfig) : (create config).Announced := ⟨rfl, fun _ => rfl⟩

/-- `sendNew` reaches the queue unless the buffers are too small. -/
theorem endSocket_sendNew (ho : s.clientTx.queue.closed = false) (fd : Int) :
    (s.clientTx.put s.config.sdrBufferLen.toNat ⟨.newClient fd, none, none, none⟩).endSocket =
      if s.config.sdrBufferLen.toNat < 4 then s.clientTx.endSocket else fd := by
  split
  · rename_i hlt
    rw [ClientTxWorker.put, if_neg]
    rintro ⟨-, hf⟩
    have hle : 4 ≤ s.config.sdrBufferLen.toNat := of_decide_eq_true hf
    omega
  · rename_i hge
    rw [ClientTxWorker.endSocket_put ho (decide_eq_true (Nat.not_lt.mp hge))]
    rfl

/-- What a call about a request puts into the client queue announces nobody. -/
theorem message_ne_newClient {a : Item ServerAct} {m : Sent} (hm : a.message? = some m)
    (ha : ∀ fd, a.val ≠ .sendNew fd) (fd : Int) : m.message ≠ .newClient fd := by
  obtain ⟨val, tag⟩ := a
  cases val with
  | sendNew fd' => exact absurd rfl (ha fd')
  | _ => cases hm <;> simp

theorem WorkerCall.ne_sendNew {a : Item ServerAct} {rx : RxWorker} {tx : Option TxWorker}
    (h : s.WorkerCall a rx tx) (fd : Int) : a.val ≠ .sendNew fd := by
  cases h with
  | rx c _ hc => intro ha; rw [ha] at hc; cases hc
  | tx c w w' hc => intro ha; rw [ha] at hc; cases hc

theorem endSocket_put? {rx : RxWorker} {tx : Option TxWorker} {sent : Option Sent}
    (h : s.WorkerStep l rx tx sent) (n : Nat) :
    (s.clientTx.put? n sent).endSocket = s.clientTx.endSocket := by
  cases sent with
  | none => rfl
  | some m => exact ClientTxWorker.endSocket_put_of_ne h.sent_ne

theorem endSocket_step {w w' : ClientTxWorker} {l : ClientTxLabel} {out : Option Written}
    (h : w.step l = some (w', out)) : w'.endSocket = w.endSocket ∨ w'.endSocket = -1 := by
  cases ClientTxWorker.step_flow .payload h with
  | kept _ _ hup hend hout => exact Or.inl hend
  | skipped _ m hup hend hm => exact Or.inl hend
  | wrote m hup hend => exact Or.inl hend
  | failed hmem hsent hend => exact hend.imp id And.left

/-- The client tx worker changes what it will meet by giving up its socket only. -/
theorem Announced.clientTx (hs : s.Announced) {l : ClientTxLabel} {w : ClientTxWorker}
    {out : Option Written} (hstep : s.clientTx.step l = some (w, out))
    (written : List (Option Nat × Written)) :
    Announced { s with clientTx := w, written := written } := by
  obtain ⟨hphase, hsmall⟩ := hs
  rcases endSocket_step hstep with he | he
  · exact ⟨by rw [he]; exact hphase, fun hlt => he.trans (hsmall hlt)⟩
  · exact ⟨by rw [he]; exact hphase.lost, fun _ => he⟩

/-- **What the client tx worker is told is in step with the acceptor thread**, unless
the loop is left for a shutdown while the worker knows the client. -/
theorem Effect.announced (h : Effect s l s')
    (hstop : l = .acceptor → s.todo = [] → s.acceptor = .serve → s.isRunning = false →
      s.clientTx.endSocket ≠ s.client.clientSocket)
    (hw : s.WellFormed) (hs : s.Announced) : s'.Announced := by
  obtain ⟨hphase, hsmall⟩ := id hs
  cases h with
  | acceptFailed fd script ok hpc hfd | optionFailed fd script hpc =>
    rw [hpc] at hphase
    exact ⟨hphase, hsmall⟩
  | accepted fd script hpc hfd =>
    rw [hpc] at hphase
    exact ⟨⟨Or.inl hphase, by simp [acceptClient]⟩, hsmall⟩
  | head pc hpc htodo hpc' =>
    rw [hpc] at hphase
    refine ⟨?_, hsmall⟩
    rcases hpc' with rfl | rfl <;> exact hphase
  | iteration it hpc htodo hrun hit =>
    rw [hpc] at hphase
    refine ⟨?_, hsmall⟩
    have hacts : (s.afterIteration it).todo.map Item.val = it.acts := by
      simp [afterIteration, Function.comp_def]
    have hnew := (tcpWorkerIteration_effect hit).sendNew
    rw [hacts]
    show AcceptorPc.Announces (if it.clientDisconnected then .leave else .serve) _ _ _
    cases hd : it.clientDisconnected with
    | true =>
      rw [hd] at hnew
      exact ⟨hphase.1, Or.inr hnew⟩
    | false =>
      rw [hd] at hnew
      exact ⟨hphase.1, fun fd hfd => absurd hfd (hnew fd)⟩
  | stopServing hpc htodo hrun =>
    -- the condition: the client tx worker has lost the client before
    have hne := hstop rfl htodo hpc hrun
    rw [hpc, htodo] at hphase
    exact ⟨⟨hphase.1, Or.inl ⟨hphase.1.resolve_right hne, by simp [htodo]⟩⟩, hsmall⟩
  | leave hpc htodo =>
    rw [hpc, htodo] at hphase
    refine ⟨⟨?_, by simp⟩, hsmall⟩
    rcases hphase.2 with ⟨he, -⟩ | ⟨before, hb, -⟩
    · exact he
    -- no call is left, so the announcement of nobody was made
    · cases before <;> cases hb
  | close hpc htodo =>
    rw [hpc] at hphase
    exact ⟨hphase.1, hsmall⟩
  | callClient a rest m htodo hm =>
    have hserving := hw.serving_of_todo htodo
    rw [htodo] at hphase
    by_cases ha : ∃ fd, a.val = .sendNew fd
    · obtain ⟨fd, ha⟩ := ha
      have hopen := (hw.queuesOpen (by intro hf; rw [hf] at hserving; cases hserving)).clientTx
      rw [List.map_cons, ha] at hphase
      rw [show m = ⟨.newClient fd, none, none, none⟩ by
        rw [Item.message?, ha] at hm; exact (Option.some.inj hm).symm]
      obtain ⟨hafter, hwhich⟩ := hphase.announce hserving
      refine ⟨?_, fun hlt => ?_⟩
      · show AcceptorPc.Announces s.acceptor _ (ClientTxWorker.put _ _ _).endSocket _
        rw [endSocket_sendNew hopen]
        split
        · -- the announcement is refused, and the worker never knew a client
          rename_i hlt
          rw [hsmall hlt]
          exact hafter.lost
        · exact hafter
      · show (ClientTxWorker.put _ _ _).endSocket = -1
        rw [endSocket_sendNew hopen, if_pos hlt]
        exact hsmall hlt
    · have ha : ∀ fd, a.val ≠ .sendNew fd := fun fd h => ha ⟨fd, h⟩
      have hend : (s.clientTx.put s.config.sdrBufferLen.toNat m).endSocket =
          s.clientTx.endSocket :=
        ClientTxWorker.endSocket_put_of_ne (message_ne_newClient hm ha)
      refine ⟨?_, fun hlt => hend.trans (hsmall hlt)⟩
      show AcceptorPc.Announces s.acceptor _ (ClientTxWorker.put _ _ _).endSocket _
      rw [hend]
      exact hphase.tail ha
  | callWorker a rest rx tx htodo hcall =>
    rw [htodo] at hphase
    exact ⟨hphase.tail hcall.ne_sendNew, hsmall⟩
  | worker _ rx tx sent hstep =>
    have hend := endSocket_put? hstep s.config.sdrBufferLen.toNat
    refine ⟨?_, fun hlt => hend.trans (hsmall hlt)⟩
    show AcceptorPc.Announces s.acceptor _ (ClientTxWorker.put? _ _ _).endSocket _
    rw [hend]
    exact hphase
  | clientTx l w out hallowed hstep => exact hs.clientTx hstep _
  | _ => exact ⟨hphase, hsmall⟩

/-! ## The tags of the messages to come -/

/-- About a request of a connection. -/
def OfConn (conn : Nat) (x : Item About) : Prop := ∃ index, x.tag = some ⟨conn, index⟩

/-- **Sessions are isolated**: what will meet the socket of the open connection is
about its requests, and so was what was written to a connection. -/
structure Isolated (s : Server) : Prop where
  upcoming : s.isOpen = true → ∀ p ∈ s.clientTx.upcoming .payload,
    p.1 = s.client.clientSocket → ∀ x, p.2.item? = some x → OfConn s.client.conn x
  working : s.isOpen = true → s.clientTx.endSocket = s.client.clientSocket →
    ∀ x ∈ s.working, OfConn s.client.conn x
  todo : s.acceptor ≠ .close → ∀ a ∈ s.todo, ∀ x, a.call? = some x → OfConn s.client.conn x
  written : ∀ o ∈ s.written, ∀ c, o.1 = some c → ∀ x, o.2.sent.item? = some x → OfConn c x

theorem create_isolated (config : AppConfig) : (create config).Isolated := by
  refine ⟨fun h => ?_, fun h => ?_, fun _ a ha => ?_, fun o ho => ?_⟩
  · cases h
  · cases h
  · cases ha
  · cases ho

/-- A connection whose socket the next message will meet is not about to be
closed. -/
theorem Announced.ne_close (hs : s.Announced) (hw : s.WellFormed) (hopen : s.isOpen = true)
    (hend : s.clientTx.endSocket = s.client.clientSocket) : s.acceptor ≠ .close := by
  have hserving : s.acceptor.serving = true := by
    by_contra hne
    rw [Bool.not_eq_true] at hne
    rw [(hw.outside hne).1] at hopen
    cases hopen
  have hfd := (hw.inside hserving).2
  rcases hs.phase.socket with he | ⟨-, hne, -⟩
  · omega
  · exact hne

/-- The connection that is open is being served. -/
theorem WellFormed.socket_nonneg (hw : s.WellFormed) (hopen : s.isOpen = true) :
    0 ≤ s.client.clientSocket := by
  cases hserving : s.acceptor.serving with
  | true => exact (hw.inside hserving).2
  | false =>
    rw [(hw.outside hserving).1] at hopen
    cases hopen

theorem Isolated.accepted (hs : s.Isolated) (ha : s.Announced) {fd : Int} {script : List Recv}
    (hl : s.Undisturbed (.accept fd script true)) (hpc : s.acceptor = .accepting) (hfd : 0 ≤ fd) :
    (s.acceptClient fd script).Isolated := by
  have hend : s.clientTx.endSocket = -1 := by
    have := ha.phase
    rw [hpc] at this
    exact this
  refine ⟨fun _ p hp hsocket x hx => ?_, fun _ he => ?_, fun _ a ha x hx => ?_, hs.written⟩
  · rw [hl p hp hsocket] at hx
    cases hx
  · -- the new client is not announced yet
    have he : s.clientTx.endSocket = fd := he
    omega
  · cases List.mem_singleton.mp ha
    cases hx

theorem Isolated.callClient (hs : s.Isolated) (ha : s.Announced) (hw : s.WellFormed)
    (hl : s.Undisturbed .acceptor) {a : Item ServerAct} {rest : List (Item ServerAct)} {m : Sent}
    (htodo : s.todo = a :: rest) (hm : a.message? = some m) :
    Isolated { s with todo := rest, clientTx := s.clientTx.put s.config.sdrBufferLen.toNat m } := by
  have hmem : a ∈ s.todo := htodo ▸ List.mem_cons_self
  refine ⟨fun hopen p hp hsocket x hx => ?_, fun hopen he x hx => ?_,
    fun hne b hb => hs.todo hne b (htodo ▸ List.mem_cons_of_mem _ hb), hs.written⟩
  · rcases ClientTxWorker.mem_upcoming_put hp with hp | rfl
    · exact hs.upcoming hopen p hp hsocket x hx
    · refine hs.todo (ha.ne_close hw hopen hsocket) a hmem x ?_
      exact Item.item?_of_message? hm ▸ hx
  · -- either the socket does not change, or the workers owe nothing
    have hx : x ∈ s.working := hx
    have he : (s.clientTx.put s.config.sdrBufferLen.toNat m).endSocket = s.client.clientSocket := he
    by_cases hnew : ∃ fd, a.val = .sendNew fd
    · obtain ⟨fd, hnew⟩ := hnew
      have hserving := hw.serving_of_todo htodo
      have hfd := (hw.inside hserving).2
      have hphase := ha.phase
      rw [htodo, List.map_cons, hnew] at hphase
      rcases (hphase.announce hserving).2 with ⟨-, hfd'⟩ | ⟨-, hfd', -⟩
      · -- the client itself is announced: by the condition nothing is owed
        have hnil : s.working = [] := by
          refine hl.2 ?_
          rw [htodo]
          show a.val.announces = true
          rw [hnew, ServerAct.announces, decide_eq_true (hfd' ▸ hfd)]
        rw [hnil] at hx
        cases hx
      · -- nobody is announced: the next message meets -1, or the call was refused
        have hmsg : m = ⟨.newClient (-1), none, none, none⟩ := by
          rw [Item.message?, hnew, hfd'] at hm
          exact (Option.some.inj hm).symm
        have hopen' := (hw.queuesOpen (by intro hf; rw [hf] at hserving; cases hserving)).clientTx
        rw [hmsg, endSocket_sendNew hopen'] at he
        split at he
        · exact hs.working hopen he x hx
        · omega
    · have hne : ∀ fd, a.val ≠ .sendNew fd := fun fd h => hnew ⟨fd, h⟩
      rw [ClientTxWorker.endSocket_put_of_ne (message_ne_newClient hm hne)] at he
      exact hs.working hopen he x hx

theorem Isolated.callWorker (hs : s.Isolated) (ha : s.Announced) (hw : s.WellFormed)
    {a : Item ServerAct} {rest : List (Item ServerAct)} {rx : RxWorker} {tx : Option TxWorker}
    (htodo : s.todo = a :: rest) (hcall : s.WorkerCall a rx tx) :
    Isolated { s with todo := rest, rx := rx, tx := tx } := by
  have hmem : a ∈ s.todo := htodo ▸ List.mem_cons_self
  refine ⟨hs.upcoming, fun hopen he y hy => ?_,
    fun hne b hb => hs.todo hne b (htodo ▸ List.mem_cons_of_mem _ hb), hs.written⟩
  have hy : y ∈ owedBy rx tx := hy
  obtain ⟨x, hx, ⟨-, howed⟩ | ⟨-, howed⟩⟩ := hcall.owed
  · rcases List.mem_cons.mp (howed.subset hy) with rfl | hy
    · exact hs.todo (ha.ne_close hw hopen he) a hmem y hx
    · exact hs.working hopen he y hy
  · exact hs.working hopen he y (howed ▸ hy)

theorem Isolated.worker (hs : s.Isolated) (hw : s.WellFormed) {rx : RxWorker}
    {tx : Option TxWorker} {sent : Option Sent} (hstep : s.WorkerStep l rx tx sent) :
    Isolated { s with
      rx := rx, tx := tx, clientTx := s.clientTx.put? s.config.sdrBufferLen.toNat sent } := by
  have hworked := hstep.worked hw.typed
  refine ⟨fun hopen p hp hsocket x hx => ?_, fun hopen he x hx => ?_, hs.todo, hs.written⟩
  · cases sent with
    | none => exact hs.upcoming hopen p hp hsocket x hx
    | some m =>
      rcases ClientTxWorker.mem_upcoming_put hp with hp | rfl
      · exact hs.upcoming hopen p hp hsocket x hx
      · exact hs.working hopen hsocket x (hworked.mem hx)
  · refine hs.working hopen ?_ x (hworked.subset hx)
    exact (endSocket_put? hstep _).symm.trans he

theorem Isolated.clientTx (hs : s.Isolated) (hw : s.WellFormed) {l : ClientTxLabel}
    {w : ClientTxWorker} {out : Option Written} (hstep : s.clientTx.step l = some (w, out)) :
    Isolated { s with clientTx := w, written := s.record out } := by
  refine ⟨fun hopen p hp hsocket x hx => ?_, fun hopen he x hx => ?_, hs.todo,
    fun o ho c hc x hx => ?_⟩
  · have hfd := hw.socket_nonneg hopen
    have hsocket : p.1 = s.client.clientSocket := hsocket
    rcases ClientTxWorker.mem_upcoming_of_step hstep hp with hp | ⟨hlost, -⟩
    · exact hs.upcoming hopen p hp hsocket x hx
    · omega
  · have hfd := hw.socket_nonneg hopen
    have he : w.endSocket = s.client.clientSocket := he
    rcases endSocket_step hstep with hend | hend
    · exact hs.working hopen (hend ▸ he) x hx
    · omega
  · rcases mem_record hstep ho with ho | ⟨howner, hup⟩
    · exact hs.written o ho c hc x hx
    · -- a part of an upcoming message was written to the connection that owns the socket
      rw [howner, owner] at hc
      split at hc
      · rename_i hopen
        cases hc
        exact hs.upcoming hopen.1 _ hup hopen.2 x hx
      · cases hc

/-- **Isolation is preserved by every step that meets the condition.** -/
theorem Effect.isolated (h : Effect s l s') (hl : s.Undisturbed l) (hw : s.WellFormed)
    (ha : s.Announced) (hs : s.Isolated) : s'.Isolated := by
  cases h with
  | accepted fd script hpc hfd => exact hs.accepted ha hl hpc hfd
  | acceptFailed fd script ok hpc hfd | optionFailed fd script hpc =>
    exact ⟨hs.upcoming, hs.working, fun _ => hs.todo (by rw [hpc]; decide), hs.written⟩
  | head pc hpc htodo hpc' =>
    exact ⟨hs.upcoming, hs.working, fun _ => hs.todo (by rw [hpc]; decide), hs.written⟩
  | iteration it hpc htodo hrun hit =>
    refine ⟨hs.upcoming, hs.working, fun _ a ha x hx => ?_, hs.written⟩
    obtain ⟨act, hact, rfl⟩ := List.mem_map.mp ha
    obtain ⟨b, hb, rfl⟩ := Option.map_eq_some_iff.mp hx
    exact ⟨_, rfl⟩
  | stopServing hpc htodo hrun =>
    exact ⟨hs.upcoming, hs.working, fun _ => hs.todo (by rw [hpc]; decide), hs.written⟩
  | leave hpc htodo => exact ⟨hs.upcoming, hs.working, fun h => absurd rfl h, hs.written⟩
  | close hpc htodo =>
    refine ⟨fun h => (by cases h), fun h => (by cases h), fun _ a ha => ?_, hs.written⟩
    rw [show s.todo = [] from htodo] at ha
    cases ha
  | callClient a rest m htodo hm => exact hs.callClient ha hw hl htodo hm
  | callWorker a rest rx tx htodo hcall => exact hs.callWorker ha hw htodo hcall
  | worker _ rx tx sent hstep => exact hs.worker hw hstep
  | clientTx l w out hallowed hstep => exact hs.clientTx hw hstep
  | interruptTx hpc =>
    refine ⟨hs.upcoming, fun hopen he x hx => ?_, hs.todo, hs.written⟩
    rw [working, working_interruptTx] at hx
    exact hs.working hopen he x hx
  | _ => exact ⟨hs.upcoming, hs.working, hs.todo, hs.written⟩

/-- What holds in every state of a run whose steps meet the condition. -/
structure IsolationInv (s : Server) : Prop where
  wellFormed : s.WellFormed
  provenance : s.Provenance
  announced : s.Announced
  isolated : s.Isolated

theorem create_isolationInv (config : AppConfig) : (create config).IsolationInv :=
  ⟨create_wellFormed config, create_provenance config, create_announced config,
    create_isolated config⟩

theorem step_isolationInv (hl : s.Undisturbed l) (h : s.step l = some s') (hs : s.IsolationInv) :
    s'.IsolationInv := by
  have he := step_effect h
  exact ⟨he.wellFormed hs.wellFormed, he.provenance hs.wellFormed hs.provenance,
    he.announced (by rintro rfl; exact hl.1) hs.wellFormed hs.announced,
    he.isolated hl hs.wellFormed hs.announced hs.isolated⟩

end Server

/-- A RESPONSE or a TX_COMPLETE. -/
def ClientTxMessage.isAnswer (m : ClientTxMessage) : Prop :=
  m.header.type = MessageType.response.code ∨ m.header.type = MessageType.txComplete.code

instance (m : ClientTxMessage) : Decidable m.isAnswer :=
  inferInstanceAs (Decidable (_ ∨ _))

/-- Answers are about requests. -/
theorem ClientTxMessage.about?_of_isAnswer {m : ClientTxMessage} (h : m.isAnswer) :
    ∃ a, m.about? = some a ∧ a.requestId = m.header.requestId := by
  cases m with
  | response id status details => exact ⟨_, rfl, rfl⟩
  | complete id status details => exact ⟨_, rfl, rfl⟩
  | softBits id bits => simp [isAnswer, header, MessageType.code] at h
  | newClient fd => simp [isAnswer, header, MessageType.code] at h

/-- **Sessions are isolated** in every run whose steps meet the condition: every
RESPONSE and every TX_COMPLETE written while the socket belongs to a connection
carries the request id of a request received on that connection. -/
theorem sessions_isolated {config : AppConfig} {ls : List ServerLabel} {s : Server}
    (hrun : Run Server.step Server.Undisturbed (Server.create config) ls s) :
    ∀ c w, (some c, w) ∈ s.written → w.sent.message.isAnswer →
      ∃ index h, (⟨c, index⟩, h) ∈ s.received ∧
        h.pair.1.requestId = w.sent.message.header.requestId := by
  intro c w hw hanswer
  have hinv := hrun.invariant
    (fun _ _ _ hl hstep hs => Server.step_isolationInv hl hstep hs)
    (Server.create_isolationInv config)
  obtain ⟨a, ha, hid⟩ := ClientTxMessage.about?_of_isAnswer hanswer
  have hitem : w.sent.item? = some ⟨a, w.sent.tag⟩ := by rw [Sent.item?, ha]; rfl
  obtain ⟨index, htag⟩ := hinv.isolated.written _ hw c rfl _ hitem
  obtain ⟨h, hmem, hval⟩ := hinv.provenance.written _ hw _ hitem _ htag
  refine ⟨index, h, hmem, ?_⟩
  rw [← hid, show a = _ from hval]
  rfl

/-- A server with a plutosdr and small buffers. -/
def smallConfig : AppConfig := ⟨64, 5, 64, 64, .plutosdr⟩

/-- A client that is accepted, announced, and sends one message. -/
def oneMessage (fd : Int) (header : MessageHeader) : List ServerLabel :=
  [.acceptor, .accept fd [.data 0 ((apiEncodeMessageHeader header).drop 1)] true, .acceptor,
    .acceptor, .acceptor]

/-- A client that is accepted and announced and sends nothing. -/
def silentClient (fd : Int) : List ServerLabel := [.acceptor, .accept fd [] true, .acceptor]

/-- The client tx worker handles a message that is not written. -/
def skipMessage : List ServerLabel := [.clientTx .next, .clientTx .next]

/-- The client tx worker writes a message. -/
def writeMessage : List ServerLabel :=
  [.clientTx .next, .clientTx (.write true), .clientTx (.write true), .clientTx .next]

/-- The acceptor thread leaves a client: `sdr_rx_worker_stop(0)` and `close`. -/
def leaveClient : List ServerLabel := [.acceptor, .acceptor, .acceptor]

/-- The rx worker handles `sdr_rx_worker_stop` of a receiver that is off. -/
def handleStop : List ServerLabel :=
  [.rx .nothing, .rx .nothing, .rx .nothing, .rx .nothing, .rx .nothing]

/-- A client shuts down its session, the rx worker answers `sdr_rx_worker_stop(0)`,
and then the next client pings and is answered. -/
theorem sessions_isolated_one_by_one :
    ∃ s, exec (restrict Server.step Server.Undisturbed) (Server.create smallConfig)
        (oneMessage 5 ⟨0, 1, 7, 0⟩ ++ leaveClient ++ handleStop ++ oneMessage 6 ⟨0, 2, 8, 0⟩ ++
          skipMessage ++ skipMessage ++ skipMessage ++ skipMessage ++ writeMessage) = some s ∧
      s.written.map Prod.fst = [some 1, some 1] ∧
      ∀ c w, (some c, w) ∈ s.written → w.sent.message.isAnswer →
        ∃ index h, (⟨c, index⟩, h) ∈ s.received ∧
          h.pair.1.requestId = w.sent.message.header.requestId := by
  refine exists_exec rfl fun s hs => ⟨?_, sessions_isolated (run_of_exec hs)⟩
  cases hs
  rfl

/-- **The next client is answered for the one before**: the first client shuts down
its session, the second one is accepted and announced, and then the rx worker
answers `sdr_rx_worker_stop(0)`.  The second client has sent nothing. -/
theorem stop_answered_to_next_client :
    ∃ s, exec Server.step (Server.create smallConfig)
        (oneMessage 5 ⟨0, 1, 7, 0⟩ ++ leaveClient ++ silentClient 6 ++ handleStop ++
          skipMessage ++ skipMessage ++ skipMessage ++ writeMessage) = some s ∧
      ∃ w, (some 1, w) ∈ s.written ∧ w.sent.message.isAnswer ∧
        ¬ ∃ index h, (⟨1, index⟩, h) ∈ s.received ∧
          h.pair.1.requestId = w.sent.message.header.requestId := by
  refine ⟨_, rfl, ⟨.header, 6, ⟨.response 0 .success .noDetails, none, none, none⟩⟩, ?_, ?_, ?_⟩
  · exact List.mem_cons_self
  · decide
  · rintro ⟨index, h, hmem, -⟩
    cases List.mem_singleton.mp hmem

end SdrModem
