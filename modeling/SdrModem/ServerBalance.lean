import SdrModem.ServerIsolation

/-!
# Requests are accounted for

The requests of a connection are counted: those a call is still to be made for,
those a worker has to answer, the answers on their way to the client, and the
answers written.  While the connection is served and what is written to it arrives,
no step changes the sum, except that reading a request raises it by one
(`Balanced`).

The requests to count are chosen by a predicate on the tag and on what it is about.
Frames are left out unless the tx worker has a modem when it takes one, for else it
drops it.
-/
namespace SdrModem
open BoundedFifo Machine

/-- Whether the predicate chooses a request of the connection. -/
def Item.chosen (c : Nat) (P : Tag → About → Bool) (x : Item About) : Bool :=
  x.tag.any fun t => decide (t.conn = c) && P t x.val

/-- **Whether a message is answered**: a call is made for it, and the queue this goes
to takes it. -/
def AppConfig.answers (config : AppConfig) : Handled → Bool
  | .rejected header => config.takes (invalidRequest header.requestId)
  | .dispatched header payload =>
      (tcpWorkerDispatch config.tcpServer header payload).1.any fun a =>
        a.about?.isSome && config.takes a

/-- The calls an iteration makes that will be taken, if it acted on a message that
is answered. -/
theorem IterationEffect.countP_acts {config : AppConfig} {it : Iteration}
    (h : IterationEffect config.tcpServer it) (hdisc : it.clientDisconnected = false)
    (Q : About → Bool) :
    (it.acts.countP fun a => a.about?.any Q && config.takes a) =
      it.handled.toList.countP fun hd => Q (hd.about config.canTransmit) && config.answers hd := by
  cases h with
  | idle hhandled hacts hdisc => rw [hhandled, hacts]; rfl
  | lost hhandled hacts hdisc' => rw [hdisc'] at hdisc; cases hdisc
  | rejected header hhandled hacts =>
    rw [hhandled, hacts, hdisc]
    simp [List.countP_cons, invalidRequest, ServerAct.about?, AppConfig.answers, Handled.about,
      Handled.isFrame, Handled.pair]
  | dispatched header payload hhandled hacts hdisc' =>
    rw [hhandled, hacts]
    rw [hdisc] at hdisc'
    rcases tcpWorkerDispatch_cases config.tcpServer header payload with
      ⟨a, hd, ha⟩ | ⟨hd, -⟩ | ⟨hd, -⟩
    · have ha : a.about? = some (Handled.about config.canTransmit (.dispatched header payload)) := ha
      simp [AppConfig.answers, hd, List.countP_cons, ha]
    · simp [AppConfig.answers, hd]
    · -- a shutdown announces nobody as the client, and then the client is disconnected
      rw [hd] at hdisc'; cases hdisc'

/-- Whether there is a modem for a frame that was taken off the queue. -/
def TxWorker.ready (w : TxWorker) : Bool :=
  match w.pc with
  | .handle c => !c.val.about.frame || w.modem.isSome
  | _ => true

theorem TxWorker.Dropping.not_ready {w : TxWorker} {x : Item About} (h : w.Dropping x) :
    w.ready = false := by
  obtain ⟨hm, c, hpc, rfl, hframe⟩ := h
  have hframe : c.val.about.frame = true := hframe
  rw [ready, hpc]
  simp [hm, hframe]

/-- The requests for which a call is to be made that will be taken. -/
def AppConfig.calls (config : AppConfig) (c : Nat) (P : Tag → About → Bool)
    (todo : List (Item ServerAct)) : Nat :=
  todo.countP fun a => a.call?.any (Item.chosen c P) && config.takes a.val

/-- The answers of which a part is still to be written. -/
def ClientTxWorker.answers (part : Part) (c : Nat) (P : Tag → About → Bool) (w : ClientTxWorker) :
    Nat :=
  (w.upcoming part).countP fun p => p.2.item?.any (Item.chosen c P)

namespace Server

section
variable (part : Part) (c : Nat) (P : Tag → About → Bool)

/-- The requests for which a call is still to be made that will be taken. -/
def calls (s : Server) : Nat := s.config.calls c P s.todo

/-- The requests a worker has to answer. -/
def owed (s : Server) : Nat := s.working.countP (Item.chosen c P)

/-- The answers of which a part is still to be written. -/
def onTheirWay (s : Server) : Nat := s.clientTx.answers part c P

/-- A part of an answer was written to the connection. -/
def answeredBy (o : Option Nat × Written) : Bool :=
  decide (o.1 = some c) && (decide (o.2.part = part) && o.2.sent.item?.any (Item.chosen c P))

/-- The answers of which a part was written to the connection. -/
def answered (s : Server) : Nat := s.written.countP (answeredBy part c P)

/-- The requests received that are answered. -/
def due (s : Server) : Nat :=
  s.received.countP fun r =>
    decide (r.1.conn = c) && (P r.1 (r.2.about s.config.canTransmit) && s.config.answers r.2)

end

/-- The client tx worker is told of the client, and nothing was received yet; or it
has been told. -/
def Introduced (s : Server) : Prop :=
  (s.todo = [⟨.sendNew s.client.clientSocket, none⟩] ∧ s.client.count = 0) ∨
    (s.clientTx.endSocket = s.client.clientSocket ∧ ∀ a ∈ s.todo, ∀ fd, a.val ≠ .sendNew fd)

/-- **The requests of the open connection are accounted for.** -/
structure Balanced (part : Part) (P : Tag → About → Bool) (s : Server) : Prop where
  introduced : s.Introduced
  sockets : ∀ p ∈ s.clientTx.upcoming part, ∀ x, p.2.item? = some x → OfConn s.client.conn x →
    p.1 = s.client.clientSocket
  balance : s.calls s.client.conn P + s.owed s.client.conn P + s.onTheirWay part s.client.conn P +
    s.answered part s.client.conn P = s.due s.client.conn P

/-- The condition on a step: writing to the connection `c` succeeds while it is
open, and, if frames are counted, there is a modem for them. -/
def StaysOpen (c : Nat) (frames : Bool) (s : Server) : ServerLabel → Prop
  | .clientTx (.write false) => s.owner s.clientTx.clientSocket ≠ some c
  | .tx _ => frames = true → ∀ w ∈ s.tx, w.ready = true
  | _ => True

instance (c : Nat) (frames : Bool) (s : Server) :
    (l : ServerLabel) → Decidable (StaysOpen c frames s l)
  | .clientTx (.write false) => inferInstanceAs (Decidable (_ ≠ _))
  | .tx _ => inferInstanceAs (Decidable (_ → ∀ w ∈ s.tx, w.ready = true))
  | .clientTx (.write true) | .clientTx .next | .shutdown | .accept _ _ _ | .acceptor | .rx _
  | .device _ | .interruptRx | .interruptTx | .interruptClientTx => instDecidableTrue

variable {part : Part} {P : Tag → About → Bool} {c : Nat} {frames : Bool} {s s' : Server}
  {l : ServerLabel}

theorem ofConn_of_chosen {x : Item About} (h : x.chosen c P = true) : OfConn c x := by
  obtain ⟨t, ht, hc⟩ := (Option.any_eq_true _ _).mp h
  rw [Bool.and_eq_true, decide_eq_true_eq] at hc
  exact ⟨t.index, by rw [ht, ← hc.1]⟩

/-- What is chosen comes from a request that was received. -/
theorem Justified.of_ofConn {config : AppConfig} {received : List (Tag × Handled)} {x : Item About}
    (h : Justified config received x) (hx : OfConn c x) : ∃ r ∈ received, r.1.conn = c := by
  obtain ⟨index, htag⟩ := hx
  obtain ⟨hd, hmem, -⟩ := h _ htag
  exact ⟨_, hmem, rfl⟩

/-! ## A new connection has no requests -/

theorem Justified.not_chosen {config : AppConfig} {received : List (Tag × Handled)}
    {x : Item About} (h : Justified config received x) (hc : ∀ r ∈ received, r.1.conn ≠ c) :
    x.chosen c P = false := by
  by_contra hne
  rw [Bool.not_eq_false] at hne
  obtain ⟨r, hr, hrc⟩ := h.of_ofConn (ofConn_of_chosen hne)
  exact hc r hr hrc

theorem upcoming_subset_payload (w : ClientTxWorker) : w.upcoming part ⊆ w.upcoming .payload := by
  cases part with
  | header => exact ClientTxWorker.upcoming_header_subset w
  | payload => exact List.Subset.refl _

theorem owed_eq_zero (hs : s.Provenance) (hc : ∀ r ∈ s.received, r.1.conn ≠ c) :
    s.owed c P = 0 := by
  refine List.countP_eq_zero.mpr fun x hx => ?_
  simp [(hs.working x hx).not_chosen hc]

theorem onTheirWay_eq_zero (hs : s.Provenance) (hc : ∀ r ∈ s.received, r.1.conn ≠ c) :
    s.onTheirWay part c P = 0 := by
  refine List.countP_eq_zero.mpr fun p hp => ?_
  cases hitem : p.2.item? with
  | none => simp
  | some x => simp [(hs.upcoming p (upcoming_subset_payload _ hp) x hitem).not_chosen hc]

theorem answered_eq_zero (hs : s.Provenance) (hc : ∀ r ∈ s.received, r.1.conn ≠ c) :
    s.answered part c P = 0 := by
  refine List.countP_eq_zero.mpr fun o ho => ?_
  cases hitem : o.2.sent.item? with
  | none => simp [answeredBy, hitem]
  | some x => simp [answeredBy, hitem, (hs.written o ho x hitem).not_chosen hc]

theorem due_eq_zero (hc : ∀ r ∈ s.received, r.1.conn ≠ c) : s.due c P = 0 := by
  refine List.countP_eq_zero.mpr fun r hr => ?_
  simp [hc r hr]

theorem Balanced.accepted (hs : s.Provenance) (fd : Int) (script : List Recv) :
    (s.acceptClient fd script).Balanced part P := by
  have hc : ∀ r ∈ s.received, r.1.conn ≠ s.nextConn :=
    fun r hr => Nat.ne_of_lt (hs.received r hr).1
  refine ⟨Or.inl ⟨rfl, rfl⟩, fun p hp x hx hof => ?_, ?_⟩
  · obtain ⟨r, hr, hrc⟩ :=
      (hs.upcoming p (upcoming_subset_payload _ hp) x hx).of_ofConn hof
    exact absurd hrc (hc r hr)
  · show 0 + s.owed s.nextConn P + s.onTheirWay part s.nextConn P + s.answered part s.nextConn P =
      s.due s.nextConn P
    rw [owed_eq_zero hs hc, onTheirWay_eq_zero hs hc, answered_eq_zero hs hc, due_eq_zero hc]

/-! ## Reading a request -/

theorem Balanced.iteration (hs : s.Balanced part P) {it : Iteration} (htodo : s.todo = [])
    (hit : IterationEffect s.config.tcpServer it) (hdisc : it.clientDisconnected = false) :
    (s.afterIteration it).Balanced part P := by
  obtain ⟨hintro, hsockets, hbalance⟩ := hs
  -- the announcement has been made, for there is no call left
  have hend : s.clientTx.endSocket = s.client.clientSocket := by
    rcases hintro with ⟨h, -⟩ | ⟨h, -⟩
    · rw [htodo] at h; cases h
    · exact h
  have hnew := hit.sendNew
  rw [hdisc] at hnew
  refine ⟨Or.inr ⟨hend, ?_⟩, hsockets, ?_⟩
  · intro a ha fd hfd
    obtain ⟨act, hact, rfl⟩ := List.mem_map.mp ha
    exact hnew fd (hfd ▸ hact)
  · have hcalls : s.calls s.client.conn P = 0 := by rw [calls, htodo]; rfl
    have hcalls' : (s.afterIteration it).calls s.client.conn P = it.acts.countP fun a =>
        a.about?.any (P ⟨s.client.conn, s.client.count⟩) && s.config.takes a := by
      show (it.acts.map _).countP _ = _
      rw [List.countP_map]
      refine List.countP_congr fun a _ => ?_
      cases ha : a.about? <;> simp [afterIteration, Item.call?, ha, Item.chosen]
    have hdue' : (s.afterIteration it).due s.client.conn P = s.due s.client.conn P +
        it.handled.toList.countP fun hd =>
          P ⟨s.client.conn, s.client.count⟩ (hd.about s.config.canTransmit) &&
            s.config.answers hd := by
      show (s.received ++ it.handled.toList.map _).countP _ = _
      rw [List.countP_append, List.countP_map]
      refine congrArg (s.due s.client.conn P + ·) (List.countP_congr fun hd _ => ?_)
      simp [afterIteration]
    show (s.afterIteration it).calls s.client.conn P + s.owed s.client.conn P +
      s.onTheirWay part s.client.conn P + s.answered part s.client.conn P =
        (s.afterIteration it).due s.client.conn P
    rw [hcalls', hdue', hit.countP_acts hdisc]
    omega

/-! ## Moving a request on -/

/-- The answers on their way after a `queue_put`. -/
theorem answers_put {w : ClientTxWorker} (ho : w.queue.closed = false) (bufferSize : Nat) (m : Sent) :
    (w.put bufferSize m).answers part c P = w.answers part c P +
      if m.item?.any (Item.chosen c P) && fitsClientTx bufferSize m then 1 else 0 := by
  by_cases hfits : fitsClientTx bufferSize m = true
  · rw [ClientTxWorker.answers, ClientTxWorker.upcoming_put part ho hfits, List.countP_append,
      List.countP_singleton, hfits, Bool.and_true]
    rfl
  · rw [ClientTxWorker.put, if_neg fun h => hfits h.2]
    simp [hfits]

theorem calls_cons {a : Item ServerAct} {rest : List (Item ServerAct)} (htodo : s.todo = a :: rest) :
    s.calls c P = s.config.calls c P rest +
      if a.call?.any (Item.chosen c P) && s.config.takes a.val then 1 else 0 := by
  rw [calls, htodo, AppConfig.calls, List.countP_cons]
  rfl

theorem fits_message? {a : Item ServerAct} {m : Sent} (config : AppConfig)
    (h : a.message? = some m) :
    fitsClientTx config.sdrBufferLen.toNat m = config.takes a.val := by
  obtain ⟨val, tag⟩ := a
  cases val <;> cases h <;> rfl

/-- An answer fits the client queue. -/
theorem fits_answer {n : Nat} (hn : 4 ≤ n) {m : Sent} {x : Item About} (h : m.item? = some x) :
    fitsClientTx n m = true := by
  have hlen : m.message.bufferLen = apiResponseSize := by
    unfold Sent.item? at h
    cases hm : m.message <;> rw [hm] at h <;> cases h <;> rfl
  refine decide_eq_true ?_
  rw [hlen]
  exact Nat.le_trans (by decide) hn

theorem Balanced.callClient (hs : s.Balanced part P) (hw : s.WellFormed)
    (hn : 4 ≤ s.config.sdrBufferLen.toNat) {a : Item ServerAct} {rest : List (Item ServerAct)}
    {m : Sent} (htodo : s.todo = a :: rest) (hm : a.message? = some m) :
    Balanced part P
      { s with todo := rest, clientTx := s.clientTx.put s.config.sdrBufferLen.toNat m } := by
  obtain ⟨hintro, hsockets, hbalance⟩ := hs
  have hserving := hw.serving_of_todo htodo
  have ho := (hw.queuesOpen (by intro hf; rw [hf] at hserving; cases hserving)).clientTx
  have hitem := Item.item?_of_message? hm
  refine ⟨?_, ?_, ?_⟩
  · rcases hintro with ⟨h, -⟩ | ⟨hend, hnew⟩
    · -- this call is the announcement, and it fits
      obtain ⟨rfl, rfl⟩ := List.cons.inj (htodo.symm.trans h)
      cases hm
      refine Or.inr ⟨?_, by simp⟩
      show (ClientTxWorker.put _ _ _).endSocket = _
      rw [endSocket_sendNew ho, if_neg (by omega)]
    · have ha := hnew a (htodo ▸ List.mem_cons_self)
      refine Or.inr ⟨?_, fun b hb => hnew b (htodo ▸ List.mem_cons_of_mem _ hb)⟩
      exact (ClientTxWorker.endSocket_put_of_ne (message_ne_newClient hm ha)).trans hend
  · intro p hp x hx hof
    rcases ClientTxWorker.mem_upcoming_put hp with hp | rfl
    · exact hsockets p hp x hx hof
    · rcases hintro with ⟨h, -⟩ | ⟨hend, -⟩
      · -- the announcement answers nothing
        obtain ⟨rfl, rfl⟩ := List.cons.inj (htodo.symm.trans h)
        have hx : m.item? = some x := hx
        rw [hitem] at hx
        cases hx
      · exact hend
  · show s.config.calls s.client.conn P rest + s.owed s.client.conn P +
      (s.clientTx.put s.config.sdrBufferLen.toNat m).answers part s.client.conn P +
        s.answered part s.client.conn P = s.due s.client.conn P
    rw [answers_put ho, hitem, fits_message? s.config hm]
    rw [calls_cons htodo, onTheirWay] at hbalance
    omega

theorem Balanced.callWorker (hs : s.Balanced part P) (hw : s.WellFormed) {a : Item ServerAct}
    {rest : List (Item ServerAct)} {rx : RxWorker} {tx : Option TxWorker}
    (htodo : s.todo = a :: rest) (hcall : s.WorkerCall a rx tx) :
    Balanced part P { s with todo := rest, rx := rx, tx := tx } := by
  obtain ⟨hintro, hsockets, hbalance⟩ := hs
  have hserving := hw.serving_of_todo htodo
  have ho := hw.queuesOpen (by intro hf; rw [hf] at hserving; cases hserving)
  have hintro' : s.clientTx.endSocket = s.client.clientSocket ∧
      ∀ a ∈ s.todo, ∀ fd, a.val ≠ .sendNew fd := by
    rcases hintro with ⟨h, -⟩ | h
    · obtain ⟨rfl, -⟩ := List.cons.inj (htodo.symm.trans h)
      exact absurd rfl (hcall.ne_sendNew _)
    · exact h
  refine ⟨Or.inr ⟨hintro'.1, fun b hb => hintro'.2 b (htodo ▸ List.mem_cons_of_mem _ hb)⟩,
    hsockets, ?_⟩
  -- an open queue refuses only what does not fit, and that was not counted as a call
  obtain ⟨x, hx, howed⟩ := hcall.owed
  have howed' : (owedBy rx tx).countP (Item.chosen s.client.conn P) = s.owed s.client.conn P +
      if a.call?.any (Item.chosen s.client.conn P) && s.config.takes a.val then 1 else 0 := by
    rcases howed with ⟨htakes, hperm⟩ | ⟨hrefused, heq⟩
    · rw [hperm.countP_eq, List.countP_cons, hx, htakes, Bool.and_true, Option.any_some]
      rfl
    · rw [heq, hrefused.resolve_right (fun h => h ho), Bool.and_false]
      rfl
  show s.config.calls s.client.conn P rest + (owedBy rx tx).countP _ + s.onTheirWay part s.client.conn P +
    s.answered part s.client.conn P = s.due s.client.conn P
  rw [howed']
  rw [calls_cons htodo] at hbalance
  omega

/-- A worker that owes an answer to the open connection has been introduced to
it. -/
theorem Introduced.endSocket (h : s.Introduced) (hp : s.Provenance) {x : Item About}
    (hx : x ∈ s.working) (hof : OfConn s.client.conn x) :
    s.clientTx.endSocket = s.client.clientSocket := by
  rcases h with ⟨-, hcount⟩ | ⟨hend, -⟩
  · -- nothing was received from a client that is not announced yet
    obtain ⟨r, hr, hrc⟩ := (hp.working x hx).of_ofConn hof
    have hlt := (hp.received r hr).2 hrc
    rw [hcount] at hlt
    exact absurd hlt (Nat.not_lt_zero _)
  · exact hend

/-- What a worker does to the answers it owes and those on their way. -/
theorem balance_of_worked {drops : Item About → Prop} {owed owed' : List (Item About)}
    {sent : Option Sent} (h : Worked drops owed owed' sent) {w : ClientTxWorker} {n : Nat}
    (ho : w.queue.closed = false) (hn : 4 ≤ n) (hdrops : ∀ x, drops x → x.chosen c P = false) :
    owed'.countP (Item.chosen c P) + (w.put? n sent).answers part c P =
      owed.countP (Item.chosen c P) + w.answers part c P := by
  cases h with
  | quiet _ howed hsent =>
    rw [howed]
    cases sent with
    | none => rfl
    | some m =>
      rw [ClientTxWorker.put?, answers_put ho, hsent m rfl]
      rfl
  | answers x m howed hm =>
    rw [howed.countP_eq, List.countP_cons, ClientTxWorker.put?, answers_put ho, hm,
      fits_answer hn hm, Bool.and_true, Option.any_some]
    omega
  | drops x howed hx =>
    rw [howed.countP_eq, List.countP_cons, hdrops x hx]
    rfl

theorem Balanced.worker (hs : s.Balanced part P) (hw : s.WellFormed) (hp : s.Provenance)
    (hserve : s.acceptor = .serve) (hn : 4 ≤ s.config.sdrBufferLen.toNat) {rx : RxWorker}
    {tx : Option TxWorker} {sent : Option Sent} (hstep : s.WorkerStep l rx tx sent)
    (hdrops : ∀ x, s.Dropping l x → x.chosen s.client.conn P = false) :
    Balanced part P { s with
      rx := rx, tx := tx, clientTx := s.clientTx.put? s.config.sdrBufferLen.toNat sent } := by
  obtain ⟨hintro, hsockets, hbalance⟩ := hs
  have hworked := hstep.worked hw.typed
  have ho := (hw.queuesOpen (by rw [hserve]; decide)).clientTx
  refine ⟨?_, ?_, ?_⟩
  · refine hintro.imp id fun ⟨hend, hnew⟩ => ⟨?_, hnew⟩
    exact (endSocket_put? hstep _).trans hend
  · intro p hmem x hx hof
    cases sent with
    | none => exact hsockets p hmem x hx hof
    | some m =>
      rcases ClientTxWorker.mem_upcoming_put hmem with hmem | rfl
      · exact hsockets p hmem x hx hof
      · exact hintro.endSocket hp (hworked.mem hx) hof
  · have hbal : (owedBy rx tx).countP (Item.chosen s.client.conn P) +
        (s.clientTx.put? s.config.sdrBufferLen.toNat sent).answers part s.client.conn P =
          s.working.countP (Item.chosen s.client.conn P) +
            s.clientTx.answers part s.client.conn P := balance_of_worked hworked ho hn hdrops
    show s.calls s.client.conn P + (owedBy rx tx).countP (Item.chosen s.client.conn P) +
      (s.clientTx.put? s.config.sdrBufferLen.toNat sent).answers part s.client.conn P +
        s.answered part s.client.conn P = s.due s.client.conn P
    rw [owed, onTheirWay] at hbalance
    omega

theorem answered_record (out : Option Written) :
    ({ s with written := s.record out } : Server).answered part c P = s.answered part c P +
      if out.any (fun o => answeredBy part c P (s.owner o.clientSocket, o)) then 1 else 0 := by
  show (s.written ++ _).countP _ = _
  rw [List.countP_append]
  cases out with
  | none => rfl
  | some o => rw [Option.toList_some, List.map_singleton, List.countP_singleton]; rfl

/-- What meets another socket is not for the open connection. -/
theorem Balanced.not_chosen (hs : s.Balanced part P) {m : Sent}
    (hmem : (s.clientTx.clientSocket, m) ∈ s.clientTx.upcoming part)
    (hne : s.clientTx.clientSocket ≠ s.client.clientSocket) :
    m.item?.any (Item.chosen s.client.conn P) = false := by
  cases hitem : m.item? with
  | none => rfl
  | some x =>
    by_contra hc
    rw [Option.any_some, Bool.not_eq_false] at hc
    exact hne (hs.sockets _ hmem x hitem (ofConn_of_chosen hc))

theorem Balanced.clientTx (hs : s.Balanced part P) (hw : s.WellFormed)
    (hserve : s.acceptor = .serve) {l : ClientTxLabel} {w : ClientTxWorker} {out : Option Written}
    (hstep : s.clientTx.step l = some (w, out))
    (hl : l = .write false → s.owner s.clientTx.clientSocket ≠ some s.client.conn) :
    Balanced part P { s with clientTx := w, written := s.record out } := by
  obtain ⟨hopen, hfd⟩ := hw.inside (by rw [hserve]; rfl)
  have howner : s.clientTx.clientSocket = s.client.clientSocket →
      s.owner s.clientTx.clientSocket = some s.client.conn := fun h => if_pos ⟨hopen, h⟩
  have hkept : w.endSocket = s.clientTx.endSocket →
      Introduced { s with clientTx := w, written := s.record out } := fun hend =>
    hs.introduced.imp id fun ⟨he, hnew⟩ => ⟨hend.trans he, hnew⟩
  have hrest : w.answers part s.client.conn P +
      (if out.any (fun o => answeredBy part s.client.conn P (s.owner o.clientSocket, o)) then 1
        else 0) = s.clientTx.answers part s.client.conn P →
      ({ s with clientTx := w, written := s.record out } : Server).calls s.client.conn P +
        s.owed s.client.conn P + w.answers part s.client.conn P +
          ({ s with written := s.record out } : Server).answered part s.client.conn P =
            s.due s.client.conn P := by
    intro h
    have hbalance := hs.balance
    rw [answered_record]
    rw [onTheirWay] at hbalance
    show s.calls s.client.conn P + _ + _ + _ = _
    omega
  cases ClientTxWorker.step_flow part hstep with
  | kept _ _ hup hend hout =>
    refine ⟨hkept hend, fun p hp => hs.sockets p (hup ▸ hp), hrest ?_⟩
    rw [ClientTxWorker.answers, hup, if_neg]
    · rfl
    · cases out with
      | none => exact Bool.false_ne_true
      | some o => simp [answeredBy, hout o rfl]
  | skipped _ m hup hend hm =>
    refine ⟨hkept hend, fun p hp => hs.sockets p (hup ▸ List.mem_cons_of_mem _ hp), hrest ?_⟩
    -- a message is skipped when there is no client, and the open connection has one
    have hnot : m.item?.any (Item.chosen s.client.conn P) = false := by
      rcases hm with hm | hm
      · rw [hm]; rfl
      · exact hs.not_chosen (hup ▸ List.mem_cons_self) (by omega)
    rw [ClientTxWorker.answers, ClientTxWorker.answers, hup, List.countP_cons, hnot]
    rfl
  | wrote m hup hend =>
    refine ⟨hkept hend, fun p hp => hs.sockets p (hup ▸ List.mem_cons_of_mem _ hp), hrest ?_⟩
    rw [ClientTxWorker.answers, ClientTxWorker.answers, hup, List.countP_cons]
    by_cases hsocket : s.clientTx.clientSocket = s.client.clientSocket
    · simp [answeredBy, howner hsocket]
    · have hnot := hs.not_chosen (hup ▸ List.mem_cons_self) hsocket
      simp [answeredBy, hnot]
  | failed hmem hsent hend =>
    -- writing to the open connection does not fail, so this was another socket
    have hsocket : s.clientTx.clientSocket ≠ s.client.clientSocket :=
      fun h => hl rfl (howner h)
    refine ⟨?_, ?_, hrest ?_⟩
    · refine hs.introduced.imp id fun ⟨he, hnew⟩ => ⟨?_, hnew⟩
      rcases hend with hend | ⟨-, hend⟩
      · exact hend.trans he
      · exact absurd (hend.symm.trans he) hsocket
    · intro p hp x hx hof
      rcases hmem p hp with hp | ⟨-, hp⟩
      · exact hs.sockets p hp x hx hof
      · exact absurd (hs.sockets _ hp x hx hof) hsocket
    · obtain ⟨lost, hmap, hlost⟩ := hsent
      have hcount : ∀ v : ClientTxWorker, v.answers part s.client.conn P =
          ((v.upcoming part).map Prod.snd).countP fun m =>
            m.item?.any (Item.chosen s.client.conn P) := by
        intro v
        rw [List.countP_map]
        rfl
      rw [hcount, hcount, hmap, List.countP_append]
      cases lost with
      | none => simp
      | some m => simp [hs.not_chosen (hlost m rfl) hsocket]

/-! ## In every run -/

theorem Effect.config_eq (h : Effect s l s') : s'.config = s.config := by
  cases h <;> rfl

/-- **The balance is kept by every step that meets the condition.** -/
theorem Effect.balanced (h : Effect s l s') (hl : StaysOpen c frames s l) (hw : s.WellFormed)
    (hp : s.Provenance) (hn : 4 ≤ s.config.sdrBufferLen.toNat)
    (hframes : frames = true ∨ ∀ t a, P t a = true → a.frame = false)
    (hs : s.acceptor = .serve → s.client.conn = c → s.Balanced part P)
    (hserve : s'.acceptor = .serve) (hc : s'.client.conn = c) : s'.Balanced part P := by
  cases h with
  | accepted fd script hpc hfd => exact Balanced.accepted hp fd script
  | acceptFailed | optionFailed | stopServing | leave | close => cases hserve
  | head pc hpc htodo hpc' => rcases hpc' with rfl | rfl <;> cases hserve
  | iteration it hpc htodo hrun hit =>
    have hserve : (if it.clientDisconnected then AcceptorPc.leave else .serve) = .serve := hserve
    refine (hs hpc hc).iteration htodo (tcpWorkerIteration_effect hit) ?_
    cases hd : it.clientDisconnected with
    | false => rfl
    | true => rw [hd] at hserve; cases hserve
  | callClient a rest m htodo hm => exact (hs hserve hc).callClient hw hn htodo hm
  | callWorker a rest rx tx htodo hcall => exact (hs hserve hc).callWorker hw htodo hcall
  | worker _ rx tx sent hstep =>
    refine (hs hserve hc).worker hw hp hserve hn hstep ?_
    rintro x ⟨r, w, rfl, hw', hdrop⟩
    rcases hframes with hframes | hframes
    -- frames are counted: the condition gives a modem, so none is dropped
    · have hready := hl hframes w hw'
      rw [hdrop.not_ready] at hready
      cases hready
    -- frames are not counted, and only frames are dropped
    · obtain ⟨-, -, -, -, hframe⟩ := hdrop
      by_contra hne
      rw [Bool.not_eq_false] at hne
      obtain ⟨t, -, ht⟩ := (Option.any_eq_true _ _).mp hne
      rw [Bool.and_eq_true] at ht
      rw [hframes t _ ht.2] at hframe
      cases hframe
  | clientTx l w out hallowed hstep =>
    refine (hs hserve hc).clientTx hw hserve hstep ?_
    rintro rfl
    have hc : s.client.conn = c := hc
    rw [hc]
    exact hl
  | shutdown =>
    have hs := hs hserve hc
    exact ⟨hs.introduced, hs.sockets, hs.balance⟩
  | interruptRx hpc | interruptTx hpc | interruptClientTx hpc =>
    have hserve : s.acceptor = .serve := hserve
    rw [hpc] at hserve
    cases hserve

/-- What holds in every state of a run whose steps meet the condition. -/
structure BalanceInv (part : Part) (c : Nat) (P : Tag → About → Bool) (config : AppConfig)
    (s : Server) : Prop where
  config_eq : s.config = config
  wellFormed : s.WellFormed
  provenance : s.Provenance
  balanced : s.acceptor = .serve → s.client.conn = c → s.Balanced part P

theorem create_balanceInv (config : AppConfig) : (create config).BalanceInv part c P config :=
  ⟨rfl, create_wellFormed config, create_provenance config, nofun⟩

/-- **The requests are accounted for in every run** in which writing to the
connection succeeds. -/
theorem run_balanced {config : AppConfig} {ls : List ServerLabel}
    (hrun : Run step (StaysOpen c frames) (create config) ls s)
    (hn : 4 ≤ config.sdrBufferLen.toNat)
    (hframes : frames = true ∨ ∀ t a, P t a = true → a.frame = false) :
    s.BalanceInv part c P config := by
  refine hrun.invariant (fun s l t hl hstep hs => ?_) (create_balanceInv config)
  have he := step_effect hstep
  refine ⟨he.config_eq.trans hs.config_eq, he.wellFormed hs.wellFormed,
    he.provenance hs.wellFormed hs.provenance, ?_⟩
  refine he.balanced hl hs.wellFormed hs.provenance ?_ hframes hs.balanced
  rw [hs.config_eq]
  exact hn

/-! ## What was received -/

/-- **What was received on the connection is what its script holds**, message by
message. -/
def Follows (s : Server) : Prop :=
  ∃ hs : List Handled,
    s.received.filter (fun r => decide (r.1.conn = s.client.conn)) =
      hs.mapIdx (fun k h => (⟨s.client.conn, k⟩, h)) ∧
    hs.length = s.client.count ∧
    (s.acceptor = .serve →
      handledBy s.config.tcpServer s.client.script =
        hs ++ handledBy s.config.tcpServer s.client.socket)

theorem Follows.iteration (hs : s.Follows) {it : Iteration} (hpc : s.acceptor = .serve)
    (hit : tcpWorkerIteration s.config.tcpServer s.client.socket = some it) :
    (s.afterIteration it).Follows := by
  obtain ⟨hs, hfilter, hlen, hscript⟩ := hs
  have hscript := hscript hpc
  have hnext := handledBy_iteration hit
  refine ⟨hs ++ it.handled.toList, ?_, ?_, ?_⟩
  · show (s.received ++ it.handled.toList.map _).filter _ = _
    rw [List.filter_append]
    show s.received.filter (fun r => decide (r.1.conn = s.client.conn)) ++ _ = _
    rw [hfilter]
    cases it.handled with
    | none => simp [afterIteration]
    | some h => simp [afterIteration, List.mapIdx_append, hlen]
  · simp [afterIteration, hlen]
  · intro hserve
    have hserve : (if it.clientDisconnected then AcceptorPc.leave else .serve) = .serve := hserve
    cases hd : it.clientDisconnected with
    | true => rw [hd] at hserve; cases hserve
    | false =>
      rw [hd] at hnext
      show handledBy s.config.tcpServer s.client.script = _ ++ handledBy s.config.tcpServer it.socket
      rw [hscript, hnext, List.append_assoc]
      rfl

theorem Effect.follows (h : Effect s l s') (hp : s.Provenance) (hs : s.Follows) : s'.Follows := by
  cases h with
  | accepted fd script hpc hfd =>
    refine ⟨[], List.filter_eq_nil_iff.mpr fun r hr => ?_, rfl, fun _ => rfl⟩
    have hlt := (hp.received r hr).1
    show ¬ decide (r.1.conn = s.nextConn) = true
    simp [Nat.ne_of_lt hlt]
  | iteration it hpc htodo hrun hit => exact hs.iteration hpc hit
  | acceptFailed | optionFailed | stopServing | leave | close =>
    obtain ⟨hs, hfilter, hlen, -⟩ := hs
    exact ⟨hs, hfilter, hlen, nofun⟩
  | head pc hpc htodo hpc' =>
    obtain ⟨hs, hfilter, hlen, -⟩ := hs
    refine ⟨hs, hfilter, hlen, fun hserve => ?_⟩
    rcases hpc' with rfl | rfl <;> cases hserve
  | _ => exact hs

/-- What holds in every state of every run. -/
structure FollowsInv (s : Server) : Prop where
  wellFormed : s.WellFormed
  provenance : s.Provenance
  follows : s.Follows

theorem create_followsInv (config : AppConfig) : (create config).FollowsInv :=
  ⟨create_wellFormed config, create_provenance config, [], rfl, rfl, nofun⟩

/-- What was received follows the script in every run. -/
theorem run_follows {config : AppConfig} {allowed : Server → ServerLabel → Prop}
    {ls : List ServerLabel} (hrun : Run step allowed (create config) ls s) : s.FollowsInv := by
  refine hrun.invariant (fun s l t _ hstep hs => ?_) (create_followsInv config)
  have he := step_effect hstep
  exact ⟨he.wellFormed hs.wellFormed, he.provenance hs.wellFormed hs.provenance,
    he.follows hs.provenance hs.follows⟩

end Server
end SdrModem
