import SdrModem.RxWorkerQueue
import SdrModem.ServerShutdown

/-!
# The server never deadlocks

The threads wait for each other in one direction only: the acceptor thread for room in the queues
of the workers, the workers for room in the client queue, and the client tx worker for nobody, as
a write to a descriptor that belongs to no connection fails.  So, as long as `sdr_process_rx`
returns 0 or a timeout, the threads can always come to rest without a new message of the client,
and the server can always be shut down.
-/
namespace SdrModem
open BoundedFifo Machine

/-- How far the acceptor thread is from its end. -/
def AcceptorPc.rank : AcceptorPc → Nat
  | .finished => 0
  | .head | .accepting => 1
  | .close => 2
  | .leave => 3
  | .serve => 4

/-! ## The tx worker -/

/-- How far the tx worker still goes with the command in hand. -/
def TxPc.rank : TxPc → Nat
  | .finished => 0
  | .take => 1
  | .complete => 2
  | .report _ _ _ _ | .respond _ _ _ => 3
  | .processTail _ _ _ | .setParameters _ => 4
  | .flush _ _ => 5
  | .processFrame _ _ => 6
  | .handle _ => 7

namespace TxWorker
variable {w w' : TxWorker} {r : TxResult} {sent : Option Sent}

/-- How many steps the tx worker takes at most. -/
def rank (w : TxWorker) : Nat := 7 * w.queue.pending.length + w.pc.rank

/-- **Every step comes nearer to the end.** -/
theorem Effect.rank_lt (h : Effect w r w' sent) : w'.rank < w.rank := by
  cases h with
  | receive c rest hpc hq =>
    simp only [rank, hpc, hq, TxPc.rank, List.length_cons]
    omega
  | _ => simp [rank, TxPc.rank, ‹w.pc = _›]

/-- The worker can go on: there is a modem when it is to flush one, and no command is in flight
when it takes one. -/
structure Steady (w : TxWorker) : Prop where
  take : w.pc = .take → w.queue.inFlight = none
  modem : ∀ c t, w.pc = .processFrame c t ∨ w.pc = .flush c t → w.modem ≠ none
  finished : w.pc = .finished → w.queue.closed = true

theorem create_steady : create.Steady := ⟨fun _ => rfl, nofun, nofun⟩

theorem Effect.steady (h : Effect w r w' sent) (hw : w.Steady) : w'.Steady := by
  cases h with
  | stopped hpc hclosed => exact ⟨nofun, nofun, fun _ => hclosed⟩
  | modulate c id buffer m m' modulated interpolated output hpc =>
    exact ⟨nofun, fun _ _ _ => nofun, nofun⟩
  | frameTaken c t hpc => exact ⟨nofun, fun _ _ _ => hw.modem c t (Or.inl hpc), nofun⟩
  | complete hpc => exact ⟨fun _ => rfl, nofun, nofun⟩
  | _ => exact ⟨nofun, nofun, nofun⟩

theorem put_steady {bufferSize queueSize : Nat} {c : Item TxCommand}
    (h : w.put bufferSize queueSize c = some w') (hw : w.Steady) : w'.Steady := by
  rcases put_cases h with ⟨-, -, rfl⟩ | ⟨-, rfl⟩
  · exact ⟨hw.take, hw.modem, hw.finished⟩
  · exact hw

/-- **The worker that has not ended can go on**, unless it waits for a command. -/
theorem exists_step (hw : w.Steady) (hfin : w.pc ≠ .finished)
    (hidle : w.pc = .take → w.queue.pending = [] → w.queue.closed = true) :
    ∃ r, (w.step r).isSome = true := by
  cases hpc : w.pc with
  | take =>
    refine ⟨.nothing, ?_⟩
    unfold step
    rw [hpc]
    change (w.takeStep.map _).isSome = true
    unfold takeStep
    split
    · rfl
    · rw [hidle hpc ‹_›]
      rfl
  | handle c =>
    have hmap : ∀ r, (w.step r).isSome = (w.handleStep c r).isSome := by
      intro r
      unfold step
      rw [hpc]
      simp
    cases hval : c.val with
    | frame id buffer =>
      cases hmodem : w.modem with
      | none =>
        refine ⟨.nothing, ?_⟩
        rw [hmap]
        unfold handleStep
        rw [hval]
        simp [hmodem]
      | some m =>
        refine ⟨.modulate none none, ?_⟩
        rw [hmap]
        unfold handleStep
        rw [hval]
        simp [hmodem]
    | commParameters id buffer =>
      by_cases hdecode : apiDecodeCommSettings buffer = none
      · refine ⟨.nothing, ?_⟩
        rw [hmap]
        unfold handleStep
        rw [hval]
        simp [hdecode]
      · refine ⟨.modemCreate false, ?_⟩
        rw [hmap]
        unfold handleStep
        rw [hval]
        simp [hdecode]
  | processFrame c t =>
    refine ⟨.processTx 0, ?_⟩
    unfold step
    rw [hpc]
    rfl
  | flush c t =>
    obtain ⟨m, hm⟩ := Option.ne_none_iff_exists'.mp (hw.modem c t (Or.inr hpc))
    refine ⟨.modulate none none, ?_⟩
    unfold step
    rw [hpc]
    change ((w.flushStep c t none none).map _).isSome = true
    unfold flushStep
    rw [hm]
    rfl
  | processTail c t tail =>
    refine ⟨.processTx 0, ?_⟩
    unfold step
    rw [hpc]
    rfl
  | setParameters c =>
    refine ⟨.setTxParameters false, ?_⟩
    unfold step
    rw [hpc]
    rfl
  | finished => exact absurd hpc hfin
  | _ =>
    refine ⟨.nothing, ?_⟩
    unfold step
    rw [hpc]
    rfl

end TxWorker

/-- The calls of an iteration are for the workers there are. -/
theorem IterationEffect.calls {server : TcpServer} {it : Iteration} (h : IterationEffect server it)
    {a : ServerAct} (ha : a ∈ it.acts) (htx : a.txCommand? ≠ none) : server.hasTxWorker = true := by
  cases h with
  | idle hhandled hacts hdisc =>
    rw [hacts] at ha
    cases ha
  | lost hhandled hacts hdisc =>
    rw [hacts] at ha
    cases List.mem_singleton.mp ha
    exact absurd rfl htx
  | rejected header hhandled hacts =>
    rw [hacts] at ha
    rcases List.mem_cons.mp ha with rfl | ha
    · exact absurd rfl htx
    · split at ha
      · cases List.mem_singleton.mp ha
        exact absurd rfl htx
      · cases ha
  | dispatched header payload hhandled hacts hdisc =>
    by_contra hnone
    rw [Bool.not_eq_true] at hnone
    have hquiet : ∀ a ∈ (tcpWorkerDispatch server header payload).1, a.txCommand? = none := by
      unfold tcpWorkerDispatch
      simp only [hnone, Bool.false_eq_true, if_false]
      repeat' split
      all_goals simp [invalidRequest, ServerAct.txCommand?]
    rw [hacts] at ha
    exact htx (hquiet a ha)

namespace Server
variable {s t : Server} {l : ServerLabel}

/-! ## The invariant -/

/-- **What holds in every state**, with the tx worker and the calls of the acceptor thread. -/
structure Underway (s : Server) : Prop where
  closing : s.Closing
  rx : s.rx.QueueInv
  tx : ∀ w, s.tx = some w → w.Steady
  /-- the tx worker is called only if there is one -/
  calls : ∀ a ∈ s.todo, a.val.txCommand? ≠ none → s.tx.isSome = true
  canTransmit : s.tx.isSome = s.config.canTransmit
  clientTx : s.clientTx.queue.closed = true → ∀ w, s.tx = some w → w.pc = .finished

theorem create_underway (config : AppConfig) : (create config).Underway := by
  refine ⟨create_closing config, ⟨rfl, rfl⟩, ?_, nofun, ?_, nofun⟩
  · intro w hw
    cases hc : config.canTransmit <;> simp [create, hc] at hw
    rw [← hw]
    exact TxWorker.create_steady
  · cases hc : config.canTransmit <;> simp [create, hc]

/-- A step of a worker keeps what the others rely on. -/
theorem WorkerStep.underway {rx : RxWorker} {tx : Option TxWorker} {sent : Option Sent}
    (h : s.WorkerStep l rx tx sent) (hs : s.Underway) :
    rx.QueueInv ∧ (∀ w, tx = some w → w.Steady) ∧
      tx.isSome = s.tx.isSome ∧
      (s.clientTx.queue.closed = true → ∀ w, tx = some w → w.pc = .finished) := by
  cases h with
  | rx r _ _ h =>
    exact ⟨(RxWorker.workerStep_effect h).queueInv hs.rx, hs.tx, rfl, hs.clientTx⟩
  | device r _ _ h =>
    rw [RxWorker.deviceStep_frame h]
    exact ⟨⟨hs.rx.inFlight, hs.rx.accounted⟩, hs.tx, rfl, hs.clientTx⟩
  | tx r w w' _ hw h =>
    refine ⟨hs.rx, ?_, by rw [hw]; rfl, fun hclosed => ?_⟩
    · rintro _ ⟨⟩
      exact (TxWorker.step_effect h).steady (hs.tx w hw)
    · have hpc := hs.clientTx hclosed w hw
      unfold TxWorker.step at h
      rw [hpc] at h
      cases h

theorem WorkerCall.underway {a : Item ServerAct} {rx : RxWorker} {tx : Option TxWorker}
    (h : s.WorkerCall a rx tx) (hs : s.Underway) :
    rx.QueueInv ∧ (∀ w, tx = some w → w.Steady) ∧
      tx.isSome = s.tx.isSome ∧
      (s.clientTx.queue.closed = true → ∀ w, tx = some w → w.pc = .finished) := by
  cases h with
  | rx c _ hc h =>
    rcases RxWorker.put_cases h with ⟨-, -, rfl⟩ | ⟨-, rfl⟩
    · refine ⟨⟨hs.rx.inFlight, ?_⟩, hs.tx, rfl, hs.clientTx⟩
      dsimp only
      rw [hs.rx.accounted, List.append_assoc]
    · exact ⟨hs.rx, hs.tx, rfl, hs.clientTx⟩
  | tx c w w' hc hw h =>
    refine ⟨hs.rx, ?_, by rw [hw]; rfl, fun hclosed => ?_⟩
    · rintro _ ⟨⟩
      exact TxWorker.put_steady h (hs.tx w hw)
    · have hpc := hs.clientTx hclosed w hw
      rintro _ ⟨⟩
      rcases TxWorker.put_cases h with ⟨-, -, rfl⟩ | ⟨-, rfl⟩
      · exact hpc
      · exact hpc

theorem step_underway (hl : l.Timely) (h : s.step l = some t) (hs : s.Underway) : t.Underway := by
  have heffect := step_effect h
  have hclosing := heffect.closing hl hs.closing
  have hrest : ∀ {a : Item ServerAct} {rest : List (Item ServerAct)}, s.todo = a :: rest →
      ∀ b ∈ rest, b.val.txCommand? ≠ none → s.tx.isSome = true := fun htodo b hb =>
    hs.calls b (htodo ▸ List.mem_cons_of_mem _ hb)
  cases heffect with
  | accepted fd script hpc hfd =>
    refine ⟨hclosing, hs.rx, hs.tx, ?_, hs.canTransmit, hs.clientTx⟩
    intro a ha htx
    cases List.mem_singleton.mp ha
    exact absurd rfl htx
  | leave hpc htodo =>
    refine ⟨hclosing, hs.rx, hs.tx, ?_, hs.canTransmit, hs.clientTx⟩
    intro a ha htx
    cases List.mem_singleton.mp ha
    exact absurd rfl htx
  | iteration it hpc htodo hrun hit =>
    refine ⟨hclosing, hs.rx, hs.tx, ?_, hs.canTransmit, hs.clientTx⟩
    intro a ha htx
    obtain ⟨act, hact, rfl⟩ := List.mem_map.mp ha
    exact hs.canTransmit.trans ((tcpWorkerIteration_effect hit).calls hact htx)
  | callClient a rest m htodo hm =>
    refine ⟨hclosing, hs.rx, hs.tx, hrest htodo, hs.canTransmit, fun hclosed => ?_⟩
    exact hs.clientTx ((ClientTxWorker.put_closed m).symm.trans hclosed)
  | callWorker a rest rx tx htodo hcall =>
    obtain ⟨hrx, htx, hsome, hfin⟩ := hcall.underway hs
    exact ⟨hclosing, hrx, htx, fun b hb h => hsome.trans (hrest htodo b hb h),
      hsome.trans hs.canTransmit, hfin⟩
  | worker _ rx tx sent hstep =>
    obtain ⟨hrx, htx, hsome, hfin⟩ := hstep.underway hs
    refine ⟨hclosing, hrx, htx, fun a ha h => hsome.trans (hs.calls a ha h),
      hsome.trans hs.canTransmit, fun hclosed => hfin ?_⟩
    exact (ClientTxWorker.put?_closed sent).symm.trans hclosed
  | clientTx l w out hallowed hstep =>
    refine ⟨hclosing, hs.rx, hs.tx, hs.calls, hs.canTransmit, fun hclosed => hs.clientTx ?_⟩
    exact (ClientTxWorker.step_closed hstep).symm.trans hclosed
  | interruptRx hpc =>
    exact ⟨hclosing, ⟨hs.rx.inFlight, hs.rx.accounted⟩, hs.tx, hs.calls, hs.canTransmit,
      hs.clientTx⟩
  | interruptTx hpc =>
    refine ⟨hclosing, hs.rx, ?_, ?_, ?_, fun hclosed => ?_⟩
    · intro w hw
      obtain ⟨v, hv, rfl⟩ := Option.map_eq_some_iff.mp hw
      exact ⟨(hs.tx v hv).take, (hs.tx v hv).modem, fun _ => rfl⟩
    · exact fun a ha h => Option.isSome_map.trans (hs.calls a ha h)
    · exact Option.isSome_map.trans hs.canTransmit
    · intro w hw
      obtain ⟨v, hv, rfl⟩ := Option.map_eq_some_iff.mp hw
      exact hs.clientTx hclosed v hv
  | interruptClientTx hpc hrx =>
    refine ⟨hclosing, hs.rx, hs.tx, hs.calls, hs.canTransmit, fun _ w hw => ?_⟩
    -- `client_tx_worker_destroy` comes after the tx worker was joined
    simp only [step] at h
    split at h
    · rename_i hcond
      have hall := hcond.2.2
      rw [hw] at hall
      exact of_decide_eq_true hall
    · cases h
  | _ => exact ⟨hclosing, hs.rx, hs.tx, hs.calls, hs.canTransmit, hs.clientTx⟩

theorem run_underway {ls : List ServerLabel} (hrun : Run step (fun _ l => l.Timely) s ls t)
    (hs : s.Underway) : t.Underway :=
  hrun.invariant (fun _ _ _ hl hstep hs => step_underway hl hstep hs) hs

theorem GoesOn.run_timely {ls : List ServerLabel} (h : Run step GoesOn s ls t) :
    Run step (fun _ l => l.Timely) s ls t :=
  h.mono fun _ _ h => h.timely

/-! ## The workers come to rest -/

/-- The tx worker waits for a command, or it has ended. -/
def TxAtRest (s : Server) : Prop :=
  ∀ w, s.tx = some w → w.pc = .finished ∨
    (w.queue.closed = false ∧ w.pc = .take ∧ w.queue.pending = [])

/-- The queue of the tx worker is as it was. -/
def SameTxQueue (s t : Server) : Prop :=
  ∀ w', t.tx = some w' → ∃ w, s.tx = some w ∧ w'.queue.closed = w.queue.closed

/-- **The tx worker can come to rest.** -/
theorem exists_txAtRest (hs : s.Underway) (hq : 0 < s.config.queueSize.toNat)
    (hpc : s.clientTx.pc ≠ .finished) :
    ∃ ls t, Run step GoesOn s ls t ∧ s.Keeps t ∧ t.rx = s.rx ∧ t.TxAtRest ∧ s.SameTxQueue t ∧
      t.clientTx.pc ≠ .finished ∧ t.clientTx.queue.closed = s.clientTx.queue.closed := by
  induction hn : s.tx.elim 0 TxWorker.rank using Nat.strong_induction_on generalizing s with
  | h n ih =>
    by_cases hrests : s.TxAtRest
    · exact ⟨[], s, rfl, .refl s, rfl, hrests, fun w hw => ⟨w, hw, rfl⟩, hpc, rfl⟩
    · obtain ⟨w, hrests⟩ := not_forall.mp hrests
      obtain ⟨hw, hrests⟩ := Classical.not_imp.mp hrests
      obtain ⟨hfin, hwaits⟩ := not_or.mp hrests
      have hidle : w.pc = .take → w.queue.pending = [] → w.queue.closed = true := by
        intro htake hpending
        by_contra hopen
        exact hwaits ⟨Bool.eq_false_iff.mpr hopen, htake, hpending⟩
      obtain ⟨r, hsome⟩ := TxWorker.exists_step (hs.tx w hw) hfin hidle
      obtain ⟨⟨w', sent⟩, hstep⟩ := Option.isSome_iff_exists.mp hsome
      have heffect := TxWorker.step_effect hstep
      have hgoes : s.GoesOn (.tx r) := trivial
      obtain ⟨ls, t, ht, hkeeps, hrx, htx, htpc, htclosed⟩ :=
        exists_worked hs.closing.clientTx hq hpc hgoes (.tx r w w' sent hw hstep)
      have hless : t.tx.elim 0 TxWorker.rank < n := by
        rw [htx, ← hn, hw]
        exact heffect.rank_lt
      obtain ⟨ms, u, hu, hukeeps, hurx, hurests, husame, hupc, huclosed⟩ :=
        ih _ hless (run_underway (GoesOn.run_timely ht) hs) (by rw [hkeeps.config]; exact hq)
          htpc rfl
      refine ⟨_, u, ht.append hu, hkeeps.trans hukeeps, hurx.trans hrx, hurests, fun v hv => ?_,
        hupc, huclosed.trans htclosed⟩
      obtain ⟨v', hv', hclosed⟩ := husame v hv
      rw [htx] at hv'
      cases hv'
      exact ⟨w, hw, hclosed.trans heffect.closed⟩

/-! ## The acceptor thread makes its calls -/

theorem putRx_isSome {c : Item RxCommand} (hpending : s.rx.queue.pending = [])
    (hflight : s.rx.queue.inFlight = none) : (s.putRx c).isSome = true := by
  have hroom : s.rx.queue.used < sdrRxMessageQueueSize := by
    rw [Fifo.used, hpending, hflight]
    exact Nat.succ_pos 7
  have hoffer : (offer sdrRxMessageQueueSize (fitsRx s.config.sdrBufferLen.toNat) s.rx.queue
      c).isSome = true := offer_isSome hroom
  rw [putRx, Option.isSome_map, RxWorker.put]
  unfold offer at hoffer
  split
  · rfl
  · rename_i hput
    rw [hput] at hoffer
    rw [Option.isSome_map]
    exact hoffer

theorem putTx_isSome {c : Item TxCommand} {w : TxWorker} (hw : s.tx = some w)
    (hq : 0 < s.config.queueSize.toNat) (hpending : w.queue.pending = [])
    (hflight : w.queue.inFlight = none) : (s.putTx c).isSome = true := by
  rw [putTx, hw, Option.bind_some, Option.isSome_map, TxWorker.put, Option.isSome_map]
  refine offer_isSome ?_
  rw [Fifo.used, hpending, hflight]
  exact hq

/-- What a call of the acceptor thread leaves as it was. -/
theorem keeps_perform {u : Server} {a : Item ServerAct} (h : s.perform a = some u) : s.Keeps u := by
  have hclient : ∀ {m}, s.putClient m = some u → s.Keeps u := by
    intro m hm
    obtain ⟨q, -, rfl⟩ := Option.map_eq_some_iff.mp hm
    exact ⟨rfl, rfl, rfl, rfl, rfl, rfl, rfl⟩
  have hrx : ∀ {c}, s.putRx c = some u → s.Keeps u := by
    intro c hc
    obtain ⟨w, -, rfl⟩ := Option.map_eq_some_iff.mp hc
    exact ⟨rfl, rfl, rfl, rfl, rfl, rfl, rfl⟩
  have htx : ∀ {c}, s.putTx c = some u → s.Keeps u := by
    intro c hc
    obtain ⟨w, -, hput⟩ := Option.bind_eq_some_iff.mp hc
    obtain ⟨w', -, rfl⟩ := Option.map_eq_some_iff.mp hput
    exact ⟨rfl, rfl, rfl, rfl, rfl, rfl, rfl⟩
  unfold perform at h
  split at h
  · exact hclient h
  · exact hclient h
  · exact hrx h
  · exact hrx h
  · exact hrx h
  · exact htx h
  · exact htx h

/-- **The next call can be made.** -/
theorem exists_called (hs : s.Underway) (hq : 0 < s.config.queueSize.toNat) {a : Item ServerAct}
    {rest : List (Item ServerAct)} (htodo : s.todo = a :: rest) :
    ∃ ls t, Run step GoesOn s ls t ∧ ({ s with todo := rest } : Server).Keeps t := by
  have hserving := hs.closing.wellFormed.serving_of_todo htodo
  have hopen := hs.closing.wellFormed.queuesOpen (by intro h; rw [h] at hserving; cases hserving)
  have hpc : s.clientTx.pc ≠ .finished := by
    intro hfin
    have hclosed := hs.closing.clientTx.finished hfin
    rw [hopen.clientTx] at hclosed
    cases hclosed
  -- after the way to a state with room it is one step more
  have hcall : ∀ {ls u}, Run step GoesOn s ls u → s.Keeps u →
      (({ u with todo := rest } : Server).perform a).isSome = true →
      ∃ ls t, Run step GoesOn s ls t ∧ ({ s with todo := rest } : Server).Keeps t := by
    intro ls u hu hkeeps hsome
    obtain ⟨v, hv⟩ := Option.isSome_iff_exists.mp hsome
    have hutodo : u.todo = a :: rest := hkeeps.todo.trans htodo
    have hgoes : u.GoesOn .acceptor := by
      rw [GoesOn, hutodo]
      exact List.cons_ne_nil a rest
    have hstep : u.step .acceptor = some v := by
      simp only [step, hutodo]
      exact hv
    have hfirst : ({ s with todo := rest } : Server).Keeps { u with todo := rest } :=
      ⟨hkeeps.config, hkeeps.isRunning, hkeeps.acceptor, rfl, hkeeps.client, hkeeps.isOpen,
        hkeeps.received⟩
    exact ⟨_, v, hu.append (Run.single hgoes hstep), hfirst.trans (keeps_perform hv)⟩
  have hclient : ∀ m, (∀ u : Server, u.perform a = u.putClient m) →
      ∃ ls t, Run step GoesOn s ls t ∧ ({ s with todo := rest } : Server).Keeps t := by
    intro m hm
    obtain ⟨ls, u, hu, hkeeps, -, -, hrests, -⟩ := exists_drained hs.closing.clientTx hpc
    refine hcall hu hkeeps ?_
    rw [hm]
    exact putClient?_isSome (s := { u with todo := rest }) (by rw [hkeeps.config]; exact hq) hrests
      (some m)
  have hrx : ∀ c, (∀ u : Server, u.perform a = u.putRx c) →
      ∃ ls t, Run step GoesOn s ls t ∧ ({ s with todo := rest } : Server).Keeps t := by
    intro c hc
    obtain ⟨ls, u, hu, hkeeps, -, hclosed, hrests, -⟩ := exists_rxAtRest hs.closing hq hpc
    have huinv := run_underway (GoesOn.run_timely hu) hs
    obtain ⟨hloop, hpending⟩ : u.rx.pc = .loop ∧ u.rx.queue.pending = [] := by
      rcases hrests with hfin | ⟨-, hwaits⟩
      · have hshut := (huinv.closing.leavesOff.finished hfin).1
        rw [hclosed, hopen.rx] at hshut
        cases hshut
      · exact hwaits
    refine hcall hu hkeeps ?_
    rw [hc]
    exact putRx_isSome (s := { u with todo := rest }) hpending
      (by rw [huinv.rx.inFlight, hloop]; rfl)
  have htx : ∀ c, a.val.txCommand? ≠ none → (∀ u : Server, u.perform a = u.putTx c) →
      ∃ ls t, Run step GoesOn s ls t ∧ ({ s with todo := rest } : Server).Keeps t := by
    intro c hcommand hc
    obtain ⟨ls, u, hu, hkeeps, -, hrests, hsame, -⟩ := exists_txAtRest hs hq hpc
    have huinv := run_underway (GoesOn.run_timely hu) hs
    obtain ⟨w, hw⟩ := Option.isSome_iff_exists.mp (huinv.calls a
      (hkeeps.todo.trans htodo ▸ List.mem_cons_self) hcommand)
    obtain ⟨v, hv, hclosed⟩ := hsame w hw
    obtain ⟨htake, hpending⟩ : w.pc = .take ∧ w.queue.pending = [] := by
      rcases hrests w hw with hfin | ⟨-, hwaits⟩
      · have hshut := (huinv.tx w hw).finished hfin
        rw [hclosed, hopen.tx v hv] at hshut
        cases hshut
      · exact hwaits
    refine hcall hu hkeeps ?_
    rw [hc]
    exact putTx_isSome (s := { u with todo := rest }) hw (by rw [hkeeps.config]; exact hq) hpending
      ((huinv.tx w hw).take htake)
  obtain ⟨val, tag⟩ := a
  cases val with
  | sendResponse id status details => exact hclient _ fun _ => rfl
  | sendNew clientSocket => exact hclient _ fun _ => rfl
  | setRxCommParameters id settings => exact hrx _ fun _ => rfl
  | startRx id => exact hrx _ fun _ => rfl
  | stopRx id => exact hrx _ fun _ => rfl
  | setTxCommParameters id settings => exact htx _ (fun h => by cases h) fun _ => rfl
  | sendFrame id frame => exact htx _ (fun h => by cases h) fun _ => rfl

/-- While the acceptor thread is there, so is the client tx worker. -/
theorem Underway.clientTx_pc (hs : s.Underway) (hacceptor : s.acceptor ≠ .finished) :
    s.clientTx.pc ≠ .finished := by
  intro hfin
  have hclosed := hs.closing.clientTx.finished hfin
  rw [(hs.closing.wellFormed.queuesOpen hacceptor).clientTx] at hclosed
  cases hclosed

/-! ## All threads wait -/

/-- **Every thread waits for something new.** -/
structure Waiting (s : Server) : Prop where
  todo : s.todo = []
  rx : s.rx.pc = .loop ∧ s.rx.queue.pending = []
  tx : ∀ w, s.tx = some w → w.pc = .take ∧ w.queue.pending = []
  clientTx : s.clientTx.Resting

theorem Waiting.working (h : s.Waiting) : s.working = [] := by
  have hrx : s.rx.owed = [] := by
    rw [RxWorker.owed, RxWorker.unanswered, h.rx.1, h.rx.2]
    rfl
  rw [Server.working, owedBy, hrx]
  cases htx : s.tx with
  | none => rfl
  | some w =>
    obtain ⟨hpc, hpending⟩ := h.tx w htx
    rw [Option.elim_some, TxWorker.owed, TxWorker.unanswered, hpc, hpending]
    rfl

/-- **All calls can be made and all commands handled**, while the acceptor thread is there. -/
theorem exists_waiting (hs : s.Underway) (hq : 0 < s.config.queueSize.toNat)
    (hacceptor : s.acceptor ≠ .finished) :
    ∃ ls t, Run step GoesOn s ls t ∧ ({ s with todo := [] } : Server).Keeps t ∧ t.Waiting := by
  induction htodo : s.todo generalizing s with
  | cons a rest ih =>
    obtain ⟨ls, t, ht, hkeeps⟩ := exists_called hs hq htodo
    obtain ⟨ms, u, hu, hukeeps, hwaits⟩ := ih (run_underway (GoesOn.run_timely ht) hs)
      (by rw [hkeeps.config]; exact hq) (by rw [hkeeps.acceptor]; exact hacceptor) hkeeps.todo
    refine ⟨_, u, ht.append hu, ?_, hwaits⟩
    exact ⟨hukeeps.config.trans hkeeps.config, hukeeps.isRunning.trans hkeeps.isRunning,
      hukeeps.acceptor.trans hkeeps.acceptor, hukeeps.todo, hukeeps.client.trans hkeeps.client,
      hukeeps.isOpen.trans hkeeps.isOpen, hukeeps.received.trans hkeeps.received⟩
  | nil =>
    -- first the rx worker, then the tx worker, and at last the client tx worker
    have hopen := hs.closing.wellFormed.queuesOpen hacceptor
    obtain ⟨ls, t, ht, hkeeps, htx, hclosed, hrx, hpc, -⟩ :=
      exists_rxAtRest hs.closing hq (hs.clientTx_pc hacceptor)
    have htinv := run_underway (GoesOn.run_timely ht) hs
    obtain ⟨ms, u, hu, hukeeps, hurx, hutx, husame, hupc, -⟩ :=
      exists_txAtRest htinv (by rw [hkeeps.config]; exact hq) hpc
    have huinv := run_underway (GoesOn.run_timely hu) htinv
    obtain ⟨ks, v, hv, hvkeeps, hvrx, hvtx, hrests, -⟩ :=
      exists_drained huinv.closing.clientTx hupc
    have hkept : s.Keeps v := (hkeeps.trans hukeeps).trans hvkeeps
    refine ⟨_, v, (ht.append hu).append hv, ?_, hkept.todo.trans htodo, ?_, ?_, hrests⟩
    · exact ⟨hkept.config, hkept.isRunning, hkept.acceptor, hkept.todo.trans htodo, hkept.client,
        hkept.isOpen, hkept.received⟩
    · rw [hvrx, hurx]
      refine (hrx.resolve_left fun hfin => ?_).2
      have hshut := (htinv.closing.leavesOff.finished hfin).1
      rw [hclosed, hopen.rx] at hshut
      cases hshut
    · intro w hw
      rw [hvtx] at hw
      refine ((hutx w hw).resolve_left fun hfin => ?_).2
      obtain ⟨w', hw', hsame⟩ := husame w hw
      have hshut := (huinv.tx w hw).finished hfin
      rw [htx] at hw'
      rw [hsame, hopen.tx w' hw'] at hshut
      cases hshut

/-! ## The way to the end -/

/-- **No client is accepted and the device does not fail**; a write fails only when the
descriptor belongs to nobody. -/
def Closes (s : Server) : ServerLabel → Prop
  | .accept clientSocket _ _ => clientSocket < 0
  | .rx r => r.Timely
  | .clientTx (.write false) => s.owner s.clientTx.clientSocket = none
  | _ => True

theorem Closes.timely (h : s.Closes l) : l.Timely := by
  cases l with
  | rx r => exact h
  | _ => trivial

theorem GoesOn.closes (h : s.GoesOn l) : s.Closes l := by
  cases l with
  | accept fd script ok => exact h.elim
  | rx r => exact h
  | clientTx l =>
    cases l with
    | next => trivial
    | write ok =>
      cases ok with
      | false => exact h
      | true => trivial
  | _ => trivial

theorem Closes.run_underway {ls : List ServerLabel} (h : Run step Closes s ls t)
    (hs : s.Underway) : t.Underway :=
  Server.run_underway (h.mono fun _ _ h => h.timely) hs

/-- The next step of the acceptor thread, with no call left to make. -/
theorem exists_acceptorStep (htodo : s.todo = []) (hrunning : s.isRunning = false)
    (hacceptor : s.acceptor ≠ .finished) :
    ∃ l t, s.Closes l ∧ s.step l = some t ∧ t.acceptor.rank < s.acceptor.rank ∧
      t.isRunning = false := by
  have hstep : s.step .acceptor = s.acceptorStep := by simp only [step, htodo]
  cases hpc : s.acceptor with
  | head =>
    rw [acceptorStep, hpc, hrunning] at hstep
    exact ⟨.acceptor, _, trivial, hstep, Nat.one_pos, rfl⟩
  | accepting =>
    have haccept : s.step (.accept (-1) [] false) = some { s with acceptor := .finished } := by
      simp only [step, hpc, if_true]
      rfl
    have hcloses : s.Closes (.accept (-1) [] false) := by
      rw [Closes]
      decide
    exact ⟨.accept (-1) [] false, _, hcloses, haccept, Nat.one_pos, hrunning⟩
  | serve =>
    rw [acceptorStep, hpc, hrunning] at hstep
    exact ⟨.acceptor, _, trivial, hstep, Nat.lt_succ_self 3, rfl⟩
  | leave =>
    rw [acceptorStep, hpc] at hstep
    exact ⟨.acceptor, _, trivial, hstep, Nat.lt_succ_self 2, hrunning⟩
  | close =>
    rw [acceptorStep, hpc] at hstep
    exact ⟨.acceptor, _, trivial, hstep, Nat.lt_succ_self 1, hrunning⟩
  | finished => exact absurd hpc hacceptor

/-- **The acceptor thread can end** after `tcp_server_shutdown`. -/
theorem exists_acceptorFinished (hs : s.Underway) (hq : 0 < s.config.queueSize.toNat)
    (hrunning : s.isRunning = false) :
    ∃ ls t, Run step Closes s ls t ∧ t.acceptor = .finished := by
  induction hn : s.acceptor.rank using Nat.strong_induction_on generalizing s with
  | h n ih =>
    by_cases hfin : s.acceptor = .finished
    · exact ⟨[], s, rfl, hfin⟩
    · obtain ⟨ls, t, ht, hkeeps, hwaits⟩ := exists_waiting hs hq hfin
      have hacceptor : t.acceptor = s.acceptor := hkeeps.acceptor
      obtain ⟨l, u, hl, hstep, hlt, hurunning⟩ :=
        exists_acceptorStep hwaits.todo (hkeeps.isRunning.trans hrunning) (hacceptor ▸ hfin)
      rw [hacceptor, hn] at hlt
      have hrun := (ht.mono fun _ _ h => GoesOn.closes h).append (Run.single hl hstep)
      obtain ⟨ms, v, hv, hvfin⟩ := ih _ hlt (Closes.run_underway hrun hs)
        (by rw [run_config hrun]; exact hq) hurunning rfl
      exact ⟨_, v, hrun.append hv, hvfin⟩

/-- **Every thread has ended**, the receiver is off and no client is connected. -/
structure Ended (s : Server) : Prop where
  acceptor : s.acceptor = .finished
  rx : s.rx.pc = .finished
  tx : ∀ w, s.tx = some w → w.pc = .finished
  clientTx : s.clientTx.pc = .finished

/-- **The workers can end** when the acceptor thread has ended. -/
theorem exists_ended (hs : s.Underway) (hq : 0 < s.config.queueSize.toNat)
    (hacceptor : s.acceptor = .finished) : ∃ ls t, Run step Closes s ls t ∧ t.Ended := by
  by_cases hpc : s.clientTx.pc = .finished
  · -- its queue is interrupted last
    have hclosed := hs.closing.clientTx.finished hpc
    exact ⟨[], s, rfl, hacceptor, hs.closing.clientOpen hclosed, hs.clientTx hclosed, hpc⟩
  · -- `sdr_rx_worker_destroy`
    have hrx : s.step .interruptRx = some { s with rx := s.rx.interrupt } := by
      rw [step, if_pos hacceptor]
    have hfirst : Run step Closes s [.interruptRx] { s with rx := s.rx.interrupt } :=
      Run.single trivial hrx
    obtain ⟨ls, t, ht, htkeeps, -, htclosed, htrests, htpc, -⟩ :=
      exists_rxAtRest (s := { s with rx := s.rx.interrupt })
        (Closes.run_underway hfirst hs).closing hq hpc
    have htfin : t.rx.pc = .finished := by
      refine htrests.resolve_right fun h => ?_
      rw [htclosed] at h
      cases h.1
    have htacceptor : t.acceptor = .finished := htkeeps.acceptor.trans hacceptor
    have hrun := hfirst.append (ht.mono fun _ _ h => GoesOn.closes h)
    -- `sdr_tx_worker_destroy`
    have htx : t.step .interruptTx = some { t with tx := t.tx.map TxWorker.interrupt } := by
      rw [step, if_pos ⟨htacceptor, htfin⟩]
    have htcloses : t.Closes .interruptTx := trivial
    have hrun := hrun.append (Run.single htcloses htx)
    obtain ⟨ms, u, hu, hukeeps, hurx, hurests, husame, hupc, -⟩ :=
      exists_txAtRest (s := { t with tx := t.tx.map TxWorker.interrupt })
        (Closes.run_underway hrun hs) (by rw [htkeeps.config]; exact hq) htpc
    have hufin : ∀ w, u.tx = some w → w.pc = .finished := by
      intro w hw
      refine (hurests w hw).resolve_right fun h => ?_
      obtain ⟨w', hw', hsame⟩ := husame w hw
      obtain ⟨v, -, rfl⟩ := Option.map_eq_some_iff.mp hw'
      rw [hsame] at h
      cases h.1
    have huacceptor : u.acceptor = .finished := hukeeps.acceptor.trans htacceptor
    have hurxfin : u.rx.pc = .finished := (congrArg RxWorker.pc hurx).trans htfin
    have hrun := hrun.append (hu.mono fun _ _ h => GoesOn.closes h)
    -- `client_tx_worker_destroy`
    have hall : (u.tx.all fun w => decide (w.pc = .finished)) = true := by
      cases htx : u.tx with
      | none => rfl
      | some w => exact decide_eq_true (hufin w htx)
    have hclient : u.step .interruptClientTx = some { u with
        clientTx := { u.clientTx with queue := { u.clientTx.queue with closed := true } } } := by
      rw [step, if_pos ⟨huacceptor, hurxfin, hall⟩]
    have hucloses : u.Closes .interruptClientTx := trivial
    have hrun := hrun.append (Run.single hucloses hclient)
    obtain ⟨ks, v, hv, hvkeeps, hvrx, hvtx, hrests, hclosed⟩ :=
      exists_drained (s := { u with
        clientTx := { u.clientTx with queue := { u.clientTx.queue with closed := true } } })
        (Closes.run_underway hrun hs).closing.clientTx hupc
    have hrun := hrun.append (hv.mono fun _ _ h => GoesOn.closes h)
    have hlast : v.step (.clientTx .next) =
        some { v with
          clientTx := { v.clientTx with pc := .finished }, written := v.record none } := by
      simp only [step, writeAllowed, if_true, ClientTxWorker.step, hrests.pc, hrests.pending,
        hclosed, Option.map_some]
    have hvcloses : v.Closes (.clientTx .next) := trivial
    refine ⟨_, _, hrun.append (Run.single hvcloses hlast), hvkeeps.acceptor.trans huacceptor,
      ?_, ?_, rfl⟩
    · exact (congrArg RxWorker.pc hvrx).trans hurxfin
    · intro w hw
      exact hufin w (hvtx ▸ hw)

end Server

/-- **The threads always come to rest.**  After any run in which `sdr_process_rx` returns 0 or a
timeout, as long as the acceptor thread is there: without a new message of the client, a new
callback of the device or a failed write to a connection that is open, all calls of the acceptor
thread can be made, all commands handled and all answers written, so that every thread waits for
something new. -/
theorem server_settles {raw config : AppConfig} {ls : List ServerLabel} {s : Server}
    (hconfig : appConfigValidate raw = some config)
    (hrun : Run Server.step (fun _ l => l.Timely) (Server.create config) ls s)
    (hacceptor : s.acceptor ≠ .finished) :
    ∃ ms t, Run Server.step Server.GoesOn s ms t ∧ t.Waiting ∧ t.working = [] ∧
      t.acceptor = s.acceptor ∧ t.client = s.client ∧ t.received = s.received := by
  have hs := Server.run_underway hrun (Server.create_underway config)
  have hq : 0 < s.config.queueSize.toNat := by
    rw [Server.run_config hrun]
    exact queueSize_pos hconfig
  obtain ⟨ms, t, ht, hkeeps, hwaits⟩ := Server.exists_waiting hs hq hacceptor
  exact ⟨ms, t, ht, hwaits, hwaits.working, hkeeps.acceptor, hkeeps.client, hkeeps.received⟩

/-- A ping and a switch of the receiver were received, and nothing was handled. -/
theorem server_settles_after_start :
    ∃ s, exec (restrict Server.step fun _ l => l.Timely) (Server.create smallConfig)
        (readFirst [rxStart, ping] ++ readNext) = some s ∧ s.working ≠ [] ∧
      ∃ ms t, Run Server.step Server.GoesOn s ms t ∧ t.Waiting ∧ t.working = [] ∧
        t.received = s.received := by
  refine exists_exec rfl fun s hs => ?_
  have hstate : s.acceptor ≠ .finished ∧ s.working ≠ [] := by
    cases hs
    exact ⟨(fun h => by cases h), (fun h => by cases h)⟩
  obtain ⟨ms, t, ht, hwaits, hworking, -, -, hreceived⟩ := server_settles
    (show appConfigValidate smallConfig = some smallConfig from rfl) (run_of_exec hs) hstate.1
  exact ⟨hstate.2, ms, t, ht, hwaits, hworking, hreceived⟩

/-- **The server can always be shut down.**  After any run in which `sdr_process_rx` returns 0 or a
timeout, there is a way, without another client, to a state in which every thread has ended; and
then the receiver is off and no client is connected. -/
theorem server_shuts_down {raw config : AppConfig} {ls : List ServerLabel} {s : Server}
    (hconfig : appConfigValidate raw = some config)
    (hrun : Run Server.step (fun _ l => l.Timely) (Server.create config) ls s) :
    ∃ ms t, Run Server.step Server.Closes s ms t ∧ t.Ended ∧ t.isOpen = false ∧ t.todo = [] ∧
      t.rx.rxEnabled = false ∧ t.rx.streaming = false ∧ t.rx.device = none := by
  have hs := Server.run_underway hrun (Server.create_underway config)
  have hq : 0 < s.config.queueSize.toNat := by
    rw [Server.run_config hrun]
    exact queueSize_pos hconfig
  have hdown : s.step .shutdown = some { s with isRunning := false } := rfl
  have hfirst : Run Server.step Server.Closes s [.shutdown] { s with isRunning := false } :=
    Run.single trivial hdown
  obtain ⟨ms, t, ht, hacceptor⟩ :=
    Server.exists_acceptorFinished (s := { s with isRunning := false })
      (Server.Closes.run_underway hfirst hs) hq rfl
  have hrun := hfirst.append ht
  obtain ⟨ks, u, hu, hended⟩ := Server.exists_ended (Server.Closes.run_underway hrun hs)
    (by rw [Server.run_config hrun]; exact hq) hacceptor
  have huinv := Server.Closes.run_underway (hrun.append hu) hs
  have houtside := huinv.closing.wellFormed.outside (by rw [hended.acceptor]; rfl)
  obtain ⟨hclosed, hpending⟩ := huinv.closing.leavesOff.finished hended.rx
  have hoff := (huinv.closing.endsOff hclosed).rxEnabled (by rw [hended.rx]; rfl) hpending
  obtain ⟨hstreaming, hdevice⟩ := huinv.closing.quiet.device hoff
  exact ⟨_, u, hrun.append hu, hended, houtside.1, houtside.2, hoff, hstreaming, hdevice⟩

/-- A client has switched the receiver on, and then nobody does anything. -/
theorem server_shuts_down_streaming :
    ∃ s, exec (restrict Server.step fun _ l => l.Timely) (Server.create smallConfig)
        (readFirst [rxStart] ++ switchOn) = some s ∧ s.rx.streaming = true ∧ s.isOpen = true ∧
      ∃ ms t, Run Server.step Server.Closes s ms t ∧ t.Ended ∧ t.rx.streaming = false ∧
        t.isOpen = false := by
  refine exists_exec rfl fun s hs => ?_
  have hstate : s.rx.streaming = true ∧ s.isOpen = true := by
    cases hs
    exact ⟨rfl, rfl⟩
  obtain ⟨ms, t, ht, hended, hopen, -, -, hstreaming, -⟩ := server_shuts_down
    (show appConfigValidate smallConfig = some smallConfig from rfl) (run_of_exec hs)
  exact ⟨hstate.1, hstate.2, ms, t, ht, hended, hstreaming, hopen⟩

end SdrModem
