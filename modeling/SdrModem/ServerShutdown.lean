import SdrModem.ServerBarrier
import SdrModem.RxWorkerShutdown

/-!
# The receive side at shutdown

`tcp_server_destroy` joins the acceptor thread and interrupts the queue of the rx
worker.  The worker ends with the receiver off, because the acceptor thread leaves an
RX_STOP behind every client, as the last command for the worker
(`Server.LeavesOff`).

The bound on the iterations is one thing, and that the worker ends is another: it may
have to wait for the thread of the device or for room in the client queue.  From every
state there is a way to the end, in which these threads take their steps.
-/
namespace SdrModem
open BoundedFifo Machine

/-- `sdr_process_rx` succeeds or has a timeout. -/
def ServerLabel.Timely : ServerLabel → Prop
  | .rx r => r.Timely
  | _ => True

instance : (l : ServerLabel) → Decidable l.Timely
  | .rx r => inferInstanceAs (Decidable r.Timely)
  | .shutdown | .accept _ _ _ | .acceptor | .device _ | .tx _ | .clientTx _ | .interruptRx
  | .interruptTx | .interruptClientTx => instDecidableTrue

namespace Server
variable {s s' : Server} {l : ServerLabel}

/-! ## The last command -/

/-- **The receiver is left off**: a client that is gone has left an RX_STOP behind, as
the last command. -/
structure LeavesOff (s : Server) : Prop where
  outside : s.acceptor.serving = false → s.rx.EndsOff
  close : s.acceptor = .close → s.todo = [⟨.stopRx 0, none⟩] ∨ (s.todo = [] ∧ s.rx.EndsOff)
  finished : s.rx.pc = .finished → s.rx.queue.closed = true ∧ s.rx.queue.pending = []

theorem create_leavesOff (config : AppConfig) : (create config).LeavesOff :=
  ⟨fun _ => rfl, nofun, nofun⟩

/-- A worker does not touch where `rx_enabled` ends, and ends when its queue is empty. -/
theorem WorkerStep.leavesOff {rx : RxWorker} {tx : Option TxWorker} {sent : Option Sent}
    (h : s.WorkerStep l rx tx sent) (hl : l.Timely) (hs : s.LeavesOff) :
    rx.rxAfter = s.rx.rxAfter ∧
      (rx.pc = .finished → rx.queue.closed = true ∧ rx.queue.pending = []) := by
  cases h with
  | rx r _ _ h =>
    have heffect := RxWorker.workerStep_effect h
    refine ⟨heffect.rxAfter_eq, fun hfin => ?_⟩
    obtain ⟨-, hqueue, ⟨hpending, hclosed⟩ | ⟨code, outputLen, rfl, hcode, hne, -⟩⟩ :=
      heffect.finished hfin
    · rw [hqueue]
      exact ⟨hclosed, hpending⟩
    · exact absurd hl (not_or.mpr ⟨hne, hcode⟩)
  | device r _ _ h =>
    refine ⟨RxWorker.deviceStep_rxAfter h, ?_⟩
    rw [RxWorker.deviceStep_frame h]
    exact hs.finished
  | tx r w w' _ hw h => exact ⟨rfl, hs.finished⟩

/-- A call leaves an ended worker alone. -/
theorem WorkerCall.finished {a : Item ServerAct} {rx : RxWorker} {tx : Option TxWorker}
    (h : s.WorkerCall a rx tx) (hs : s.LeavesOff) (hfin : rx.pc = .finished) :
    rx.queue.closed = true ∧ rx.queue.pending = [] := by
  have hpc : s.rx.pc = .finished := h.rx_pc.1 ▸ hfin
  obtain ⟨hclosed, hpending⟩ := hs.finished hpc
  cases h with
  | rx c _ hc h =>
    rcases RxWorker.put_cases h with ⟨hopen, -, -⟩ | ⟨-, rfl⟩
    · rw [hclosed] at hopen
      cases hopen
    · exact ⟨hclosed, hpending⟩
  | tx => exact ⟨hclosed, hpending⟩

/-- `sdr_rx_worker_stop(0)` comes last. -/
theorem WorkerCall.endsOff {rx : RxWorker} {tx : Option TxWorker}
    (h : s.WorkerCall ⟨.stopRx 0, none⟩ rx tx) (hopen : s.rx.queue.closed = false) :
    rx.EndsOff := by
  cases h with
  | rx c _ hc h =>
    cases hc
    rcases RxWorker.put_cases h with ⟨-, -, rfl⟩ | ⟨hrefused, -⟩
    · exact RxWorker.rxAfter_put
    · rcases hrefused with hclosed | hfits
      · rw [hopen] at hclosed
        cases hclosed
      · simp [fitsRx, RxCommand.bufferLen] at hfits
  | tx c w w' hc => cases hc

theorem Effect.leavesOff (h : Effect s l s') (hl : l.Timely) (hw : s.WellFormed)
    (hs : s.LeavesOff) : s'.LeavesOff := by
  cases h with
  | acceptFailed fd script ok hpc hfd =>
    exact ⟨fun _ => hs.outside (by rw [hpc]; rfl), by rintro ⟨⟩, hs.finished⟩
  | optionFailed fd script hpc =>
    exact ⟨fun _ => hs.outside (by rw [hpc]; rfl), by rintro ⟨⟩, hs.finished⟩
  | accepted fd script hpc hfd => exact ⟨by rintro ⟨⟩, by rintro ⟨⟩, hs.finished⟩
  | head pc hpc htodo hpc' =>
    refine ⟨fun _ => hs.outside (by rw [hpc]; rfl), fun hclose => ?_, hs.finished⟩
    rcases hpc' with rfl | rfl <;> cases hclose
  | iteration it hpc htodo hrun hit =>
    refine ⟨fun hout => ?_, fun hclose => ?_, hs.finished⟩
    · unfold afterIteration at hout
      cases hd : it.clientDisconnected <;> simp [hd, AcceptorPc.serving] at hout
    · unfold afterIteration at hclose
      cases hd : it.clientDisconnected <;> simp [hd] at hclose
  | stopServing hpc htodo hrun => exact ⟨by rintro ⟨⟩, by rintro ⟨⟩, hs.finished⟩
  | leave hpc htodo => exact ⟨by rintro ⟨⟩, fun _ => Or.inl rfl, hs.finished⟩
  | close hpc htodo =>
    refine ⟨fun _ => ?_, by rintro ⟨⟩, hs.finished⟩
    rcases hs.close hpc with hcall | ⟨-, hoff⟩
    · rw [htodo] at hcall
      cases hcall
    · exact hoff
  | callClient a rest m htodo hm =>
    have hserving := hw.serving_of_todo htodo
    refine ⟨fun hout => ?_, fun hclose => ?_, hs.finished⟩
    · rw [show s.acceptor.serving = false from hout] at hserving
      cases hserving
    · -- the only call left is for the rx worker
      rcases hs.close hclose with hcall | ⟨hnil, -⟩
      · rw [htodo] at hcall
        cases hcall
        cases hm
      · rw [htodo] at hnil
        cases hnil
  | callWorker a rest rx tx htodo hcall =>
    have hserving := hw.serving_of_todo htodo
    refine ⟨fun hout => ?_, fun hclose => ?_, hcall.finished hs⟩
    · rw [show s.acceptor.serving = false from hout] at hserving
      cases hserving
    · have hopen := hw.queuesOpen (by intro hf; rw [hf] at hserving; cases hserving)
      rcases hs.close hclose with htodo' | ⟨hnil, -⟩
      · rw [htodo] at htodo'
        obtain ⟨rfl, rfl⟩ := List.cons.inj htodo'
        exact Or.inr ⟨rfl, hcall.endsOff hopen.rx⟩
      · rw [htodo] at hnil
        cases hnil
  | worker _ rx tx sent hstep =>
    obtain ⟨hafter, hfinished⟩ := hstep.leavesOff hl hs
    refine ⟨fun hout => hafter.trans (hs.outside hout), fun hclose => ?_, hfinished⟩
    exact (hs.close hclose).imp_right fun h => ⟨h.1, hafter.trans h.2⟩
  | interruptRx hpc =>
    refine ⟨hs.outside, hs.close, fun hfin => ?_⟩
    exact ⟨rfl, (hs.finished hfin).2⟩
  | _ => exact ⟨hs.outside, hs.close, hs.finished⟩

end Server

/-! ## The client tx worker makes room -/

/-- How far the client tx worker still goes with the message in hand. -/
def ClientTxPc.rank : ClientTxPc → Nat
  | .take | .finished => 0
  | .complete => 1
  | .payload _ => 2
  | .header _ => 3

namespace ClientTxWorker
variable {w w' : ClientTxWorker} {l : ClientTxLabel} {out : Option Written}

/-- How many steps the client tx worker needs for the messages there are. -/
def rank (w : ClientTxWorker) : Nat := 4 * w.queue.pending.length + w.pc.rank

/-- Between two messages no message is in flight, and the worker ends when its queue is
closed. -/
structure Idling (w : ClientTxWorker) : Prop where
  take : w.pc = .take → w.queue.inFlight = none
  finished : w.pc = .finished → w.queue.closed = true

theorem handle_idling {m : Sent} : (w.handle m).Idling := by
  unfold handle
  split
  · exact ⟨nofun, nofun⟩
  · split
    · exact ⟨nofun, nofun⟩
    · exact ⟨nofun, nofun⟩

theorem step_idling (h : w.step l = some (w', out)) : w'.Idling := by
  unfold step at h
  split at h
  · split at h
    · split at h
      · cases h; exact handle_idling
      · split at h
        · cases h; exact ⟨nofun, fun _ => ‹_›⟩
        · cases h
    · cases h; exact ⟨fun _ => rfl, nofun⟩
    · cases h
  · split at h
    · split at h
      · cases h; exact ⟨nofun, nofun⟩
      · cases h; exact ⟨nofun, nofun⟩
    · split at h
      · cases h; exact ⟨nofun, nofun⟩
      · split at h
        · cases h
        · cases h; exact ⟨nofun, nofun⟩
    · cases h

theorem put_idling {n : Nat} {m : Sent} (hw : w.Idling) : (w.put n m).Idling := by
  unfold put
  split
  · exact ⟨hw.take, hw.finished⟩
  · exact hw

/-- A message in hand is nearer to its end than one in the queue. -/
theorem handle_rank {m : Sent} :
    (w.handle m).rank ≤ 4 * w.queue.pending.length + 3 ∧ (w.handle m).pc ≠ .finished := by
  unfold handle
  split
  · exact ⟨by simp [rank, ClientTxPc.rank], nofun⟩
  · split
    · exact ⟨by simp [rank, ClientTxPc.rank], nofun⟩
    · exact ⟨by simp [rank, ClientTxPc.rank], nofun⟩

/-- The worker waits for a message. -/
structure Resting (w : ClientTxWorker) : Prop where
  pc : w.pc = .take
  pending : w.queue.pending = []
  inFlight : w.queue.inFlight = none

/-- **The client tx worker gets on with its messages**, whether its writes succeed or not. -/
theorem exists_step (hw : w.Idling) (hpc : w.pc ≠ .finished) (ok : Bool) : w.Resting ∨
    ∃ l w' out, w.step l = some (w', out) ∧ w'.rank < w.rank ∧ w'.pc ≠ .finished ∧
      (l = .next ∨ l = .write ok ∨ (l = .write true ∧ w.pc.writesNothing = true)) := by
  cases hwpc : w.pc with
  | take =>
    cases hq : w.queue.pending with
    | nil => exact Or.inl ⟨hwpc, hq, hw.take hwpc⟩
    | cons m rest =>
      right
      obtain ⟨hle, hfin⟩ := handle_rank (m := m)
        (w := { w with queue := { w.queue with pending := rest, inFlight := some m } })
      rw [hwpc] at hle hfin
      have hrank : w.rank = 4 * (rest.length + 1) := by
        rw [rank, hq, hwpc]
        rfl
      refine ⟨.next, _, none, by simp only [step, hwpc, hq], ?_, hfin, Or.inl rfl⟩
      rw [hrank]
      refine Nat.lt_of_le_of_lt hle ?_
      change 4 * rest.length + 3 < 4 * (rest.length + 1)
      omega
  | header m =>
    right
    cases ok with
    | true =>
      refine ⟨.write true, _, _, by simp only [step, hwpc]; rfl, ?_, ?_, Or.inr (Or.inl rfl)⟩
      · simp [rank, hwpc, ClientTxPc.rank]
      · intro h
        cases h
    | false =>
      refine ⟨.write false, _, none, by simp only [step, hwpc]; rfl, ?_, ?_, Or.inr (Or.inl rfl)⟩
      · simp [rank, hwpc, ClientTxPc.rank]
      · intro h
        cases h
  | payload m =>
    right
    by_cases hnothing : (ClientTxPc.payload m).writesNothing = true
    · refine ⟨.write true, _, _, by simp only [step, hwpc]; rfl, ?_, ?_,
        Or.inr (Or.inr ⟨rfl, hnothing⟩)⟩
      · simp [rank, hwpc, ClientTxPc.rank]
      · intro h
        cases h
    · cases ok with
      | true =>
        refine ⟨.write true, _, _, by simp only [step, hwpc]; rfl, ?_, ?_, Or.inr (Or.inl rfl)⟩
        · simp [rank, hwpc, ClientTxPc.rank]
        · intro h
          cases h
      | false =>
        refine ⟨.write false, { w with clientSocket := -1, pc := .complete }, none, ?_, ?_,
          (fun h => by cases h), Or.inr (Or.inl rfl)⟩
        · simp [step, hwpc, hnothing]
        · simp [rank, hwpc, ClientTxPc.rank]
  | complete =>
    right
    refine ⟨.next, _, none, by simp only [step, hwpc]; rfl, ?_, ?_, Or.inl rfl⟩
    · simp [rank, hwpc, ClientTxPc.rank]
    · intro h
      cases h
  | finished => exact absurd hwpc hpc

end ClientTxWorker

/-! ## The way to the end -/

namespace Server
variable {s t : Server} {l : ServerLabel}

/-- **What holds in every state** of a run in which `sdr_process_rx` succeeds or has a
timeout. -/
structure Closing (s : Server) : Prop where
  wellFormed : s.WellFormed
  leavesOff : s.LeavesOff
  quiet : s.rx.Quiet
  exclusive : s.rx.Exclusive
  clientTx : s.clientTx.Idling
  clientOpen : s.clientTx.queue.closed = true → s.rx.pc = .finished

theorem create_closing (config : AppConfig) : (create config).Closing :=
  ⟨create_wellFormed config, create_leavesOff config, RxWorker.create_quiet _, ⟨nofun, nofun⟩,
    ⟨fun _ => rfl, nofun⟩, nofun⟩

theorem WorkerStep.exclusive {rx : RxWorker} {tx : Option TxWorker} {sent : Option Sent}
    (h : s.WorkerStep l rx tx sent) (hs : s.rx.Exclusive) : rx.Exclusive := by
  cases h with
  | rx r _ _ h => exact (RxWorker.workerStep_effect h).exclusive hs
  | device r _ _ h => exact RxWorker.deviceStep_exclusive h hs
  | tx => exact hs

/-- A worker that has ended takes no step. -/
theorem WorkerStep.finished {rx : RxWorker} {tx : Option TxWorker} {sent : Option Sent}
    (h : s.WorkerStep l rx tx sent) (hfin : s.rx.pc = .finished) : rx.pc = .finished := by
  cases h with
  | rx r _ _ h =>
    unfold RxWorker.workerStep at h
    rw [hfin] at h
    cases h
  | device r _ _ h =>
    rw [RxWorker.deviceStep_frame h]
    exact hfin
  | tx => exact hfin

theorem WorkerCall.exclusive {a : Item ServerAct} {rx : RxWorker} {tx : Option TxWorker}
    (h : s.WorkerCall a rx tx) (hs : s.rx.Exclusive) : rx.Exclusive := by
  cases h with
  | rx c _ hc h =>
    rcases RxWorker.put_cases h with ⟨-, -, rfl⟩ | ⟨-, rfl⟩
    · exact ⟨hs.worker, hs.device⟩
    · exact hs
  | tx => exact hs

theorem Effect.closing (h : Effect s l t) (hl : l.Timely) (hs : s.Closing) : t.Closing := by
  have hwell := h.wellFormed hs.wellFormed
  have hoff := h.leavesOff hl hs.wellFormed hs.leavesOff
  have hquiet := (h.switching hs.quiet).quiet
  cases h with
  | callClient a rest m htodo hm =>
    refine ⟨hwell, hoff, hquiet, hs.exclusive, ClientTxWorker.put_idling hs.clientTx, ?_⟩
    exact fun hclosed => hs.clientOpen ((ClientTxWorker.put_closed m).symm.trans hclosed)
  | callWorker a rest rx tx htodo hcall =>
    refine ⟨hwell, hoff, hquiet, hcall.exclusive hs.exclusive, hs.clientTx, ?_⟩
    exact fun hclosed => hcall.rx_pc.1.trans (hs.clientOpen hclosed)
  | worker _ rx tx sent hstep =>
    refine ⟨hwell, hoff, hquiet, hstep.exclusive hs.exclusive, ?_, ?_⟩
    · cases sent with
      | none => exact hs.clientTx
      | some m => exact ClientTxWorker.put_idling hs.clientTx
    · intro hclosed
      have hclosed := (ClientTxWorker.put?_closed sent).symm.trans hclosed
      exact hstep.finished (hs.clientOpen hclosed)
  | clientTx l w out hallowed hstep =>
    refine ⟨hwell, hoff, hquiet, hs.exclusive, ClientTxWorker.step_idling hstep, ?_⟩
    exact fun hclosed => hs.clientOpen ((ClientTxWorker.step_closed hstep).symm.trans hclosed)
  | interruptRx hpc =>
    exact ⟨hwell, hoff, hquiet, ⟨hs.exclusive.worker, hs.exclusive.device⟩, hs.clientTx,
      hs.clientOpen⟩
  | interruptClientTx hpc hrx =>
    exact ⟨hwell, hoff, hquiet, hs.exclusive, ⟨hs.clientTx.take, fun _ => rfl⟩, fun _ => hrx⟩
  | _ => exact ⟨hwell, hoff, hquiet, hs.exclusive, hs.clientTx, hs.clientOpen⟩

theorem run_closing {ls : List ServerLabel} (hrun : Run step (fun _ l => l.Timely) s ls t)
    (hs : s.Closing) : t.Closing :=
  hrun.invariant (fun _ _ _ hl hstep hs => (step_effect hstep).closing hl hs) hs

theorem run_config {allowed : Server → ServerLabel → Prop} {ls : List ServerLabel}
    (hrun : Run step allowed s ls t) : t.config = s.config := by
  have hkeep : ∀ (u : Server) (l : ServerLabel) (v : Server), allowed u l → u.step l = some v →
      u.config = s.config → v.config = s.config :=
    fun u l v _ hstep hu => (step_effect hstep).received_subset.2.trans hu
  exact hrun.invariant hkeep rfl

/-- **The threads go on with what there is**: the acceptor thread makes its calls, no callback
begins, and a write fails only when the descriptor belongs to nobody. -/
def GoesOn (s : Server) : ServerLabel → Prop
  | .acceptor => s.todo ≠ []
  | .rx r => r.Timely
  | .device _ => s.rx.device ≠ none
  | .tx _ => True
  | .clientTx (.write false) => s.owner s.clientTx.clientSocket = none
  | .clientTx _ => True
  | _ => False

theorem GoesOn.timely (h : s.GoesOn l) : l.Timely := by
  cases l with
  | rx r => exact h
  | _ => trivial

/-- **The acceptor thread and its client are where they were.** -/
structure Keeps (s t : Server) : Prop where
  config : t.config = s.config
  isRunning : t.isRunning = s.isRunning
  acceptor : t.acceptor = s.acceptor
  todo : t.todo = s.todo
  client : t.client = s.client
  isOpen : t.isOpen = s.isOpen
  received : t.received = s.received

theorem Keeps.refl (s : Server) : s.Keeps s := ⟨rfl, rfl, rfl, rfl, rfl, rfl, rfl⟩

theorem Keeps.trans {u : Server} (h : s.Keeps t) (h' : t.Keeps u) : s.Keeps u :=
  ⟨h'.config.trans h.config, h'.isRunning.trans h.isRunning, h'.acceptor.trans h.acceptor,
    h'.todo.trans h.todo, h'.client.trans h.client, h'.isOpen.trans h.isOpen,
    h'.received.trans h.received⟩

/-- **The client queue can be emptied**, and the other threads stay where they are. -/
theorem exists_drained (hs : s.clientTx.Idling) (hpc : s.clientTx.pc ≠ .finished) :
    ∃ ls t, Run step GoesOn s ls t ∧ s.Keeps t ∧ t.rx = s.rx ∧ t.tx = s.tx ∧
      t.clientTx.Resting ∧ t.clientTx.queue.closed = s.clientTx.queue.closed := by
  induction hn : s.clientTx.rank using Nat.strong_induction_on generalizing s with
  | h n ih =>
    rcases ClientTxWorker.exists_step hs hpc (s.owner s.clientTx.clientSocket).isSome with hrests |
      ⟨l, w, out, hstep, hlt, hwpc, hlabel⟩
    · exact ⟨[], s, rfl, .refl s, rfl, rfl, hrests, rfl⟩
    · have hallowed : s.writeAllowed l = true ∧ s.GoesOn (.clientTx l) := by
        rcases hlabel with rfl | rfl | ⟨rfl, hnothing⟩
        · exact ⟨rfl, trivial⟩
        · cases howner : s.owner s.clientTx.clientSocket with
          | none => exact ⟨rfl, howner⟩
          | some c =>
            refine ⟨?_, trivial⟩
            rw [Option.isSome_some, writeAllowed, howner]
            rfl
        · refine ⟨?_, trivial⟩
          rw [writeAllowed, hnothing]
          exact Bool.or_true _
      have hserver : s.step (.clientTx l) =
          some { s with clientTx := w, written := s.record out } := by
        simp only [step, hallowed.1, hstep, if_true, Option.map_some]
      have hrun : Run step GoesOn s [.clientTx l]
          { s with clientTx := w, written := s.record out } := Run.single hallowed.2 hserver
      have hfirst : s.Keeps { s with clientTx := w, written := s.record out } :=
        ⟨rfl, rfl, rfl, rfl, rfl, rfl, rfl⟩
      obtain ⟨ls, t, ht, hkeeps, hrx, htx, hrests, hclosed⟩ :=
        ih (s := { s with clientTx := w, written := s.record out }) w.rank (hn ▸ hlt)
          (ClientTxWorker.step_idling hstep) hwpc rfl
      exact ⟨_, t, hrun.append ht, hfirst.trans hkeeps, hrx, htx, hrests,
        hclosed.trans (ClientTxWorker.step_closed hstep)⟩

/-- With room in the client queue a message goes there, or is refused. -/
theorem putClient?_isSome (hq : 0 < s.config.queueSize.toNat) (hrests : s.clientTx.Resting)
    (sent : Option Sent) : (s.putClient? sent).isSome = true := by
  cases sent with
  | none => rfl
  | some m =>
    rw [putClient?, putClient, Option.isSome_map]
    refine offer_isSome ?_
    rw [Fifo.used, hrests.pending, hrests.inFlight]
    exact hq

/-- **A worker can take its step**, once there is room in the client queue. -/
theorem exists_worked {rx : RxWorker} {tx : Option TxWorker} {sent : Option Sent}
    (hs : s.clientTx.Idling) (hq : 0 < s.config.queueSize.toNat) (hpc : s.clientTx.pc ≠ .finished)
    (hl : s.GoesOn l) (h : s.WorkerStep l rx tx sent) :
    ∃ ls t, Run step GoesOn s ls t ∧ s.Keeps t ∧ t.rx = rx ∧ t.tx = tx ∧
      t.clientTx.pc ≠ .finished ∧ t.clientTx.queue.closed = s.clientTx.queue.closed := by
  obtain ⟨ls, u, hu, hkeeps, hrx, htx, hrests, hclosed⟩ := exists_drained hs hpc
  obtain ⟨v, hv⟩ := Option.isSome_iff_exists.mp
    (putClient?_isSome (s := { u with rx := rx, tx := tx }) (by rw [hkeeps.config]; exact hq)
      hrests sent)
  have hv' := putClient?_eq hv
  have hput : v.clientTx.pc = .take := by
    rw [hv', ← hrests.pc]
    cases sent with
    | none => rfl
    | some m =>
      dsimp only [ClientTxWorker.put?, ClientTxWorker.put]
      split <;> rfl
  have hstep : u.step l = some v ∧ u.GoesOn l := by
    cases h with
    | rx r _ _ h =>
      rw [← htx] at hv
      exact ⟨by simp only [step, hrx, h, Option.bind_some, hv], hl⟩
    | device r _ _ h =>
      rw [← htx] at hv
      exact ⟨by simp only [step, hrx, h, Option.bind_some, hv], by rw [GoesOn, hrx]; exact hl⟩
    | tx r w w' _ hw h =>
      rw [← hrx] at hv
      exact ⟨by simp only [step, htx, hw, h, Option.bind_some, hv], trivial⟩
  refine ⟨_, v, hu.append (Run.single hstep.2 hstep.1), hkeeps.trans ?_, by rw [hv'], by rw [hv'],
    ?_, ?_⟩
  · rw [hv']
    exact ⟨rfl, rfl, rfl, rfl, rfl, rfl, rfl⟩
  · rw [hput]
    intro h
    cases h
  · rw [hv']
    exact (ClientTxWorker.put?_closed sent).trans hclosed

/-- **The thread of the device can leave the callback**, unless the worker holds the
mutex. -/
theorem exists_released (hs : s.Closing) (hq : 0 < s.config.queueSize.toNat)
    (hpc : s.clientTx.pc ≠ .finished) (hmutex : s.rx.mutex ≠ some .worker) :
    ∃ ls t, Run step GoesOn s ls t ∧ s.Keeps t ∧ t.tx = s.tx ∧ t.rx.mutex = none ∧
      t.rx.device = none ∧ t.rx.pc = s.rx.pc ∧ t.rx.queue = s.rx.queue ∧
      t.clientTx.pc ≠ .finished ∧ t.clientTx.queue.closed = s.clientTx.queue.closed := by
  induction hn : s.rx.device.elim 0 CallbackPc.rank using Nat.strong_induction_on generalizing s with
  | h n ih =>
    cases hdevice : s.rx.device with
    | none =>
      -- nobody is left who could hold the mutex
      refine ⟨[], s, rfl, .refl s, rfl, ?_, hdevice, rfl, rfl, hpc, rfl⟩
      cases hm : s.rx.mutex with
      | none => rfl
      | some user =>
        cases user with
        | worker => exact absurd hm hmutex
        | device =>
          obtain ⟨pc, hsome, -⟩ := hs.exclusive.device hm
          rw [hdevice] at hsome
          cases hsome
    | some pc =>
      have hlock : pc = .lock → s.rx.mutex = none := by
        rintro rfl
        cases hm : s.rx.mutex with
        | none => rfl
        | some user =>
          cases user with
          | worker => exact absurd hm hmutex
          | device =>
            obtain ⟨pc, hsome, hholds⟩ := hs.exclusive.device hm
            rw [hdevice] at hsome
            cases hsome
            cases hholds
      obtain ⟨r, w, sent, hstep, hlt, hkeep⟩ := RxWorker.exists_deviceStep hdevice hlock
      have hgoes : s.GoesOn (.device r) := by
        rw [GoesOn, hdevice]
        intro h
        cases h
      obtain ⟨ls, t, ht, hkeeps, hrx, htx, htpc, hclosed⟩ :=
        exists_worked hs.clientTx hq hpc hgoes (.device r w sent hstep)
      have hframe := RxWorker.deviceStep_frame hstep
      have hless : t.rx.device.elim 0 CallbackPc.rank < n := by
        rw [hrx, ← hn, hdevice]
        exact hlt
      obtain ⟨ms, v, hv, hvkeeps, hvtx, hvmutex, hvdevice, hvrx, hvqueue, hvpc, hvclosed⟩ :=
        ih _ hless (run_closing (ht.mono fun _ _ h => h.timely) hs)
          (by rw [hkeeps.config]; exact hq) htpc (by rw [hrx]; exact hkeep hmutex) rfl
      refine ⟨_, v, ht.append hv, hkeeps.trans hvkeeps, hvtx.trans htx, hvmutex, hvdevice, ?_, ?_,
        hvpc, hvclosed.trans hclosed⟩
      · rw [hvrx, hrx, hframe]
      · rw [hvqueue, hrx, hframe]

/-- The queue of the rx worker is closed after the acceptor thread has ended. -/
theorem Closing.endsOff (hs : s.Closing) (hclosed : s.rx.queue.closed = true) : s.rx.EndsOff := by
  apply hs.leavesOff.outside
  have hfin : s.acceptor = .finished := by
    by_contra hne
    have hopen := (hs.wellFormed.queuesOpen hne).rx
    rw [hclosed] at hopen
    cases hopen
  rw [hfin]
  rfl

/-- **The rx worker can come nearer to its end**, unless it waits for a command. -/
theorem exists_rxStep (hs : s.Closing) (hq : 0 < s.config.queueSize.toNat)
    (hpc : s.clientTx.pc ≠ .finished) (hfin : s.rx.pc ≠ .finished)
    (hidle : s.rx.pc = .loop → s.rx.queue.pending = [] → s.rx.queue.closed = true) :
    ∃ ls t, Run step GoesOn s ls t ∧ s.Keeps t ∧ t.tx = s.tx ∧ t.rx.rank < s.rx.rank ∧
      t.rx.queue.closed = s.rx.queue.closed ∧ t.clientTx.pc ≠ .finished ∧
      t.clientTx.queue.closed = s.clientTx.queue.closed := by
  -- the thread of the device makes way
  have hway : ∃ ls t, Run step GoesOn s ls t ∧ s.Keeps t ∧ t.tx = s.tx ∧ t.rx.pc = s.rx.pc ∧
      t.rx.queue = s.rx.queue ∧
      (t.rx.pc.holdsMutex = true ∨ (t.rx.mutex = none ∧ t.rx.device = none)) ∧
      t.clientTx.pc ≠ .finished ∧ t.clientTx.queue.closed = s.clientTx.queue.closed := by
    by_cases hholds : s.rx.pc.holdsMutex = true
    · exact ⟨[], s, rfl, .refl s, rfl, rfl, rfl, Or.inl hholds, hpc, rfl⟩
    · obtain ⟨ls, t, ht, hkeeps, htx, hmutex, hdevice, hrx, hqueue, htpc, hclosed⟩ :=
        exists_released hs hq hpc fun hm => hholds (hs.exclusive.worker hm)
      exact ⟨ls, t, ht, hkeeps, htx, hrx, hqueue, Or.inr ⟨hmutex, hdevice⟩, htpc, hclosed⟩
  obtain ⟨ls, t, ht, hkeeps, htx, hrx, hqueue, hfree, htpc, hclosed⟩ := hway
  have htclosing := run_closing (ht.mono fun _ _ h => h.timely) hs
  have hoff : t.rx.pc = .loop → t.rx.queue.pending = [] →
      t.rx.rxEnabled = false ∧ t.rx.queue.closed = true := by
    intro hloop hpending
    have hrxClosed : t.rx.queue.closed = true := by
      rw [hqueue] at hpending ⊢
      exact hidle (hrx ▸ hloop) hpending
    exact ⟨(htclosing.endsOff hrxClosed).rxEnabled (by rw [hloop]; rfl) hpending, hrxClosed⟩
  obtain ⟨r, htimely, hsome⟩ := RxWorker.exists_workerStep (by rw [hrx]; exact hfin) hoff hfree
  obtain ⟨⟨w, sent⟩, hw⟩ := Option.isSome_iff_exists.mp hsome
  have heffect := RxWorker.workerStep_effect hw
  have hgoes : t.GoesOn (.rx r) := htimely
  obtain ⟨ms, u, hu, hukeeps, hurx, hutx, hupc, huclosed⟩ :=
    exists_worked htclosing.clientTx (by rw [hkeeps.config]; exact hq) htpc hgoes
      (.rx r w sent hw)
  have hlt := (heffect.rank_lt fun hloop hpending => (hoff hloop hpending).1).1
  rw [RxWorker.rank.eq_1 t.rx, hqueue, hrx] at hlt
  refine ⟨_, u, ht.append hu, hkeeps.trans hukeeps, hutx.trans htx, by rw [hurx]; exact hlt, ?_,
    hupc, huclosed.trans hclosed⟩
  rw [hurx, heffect.closed, hqueue]

/-- **The rx worker can come to rest**: it waits for a command, or it has ended. -/
theorem exists_rxAtRest (hs : s.Closing) (hq : 0 < s.config.queueSize.toNat)
    (hpc : s.clientTx.pc ≠ .finished) :
    ∃ ls t, Run step GoesOn s ls t ∧ s.Keeps t ∧ t.tx = s.tx ∧
      t.rx.queue.closed = s.rx.queue.closed ∧
      (t.rx.pc = .finished ∨
        (t.rx.queue.closed = false ∧ t.rx.pc = .loop ∧ t.rx.queue.pending = [])) ∧
      t.clientTx.pc ≠ .finished ∧ t.clientTx.queue.closed = s.clientTx.queue.closed := by
  induction hn : s.rx.rank using Nat.strong_induction_on generalizing s with
  | h n ih =>
    by_cases hrests : s.rx.pc = .finished ∨
        (s.rx.queue.closed = false ∧ s.rx.pc = .loop ∧ s.rx.queue.pending = [])
    · exact ⟨[], s, rfl, .refl s, rfl, rfl, hrests, hpc, rfl⟩
    · obtain ⟨hfin, hwaits⟩ := not_or.mp hrests
      have hidle : s.rx.pc = .loop → s.rx.queue.pending = [] → s.rx.queue.closed = true := by
        intro hloop hpending
        by_contra hopen
        exact hwaits ⟨Bool.eq_false_iff.mpr hopen, hloop, hpending⟩
      obtain ⟨ls, t, ht, hkeeps, htx, hlt, hrx, htpc, htclosed⟩ :=
        exists_rxStep hs hq hpc hfin hidle
      obtain ⟨ms, u, hu, hukeeps, hutx, hurx, hurests, hupc, huclosed⟩ :=
        ih _ (hn ▸ hlt) (run_closing (ht.mono fun _ _ h => h.timely) hs)
          (by rw [hkeeps.config]; exact hq) htpc rfl
      exact ⟨_, u, ht.append hu, hkeeps.trans hukeeps, hutx.trans htx, hurx.trans hrx, hurests, hupc,
        huclosed.trans htclosed⟩

/-- **The rx worker can end**, once its queue was interrupted. -/
theorem exists_finished (hs : s.Closing) (hq : 0 < s.config.queueSize.toNat)
    (hclosed : s.rx.queue.closed = true) :
    ∃ ls t, Run step (fun _ l => l.Timely) s ls t ∧ t.rx.pc = .finished := by
  by_cases hfin : s.rx.pc = .finished
  · exact ⟨[], s, rfl, hfin⟩
  · have hpc : s.clientTx.pc ≠ .finished := fun hpc =>
      hfin (hs.clientOpen (hs.clientTx.finished hpc))
    obtain ⟨ls, t, ht, -, -, htclosed, hrests, -⟩ := exists_rxAtRest hs hq hpc
    refine ⟨ls, t, ht.mono fun _ _ h => h.timely, hrests.resolve_right fun h => ?_⟩
    rw [htclosed, hclosed] at h
    cases h.1

/-- A step of `sdr_rx_worker_callback`. -/
def isRxStep (_ : Server) : ServerLabel → Bool
  | .rx _ => true
  | _ => false

/-- An iteration of the loop of `sdr_rx_worker_callback` begins. -/
def beginsIteration (s : Server) : ServerLabel → Bool
  | .rx _ => s.rx.pc = .loop
  | _ => false

/-- **After the interrupt every step of the rx worker comes nearer to its end.** -/
theorem Closing.rank_le (hs : s.Closing) (hclosed : s.rx.queue.closed = true) (hl : l.Timely)
    (h : s.step l = some t) :
    (t.Closing ∧ t.rx.queue.closed = true) ∧
      t.rx.rank + (if s.isRxStep l then 1 else 0) ≤ s.rx.rank ∧
      t.rx.iterations + (if s.beginsIteration l then 1 else 0) ≤ s.rx.iterations := by
  have heffect := step_effect h
  have hend := hs.endsOff hclosed
  have hclosing := heffect.closing hl hs
  have hsame : t.rx.queue = s.rx.queue → t.rx.pc = s.rx.pc → s.isRxStep l = false →
      s.beginsIteration l = false → (t.Closing ∧ t.rx.queue.closed = true) ∧
        t.rx.rank + (if s.isRxStep l then 1 else 0) ≤ s.rx.rank ∧
        t.rx.iterations + (if s.beginsIteration l then 1 else 0) ≤ s.rx.iterations := by
    intro hqueue hpc hstep hbegin
    refine ⟨⟨hclosing, by rw [hqueue]; exact hclosed⟩, ?_, ?_⟩
    · rw [hstep, RxWorker.rank, RxWorker.rank, hqueue, hpc]
      exact Nat.le_refl _
    · rw [hbegin, RxWorker.iterations, RxWorker.iterations, hqueue, hpc]
      exact Nat.le_refl _
  cases heffect with
  | callWorker a rest rx tx htodo hcall =>
    have hserving := hs.wellFormed.serving_of_todo htodo
    have hopen := (hs.wellFormed.queuesOpen (by intro hf; rw [hf] at hserving; cases hserving)).rx
    rw [hclosed] at hopen
    cases hopen
  | worker _ rx tx sent hstep =>
    cases hstep with
    | rx r _ _ hw =>
      have hworker := RxWorker.workerStep_effect hw
      obtain ⟨hlt, hiter⟩ := hworker.rank_lt fun hloop => hend.rxEnabled (by rw [hloop]; rfl)
      refine ⟨⟨hclosing, hworker.closed.trans hclosed⟩, ?_, ?_⟩
      · exact hlt
      · simpa [beginsIteration] using hiter
    | device r _ _ hw =>
      have hframe := RxWorker.deviceStep_frame hw
      exact hsame (by rw [hframe]) (by rw [hframe]) rfl rfl
    | tx => exact hsame rfl rfl rfl rfl
  | interruptRx hpc =>
    refine ⟨⟨hclosing, rfl⟩, Nat.le_refl _, Nat.le_refl _⟩
  | _ => exact hsame rfl rfl rfl rfl

end Server

/-- The size of the client queue is never 0. -/
theorem queueSize_pos {raw config : AppConfig} (h : appConfigValidate raw = some config) :
    0 < config.queueSize.toNat := by
  unfold appConfigValidate at h
  have hpos : ∀ n : UInt16, 0 < (if n = 0 then (64 : UInt16) else n).toNat := by
    intro n
    split
    · decide
    · rename_i hne
      exact Nat.pos_of_ne_zero fun hz => hne (UInt16.toNat_inj.mp hz)
  simp only at h
  split at h
  · cases h
  · split at h
    · cases h
    · split at h <;> cases h
      · exact hpos raw.queueSize
      · exact hpos raw.queueSize

/-- **The receive side shuts down in an orderly way.**  In every run of the server in
which `sdr_process_rx` succeeds or has a timeout, after the acceptor thread has ended
and the queue of the rx worker was interrupted, the worker begins at most one
iteration more than there are commands in its queue, and takes at most fourteen steps
for each of them; it can always go on to its end; and when it has ended, the receiver
is off and so is the device. -/
theorem rx_shutdown_orderly {raw config : AppConfig} {ls ms : List ServerLabel}
    {s t u : Server} (hconfig : appConfigValidate raw = some config)
    (hrun : Run Server.step (fun _ l => l.Timely) (Server.create config) ls s)
    (hinterrupt : s.step .interruptRx = some t)
    (hrest : Run Server.step (fun _ l => l.Timely) t ms u) :
    count Server.step Server.beginsIteration t ms ≤ s.rx.queue.pending.length + 1 ∧
      count Server.step Server.isRxStep t ms ≤ 14 * (s.rx.queue.pending.length + 1) ∧
      (u.rx.pc = .finished →
        u.rx.rxEnabled = false ∧ u.rx.streaming = false ∧ u.rx.device = none) ∧
      ∃ ks v, Run Server.step (fun _ l => l.Timely) u ks v ∧ v.rx.pc = .finished := by
  have hone : Run Server.step (fun _ l => l.Timely) s [.interruptRx] t :=
    ⟨trivial, t, hinterrupt, rfl⟩
  have hclosing := Server.run_closing (hrun.append hone) (Server.create_closing config)
  have ht : t.rx = s.rx.interrupt := by
    cases Server.step_effect hinterrupt with
    | worker _ rx tx sent hstep => cases hstep
    | interruptRx hpc => rfl
  have hclosed : t.rx.queue.closed = true := by rw [ht]; rfl
  have hstep : ∀ (s : Server) (l : ServerLabel) (t : Server), l.Timely → s.step l = some t →
      s.Closing ∧ s.rx.queue.closed = true → t.Closing ∧ t.rx.queue.closed = true :=
    fun s l t hl h hs => (hs.1.rank_le hs.2 hl h).1
  have hend : u.Closing ∧ u.rx.queue.closed = true := hrest.invariant hstep ⟨hclosing, hclosed⟩
  refine ⟨?_, ?_, ?_, ?_⟩
  · have hcount := Run.count_le (fun s => s.rx.iterations) Server.beginsIteration
      (fun s l t hl h hs => ⟨hstep s l t hl h hs, (hs.1.rank_le hs.2 hl h).2.2⟩) hrest
      ⟨hclosing, hclosed⟩
    refine Nat.le_trans hcount ?_
    rw [ht, RxWorker.iterations]
    split
    · exact Nat.zero_le _
    · exact Nat.le_refl _
  · have hcount := Run.count_le (fun s => s.rx.rank) Server.isRxStep
      (fun s l t hl h hs => ⟨hstep s l t hl h hs, (hs.1.rank_le hs.2 hl h).2.1⟩) hrest
      ⟨hclosing, hclosed⟩
    refine Nat.le_trans hcount ?_
    have hle := RxPc.rank_le s.rx.pc
    rw [ht]
    change 14 * s.rx.queue.pending.length + s.rx.pc.rank ≤ _
    omega
  · intro hfin
    have hoff := hend.1.endsOff hend.2
    have hnil := (hend.1.leavesOff.finished hfin).2
    have hrx := hoff.rxEnabled (by rw [hfin]; rfl) hnil
    exact ⟨hrx, hend.1.quiet.device hrx⟩
  · refine Server.exists_finished hend.1 ?_ hend.2
    rw [Server.run_config (hrun.append (hone.append hrest))]
    exact queueSize_pos hconfig

/-- A client switches the receiver on, and the server is shut down before the rx worker
looks at its queue. -/
def shutdownWhileStarting : List ServerLabel :=
  readFirst [rxStart] ++ [.shutdown, .acceptor, .acceptor, .acceptor, .acceptor, .acceptor]

/-- The rx worker switches the receiver on, has a timeout, switches it off and ends. -/
def drainCommands : List ServerLabel :=
  switchOn ++ [.rx (.processRx (-2) 0)] ++ switchOff ++ [.rx .nothing]

/-- The worker finds two commands and ends in its third iteration. -/
theorem shutdown_while_starting :
    ∃ s t u, exec (restrict Server.step fun _ l => l.Timely) (Server.create smallConfig)
        shutdownWhileStarting = some s ∧ s.step .interruptRx = some t ∧
      exec (restrict Server.step fun _ l => l.Timely) t drainCommands = some u ∧
      s.rx.queue.pending.length = 2 ∧
      count Server.step Server.beginsIteration t drainCommands = 3 ∧
      u.rx.pc = .finished ∧ u.rx.rxEnabled = false := by
  have hsome : ((exec (restrict Server.step fun _ l => l.Timely) (Server.create smallConfig)
      shutdownWhileStarting).bind fun s => s.step .interruptRx).isSome = true := rfl
  obtain ⟨t, ht⟩ := Option.isSome_iff_exists.mp hsome
  obtain ⟨s, hs, hst⟩ := Option.bind_eq_some_iff.mp ht
  have hfacts : s.rx.queue.pending.length = 2 ∧
      (exec (restrict Server.step fun _ l => l.Timely) t drainCommands).isSome = true ∧
      count Server.step Server.beginsIteration t drainCommands = 3 ∧
      ∀ u, exec (restrict Server.step fun _ l => l.Timely) t drainCommands = some u →
        u.rx.pc = .finished := by
    cases hs
    cases hst
    refine ⟨rfl, rfl, rfl, ?_⟩
    rintro u ⟨⟩
    rfl
  obtain ⟨hlength, hsome', hcount, hfin⟩ := hfacts
  obtain ⟨u, hu⟩ := Option.isSome_iff_exists.mp hsome'
  have horderly := rx_shutdown_orderly
    (show appConfigValidate smallConfig = some smallConfig from rfl) (run_of_exec hs) hst
    (run_of_exec hu)
  exact ⟨s, t, u, hs, hst, hu, hlength, hcount, hfin u hu, (horderly.2.2.1 (hfin u hu)).1⟩

end SdrModem
