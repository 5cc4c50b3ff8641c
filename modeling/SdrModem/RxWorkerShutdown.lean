import SdrModem.RxWorkerSwitch
import SdrModem.RxWorkerModem

/-!
# How the receiving thread ends

After `queue_interrupt` the worker goes on until its queue is empty, and only
`queue_take` notices the interrupt: `queue_peak`, which is used while a pull device is
on, does not.  So the worker ends if `rx_enabled` is false when the last command has
been handled (`RxWorker.rxAfter`).  Then every iteration takes a command off the queue
or is the last one, and no step of an iteration is repeated (`RxWorker.rank`).

A worker that has not ended can always go on: what it waits for is the thread of the
device, or room in the client queue.
-/
namespace SdrModem
open BoundedFifo Machine

/-- `rx_enabled` after a command. -/
def RxCommand.switches (rxEnabled : Bool) : RxCommand → Bool
  | .start _ => true
  | .stop _ => false
  | .commParameters _ _ => rxEnabled

/-- The command that is about to be handled. -/
def RxPc.unhandled? : RxPc → Option (Item RxCommand)
  | .handle c => some c
  | _ => none

/-- How far an iteration still goes. -/
def RxPc.rank : RxPc → Nat
  | .finished => 0
  | .loop => 1
  | .callback (.send _ _) => 2
  | .callback (.unlock _) => 3
  | .callback .demodulate => 4
  | .callback .lock => 5
  | .checkRx => 6
  | .complete _ => 7
  | .respond _ _ _ _ => 8
  | .destroyOld _ _ _ => 9
  | .unlock _ _ _ => 10
  | .swap _ _ => 11
  | .lock _ _ => 12
  | .setParameters _ _ => 13
  | .handle _ => 14

theorem RxPc.rank_le (pc : RxPc) : pc.rank ≤ 14 := by
  unfold rank
  split <;> omega

namespace RxWorker

/-- `rx_enabled` when the commands there are have been handled. -/
def rxAfter (w : RxWorker) : Bool :=
  (w.pc.unhandled?.toList ++ w.queue.pending).foldl (fun b c => c.val.switches b) w.rxEnabled

/-- How many steps the worker takes at most. -/
def rank (w : RxWorker) : Nat := 14 * w.queue.pending.length + w.pc.rank

/-- How many iterations the worker begins at most. -/
def iterations (w : RxWorker) : Nat :=
  if w.pc = .finished then 0 else w.queue.pending.length + 1

variable {w w' : RxWorker} {r : RxResult} {sent : Option Sent}

theorem rxAfter_of_handled (hpc : w.pc.unhandled? = none) :
    w.rxAfter = w.queue.pending.foldl (fun b c => c.val.switches b) w.rxEnabled := by
  rw [rxAfter, hpc]
  rfl

theorem Switch.switches {c : RxCommand} {rxEnabled streaming : Bool}
    (h : Switch w c rxEnabled streaming) : c.switches w.rxEnabled = rxEnabled := by
  cases h with
  | parameters id buffer => rfl
  | alreadyOn id hrx => exact hrx.symm
  | on id streaming hrx => rfl
  | off id hrx hdevice => rfl
  | alreadyOff id hrx => exact hrx.symm

/-- **No step of the worker changes where `rx_enabled` ends.** -/
theorem Effect.rxAfter_eq (h : Effect w r w' sent) : w'.rxAfter = w.rxAfter := by
  cases h with
  | receive c rest hpc hq =>
    rw [rxAfter_of_handled (w := w) (by rw [hpc]; rfl), hq]
    rfl
  | answer _ c status details rxEnabled streaming hpc hswitch =>
    rw [rxAfter_of_handled rfl, rxAfter, hpc]
    change w.queue.pending.foldl _ rxEnabled = w.queue.pending.foldl _ (c.val.switches w.rxEnabled)
    rw [hswitch.switches]
  | created c id buffer hpc hval =>
    rw [rxAfter_of_handled rfl, rxAfter, hpc]
    change w.queue.pending.foldl _ w.rxEnabled = w.queue.pending.foldl _ (c.val.switches w.rxEnabled)
    rw [hval]
    rfl
  | callback _ pc v pc' _ hpc hcb =>
    rw [rxAfter_of_handled (w := w) (by rw [hpc]; rfl), callbackStep_frame hcb]
    exact rxAfter_of_handled (by cases pc' <;> rfl)
  | _ =>
    rw [rxAfter_of_handled rfl, rxAfter_of_handled (w := w) (by rw [‹w.pc = _›]; rfl)]

theorem deviceStep_rxAfter (h : w.deviceStep r = some (w', sent)) : w'.rxAfter = w.rxAfter := by
  rw [deviceStep_frame h]
  rfl

/-- A command goes behind the others. -/
theorem rxAfter_put {c : Item RxCommand} :
    ({ w with
      queue := { w.queue with pending := w.queue.pending ++ [c] }
      accepted := w.accepted ++ [c] } : RxWorker).rxAfter = c.val.switches w.rxAfter := by
  simp [rxAfter]

/-- A step of the callback comes nearer to its end. -/
theorem CallbackEffect.rank_lt {user : ModemUser} {pc : CallbackPc} {pc' : Option CallbackPc}
    (h : CallbackEffect user w pc r w' pc' sent) :
    (RxPc.ofCallback pc').rank < (RxPc.callback pc).rank := by
  cases h with
  | lock hm => exact Nat.lt_succ_self 4
  | noModem hm => exact Nat.lt_succ_self 3
  | demodulate m output hm => exact Nat.lt_succ_self 3
  | unlock output =>
    cases output with
    | none => exact Nat.lt_of_lt_of_le (Nat.lt_succ_self 1) (Nat.le_succ 2)
    | some bits => exact Nat.lt_succ_self 2
  | send owner bits => exact Nat.lt_succ_self 1

/-- The receiver is off when nothing is left to handle. -/
def EndsOff (w : RxWorker) : Prop := w.rxAfter = false

theorem EndsOff.rxEnabled (hw : w.EndsOff) (hpc : w.pc.unhandled? = none)
    (hq : w.queue.pending = []) : w.rxEnabled = false := by
  have hafter := rxAfter_of_handled hpc
  rw [hq, hw] at hafter
  exact hafter.symm

/-- **Every step comes nearer to the end**, unless the worker goes on without a command. -/
theorem Effect.rank_lt (h : Effect w r w' sent)
    (hw : w.pc = .loop → w.queue.pending = [] → w.rxEnabled = false) :
    w'.rank < w.rank ∧ w'.iterations + (if w.pc = .loop then 1 else 0) ≤ w.iterations := by
  have hle := RxPc.rank_le w'.pc
  cases h with
  | receive c rest hpc hq =>
    simp [rank, iterations, RxWorker.receive, hpc, hq, RxPc.rank]
    omega
  | peakMiss hpc hq hrx =>
    -- `queue_peak` on an empty queue: the receiver would be on
    rw [hw hpc hq] at hrx
    cases hrx.1
  | stopped hpc hq hclosed => simp [rank, iterations, hpc, hq, RxPc.rank]
  | callback _ pc v pc' _ hpc hcb =>
    have hlt := (callbackStep_effect hcb).rank_lt
    rw [callbackStep_frame hcb]
    refine ⟨?_, ?_⟩
    · simp only [rank, hpc]
      omega
    · have hne : RxPc.ofCallback pc' ≠ .finished := by cases pc' <;> simp [RxPc.ofCallback]
      simp [iterations, hpc, hne]
  | again _ hpc => simp [rank, iterations, hpc, RxPc.rank]
  | samples _ hpc hrx => simp [rank, iterations, hpc, RxPc.rank]
  | deviceError code outputLen hpc hcode herror => simp [rank, iterations, hpc, RxPc.rank]
  | answer _ c status details rxEnabled streaming hpc hswitch =>
    simp [rank, iterations, hpc, RxPc.rank]
  | _ => simp [rank, iterations, ‹w.pc = _›, RxPc.rank]

end RxWorker

/-! ## The worker can go on -/

/-- `sdr_process_rx` succeeds or has a timeout. -/
def RxResult.Timely : RxResult → Prop
  | .processRx code _ => code = 0 ∨ code < -1
  | _ => True

instance : (r : RxResult) → Decidable r.Timely
  | .processRx code _ => inferInstanceAs (Decidable (code = 0 ∨ code < -1))
  | .nothing | .modemCreate _ | .setRxParameters _ | .startRx _ | .demodulate _ => instDecidableTrue

/-- How far a callback still goes. -/
def CallbackPc.rank : CallbackPc → Nat
  | .lock => 4
  | .demodulate => 3
  | .unlock _ => 2
  | .send _ _ => 1

namespace RxWorker
variable {w w' : RxWorker} {r : RxResult} {sent : Option Sent}

/-- Who holds the mutex is in a critical section. -/
structure Exclusive (w : RxWorker) : Prop where
  worker : w.mutex = some .worker → w.pc.holdsMutex = true
  device : w.mutex = some .device → ∃ pc, w.device = some pc ∧ pc.holdsMutex = true

theorem Exclusive.move (hw : w.Exclusive) (hmutex : w'.mutex = w.mutex)
    (hdevice : w'.device = w.device) (hpc : w.pc.holdsMutex = false) : w'.Exclusive := by
  refine ⟨fun h => ?_, fun h => ?_⟩
  · rw [hmutex] at h
    rw [hw.worker h] at hpc
    cases hpc
  · rw [hmutex] at h
    rw [hdevice]
    exact hw.device h

theorem Effect.exclusive (h : Effect w r w' sent) (hw : w.Exclusive) : w'.Exclusive := by
  cases h with
  | lock c newModem hpc hm => exact ⟨fun _ => rfl, fun h => by cases h⟩
  | swap c newModem hpc => exact ⟨fun _ => rfl, hw.device⟩
  | unlock c newModem oldModem hpc => exact ⟨fun h => (by cases h), fun h => by cases h⟩
  | callback _ pc v pc' _ hpc hcb =>
    have hframe := callbackStep_frame hcb
    have hdevice : v.device = w.device := by rw [hframe]
    have hholds := holdsMutex_ofCallback pc'
    rcases (callbackStep_effect hcb).mutex with ⟨hm, hp⟩ | ⟨-, hm, -, hp⟩ | ⟨hm, -⟩
    · refine ⟨fun h => ?_, fun h => ?_⟩
      · have hworker := hw.worker (hm ▸ h)
        rw [hpc] at hworker
        exact hholds.trans (hp.trans hworker)
      · change ∃ p, v.device = some p ∧ p.holdsMutex = true
        rw [hdevice]
        exact hw.device (hm ▸ h)
    · refine ⟨fun _ => hholds.trans hp, fun h => ?_⟩
      rw [show ({ v with pc := .ofCallback pc' } : RxWorker).mutex = some .worker from hm] at h
      cases h
    · refine ⟨fun h => ?_, fun h => ?_⟩
      · rw [show ({ v with pc := .ofCallback pc' } : RxWorker).mutex = none from hm] at h
        cases h
      · rw [show ({ v with pc := .ofCallback pc' } : RxWorker).mutex = none from hm] at h
        cases h
  | _ => exact hw.move rfl rfl (by rw [‹w.pc = _›]; rfl)

theorem deviceStep_exclusive (h : w.deviceStep r = some (w', sent)) (hw : w.Exclusive) :
    w'.Exclusive := by
  have hpc : w'.pc = w.pc := by rw [deviceStep_frame h]
  unfold deviceStep at h
  split at h
  · rename_i hnone
    split at h
    · cases h
      refine ⟨hw.worker, fun hm => ?_⟩
      obtain ⟨pc, hd, -⟩ := hw.device hm
      rw [hnone] at hd
      cases hd
    · cases h
  · rename_i pc hsome
    obtain ⟨⟨v, pc', sent'⟩, hv, he⟩ := Option.map_eq_some_iff.mp h
    cases he
    have hvpc : v.pc = w.pc := hpc
    rcases (callbackStep_effect hv).mutex with ⟨hm, hp⟩ | ⟨-, hm, -, hp⟩ | ⟨hm, -⟩
    · refine ⟨fun h => ?_, fun h => ?_⟩
      · exact hvpc ▸ hw.worker (hm ▸ h)
      · obtain ⟨pc₀, hd, hholds⟩ := hw.device (hm ▸ h)
        cases hsome.symm.trans hd
        rw [← hp] at hholds
        cases pc' with
        | none => cases hholds
        | some p => exact ⟨p, rfl, hholds⟩
    · refine ⟨fun h => ?_, fun _ => ?_⟩
      · rw [show ({ v with device := pc' } : RxWorker).mutex = some .device from hm] at h
        cases h
      · cases pc' with
        | none => cases hp
        | some p => exact ⟨p, rfl, hp⟩
    · refine ⟨fun h => ?_, fun h => ?_⟩
      · rw [show ({ v with device := pc' } : RxWorker).mutex = none from hm] at h
        cases h
      · rw [show ({ v with device := pc' } : RxWorker).mutex = none from hm] at h
        cases h

/-- **The worker that has not ended can go on**, if it holds the mutex or the thread of
the device is outside the callback: there is something it may get from outside. -/
theorem exists_workerStep (hfin : w.pc ≠ .finished)
    (hidle : w.pc = .loop → w.queue.pending = [] → w.rxEnabled = false ∧ w.queue.closed = true)
    (hfree : w.pc.holdsMutex = true ∨ (w.mutex = none ∧ w.device = none)) :
    ∃ r, r.Timely ∧ (w.workerStep r).isSome = true := by
  cases hpc : w.pc with
  | loop =>
    refine ⟨.nothing, trivial, ?_⟩
    unfold workerStep
    rw [hpc]
    change (w.loopStep.map _).isSome = true
    unfold loopStep
    split
    · rfl
    · rename_i hq
      obtain ⟨hoff, hclosed⟩ := hidle hpc hq
      rw [hoff, hclosed]
      rfl
  | handle c =>
    have hdevice : w.device = none := by
      rcases hfree with hfree | hfree
      · rw [hpc] at hfree
        cases hfree
      · exact hfree.2
    have hmap : ∀ r, (w.workerStep r).isSome = (w.handleStep c r).isSome := by
      intro r
      unfold workerStep
      rw [hpc]
      simp
    cases hval : c.val with
    | commParameters id buffer =>
      by_cases hdecode : apiDecodeCommSettings buffer = none
      · refine ⟨.nothing, trivial, ?_⟩
        rw [hmap]
        unfold handleStep
        rw [hval]
        simp [hdecode]
      · refine ⟨.modemCreate false, trivial, ?_⟩
        rw [hmap]
        unfold handleStep
        rw [hval]
        simp [hdecode]
    | start id =>
      by_cases hrx : w.rxEnabled = true
      · refine ⟨.nothing, trivial, ?_⟩
        rw [hmap]
        unfold handleStep
        rw [hval]
        simp [hrx]
      · refine ⟨.startRx false, trivial, ?_⟩
        rw [hmap]
        unfold handleStep
        rw [hval]
        simp [hrx]
    | stop id =>
      refine ⟨.nothing, trivial, ?_⟩
      rw [hmap]
      unfold handleStep
      rw [hval]
      simp only [hdevice]
      split <;> rfl
  | setParameters c newModem =>
    refine ⟨.setRxParameters false, trivial, ?_⟩
    unfold workerStep
    rw [hpc]
    rfl
  | lock c newModem =>
    have hmutex : w.mutex = none := by
      rcases hfree with hfree | hfree
      · rw [hpc] at hfree
        cases hfree
      · exact hfree.1
    refine ⟨.nothing, trivial, ?_⟩
    unfold workerStep
    rw [hpc]
    simp [hmutex]
  | checkRx =>
    have hmap : ∀ r, (w.workerStep r).isSome = (w.checkRxStep r).isSome := by
      intro r
      unfold workerStep
      rw [hpc]
      simp
    by_cases hrx : w.rxEnabled = true ∧ w.pull = true
    · refine ⟨.processRx (-2) 0, Or.inr (by decide), ?_⟩
      rw [hmap, checkRxStep, if_pos hrx]
      rfl
    · refine ⟨.nothing, trivial, ?_⟩
      rw [hmap, checkRxStep, if_neg hrx]
      rfl
  | callback pc =>
    have hmap : ∀ r, (w.workerStep r).isSome = (w.callbackStep .worker pc r).isSome := by
      intro r
      unfold workerStep
      rw [hpc]
      simp
    cases pc with
    | lock =>
      have hmutex : w.mutex = none := by
        rcases hfree with hfree | hfree
        · rw [hpc] at hfree
          cases hfree
        · exact hfree.1
      refine ⟨.nothing, trivial, ?_⟩
      rw [hmap, callbackStep, if_pos hmutex]
      rfl
    | demodulate =>
      cases hmodem : w.modem with
      | none =>
        refine ⟨.nothing, trivial, ?_⟩
        rw [hmap, callbackStep, if_pos hmodem]
        rfl
      | some m =>
        refine ⟨.demodulate none, trivial, ?_⟩
        rw [hmap, callbackStep, hmodem]
        rfl
    | unlock output =>
      refine ⟨.nothing, trivial, ?_⟩
      rw [hmap]
      rfl
    | send owner bits =>
      refine ⟨.nothing, trivial, ?_⟩
      rw [hmap]
      rfl
  | finished => exact absurd hpc hfin
  | _ =>
    refine ⟨.nothing, trivial, ?_⟩
    unfold workerStep
    rw [hpc]
    rfl

/-- The thread of the device goes on with its callback, unless the worker holds the
mutex it waits for. -/
theorem exists_deviceStep {pc : CallbackPc} (hpc : w.device = some pc)
    (hmutex : pc = .lock → w.mutex = none) :
    ∃ r w' sent, w.deviceStep r = some (w', sent) ∧
      w'.device.elim 0 CallbackPc.rank < pc.rank ∧ (w.mutex ≠ some .worker → w'.mutex ≠ some .worker) := by
  unfold deviceStep
  rw [hpc]
  cases pc with
  | lock =>
    refine ⟨.nothing, { w with mutex := some .device, device := some .demodulate }, none, ?_, ?_, ?_⟩
    · simp [callbackStep, hmutex rfl]
    · exact Nat.lt_succ_self 3
    · exact fun _ h => by cases h
  | demodulate =>
    cases hmodem : w.modem with
    | none =>
      refine ⟨.nothing, { w with device := some (.unlock none) }, none, ?_, Nat.lt_succ_self 2, id⟩
      simp [callbackStep, hmodem]
    | some m =>
      refine ⟨.demodulate none, { w with device := some (.unlock none) }, none, ?_,
        Nat.lt_succ_self 2, id⟩
      simp [callbackStep, hmodem]
  | unlock output =>
    refine ⟨.nothing, _, _, rfl, ?_, ?_⟩
    · cases output with
      | none => exact Nat.succ_pos 1
      | some bits => exact Nat.lt_succ_self 1
    · exact fun _ h => by cases h
  | send owner bits => exact ⟨.nothing, _, _, rfl, Nat.lt_succ_self 0, id⟩

end RxWorker
end SdrModem
