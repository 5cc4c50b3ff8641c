import SdrModem.RxWorkerQueue

/-!
# The receiving thread and its device

When is the device on?  `rx_enabled` is set by the worker alone, when it handles an
RX_START or an RX_STOP, so at every point of its loop the command in processing says
what `rx_enabled` is (`RxPc.Switched`).  While it is off the device does not stream and
its thread is not in the callback (`RxWorker.Quiet`): `stop_rx` waits for it.
-/
namespace SdrModem
open BoundedFifo Machine

/-- What the answer to a command says about `rx_enabled`. -/
def RxCommand.Switched (rxEnabled : Bool) : RxCommand → Prop
  | .start _ => rxEnabled = true
  | .stop _ => rxEnabled = false
  | .commParameters _ _ => True

/-- What is known of `rx_enabled` at each point of the loop. -/
def RxPc.Switched (rxEnabled : Bool) : RxPc → Prop
  | .setParameters c _ | .lock c _ | .swap c _ | .unlock c _ _ | .destroyOld c _ _ =>
      ∃ id buffer, c.val = .commParameters id buffer
  | .respond c _ _ _ | .complete c => c.val.Switched rxEnabled
  | .callback _ => rxEnabled = true
  | .loop | .handle _ | .checkRx | .finished => True

namespace RxWorker

/-- **The device is quiet while `rx_enabled` is false.** -/
structure Quiet (w : RxWorker) : Prop where
  pc : w.pc.Switched w.rxEnabled
  device : w.rxEnabled = false → w.streaming = false ∧ w.device = none

variable {w w' : RxWorker} {r : RxResult} {sent : Option Sent}

theorem create_quiet (pull : Bool) : (create pull).Quiet := ⟨trivial, fun _ => ⟨rfl, rfl⟩⟩

theorem switched_of_parameters {rxEnabled : Bool} {c : Item RxCommand}
    (h : ∃ id buffer, c.val = .commParameters id buffer) : c.val.Switched rxEnabled := by
  obtain ⟨id, buffer, hval⟩ := h
  rw [hval]
  trivial

theorem Switch.switched {c : RxCommand} {rxEnabled streaming : Bool}
    (h : Switch w c rxEnabled streaming) : c.Switched rxEnabled := by
  cases h with
  | parameters id buffer => trivial
  | alreadyOn id hrx => exact hrx
  | on id streaming hrx => rfl
  | off id hrx hdevice => rfl
  | alreadyOff id hrx => exact hrx

theorem Switch.quiet {c : RxCommand} {rxEnabled streaming : Bool}
    (h : Switch w c rxEnabled streaming) (hw : w.Quiet) (hrx : rxEnabled = false) :
    streaming = false ∧ w.device = none := by
  cases h with
  | parameters id buffer => exact hw.device hrx
  | alreadyOn id hon => exact hw.device hrx
  | on id streaming hoff => cases hrx
  | off id hon hdevice => exact ⟨rfl, hdevice⟩
  | alreadyOff id hoff => exact hw.device hrx

/-- **Every step of the worker keeps the device quiet while it is off.** -/
theorem Effect.quiet (h : Effect w r w' sent) (hw : w.Quiet) : w'.Quiet := by
  have hpc := hw.pc
  cases h with
  | receive c rest hp hq => exact ⟨trivial, hw.device⟩
  | answer _ c status details rxEnabled streaming hp hswitch =>
    exact ⟨hswitch.switched, fun hrx => hswitch.quiet hw hrx⟩
  | created c id buffer hp hval => exact ⟨⟨id, buffer, hval⟩, hw.device⟩
  | parametersFailed c newModem hp =>
    rw [hp] at hpc
    exact ⟨switched_of_parameters hpc, hw.device⟩
  | destroyOld c newModem oldModem hp =>
    rw [hp] at hpc
    exact ⟨switched_of_parameters hpc, hw.device⟩
  | samples _ hp hrx => exact ⟨hrx, hw.device⟩
  | callback _ pc v pc' _ hp hcb =>
    rw [hp] at hpc
    rw [callbackStep_frame hcb]
    refine ⟨?_, hw.device⟩
    cases pc' with
    | none => trivial
    | some pc' => exact hpc
  | peakMiss | stopped | again | deviceError | complete => exact ⟨trivial, hw.device⟩
  | _ =>
    rw [‹w.pc = _›] at hpc
    exact ⟨hpc, hw.device⟩

/-- The response is sent and nothing else happens. -/
theorem workerStep_respond {c : Item RxCommand} {status : ResponseStatus}
    {details : ResponseDetails} {modem : Option Nat}
    (hpc : w.pc = .respond c status details modem) (h : w.workerStep r = some (w', sent)) :
    w' = { w with pc := .complete c } := by
  unfold workerStep at h
  rw [hpc] at h
  cases r <;> cases h
  rfl

/-- The device calls the callback while it is on. -/
theorem deviceStep_quiet (h : w.deviceStep r = some (w', sent)) (hw : w.Quiet) :
    w'.Quiet ∧ w.rxEnabled = true := by
  have hon : w.rxEnabled = true := by
    by_contra hoff
    obtain ⟨hstreaming, hdevice⟩ := hw.device (Bool.not_eq_true _ ▸ hoff)
    unfold deviceStep at h
    rw [hdevice, hstreaming] at h
    simp at h
  have hframe := deviceStep_frame h
  refine ⟨⟨?_, fun hoff => ?_⟩, hon⟩
  · rw [hframe]
    exact hw.pc
  · rw [hframe] at hoff
    rw [hon] at hoff
    cases hoff

/-- Only the handling of an RX_START switches the device on. -/
theorem Effect.switchedOn (h : Effect w r w' sent) (hoff : w.rxEnabled = false)
    (hon : w'.rxEnabled = true) : ∃ id tag, w.pc = .handle ⟨.start id, tag⟩ := by
  cases h with
  | answer _ c status details rxEnabled streaming hp hswitch =>
    obtain ⟨val, tag⟩ := c
    change rxEnabled = true at hon
    cases hswitch with
    | on id streaming hrx => exact ⟨id, tag, hp⟩
    | off id hrx hdevice => cases hon
    | parameters | alreadyOn | alreadyOff => rw [hoff] at hon; cases hon
  | callback _ pc v pc' _ hp hcb =>
    rw [callbackStep_frame hcb] at hon
    change w.rxEnabled = true at hon
    rw [hoff] at hon
    cases hon
  | _ =>
    change w.rxEnabled = true at hon
    rw [hoff] at hon
    cases hon

end RxWorker
end SdrModem
