import SdrModem.ParameterUpdate

/-!
# RX_START and RX_STOP

The worker keeps `rx_enabled`, a copy of whether its device streams, and looks at
nothing else when it decides whether to call `start_rx`.  But `start_rx` returns
nothing: when the device cannot be started, the copy is wrong, the client is told
that it worked, and the next RX_START finds `rx_enabled` set and does not try
again.
-/
namespace SdrModem
open Machine

namespace Radio

/-- The device streams: the airspy was started and not stopped, the plutosdr has a
buffer to receive into. -/
def streaming : (radio : Radio) → radio.Device → Bool
  | .plutosdr _ _, p => p.rxBuffer
  | .airspy _, dev => dev.streaming

/-- `start_rx`. -/
def startRx : (radio : Radio) → radio.Outcome → radio.Device → radio.Device
  | .plutosdr _ _, ret, p => plutosdrStartRx ret p
  | .airspy _, ret, dev => airspyStartRx ret dev

/-- `stop_rx`. -/
def stopRx : (radio : Radio) → radio.Outcome → radio.Device → radio.Device
  | .plutosdr _ _, _, p => plutosdrStopRx p
  | .airspy _, ret, dev => airspyStopRx ret dev

/-- The call that `start_rx` makes succeeds. -/
def StartWorks : (radio : Radio) → radio.Outcome → Prop
  | .plutosdr _ _, ret => 0 ≤ ret .createRxBuffer
  | .airspy _, ret => ret .startRx = 0

/-- The call that `stop_rx` makes succeeds; the plutosdr makes none that can fail. -/
def StopWorks : (radio : Radio) → radio.Outcome → Prop
  | .plutosdr _ _, _ => True
  | .airspy _, ret => ret .stopRx = 0

variable {radio : Radio} {outcome : radio.Outcome} {device : radio.Device}

/-- A device that is off streams after `start_rx` exactly if the call succeeds. -/
theorem streaming_startRx (hoff : radio.streaming device = false) :
    radio.streaming (radio.startRx outcome device) = true ↔ radio.StartWorks outcome := by
  cases radio with
  | plutosdr profile dir => exact decide_eq_true_iff
  | airspy profile => exact Airspy.streaming_startRx hoff

/-- A device that is on is off after `stop_rx` exactly if the call succeeds. -/
theorem streaming_stopRx (hon : radio.streaming device = true) :
    radio.streaming (radio.stopRx outcome device) = false ↔ radio.StopWorks outcome := by
  cases radio with
  | plutosdr profile dir => exact iff_of_true rfl trivial
  | airspy profile => exact Airspy.streaming_stopRx hon

end Radio

/-- The two commands, with the results of the calls that the device makes if it is
asked to start or to stop. -/
inductive SwitchCommand (radio : Radio) where
  | start (outcome : radio.Outcome)
  | stop (outcome : radio.Outcome)

/-- The worker and its device.  `startFailed` records whether the last `start_rx`
failed. -/
structure RxSwitch (radio : Radio) where
  rxEnabled : Bool
  device : radio.Device
  startFailed : Bool

namespace RxSwitch
variable {radio : Radio}

/-- A new worker. -/
def create (device : radio.Device) : RxSwitch radio := ⟨false, device, false⟩

/-- Whether the device streams. -/
def streaming (s : RxSwitch radio) : Bool := radio.streaming s.device

/-- Whether handling the command calls `start_rx`. -/
def callsStart (s : RxSwitch radio) : SwitchCommand radio → Bool
  | .start _ => !s.rxEnabled
  | .stop _ => false

/-- The branches `SDR_RX_START` and `SDR_RX_STOP` of `sdr_rx_worker_handle_message`. -/
def handleMessage (s : RxSwitch radio) : SwitchCommand radio → ResponseStatus × RxSwitch radio
  | .start outcome =>
      if s.rxEnabled then (.success, s)
      else
        let device := radio.startRx outcome s.device
        (.success, ⟨true, device, !radio.streaming device⟩)
  | .stop outcome =>
      if s.rxEnabled then (.success, ⟨false, radio.stopRx outcome s.device, s.startFailed⟩)
      else (.success, s)

/-- A worker that handles one command after the other. -/
def step (s : RxSwitch radio) (c : SwitchCommand radio) : Option (RxSwitch radio) :=
  some (s.handleMessage c).2

/-- **The device does what the worker asks of it** in this step. -/
def DeviceWorks (s : RxSwitch radio) : SwitchCommand radio → Prop
  | .start outcome => s.rxEnabled = false → radio.StartWorks outcome
  | .stop outcome => s.rxEnabled = true → radio.StopWorks outcome

/-- `rx_enabled` is the truth, and after a start that failed the next RX_START tries
again. -/
structure Truthful (s : RxSwitch radio) : Prop where
  enabled_iff : s.rxEnabled = true ↔ s.streaming = true
  retries : s.startFailed = true → ∀ outcome, s.callsStart (.start outcome) = true

/-- An RX_START that is answered with a success has started the device. -/
def AnswersTruly (s : RxSwitch radio) : SwitchCommand radio → Prop
  | .start outcome =>
      (s.handleMessage (.start outcome)).1 = .success →
        (s.handleMessage (.start outcome)).2.streaming = true
  | .stop _ => True

/-- A worker that has not been lied to: no start has failed, and it knows the
device. -/
structure InStep (s : RxSwitch radio) : Prop where
  streaming : s.streaming = s.rxEnabled
  startFailed : s.startFailed = false

theorem InStep.truthful {s : RxSwitch radio} (h : s.InStep) : s.Truthful := by
  refine ⟨by rw [h.streaming], fun hfailed => ?_⟩
  rw [h.startFailed] at hfailed
  cases hfailed

/-- **One command, if the device does what it is asked.** -/
theorem InStep.handle {s : RxSwitch radio} {c : SwitchCommand radio} (h : s.InStep)
    (hworks : s.DeviceWorks c) : (s.handleMessage c).2.InStep ∧ s.AnswersTruly c := by
  cases c with
  | start outcome =>
    by_cases hrx : s.rxEnabled = true
    · have hhandle : s.handleMessage (.start outcome) = (.success, s) := if_pos hrx
      refine ⟨by rw [hhandle]; exact h, fun _ => ?_⟩
      rw [hhandle, h.streaming, hrx]
    · have hoff := Bool.eq_false_iff.mpr hrx
      have hstreams : radio.streaming (radio.startRx outcome s.device) = true :=
        (Radio.streaming_startRx (h.streaming.trans hoff)).mpr (hworks hoff)
      have hhandle : s.handleMessage (.start outcome) =
          (.success, ⟨true, radio.startRx outcome s.device, false⟩) := by
        rw [handleMessage, if_neg hrx]
        dsimp only
        rw [hstreams]
        rfl
      rw [AnswersTruly, hhandle]
      exact ⟨⟨hstreams, rfl⟩, fun _ => hstreams⟩
  | stop outcome =>
    refine ⟨?_, trivial⟩
    by_cases hrx : s.rxEnabled = true
    · have hstops := (Radio.streaming_stopRx (h.streaming.trans hrx)).mpr (hworks hrx)
      rw [handleMessage, if_pos hrx]
      exact ⟨hstops, h.startFailed⟩
    · rw [handleMessage, if_neg hrx]
      exact h

/-- And one command if it does not: the copy is wrong afterwards. -/
theorem InStep.wrong {s : RxSwitch radio} {c : SwitchCommand radio} (h : s.InStep)
    (hfails : ¬ s.DeviceWorks c) : ¬ (s.handleMessage c).2.Truthful := by
  intro htruthful
  have henabled := htruthful.enabled_iff
  cases c with
  | start outcome =>
    by_cases hrx : s.rxEnabled = true
    · exact hfails fun hoff => absurd hrx (by rw [hoff]; decide)
    · have hoff := Bool.eq_false_iff.mpr hrx
      rw [handleMessage, if_neg hrx] at henabled
      exact hfails fun _ => (Radio.streaming_startRx (h.streaming.trans hoff)).mp (henabled.mp rfl)
  | stop outcome =>
    by_cases hrx : s.rxEnabled = true
    · rw [handleMessage, if_pos hrx] at henabled
      have hstops : radio.streaming (radio.stopRx outcome s.device) = false :=
        Bool.eq_false_iff.mpr fun hon => absurd (henabled.mpr hon) Bool.false_ne_true
      exact hfails fun _ => (Radio.streaming_stopRx (h.streaming.trans hrx)).mp hstops
    · exact hfails fun hon => absurd hon hrx

end RxSwitch

/-- **RX_START tells the truth as long as the device does what it is asked.**  In
every run of a new worker in which every start and stop of the device succeeds,
`rx_enabled` says whether the device streams, and an RX_START behind a start that
failed would try again.  The next command keeps all this, and is answered truly,
exactly if the device does what the worker asks of it. -/
theorem rx_start_truthful (radio : Radio) (device : radio.Device)
    (hoff : radio.streaming device = false) (cs : List (SwitchCommand radio)) (s : RxSwitch radio)
    (hrun : Run RxSwitch.step RxSwitch.DeviceWorks (RxSwitch.create device) cs s) :
    s.Truthful ∧
    ∀ c, ((s.handleMessage c).2.Truthful ∧ s.AnswersTruly c) ↔ s.DeviceWorks c := by
  have hkeep : ∀ (s : RxSwitch radio) c t, s.DeviceWorks c → RxSwitch.step s c = some t →
      s.InStep → t.InStep := by
    intro s c t hworks hstep hs
    cases hstep
    exact (hs.handle hworks).1
  have hs : s.InStep := Run.invariant hkeep hrun ⟨hoff, rfl⟩
  refine ⟨hs.truthful, fun c => ⟨fun h => ?_, fun hworks => ?_⟩⟩
  · by_contra hfails
    exact hs.wrong hfails h.1
  · exact ⟨(hs.handle hworks).1.truthful, (hs.handle hworks).2⟩

/-! ## A device that is switched on, and one that is not -/

/-- An airspy with one sample rate. -/
def autoProfile : AirspyProfile := ⟨.auto, 0, 0, 5, [2500000]⟩

def idleAirspy : Airspy := ⟨fun _ => 0, 0, false⟩

/-- A new worker of it. -/
def idleSwitch : RxSwitch (.airspy autoProfile) := .create idleAirspy

/-- An RX_START and an RX_STOP that the device carries out. -/
def startOk : SwitchCommand (.airspy autoProfile) := .start fun _ => 0

def stopOk : SwitchCommand (.airspy autoProfile) := .stop fun _ => 0

/-- An RX_START that it does not carry out (`AIRSPY_ERROR_LIBUSB`). -/
def startFails : SwitchCommand (.airspy autoProfile) := .start fun _ => -1000

/-- The worker after one command. -/
def afterCommand (c : SwitchCommand (.airspy autoProfile)) : RxSwitch (.airspy autoProfile) :=
  (idleSwitch.handleMessage c).2

/-- On and off again, and on. -/
theorem idleSwitch_truthful :
    ∃ s, Run RxSwitch.step RxSwitch.DeviceWorks idleSwitch [startOk, stopOk, startOk] s ∧
      s.Truthful ∧ s.rxEnabled = true := by
  have hrun : Run RxSwitch.step RxSwitch.DeviceWorks idleSwitch [startOk, stopOk, startOk]
      ((((afterCommand startOk).handleMessage stopOk).2).handleMessage startOk).2 :=
    ⟨fun _ => rfl, _, rfl, fun _ => rfl, _, rfl, fun _ => rfl, _, rfl, rfl⟩
  exact ⟨_, hrun, (rx_start_truthful (.airspy autoProfile) idleAirspy rfl _ _ hrun).1, rfl⟩

/-- The device does not start: the worker says that it did, holds it for on, and does
not try again when the next RX_START comes, although the device would now start. -/
theorem failed_start_is_success :
    (idleSwitch.handleMessage startFails).1 = .success ∧
    (afterCommand startFails).rxEnabled = true ∧ (afterCommand startFails).streaming = false ∧
    (afterCommand startFails).startFailed = true ∧
    (afterCommand startFails).callsStart startOk = false ∧
    ((afterCommand startFails).handleMessage startOk).1 = .success ∧
    ((afterCommand startFails).handleMessage startOk).2.streaming = false := by
  decide

/-! ## The branches in the worker -/

/-- The worker handles an RX_START as `handleMessage` says. -/
theorem rxWorker_start {radio : Radio} {s : RxSwitch radio} {outcome : radio.Outcome}
    {w : RxWorker} {c : Item RxCommand} {id : UInt32} (hval : c.val = .start id)
    (hrx : w.rxEnabled = s.rxEnabled) (hstreaming : w.streaming = s.streaming) :
    ∃ r w', w.handleStep c r = some w' ∧
      w'.pc = .respond c (s.handleMessage (.start outcome)).1 .noDetails none ∧
      w'.rxEnabled = (s.handleMessage (.start outcome)).2.rxEnabled ∧
      w'.streaming = (s.handleMessage (.start outcome)).2.streaming := by
  by_cases hon : s.rxEnabled = true
  · refine ⟨.nothing, { w with pc := .respond c .success .noDetails none }, ?_, ?_⟩
    · simp [RxWorker.handleStep, hval, hrx, hon]
    · rw [RxSwitch.handleMessage, if_pos hon]
      exact ⟨rfl, hrx, hstreaming⟩
  · refine ⟨.startRx (radio.streaming (radio.startRx outcome s.device)),
      { w with
        pc := .respond c .success .noDetails none
        rxEnabled := true
        streaming := radio.streaming (radio.startRx outcome s.device) }, ?_, ?_⟩
    · simp [RxWorker.handleStep, hval, hrx, hon]
    · rw [RxSwitch.handleMessage, if_neg hon]
      exact ⟨rfl, rfl, rfl⟩

/-- The same for an RX_STOP, when no callback is under way and the device streams no more once it
has been asked to stop. -/
theorem rxWorker_stop {radio : Radio} {s : RxSwitch radio} {outcome : radio.Outcome}
    {w : RxWorker} {c : Item RxCommand} {id : UInt32} (hval : c.val = .stop id)
    (hdevice : w.device = none) (hrx : w.rxEnabled = s.rxEnabled)
    (hstreaming : w.streaming = s.streaming)
    (hstops : radio.streaming (radio.stopRx outcome s.device) = false) :
    ∃ w', w.handleStep c .nothing = some w' ∧
      w'.pc = .respond c (s.handleMessage (.stop outcome)).1 .noDetails none ∧
      w'.rxEnabled = (s.handleMessage (.stop outcome)).2.rxEnabled ∧
      w'.streaming = (s.handleMessage (.stop outcome)).2.streaming := by
  by_cases hon : s.rxEnabled = true
  · refine ⟨{ w with
      pc := .respond c .success .noDetails none, rxEnabled := false, streaming := false }, ?_, ?_⟩
    · simp [RxWorker.handleStep, hval, hrx, hon, hdevice]
    · rw [RxSwitch.handleMessage, if_pos hon]
      exact ⟨rfl, rfl, hstops.symm⟩
  · refine ⟨{ w with pc := .respond c .success .noDetails none }, ?_, ?_⟩
    · simp [RxWorker.handleStep, hval, hrx, hon]
    · rw [RxSwitch.handleMessage, if_neg hon]
      exact ⟨rfl, hrx, hstreaming⟩

end SdrModem
