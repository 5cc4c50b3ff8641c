import SdrModem.Machine
import SdrModem.Plutosdr
import SdrModem.Airspy
import SdrModem.ApiSettings
import SdrModem.RxWorker
import SdrModem.TxWorker

/-!
# Updates of the parameters

Both workers handle `COMM_PARAMETERS` in the same way: decode the settings, create
a modem from them, hand the rest to the device, and exchange the modem if all of
this has worked.  A worker that gives up drops the new modem.  The driver has no
such way back: what it wrote before the call that failed stays on the device.

So an update is all or nothing as long as a failing one has written nothing new
(`Updater.Harmless`).
-/
namespace SdrModem
open StepwiseUpdate Machine

/-- The device of a worker: that of the rx worker or, for a plutosdr, also that of
the tx worker. -/
inductive Radio where
  | plutosdr (profile : PlutosdrProfile) (dir : PlutosdrDirection)
  | airspy (profile : AirspyProfile)

namespace Radio

/-- The driver with its device. -/
def Device : Radio → Type
  | .plutosdr _ _ => Plutosdr
  | .airspy _ => Airspy

/-- The results of the calls that the driver makes. -/
def Outcome : Radio → Type
  | .plutosdr _ _ => IioCall → Int
  | .airspy _ => AirspyCall → Int

/-- The parameters that the device holds. -/
def Param : Radio → Type
  | .plutosdr _ _ => PlutosdrParam
  | .airspy _ => AirspyAttr

/-- `set_rx_parameters`, or `set_tx_parameters`. -/
def updater : (radio : Radio) →
    Updater radio.Device radio.Outcome SdrChannelConfig radio.Param UInt64
  | .plutosdr profile dir => plutosdrUpdater profile dir
  | .airspy profile => airspyUpdater profile

end Radio

/-- A message with settings, and what comes of the calls it leads to. -/
structure ParameterMessage (radio : Radio) where
  buffer : List UInt8
  modemCreated : Bool
  outcome : radio.Outcome

/-- A worker and its device.  `modem` are the settings that `worker->modem` was
created from, `agreed` those of the last message that was answered with a success:
for the modem, and for the parameters of the device. -/
structure Tuning (radio : Radio) where
  modem : Option SdrModemSettings
  device : radio.Device
  agreed : Option SdrModemSettings × (radio.Param → UInt64)

namespace Tuning
variable {radio : Radio}

/-- A new worker. -/
def start (device : radio.Device) : Tuning radio :=
  ⟨none, device, none, radio.updater.held device⟩

/-- The settings of the modem and the parameters on the device. -/
def pair (s : Tuning radio) : Option SdrModemSettings × (radio.Param → UInt64) :=
  (s.modem, radio.updater.held s.device)

/-- The branch `COMM_PARAMETERS` of the workers: the answer and the state behind it. -/
def handleParameters (s : Tuning radio) (m : ParameterMessage radio) :
    ResponseStatus × Tuning radio :=
  match apiDecodeCommSettings m.buffer with
  | none => (.failure, s)
  | some settings =>
    if m.modemCreated then
      let (code, device) := radio.updater.update m.outcome settings.sdrSettings s.device
      if code ≠ 0 then (.failure, { s with device := device })
      else
        -- switch to the new modem only when sdr and modem successfully updated
        (.success,
          { modem := some settings.modemSettings
            device := device
            agreed := (some settings.modemSettings,
              radio.updater.overlay settings.sdrSettings s.agreed.2) })
    else (.failure, s)

/-- A worker that handles one message after the other. -/
def step (s : Tuning radio) (m : ParameterMessage radio) : Option (Tuning radio) :=
  some (s.handleParameters m).2

/-- **No update fails halfway**: if a call of the driver fails, then all it has
written on behalf of this message was there before. -/
def Safe (s : Tuning radio) (m : ParameterMessage radio) : Prop :=
  ∀ settings, apiDecodeCommSettings m.buffer = some settings → m.modemCreated = true →
    radio.updater.Harmless m.outcome settings.sdrSettings s.device

/-- **What handling a message can do.** -/
inductive Handled (s : Tuning radio) (m : ParameterMessage radio) :
    ResponseStatus → Tuning radio → Prop where
  | refused (h : apiDecodeCommSettings m.buffer = none ∨ m.modemCreated = false) :
      Handled s m .failure s
  | failed (settings : CommSettings) (hdecode : apiDecodeCommSettings m.buffer = some settings)
      (hcreated : m.modemCreated = true)
      (hcomplete : ¬ radio.updater.Complete m.outcome settings.sdrSettings s.device) :
      Handled s m .failure
        { s with device := (radio.updater.update m.outcome settings.sdrSettings s.device).2 }
  | done (settings : CommSettings) (hdecode : apiDecodeCommSettings m.buffer = some settings)
      (hcomplete : radio.updater.Complete m.outcome settings.sdrSettings s.device) :
      Handled s m .success
        { modem := some settings.modemSettings
          device := (radio.updater.update m.outcome settings.sdrSettings s.device).2
          agreed := (some settings.modemSettings,
            radio.updater.overlay settings.sdrSettings s.agreed.2) }

theorem handleParameters_handled (s : Tuning radio) (m : ParameterMessage radio) :
    Handled s m (s.handleParameters m).1 (s.handleParameters m).2 := by
  unfold handleParameters
  split
  · exact .refused (Or.inl ‹_›)
  · rename_i settings hdecode
    split
    · rename_i hcreated
      dsimp only
      split
      · rename_i hcode
        exact .failed settings hdecode hcreated (mt (radio.updater.code_eq_zero _ _ _).mpr hcode)
      · rename_i hcode
        exact .done settings hdecode ((radio.updater.code_eq_zero _ _ _).mp (not_not.mp hcode))
    · exact .refused (Or.inr (Bool.not_eq_true _ ▸ ‹_›))

/-- **The worker, its modem and the device agree**, and the driver knows the device. -/
structure Agrees (s : Tuning radio) : Prop where
  pair : s.pair = s.agreed
  synced : radio.updater.Synced s.device

theorem start_agrees {device : radio.Device} (h : radio.updater.Synced device) :
    (start device).Agrees := ⟨rfl, h⟩

/-- Handling a message that does not fail halfway keeps the agreement. -/
theorem Handled.agrees {s s' : Tuning radio} {m : ParameterMessage radio} {status : ResponseStatus}
    (h : Handled s m status s') (hsafe : s.Safe m) (hs : s.Agrees) : s'.Agrees := by
  cases h with
  | refused _ => exact hs
  | failed settings hdecode hcreated hcomplete =>
    have hharmless := hsafe settings hdecode hcreated
    have hheld := radio.updater.held_eq_iff.mpr (hharmless.resolve_left hcomplete)
    refine ⟨?_, radio.updater.synced_update _ _ _ hs.synced hharmless⟩
    rw [← hs.pair, Tuning.pair, hheld]
    rfl
  | done settings hdecode hcomplete =>
    refine ⟨?_, radio.updater.synced_update _ _ _ hs.synced (Or.inl hcomplete)⟩
    have hheld : radio.updater.held s.device = s.agreed.2 := congrArg Prod.snd hs.pair
    rw [Tuning.pair, radio.updater.held_of_complete hs.synced hcomplete, hheld]

/-- A message that is answered with a failure changes nothing exactly if it has not
failed halfway. -/
theorem Handled.pair_iff {s s' : Tuning radio} {m : ParameterMessage radio}
    (h : Handled s m .failure s') : s'.pair = s.pair ↔ s.Safe m := by
  cases h with
  | refused hrefused =>
    refine iff_of_true rfl fun settings hdecode hcreated => ?_
    rcases hrefused with hnone | hnot
    · rw [hnone] at hdecode
      cases hdecode
    · rw [hnot] at hcreated
      cases hcreated
  | failed settings hdecode hcreated hcomplete =>
    constructor
    · intro hpair settings' hdecode' _
      rw [hdecode] at hdecode'
      cases hdecode'
      exact Or.inr (radio.updater.held_eq_iff.mp (congrArg Prod.snd hpair))
    · intro hsafe
      have hheld := radio.updater.held_eq_iff.mpr
        ((hsafe settings hdecode hcreated).resolve_left hcomplete)
      exact Prod.ext rfl hheld

/-- Agreement in every run of messages that do not fail halfway. -/
theorem run_agrees {s s' : Tuning radio} {ms : List (ParameterMessage radio)}
    (hrun : Run step Safe s ms s') (hs : s.Agrees) : s'.Agrees := by
  have hkeep : ∀ (s : Tuning radio) m t, s.Safe m → step s m = some t → s.Agrees → t.Agrees := by
    intro s m t hsafe hstep hs
    cases hstep
    exact (s.handleParameters_handled m).agrees hsafe hs
  exact Run.invariant hkeep hrun hs

end Tuning

/-- A success means that the message was carried out. -/
theorem Tuning.Handled.carried_out {radio : Radio} {s s' : Tuning radio}
    {m : ParameterMessage radio} (h : Tuning.Handled s m .success s') (hs : s.Agrees) :
    ∃ settings, apiDecodeCommSettings m.buffer = some settings ∧
      s'.modem = some settings.modemSettings ∧
      ∀ x v, radio.updater.requested settings.sdrSettings x = some v →
        radio.updater.held s'.device x = v := by
  cases h with
  | done settings hdecode hcomplete =>
    refine ⟨settings, hdecode, rfl, fun x v hx => ?_⟩
    rw [radio.updater.held_of_complete hs.synced hcomplete, Updater.overlay, hx, Option.getD_some]

/-- **Updates of the parameters are all or nothing, where none fails halfway.**  In
every run of a new worker the settings of the modem and the parameters on the
device are those of the last message that was answered with a success.  The next
message is carried out if it is answered with a success; if it is answered with a
failure, it changes nothing exactly if it does not fail halfway. -/
theorem parameters_all_or_nothing (radio : Radio) (device : radio.Device)
    (hsync : radio.updater.Synced device) (ms : List (ParameterMessage radio)) (s : Tuning radio)
    (hrun : Run Tuning.step Tuning.Safe (Tuning.start device) ms s) :
    s.pair = s.agreed ∧
    (∀ m, (s.handleParameters m).1 = .success →
      ∃ settings, apiDecodeCommSettings m.buffer = some settings ∧
        (s.handleParameters m).2.modem = some settings.modemSettings ∧
        ∀ x v, radio.updater.requested settings.sdrSettings x = some v →
          radio.updater.held (s.handleParameters m).2.device x = v) ∧
    ∀ m, (s.handleParameters m).1 = .failure →
      ((s.handleParameters m).2.pair = s.pair ↔ s.Safe m) := by
  have hagrees := Tuning.run_agrees hrun (Tuning.start_agrees hsync)
  refine ⟨hagrees.pair, fun m hsuccess => ?_, fun m hfailure => ?_⟩
  · have hhandled := s.handleParameters_handled m
    rw [hsuccess] at hhandled
    exact hhandled.carried_out hagrees
  · have hhandled := s.handleParameters_handled m
    rw [hfailure] at hhandled
    exact hhandled.pair_iff

/-! ## Two messages -/

/-- GFSK settings for a frequency and a sample rate. -/
def tuneBuffer (frequency sampleRate : UInt64) : List UInt8 :=
  writeU64 frequency ++ writeU64 sampleRate ++ [0, 0, 0, 0] ++ 1 :: List.replicate apiGfskSize 0

/-- The device before the first message. -/
def idlePlutosdr : Plutosdr :=
  ⟨fun a => if a = .samplingFrequency .rx0Chn then 600000 else 0, 600000, false, false⟩

/-- All calls succeed. -/
def tuneMessage : ParameterMessage (.plutosdr manualProfile .rx) :=
  ⟨tuneBuffer 437000000 600000, true, fun _ => 0⟩

/-- The device does not take the gain. -/
def gainFails : ParameterMessage (.plutosdr manualProfile .rx) :=
  ⟨tuneBuffer 145000000 600000, true,
    fun c => if c = .write (.hardwaregain .rx0Chn) then -5 else 0⟩

/-- The device does not take the frequency. -/
def frequencyFails : ParameterMessage (.plutosdr manualProfile .rx) :=
  ⟨tuneBuffer 145000000 600000, true, fun c => if c = .write (.frequency .rx0Lo) then -5 else 0⟩

/-- The receiver before and after the first message. -/
def untuned : Tuning (.plutosdr manualProfile .rx) := .start idlePlutosdr

def tuned : Tuning (.plutosdr manualProfile .rx) := (untuned.handleParameters tuneMessage).2

theorem decode_tuneBuffer {settings : CommSettings}
    (h : apiDecodeCommSettings (tuneBuffer 437000000 600000) = some settings) :
    settings.sdrSettings = ⟨437000000, 600000, 0⟩ := by
  have hdecode : (apiDecodeCommSettings (tuneBuffer 437000000 600000)).map (·.sdrSettings) =
      some ⟨437000000, 600000, 0⟩ := by decide +kernel
  rw [h] at hdecode
  exact Option.some.inj hdecode

theorem untuned_safe : untuned.Safe tuneMessage := by
  intro settings hdecode _
  rw [decode_tuneBuffer hdecode]
  exact Or.inl ⟨⟨by decide +kernel, trivial⟩, ⟨by decide, Or.inl rfl⟩, fun _ => by decide, trivial⟩

theorem tuned_safe : tuned.Safe frequencyFails := by
  intro settings _ _
  have hfailed : ¬ 0 ≤ frequencyFails.outcome (.write (.frequency .rx0Lo)) := by decide
  refine Or.inr fun x hx => ?_
  cases x with
  | frequency => exact absurd hx.2 hfailed
  | sampleRate => exact absurd hx.2.1 hfailed
  | gain => exact absurd hx.2.1.1 hfailed

/-- A message that is carried out, and one that fails at the first write. -/
theorem untuned_run :
    Run Tuning.step Tuning.Safe untuned [tuneMessage, frequencyFails]
      (tuned.handleParameters frequencyFails).2 :=
  ⟨untuned_safe, tuned, rfl, tuned_safe, _, rfl, rfl⟩

/-- The second message changes neither the modem nor the device. -/
theorem parameters_survive_failure :
    (tuned.handleParameters frequencyFails).1 = .failure ∧
    (tuned.handleParameters frequencyFails).2.pair =
      (tuned.handleParameters frequencyFails).2.agreed ∧
    (tuned.handleParameters frequencyFails).2.agreed.2 PlutosdrParam.frequency = 437000000 :=
  ⟨by decide +kernel,
    (parameters_all_or_nothing (.plutosdr manualProfile .rx) idlePlutosdr rfl
      [tuneMessage, frequencyFails] _ untuned_run).1,
    by decide +kernel⟩

/-- After a message that was carried out comes one that fails at the gain: it is
answered with a failure, and the receiver is on its frequency with the old modem. -/
theorem failed_update_retunes :
    (untuned.handleParameters tuneMessage).1 = .success ∧
    tuned.pair = tuned.agreed ∧
    (tuned.handleParameters gainFails).1 = .failure ∧
    (tuned.handleParameters gainFails).2.modem = tuned.modem ∧
    (tuned.handleParameters gainFails).2.device.attrs (.frequency .rx0Lo) = 145000000 ∧
    (tuned.handleParameters gainFails).2.agreed.2 PlutosdrParam.frequency = 437000000 ∧
    (tuned.handleParameters gainFails).2.pair ≠ (tuned.handleParameters gainFails).2.agreed := by
  have hfrequency : (tuned.handleParameters gainFails).2.device.attrs (.frequency .rx0Lo) =
      145000000 := by decide +kernel
  have hagreed : (tuned.handleParameters gainFails).2.agreed.2 PlutosdrParam.frequency =
      437000000 := by decide +kernel
  have htuned : tuned.Agrees :=
    (untuned.handleParameters_handled tuneMessage).agrees untuned_safe (Tuning.start_agrees rfl)
  refine ⟨by decide +kernel, htuned.pair, by decide +kernel, by decide +kernel, hfrequency,
    hagreed, ?_⟩
  intro hpair
  have hsame := congrFun (congrArg Prod.snd hpair) PlutosdrParam.frequency
  rw [hagreed] at hsame
  exact absurd (hfrequency.symm.trans hsame) (by decide)

/-! ## The branch in the two workers -/

section Workers
variable {radio : Radio} {s s' : Tuning radio} {m : ParameterMessage radio}
  {status : ResponseStatus}

/-- The rx worker, from the message to its answer: the same answer, and a new modem
exactly with a success. -/
theorem rxWorker_parameters (h : Tuning.Handled s m status s') {w : RxWorker}
    {c : Item RxCommand} {id : UInt32} (hpc : w.pc = .handle c)
    (hval : c.val = .commParameters id m.buffer) (hmutex : w.mutex = none) :
    ∃ results w' details modem,
      exec (fun w r => (RxWorker.workerStep w r).map Prod.fst) w results = some w' ∧
      w'.pc = .respond c status details modem ∧
      w'.modem = if status = .success then some w.nextModem else w.modem := by
  cases h with
  | refused hrefused =>
    by_cases hnone : apiDecodeCommSettings m.buffer = none
    · refine ⟨[.nothing], { w with pc := .respond c .failure .invalidRequest none },
        .invalidRequest, none, ?_, rfl, rfl⟩
      simp [exec, RxWorker.workerStep, hpc, RxWorker.handleStep, hval, hnone]
    · refine ⟨[.modemCreate false], { w with pc := .respond c .failure .invalidRequest none },
        .invalidRequest, none, ?_, rfl, rfl⟩
      simp [exec, RxWorker.workerStep, hpc, RxWorker.handleStep, hval, hnone]
  | failed settings hdecode _ _ =>
    refine ⟨[.modemCreate true, .setRxParameters false],
      { w with
        pc := .respond c .failure .invalidRequest none
        nextModem := w.nextModem + 1
        destroyed := w.nextModem :: w.destroyed },
      .invalidRequest, none, ?_, rfl, rfl⟩
    simp [exec, RxWorker.workerStep, hpc, RxWorker.handleStep, hval, hdecode]
  | done settings hdecode _ =>
    refine ⟨[.modemCreate true, .setRxParameters true, .nothing, .nothing, .nothing, .nothing],
      { w with
        pc := .respond c .success .noDetails (some w.nextModem)
        modem := some w.nextModem
        nextModem := w.nextModem + 1
        mutex := none
        destroyed := w.modem.toList ++ w.destroyed },
      .noDetails, some w.nextModem, ?_, rfl, rfl⟩
    simp [exec, RxWorker.workerStep, hpc, RxWorker.handleStep, hval, hdecode, hmutex]

/-- The tx worker: with some results of its calls it comes to the same answer, and it has a new
modem exactly if that is a success. -/
theorem txWorker_parameters (h : Tuning.Handled s m status s') {w : TxWorker}
    {c : Item TxCommand} {id : UInt32} (hpc : w.pc = .handle c)
    (hval : c.val = .commParameters id m.buffer) :
    ∃ results w' details,
      exec (fun w r => (TxWorker.step w r).map Prod.fst) w results = some w' ∧
      w'.pc = .respond c status details ∧
      w'.modem = if status = .success then some ⟨false⟩ else w.modem := by
  cases h with
  | refused hrefused =>
    by_cases hnone : apiDecodeCommSettings m.buffer = none
    · refine ⟨[.nothing], { w with pc := .respond c .failure .invalidRequest },
        .invalidRequest, ?_, rfl, rfl⟩
      simp [exec, TxWorker.step, hpc, TxWorker.handleStep, hval, hnone]
    · refine ⟨[.modemCreate false], { w with pc := .respond c .failure .invalidRequest },
        .invalidRequest, ?_, rfl, rfl⟩
      simp [exec, TxWorker.step, hpc, TxWorker.handleStep, hval, hnone]
  | failed settings hdecode _ _ =>
    refine ⟨[.modemCreate true, .setTxParameters false],
      { w with pc := .respond c .failure .invalidRequest }, .invalidRequest, ?_, rfl, rfl⟩
    simp [exec, TxWorker.step, hpc, TxWorker.handleStep, hval, hdecode]
  | done settings hdecode _ =>
    refine ⟨[.modemCreate true, .setTxParameters true],
      { w with pc := .respond c .success .noDetails, modem := some ⟨false⟩ },
      .noDetails, ?_, rfl, rfl⟩
    simp [exec, TxWorker.step, hpc, TxWorker.handleStep, hval, hdecode]

end Workers
end SdrModem
