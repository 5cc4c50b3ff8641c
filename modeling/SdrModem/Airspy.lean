import SdrModem.Api
import SdrModem.StepwiseUpdate

/-!
# The driver of the airspy: `airspy.c`

Every call into `libairspy` sets one thing; its result is given (`AirspyCall → Int`,
0 for success).  The parameters of the device are everything the driver sets on
an update: the rate, the frequency, and the gains that the mode takes from the
settings of the driver or from the message.  A float is carried as its bits, which
for a number that is not negative grow with it.
-/
namespace SdrModem
open StepwiseUpdate

/-- `airspy_gain_mode`. -/
inductive AirspyGainMode where
  | auto
  | sensitivity
  | linearity
  | manual
deriving DecidableEq, Repr

/-- What the calls of `libairspy` set. -/
inductive AirspyAttr where
  | samplerate
  | freq
  | lnaAgc
  | mixerAgc
  | lnaGain
  | mixerGain
  | vgaGain
  | sensitivityGain
  | linearityGain
deriving DecidableEq, Repr

/-- The calls whose results the driver looks at. -/
inductive AirspyCall where
  | set (a : AirspyAttr)
  | startRx
  | stopRx
deriving DecidableEq, Repr

/-- The fields of `struct airspy_t` that do not change after its creation. -/
structure AirspyProfile where
  gainMode : AirspyGainMode
  lnaGain : UInt8
  mixerGain : UInt8
  vgaGain : UInt8
  sampleRates : List UInt32

/-- The fields of `struct airspy_t` that change, and the device. -/
structure Airspy where
  attrs : AirspyAttr → UInt64
  /-- 0 - unknown -/
  currentSampleRate : UInt64
  /-- the device was started and not stopped -/
  streaming : Bool

/-- `AIRSPY_MIN_FREQUENCY`. -/
def airspyMinFrequency : UInt64 := 24000000

/-- `AIRSPY_MAX_FREQUENCY`. -/
def airspyMaxFrequency : UInt64 := 1750000000

/-- `gain >= 0.0F && gain <= AIRSPY_MAX_COMBINED_GAIN`: the bits of a float between
0 and 21, or those of the negative zero. -/
def combinedGainSupported (gain : UInt32) : Bool := gain ≤ 0x41a80000 || gain = 0x80000000

/-- `lroundf` of a float that is not negative and below `2 ^ 23`: half is rounded up.
Below the smallest normal number the exponent bits are 0, and the result too. -/
def lroundf (gain : UInt32) : Nat :=
  let exponent := gain.toNat / 2 ^ 23 % 2 ^ 8
  let mantissa := 2 ^ 23 + gain.toNat % 2 ^ 23
  let shift := 150 - exponent
  (mantissa + 2 ^ (shift - 1)) / 2 ^ shift

/-- `airspy_is_sample_rate_supported`. -/
def AirspyProfile.isSampleRateSupported (profile : AirspyProfile) (sampleRate : UInt64) : Bool :=
  profile.sampleRates.any fun rate => rate.toUInt64 = sampleRate

namespace Airspy

/-- A call of `libairspy` and its `airspy_check`. -/
def set (ret : AirspyCall → Int) (a : AirspyAttr) (value : UInt64) (dev : Airspy) : Int × Airspy :=
  if ret (.set a) = 0 then (0, { dev with attrs := Function.update dev.attrs a value })
  else (-1, dev)

/-- `airspy_set_agc`. -/
def setAgc (ret : AirspyCall → Int) (enabled : UInt64) (dev : Airspy) : Int × Airspy :=
  andThen (dev.set ret .lnaAgc enabled) fun dev => dev.set ret .mixerAgc enabled

/-- `airspy_apply_gain`. -/
def applyGain (profile : AirspyProfile) (ret : AirspyCall → Int) (gain : UInt32) (dev : Airspy) :
    Int × Airspy :=
  match profile.gainMode with
  | .auto =>
      andThen (dev.setAgc ret 1) fun dev => dev.set ret .vgaGain profile.vgaGain.toUInt64
  | .sensitivity =>
      andThen (dev.setAgc ret 0) fun dev =>
      dev.set ret .sensitivityGain (UInt8.ofNat (lroundf gain)).toUInt64
  | .linearity =>
      andThen (dev.setAgc ret 0) fun dev =>
      dev.set ret .linearityGain (UInt8.ofNat (lroundf gain)).toUInt64
  | .manual =>
      andThen (dev.setAgc ret 0) fun dev =>
      andThen (dev.set ret .lnaGain profile.lnaGain.toUInt64) fun dev =>
      andThen (dev.set ret .mixerGain profile.mixerGain.toUInt64) fun dev =>
      dev.set ret .vgaGain profile.vgaGain.toUInt64

/-- `airspy_set_sample_rate`. -/
def setSampleRate (profile : AirspyProfile) (ret : AirspyCall → Int) (sampleRate : UInt64)
    (dev : Airspy) : Int × Airspy :=
  if profile.isSampleRateSupported sampleRate then
    andThen (dev.set ret .samplerate sampleRate.toUInt32.toUInt64) fun dev =>
    (0, { dev with currentSampleRate := sampleRate })
  else (-1, dev)

end Airspy

/-- The checks at the head of `airspy_set_rx_parameters`. -/
def AirspyProfile.accepts (profile : AirspyProfile) (config : SdrChannelConfig) : Bool :=
  !(config.frequency < airspyMinFrequency || config.frequency > airspyMaxFrequency) &&
  profile.isSampleRateSupported config.sampleRate &&
  !((profile.gainMode = .sensitivity || profile.gainMode = .linearity) &&
    !combinedGainSupported config.gain)

/-- `airspy_set_rx_parameters`. -/
def airspySetRxParameters (profile : AirspyProfile) (ret : AirspyCall → Int)
    (config : SdrChannelConfig) (dev : Airspy) : Int × Airspy :=
  if profile.accepts config then
    andThen (if dev.currentSampleRate ≠ config.sampleRate then
        dev.setSampleRate profile ret config.sampleRate
      else (0, dev)) fun dev =>
    andThen (dev.set ret .freq config.frequency.toUInt32.toUInt64) fun dev =>
    dev.applyGain profile ret config.gain
  else (-1, dev)

/-- `airspy_start_rx`: the result of the call is only logged. -/
def airspyStartRx (ret : AirspyCall → Int) (dev : Airspy) : Airspy :=
  if ret .startRx = 0 then { dev with streaming := true } else dev

/-- `airspy_stop_rx`. -/
def airspyStopRx (ret : AirspyCall → Int) (dev : Airspy) : Airspy :=
  if ret .stopRx = 0 then { dev with streaming := false } else dev

theorem Airspy.streaming_startRx {ret : AirspyCall → Int} {dev : Airspy}
    (hoff : dev.streaming = false) : (airspyStartRx ret dev).streaming = true ↔ ret .startRx = 0 := by
  unfold airspyStartRx
  split
  · exact iff_of_true rfl ‹_›
  · rw [hoff]
    exact iff_of_false Bool.false_ne_true ‹_›

theorem Airspy.streaming_stopRx {ret : AirspyCall → Int} {dev : Airspy}
    (hon : dev.streaming = true) : (airspyStopRx ret dev).streaming = false ↔ ret .stopRx = 0 := by
  unfold airspyStopRx
  split
  · exact iff_of_true rfl ‹_›
  · rw [hon]
    exact iff_of_false Bool.false_ne_true.symm ‹_›

/-! ## The calls as a list -/

namespace AirspyProfile

/-- The calls of `airspy_apply_gain`, in order. -/
def gainWrites (profile : AirspyProfile) (gain : UInt32) : List (AirspyAttr × UInt64) :=
  match profile.gainMode with
  | .auto => [(.lnaAgc, 1), (.mixerAgc, 1), (.vgaGain, profile.vgaGain.toUInt64)]
  | .sensitivity =>
      [(.lnaAgc, 0), (.mixerAgc, 0), (.sensitivityGain, (UInt8.ofNat (lroundf gain)).toUInt64)]
  | .linearity =>
      [(.lnaAgc, 0), (.mixerAgc, 0), (.linearityGain, (UInt8.ofNat (lroundf gain)).toUInt64)]
  | .manual =>
      [(.lnaAgc, 0), (.mixerAgc, 0), (.lnaGain, profile.lnaGain.toUInt64),
       (.mixerGain, profile.mixerGain.toUInt64), (.vgaGain, profile.vgaGain.toUInt64)]

/-- The calls of an update that follow that for the rate. -/
def tuneWrites (profile : AirspyProfile) (config : SdrChannelConfig) :
    List (AirspyAttr × UInt64) :=
  (.freq, config.frequency) :: profile.gainWrites config.gain

/-- All the calls that set a parameter. -/
def writes (profile : AirspyProfile) (config : SdrChannelConfig) : List (AirspyAttr × UInt64) :=
  (.samplerate, config.sampleRate) :: profile.tuneWrites config

/-- No parameter is set twice. -/
theorem writes_nodup (profile : AirspyProfile) (config : SdrChannelConfig) :
    ((profile.writes config).map Prod.fst).Nodup := by
  unfold writes tuneWrites gainWrites
  split
  · simp
  · simp
  · simp
  · simp

/-- The casts to 32 bits lose nothing of what the checks let through. -/
theorem frequency_of_accepts {profile : AirspyProfile} {config : SdrChannelConfig}
    (h : profile.accepts config = true) :
    config.frequency.toUInt32.toUInt64 = config.frequency := by
  unfold accepts airspyMaxFrequency at h
  simp only [Bool.and_eq_true, Bool.not_eq_true', Bool.or_eq_false_iff, decide_eq_false_iff_not,
    gt_iff_lt, UInt64.not_lt] at h
  have hmax : config.frequency.toNat ≤ 1750000000 := h.1.1.2
  apply UInt64.toNat_inj.mp
  rw [UInt32.toNat_toUInt64, UInt64.toNat_toUInt32]
  omega

theorem supported_of_accepts {profile : AirspyProfile} {config : SdrChannelConfig}
    (h : profile.accepts config = true) :
    profile.isSampleRateSupported config.sampleRate = true := by
  unfold accepts at h
  simp only [Bool.and_eq_true] at h
  exact h.1.2

theorem rate_of_supported {profile : AirspyProfile} {sampleRate : UInt64}
    (h : profile.isSampleRateSupported sampleRate = true) :
    sampleRate.toUInt32.toUInt64 = sampleRate := by
  obtain ⟨rate, -, hrate⟩ := List.any_eq_true.mp h
  rw [← of_decide_eq_true hrate, UInt32.toUInt32_toUInt64]

end AirspyProfile

/-- The call succeeds. -/
def AirspyOk (ret : AirspyCall → Int) (a : AirspyAttr) : Bool := ret (.set a) = 0

namespace Airspy
variable {profile : AirspyProfile} {ret : AirspyCall → Int} {config : SdrChannelConfig}
  {dev : Airspy}

theorem set_code (a : AirspyAttr) (value : UInt64) (dev : Airspy) :
    (dev.set ret a value).1 = 0 ↔ AirspyOk ret a = true := by
  unfold set AirspyOk
  split <;> simp [*]

theorem set_self (a : AirspyAttr) (value : UInt64) (dev : Airspy) (h : AirspyOk ret a = true) :
    (dev.set ret a value).2.attrs a = value := by
  rw [set, if_pos (of_decide_eq_true h)]
  exact Function.update_self ..

theorem set_other (a : AirspyAttr) (value : UInt64) (dev : Airspy) (b : AirspyAttr) (h : b ≠ a) :
    (dev.set ret a value).2.attrs b = dev.attrs b := by
  unfold set
  split
  · exact Function.update_of_ne h ..
  · rfl

theorem set_failed (a : AirspyAttr) (value : UInt64) (dev : Airspy) (h : AirspyOk ret a = false) :
    (dev.set ret a value).2 = dev := by
  rw [set, if_neg (of_decide_eq_false h)]

theorem set_current (a : AirspyAttr) (value : UInt64) (dev : Airspy) :
    (dev.set ret a value).2.currentSampleRate = dev.currentSampleRate := by
  unfold set
  split
  · rfl
  · rfl

/-- `airspy_apply_gain` makes its calls in order. -/
theorem applyGain_eq (gain : UInt32) (dev : Airspy) :
    dev.applyGain profile ret gain =
      perform (fun a v dev => dev.set ret a v) (profile.gainWrites gain) dev := by
  have hlast : ∀ (a : AirspyAttr) (v : UInt64) (dev : Airspy),
      dev.set ret a v = perform (fun a v dev => dev.set ret a v) [(a, v)] dev := by
    intro a v dev
    by_cases h : (dev.set ret a v).1 = 0
    · rw [perform, andThen_of_ok h]
      exact Prod.ext h rfl
    · rw [perform, andThen_of_failed h]
  unfold applyGain AirspyProfile.gainWrites
  split
  · rw [setAgc, andThen_assoc]
    simp only [hlast .vgaGain]
    rfl
  · rw [setAgc, andThen_assoc]
    simp only [hlast .sensitivityGain]
    rfl
  · rw [setAgc, andThen_assoc]
    simp only [hlast .linearityGain]
    rfl
  · rw [setAgc, andThen_assoc]
    simp only [hlast .vgaGain]
    rfl

/-- The call for the rate, where it is needed. -/
def changeSampleRate (profile : AirspyProfile) (ret : AirspyCall → Int) (sampleRate : UInt64)
    (dev : Airspy) : Int × Airspy :=
  if dev.currentSampleRate ≠ sampleRate then dev.setSampleRate profile ret sampleRate else (0, dev)

/-- `airspy_set_rx_parameters` behind its checks. -/
theorem setRxParameters_of_accepts (h : profile.accepts config = true) (dev : Airspy) :
    airspySetRxParameters profile ret config dev =
      andThen (dev.changeSampleRate profile ret config.sampleRate)
        (perform (fun a v dev => dev.set ret a v) (profile.tuneWrites config)) := by
  rw [airspySetRxParameters, if_pos h, AirspyProfile.frequency_of_accepts h]
  simp only [applyGain_eq]
  rfl

theorem setRxParameters_of_rejected (h : ¬ profile.accepts config = true) (dev : Airspy) :
    airspySetRxParameters profile ret config dev = (-1, dev) := by
  rw [airspySetRxParameters, if_neg h]

/-- The rate is the current one, or it can be set. -/
def RateDone (ret : AirspyCall → Int) (config : SdrChannelConfig) (dev : Airspy) : Prop :=
  dev.currentSampleRate = config.sampleRate ∨ AirspyOk ret .samplerate = true

/-- The parameters that an update sets before it returns. -/
def Written (profile : AirspyProfile) (ret : AirspyCall → Int) (config : SdrChannelConfig)
    (dev : Airspy) (x : AirspyAttr) : Prop :=
  profile.accepts config = true ∧ RateDone ret config dev ∧
  (x = .samplerate ∧ dev.currentSampleRate ≠ config.sampleRate ∨
    x ∈ (done (AirspyOk ret) (profile.tuneWrites config)).map Prod.fst)

/-- All the calls of an update succeed. -/
def Complete (profile : AirspyProfile) (ret : AirspyCall → Int) (config : SdrChannelConfig)
    (dev : Airspy) : Prop :=
  profile.accepts config = true ∧ RateDone ret config dev ∧
  ∀ w ∈ profile.tuneWrites config, AirspyOk ret w.1 = true

/-- What the settings say about a parameter. -/
def requested (profile : AirspyProfile) (config : SdrChannelConfig) (x : AirspyAttr) :
    Option UInt64 :=
  (profile.writes config).lookup x

/-- `current_sample_rate` is what the device holds, if it is a rate at all. -/
def Synced (profile : AirspyProfile) (dev : Airspy) : Prop :=
  profile.isSampleRateSupported dev.currentSampleRate = true →
    dev.attrs .samplerate = dev.currentSampleRate

/-- What the call for the rate does. -/
theorem changeSampleRate_cases (ret : AirspyCall → Int) (h : profile.accepts config = true)
    (dev : Airspy) :
    (dev.currentSampleRate = config.sampleRate ∧
      dev.changeSampleRate profile ret config.sampleRate = (0, dev)) ∨
    (dev.currentSampleRate ≠ config.sampleRate ∧ AirspyOk ret .samplerate = true ∧
      dev.changeSampleRate profile ret config.sampleRate =
        (0, { dev with
          attrs := Function.update dev.attrs .samplerate config.sampleRate
          currentSampleRate := config.sampleRate })) ∨
    (dev.currentSampleRate ≠ config.sampleRate ∧ AirspyOk ret .samplerate = false ∧
      dev.changeSampleRate profile ret config.sampleRate = (-1, dev)) := by
  have hsupported := AirspyProfile.supported_of_accepts h
  by_cases hcur : dev.currentSampleRate = config.sampleRate
  · exact Or.inl ⟨hcur, by rw [changeSampleRate, if_neg (not_not.mpr hcur)]⟩
  · rw [changeSampleRate, if_pos hcur, setSampleRate, if_pos hsupported,
      AirspyProfile.rate_of_supported hsupported, set]
    by_cases hok : ret (.set .samplerate) = 0
    · rw [if_pos hok, andThen_of_ok rfl]
      exact Or.inr (Or.inl ⟨hcur, decide_eq_true hok, rfl⟩)
    · rw [if_neg hok, andThen_of_failed (by simp)]
      exact Or.inr (Or.inr ⟨hcur, decide_eq_false hok, rfl⟩)

theorem changeSampleRate_code (h : profile.accepts config = true) (dev : Airspy) :
    (dev.changeSampleRate profile ret config.sampleRate).1 = 0 ↔ RateDone ret config dev := by
  rcases changeSampleRate_cases ret h dev with
    ⟨hcur, heq⟩ | ⟨hcur, hok, heq⟩ | ⟨hcur, hok, heq⟩
  · exact iff_of_true (by rw [heq]) (Or.inl hcur)
  · exact iff_of_true (by rw [heq]) (Or.inr hok)
  · refine iff_of_false (by rw [heq]; simp) ?_
    rintro (h | h)
    · exact hcur h
    · exact absurd h (by rw [hok]; decide)

/-- The code of an update. -/
theorem setRxParameters_code :
    (airspySetRxParameters profile ret config dev).1 = 0 ↔ Complete profile ret config dev := by
  by_cases h : profile.accepts config = true
  · rw [setRxParameters_of_accepts h, andThen_code, changeSampleRate_code h,
      perform_code (fun a v dev => set_code a v dev)]
    exact (and_iff_right h).symm
  · rw [setRxParameters_of_rejected h]
    exact iff_of_false (by simp) fun hc => h hc.1

/-- The rate is not set by the later calls. -/
theorem samplerate_not_mem :
    AirspyAttr.samplerate ∉ (done (AirspyOk ret) (profile.tuneWrites config)).map Prod.fst := by
  intro hmem
  obtain ⟨w, hw, heq⟩ := List.mem_map.mp hmem
  have hfresh := (List.nodup_cons.mp (profile.writes_nodup config)).1
  exact hfresh (List.mem_map.mpr ⟨w, (List.takeWhile_subset _) hw, heq⟩)

/-- The parameters behind an update whose rate is set: those that the later calls
set, and what the call for the rate has left of the others. -/
theorem setRxParameters_attrs (h : profile.accepts config = true) (hrate : RateDone ret config dev)
    {x : AirspyAttr} (hx : x ∉ (done (AirspyOk ret) (profile.tuneWrites config)).map Prod.fst) :
    (airspySetRxParameters profile ret config dev).2.attrs x =
      (dev.changeSampleRate profile ret config.sampleRate).2.attrs x := by
  rw [setRxParameters_of_accepts h, andThen_of_ok ((changeSampleRate_code h dev).mpr hrate)]
  exact perform_of_not_mem Airspy.attrs set_code set_other set_failed hx _

/-- What was set is held. -/
theorem setRxParameters_written {x : AirspyAttr} (h : Written profile ret config dev x) :
    requested profile config x =
      some ((airspySetRxParameters profile ret config dev).2.attrs x) := by
  obtain ⟨haccept, hrate, hx⟩ := h
  have hnodup := profile.writes_nodup config
  rcases hx with ⟨rfl, hne⟩ | hx
  · rw [setRxParameters_attrs haccept hrate samplerate_not_mem]
    rcases changeSampleRate_cases ret haccept dev with
      ⟨hcur, -⟩ | ⟨-, -, heq⟩ | ⟨-, hok, -⟩
    · exact absurd hcur hne
    · rw [heq]
      exact congrArg some (Function.update_self AirspyAttr.samplerate _ dev.attrs).symm
    · rcases hrate with h | h
      · exact absurd h hne
      · exact absurd h (by rw [hok]; decide)
  · obtain ⟨⟨y, v⟩, hv, rfl⟩ := List.mem_map.mp hx
    rw [setRxParameters_of_accepts haccept,
      andThen_of_ok ((changeSampleRate_code haccept dev).mpr hrate),
      perform_of_mem Airspy.attrs set_code set_self set_other set_failed
        (List.nodup_cons.mp hnodup).2 hv]
    exact lookup_of_mem hnodup (List.mem_cons_of_mem _ ((List.takeWhile_subset _) hv))

/-- What was not set is held as before. -/
theorem setRxParameters_unwritten {x : AirspyAttr} (h : ¬ Written profile ret config dev x) :
    (airspySetRxParameters profile ret config dev).2.attrs x = dev.attrs x := by
  by_cases haccept : profile.accepts config = true
  · by_cases hrate : RateDone ret config dev
    · rw [setRxParameters_attrs haccept hrate fun hx => h ⟨haccept, hrate, Or.inr hx⟩]
      rcases changeSampleRate_cases ret haccept dev with
        ⟨-, heq⟩ | ⟨hcur, -, heq⟩ | ⟨-, -, heq⟩
      · rw [heq]
      · rw [heq]
        exact Function.update_of_ne (fun hx => h ⟨haccept, hrate, Or.inl ⟨hx, hcur⟩⟩) ..
      · rw [heq]
    · rw [setRxParameters_of_accepts haccept,
        andThen_of_failed (mt (changeSampleRate_code haccept dev).mp hrate)]
      rcases changeSampleRate_cases ret haccept dev with
        ⟨-, heq⟩ | ⟨-, hok, -⟩ | ⟨-, -, heq⟩
      · rw [heq]
      · exact absurd (Or.inr hok) hrate
      · rw [heq]
  · rw [setRxParameters_of_rejected haccept]

/-- A complete update finds or leaves every parameter as the settings say. -/
theorem requested_of_complete {x : AirspyAttr} (hsync : Synced profile dev)
    (h : Complete profile ret config dev) (hx : ¬ Written profile ret config dev x) :
    (requested profile config x).getD (dev.attrs x) = dev.attrs x := by
  obtain ⟨haccept, hrate, hall⟩ := h
  rw [Written, done_of_all hall] at hx
  have hx : ¬ (x = .samplerate ∧ dev.currentSampleRate ≠ config.sampleRate ∨
      x ∈ (profile.tuneWrites config).map Prod.fst) := fun hw => hx ⟨haccept, hrate, hw⟩
  obtain ⟨hrate', hmem⟩ := not_or.mp hx
  by_cases hs : x = .samplerate
  · have hcur : dev.currentSampleRate = config.sampleRate :=
      not_not.mp fun hne => hrate' ⟨hs, hne⟩
    have hheld := hsync (hcur ▸ AirspyProfile.supported_of_accepts haccept)
    rw [hs, hheld, hcur]
    rfl
  · have hnone : requested profile config x = none := by
      rw [requested, List.lookup_eq_none_iff]
      intro w hw
      rcases List.mem_cons.mp hw with rfl | hw
      · exact bne_iff_ne.mpr hs
      · refine bne_iff_ne.mpr ?_
        rintro rfl
        exact hmem (List.mem_map.mpr ⟨w, hw, rfl⟩)
    rw [hnone, Option.getD_none]

/-- The calls behind that for the rate do not touch it. -/
theorem perform_rate (profile : AirspyProfile) (ret : AirspyCall → Int) (config : SdrChannelConfig)
    (dev : Airspy) :
    let after := (perform (fun a v dev => dev.set ret a v) (profile.tuneWrites config) dev).2
    after.attrs .samplerate = dev.attrs .samplerate ∧
    after.currentSampleRate = dev.currentSampleRate := by
  constructor
  · exact perform_of_not_mem Airspy.attrs set_code set_other set_failed
      (samplerate_not_mem : _ ∉ (done (AirspyOk ret) (profile.tuneWrites config)).map _) dev
  · exact perform_keeps (P := fun d : Airspy => d.currentSampleRate = dev.currentSampleRate)
      (fun a v d hd => (set_current a v d : (d.set ret a v).2.currentSampleRate = _).trans hd)
      (profile.tuneWrites config) rfl

/-- **The rate behind an update**: the device and the driver both keep theirs, or both
have the new one. -/
theorem setRxParameters_rate (profile : AirspyProfile) (ret : AirspyCall → Int)
    (config : SdrChannelConfig) (dev : Airspy) :
    let after := (airspySetRxParameters profile ret config dev).2
    (after.attrs .samplerate = dev.attrs .samplerate ∧
      after.currentSampleRate = dev.currentSampleRate) ∨
    (after.attrs .samplerate = config.sampleRate ∧ after.currentSampleRate = config.sampleRate) := by
  dsimp only
  by_cases haccept : profile.accepts config = true
  · rw [setRxParameters_of_accepts haccept]
    rcases changeSampleRate_cases ret haccept dev with
      ⟨-, heq⟩ | ⟨-, -, heq⟩ | ⟨-, -, heq⟩
    · rw [heq, andThen_of_ok rfl]
      exact Or.inl (perform_rate profile ret config dev)
    · rw [heq, andThen_of_ok rfl]
      obtain ⟨hattrs, hcurrent⟩ := perform_rate profile ret config
        { dev with
          attrs := Function.update dev.attrs .samplerate config.sampleRate
          currentSampleRate := config.sampleRate }
      exact Or.inr ⟨hattrs.trans (Function.update_self AirspyAttr.samplerate _ dev.attrs), hcurrent⟩
    · rw [heq, andThen_of_failed (by simp)]
      exact Or.inl ⟨rfl, rfl⟩
  · rw [setRxParameters_of_rejected haccept]
    exact Or.inl ⟨rfl, rfl⟩

/-- The driver remembers the rate that is held. -/
theorem synced_setRxParameters (hsync : Synced profile dev) :
    Synced profile (airspySetRxParameters profile ret config dev).2 := by
  unfold Synced at hsync ⊢
  rcases setRxParameters_rate profile ret config dev with ⟨hattrs, hcurrent⟩ | ⟨hattrs, hcurrent⟩
  · rw [hattrs, hcurrent]
    exact hsync
  · rw [hattrs, hcurrent]
    exact fun _ => rfl

end Airspy

/-- What `airspy_create` does about the sample rate, when everything before has
worked. -/
def airspyCreate (profile : AirspyProfile) (ret : AirspyCall → Int) (sampleRate : UInt64)
    (attrs : AirspyAttr → UInt64) : Option Airspy :=
  let dev : Airspy := ⟨attrs, 0, false⟩
  if sampleRate ≠ 0 then
    let (code, dev) := dev.setSampleRate profile ret sampleRate
    if code ≠ 0 then none else some dev
  else some dev

namespace Airspy

/-- What the driver remembers is what the device holds, unless it is 0. -/
def Tracks (dev : Airspy) : Prop :=
  dev.currentSampleRate ≠ 0 → dev.attrs .samplerate = dev.currentSampleRate

theorem tracks_of_create {profile : AirspyProfile} {ret : AirspyCall → Int}
    {sampleRate : UInt64} {attrs : AirspyAttr → UInt64} {dev : Airspy}
    (h : airspyCreate profile ret sampleRate attrs = some dev) : dev.Tracks := by
  unfold airspyCreate at h
  dsimp only at h
  split at h
  · split at h
    · cases h
    · rename_i hcode
      cases h
      have hcode := not_not.mp hcode
      unfold setSampleRate at hcode ⊢
      split at hcode
      · rename_i hsupported
        have hset := (andThen_code.mp hcode).1
        rw [if_pos hsupported, andThen_of_ok hset]
        intro _
        exact (set_self _ _ _ ((set_code _ _ _).mp hset)).trans
          (AirspyProfile.rate_of_supported hsupported)
      · simp at hcode
  · cases h
    exact fun hne => absurd rfl hne

/-- Where 0 is no rate of the device, the driver knows the rate or knows that it does
not. -/
theorem Tracks.synced {profile : AirspyProfile} {dev : Airspy}
    (hzero : profile.isSampleRateSupported 0 = false) (h : dev.Tracks) : Synced profile dev := by
  intro hsupported
  refine h fun hcurrent => ?_
  rw [hcurrent, hzero] at hsupported
  cases hsupported

theorem Tracks.setRxParameters {dev : Airspy} (h : dev.Tracks) (profile : AirspyProfile)
    (ret : AirspyCall → Int) (config : SdrChannelConfig) :
    (airspySetRxParameters profile ret config dev).2.Tracks := by
  unfold Tracks at h ⊢
  rcases setRxParameters_rate profile ret config dev with ⟨hattrs, hcurrent⟩ | ⟨hattrs, hcurrent⟩
  · rw [hattrs, hcurrent]
    exact h
  · rw [hattrs, hcurrent]
    exact fun _ => rfl

theorem synced_of_create {profile : AirspyProfile} {ret : AirspyCall → Int}
    {sampleRate : UInt64} {attrs : AirspyAttr → UInt64} {dev : Airspy}
    (hzero : profile.isSampleRateSupported 0 = false)
    (h : airspyCreate profile ret sampleRate attrs = some dev) : Synced profile dev :=
  (tracks_of_create h).synced hzero

end Airspy

/-- **The updates of an airspy.**  It only receives. -/
def airspyUpdater (profile : AirspyProfile) :
    Updater Airspy (AirspyCall → Int) SdrChannelConfig AirspyAttr UInt64 where
  update ret config dev := airspySetRxParameters profile ret config dev
  held dev x := dev.attrs x
  requested config x := Airspy.requested profile config x
  Complete ret config dev := Airspy.Complete profile ret config dev
  Written ret config dev x := Airspy.Written profile ret config dev x
  Synced dev := Airspy.Synced profile dev
  code_eq_zero _ _ _ := Airspy.setRxParameters_code
  held_written _ _ _ _ := Airspy.setRxParameters_written
  held_unwritten _ _ _ _ := Airspy.setRxParameters_unwritten
  unwritten _ _ _ _ := Airspy.requested_of_complete
  synced_update _ _ _ hsync _ := Airspy.synced_setRxParameters hsync

/-! ## Sequences of calls -/

/-- A call of `airspy_set_rx_parameters`, with the results of the calls to `libairspy`
that it makes. -/
structure AirspyUpdate where
  config : SdrChannelConfig
  ret : AirspyCall → Int

namespace AirspyUpdate

/-- The code of the call, and the device behind it. -/
def perform (profile : AirspyProfile) (u : AirspyUpdate) (dev : Airspy) : Int × Airspy :=
  airspySetRxParameters profile u.ret u.config dev

/-- The device after a sequence of calls. -/
def performAll (profile : AirspyProfile) (dev : Airspy) (updates : List AirspyUpdate) : Airspy :=
  updates.foldl (fun dev u => (u.perform profile dev).2) dev

end AirspyUpdate

namespace Airspy

/-- The gains that a mode sets: by the device, as one number from the request, or one
by one from the settings of the driver. -/
def GainApplied (profile : AirspyProfile) (gain : UInt32) (dev : Airspy) : Prop :=
  match profile.gainMode with
  | .auto =>
      dev.attrs .lnaAgc = 1 ∧ dev.attrs .mixerAgc = 1 ∧
      dev.attrs .vgaGain = profile.vgaGain.toUInt64
  | .sensitivity =>
      dev.attrs .lnaAgc = 0 ∧ dev.attrs .mixerAgc = 0 ∧
      dev.attrs .sensitivityGain = (UInt8.ofNat (lroundf gain)).toUInt64
  | .linearity =>
      dev.attrs .lnaAgc = 0 ∧ dev.attrs .mixerAgc = 0 ∧
      dev.attrs .linearityGain = (UInt8.ofNat (lroundf gain)).toUInt64
  | .manual =>
      dev.attrs .lnaAgc = 0 ∧ dev.attrs .mixerAgc = 0 ∧
      dev.attrs .lnaGain = profile.lnaGain.toUInt64 ∧
      dev.attrs .mixerGain = profile.mixerGain.toUInt64 ∧
      dev.attrs .vgaGain = profile.vgaGain.toUInt64

/-- **The device is configured as requested.** -/
structure Configured (profile : AirspyProfile) (config : SdrChannelConfig) (dev : Airspy) : Prop where
  supported : profile.isSampleRateSupported config.sampleRate = true
  samplerate : dev.attrs .samplerate = config.sampleRate
  freq : dev.attrs .freq = config.frequency
  gain : dev.GainApplied profile config.gain

variable {profile : AirspyProfile} {dev : Airspy}

/-- Everything that is requested is held after a call that returns 0. -/
theorem held_of_code (hsync : Synced profile dev) {u : AirspyUpdate}
    (hcode : (u.perform profile dev).1 = 0) {x : AirspyAttr} {value : UInt64}
    (hx : (x, value) ∈ profile.writes u.config) : (u.perform profile dev).2.attrs x = value := by
  have hcomplete := setRxParameters_code.mp hcode
  have hrequested : requested profile u.config x = some value :=
    lookup_of_mem (profile.writes_nodup u.config) hx
  by_cases hwritten : Written profile u.ret u.config dev x
  · have hheld := setRxParameters_written hwritten
    rw [hrequested] at hheld
    exact (Option.some.inj hheld).symm
  · have hkept := requested_of_complete hsync hcomplete hwritten
    rw [hrequested, Option.getD_some] at hkept
    exact (setRxParameters_unwritten hwritten).trans hkept.symm

/-- The calls for the gain are those of the mode. -/
theorem gainApplied_of_held {gain : UInt32}
    (h : ∀ x value, (x, value) ∈ profile.gainWrites gain → dev.attrs x = value) :
    dev.GainApplied profile gain := by
  unfold AirspyProfile.gainWrites at h
  unfold GainApplied
  cases hmode : profile.gainMode with
  | auto =>
    rw [hmode] at h
    exact ⟨h _ _ (by simp), h _ _ (by simp), h _ _ (by simp)⟩
  | sensitivity =>
    rw [hmode] at h
    exact ⟨h _ _ (by simp), h _ _ (by simp), h _ _ (by simp)⟩
  | linearity =>
    rw [hmode] at h
    exact ⟨h _ _ (by simp), h _ _ (by simp), h _ _ (by simp)⟩
  | manual =>
    rw [hmode] at h
    exact ⟨h _ _ (by simp), h _ _ (by simp), h _ _ (by simp), h _ _ (by simp), h _ _ (by simp)⟩

theorem configured_of_code (hsync : Synced profile dev) {u : AirspyUpdate}
    (hcode : (u.perform profile dev).1 = 0) :
    Configured profile u.config (u.perform profile dev).2 := by
  constructor
  · exact AirspyProfile.supported_of_accepts (setRxParameters_code.mp hcode).1
  · exact held_of_code hsync hcode List.mem_cons_self
  · exact held_of_code hsync hcode (List.mem_cons_of_mem _ List.mem_cons_self)
  · exact gainApplied_of_held fun x value hx =>
      held_of_code hsync hcode (List.mem_cons_of_mem _ (List.mem_cons_of_mem _ hx))

theorem Tracks.performAll (h : dev.Tracks) (profile : AirspyProfile) (updates : List AirspyUpdate) :
    (AirspyUpdate.performAll profile dev updates).Tracks := by
  induction updates generalizing dev with
  | nil => exact h
  | cons u updates ih => exact ih (h.setRxParameters profile u.ret u.config)

end Airspy

/-- **A call that returns 0 leaves the airspy configured**, in every mode, after every
creation and whatever calls have been made and have failed before; and the driver never
remembers another rate than that of the device. -/
theorem airspy_configured (profile : AirspyProfile) (hzero : 0 ∉ profile.sampleRates)
    {ret : AirspyCall → Int} {sampleRate : UInt64} {attrs : AirspyAttr → UInt64} {dev : Airspy}
    (hcreate : airspyCreate profile ret sampleRate attrs = some dev) (before : List AirspyUpdate) :
    (AirspyUpdate.performAll profile dev before).Tracks ∧
    ∀ u : AirspyUpdate,
      (u.perform profile (AirspyUpdate.performAll profile dev before)).1 = 0 →
      Airspy.Configured profile u.config
        (u.perform profile (AirspyUpdate.performAll profile dev before)).2 := by
  have htracks := (Airspy.tracks_of_create hcreate).performAll profile before
  refine ⟨htracks, fun u hcode => Airspy.configured_of_code (htracks.synced ?_) hcode⟩
  rw [AirspyProfile.isSampleRateSupported, List.any_eq_false]
  intro rate hrate heq
  have hrate0 : rate = 0 := UInt32.toUInt64_inj.mp (of_decide_eq_true heq)
  exact hzero (hrate0 ▸ hrate)

/-- Two rates and the linearity mode. -/
def linearityProfile : AirspyProfile := ⟨.linearity, 0, 0, 0, [10000000, 2500000]⟩

/-- A call whose gain cannot be set, and the same again. -/
theorem airspy_configured_after_failure :
    ∃ dev : Airspy, airspyCreate linearityProfile (fun _ => 0) 10000000 (fun _ => 0) = some dev ∧
      Airspy.Configured linearityProfile ⟨433000000, 2500000, 0x40a00000⟩
        ((⟨⟨433000000, 2500000, 0x40a00000⟩, fun _ => 0⟩ : AirspyUpdate).perform linearityProfile
          (AirspyUpdate.performAll linearityProfile dev
            [⟨⟨433000000, 2500000, 0x40a00000⟩,
              fun c => if c = .set .linearityGain then -1 else 0⟩])).2 := by
  have hcreate : airspyCreate linearityProfile (fun _ => 0) 10000000 (fun _ => 0) = some _ := rfl
  exact ⟨_, hcreate, (airspy_configured linearityProfile (by decide) hcreate _).2 ⟨_, _⟩ rfl⟩

end SdrModem
