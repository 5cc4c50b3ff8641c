import SdrModem.Api
import SdrModem.StepwiseUpdate

/-!
# The driver of the plutosdr: `plutosdr.c`

The device is a store of attributes that `libiio` writes one at a time.  The
result of every call is given (`IioCall → Int`, negative for an error, as in
`libiio`), and a write that fails leaves its attribute alone.  The ranges that the
device reports are doubles; only the comparisons with them are needed.

`plutosdrUpdater` says how far an update of the parameters gets.
-/
namespace SdrModem
open StepwiseUpdate

/-- The channels of the `ad9361-phy` that the driver writes to. -/
inductive IioChannel where
  | rx0Chn
  | rx0Lo
  | tx0Chn
  | tx0Lo
deriving DecidableEq, Repr

/-- The attributes that the driver writes after its creation. -/
inductive IioAttr where
  | frequency (chn : IioChannel)
  | powerdown (chn : IioChannel)
  | samplingFrequency (chn : IioChannel)
  | rfBandwidth (chn : IioChannel)
  | hardwaregain (chn : IioChannel)
  | filterFirConfig
  /-- `in_out_voltage_filter_fir_en` of the control device -/
  | filterFirEn
  /-- `voltage_filter_fir_en` of its channel `out` -/
  | outFilterFirEn
deriving DecidableEq, Repr

/-- The calls whose results the driver looks at.  For those that return a pointer,
a negative result stands for `NULL`. -/
inductive IioCall where
  | write (a : IioAttr)
  | malloc
  | createRxBuffer
  | createTxBuffer
deriving DecidableEq, Repr

/-- `iio_gain_mode`. -/
inductive IioGainMode where
  | manual
  | fastAttack
  | slowAttack
  | hybrid
deriving DecidableEq, Repr

/-- `plutosdr_range`, as far as a value can be compared with it. -/
structure PlutosdrRange (α : Type) where
  /-- `value < range.min` -/
  below : α → Bool
  /-- `value > range.max` -/
  above : α → Bool

/-- The fields of `struct plutosdr_t` that do not change after its creation.
`sample_rate.min` is `MIN_FIR_FILTER`, so only the upper end is the device's. -/
structure PlutosdrProfile where
  gain : PlutosdrRange UInt32
  power : PlutosdrRange UInt32
  frequency : PlutosdrRange UInt64
  sampleRateAbove : UInt64 → Bool
  gainControlMode : IioGainMode

/-- A receiver whose gain is set by hand, and whose ranges are not the point. -/
def manualProfile : PlutosdrProfile :=
  ⟨⟨fun _ => false, fun _ => false⟩, ⟨fun _ => false, fun _ => false⟩,
    ⟨fun _ => false, fun _ => false⟩, fun _ => false, .manual⟩

/-- The fields of `struct plutosdr_t` that change, and the device. -/
structure Plutosdr where
  attrs : IioAttr → UInt64
  currentSampleRate : UInt64
  rxBuffer : Bool
  txBuffer : Bool

/-- `MIN_NO_FIR_FILTER`. -/
def minNoFirFilter : UInt64 := 2083334

/-- `MIN_FIR_FILTER_2`. -/
def minFirFilter2 : UInt64 := 1041667

/-- `MIN_FIR_FILTER`. -/
def minFirFilter : UInt64 := 520834

/-- `plutosdr_error_check`. -/
def plutosdrErrorCheck (v : Int) : Int := if v < 0 then v else 0

/-- `plutosdr_select_fir_filter_config`: `none` if the rate is too low, else the
decimation of the filter, if there has to be one. -/
def plutosdrSelectFirFilterConfig (sampleRate : UInt64) : Option (Option Nat) :=
  if sampleRate = 0 then some none
  else if sampleRate < minFirFilter then none
  else if sampleRate < minFirFilter2 then some (some 4)
  else if sampleRate < minNoFirFilter then some (some 2)
  else some none

namespace Plutosdr

/-- The attribute gets a value. -/
def set (p : Plutosdr) (a : IioAttr) (value : UInt64) : Plutosdr :=
  { p with attrs := Function.update p.attrs a value }

/-- `plutosdr_write_lli` and its siblings: a write and its `plutosdr_error_check`. -/
def write (ret : IioCall → Int) (a : IioAttr) (value : UInt64) (p : Plutosdr) : Int × Plutosdr :=
  (plutosdrErrorCheck (ret (.write a)), if ret (.write a) < 0 then p else p.set a value)

/-- `plutosdr_enable_fir_filter`, and the `plutosdr_error_check` of its callers.  Both
attributes switch the same filter. -/
def enableFirFilter (ret : IioCall → Int) (enable : Bool) (p : Plutosdr) : Int × Plutosdr :=
  if ret (.write .filterFirEn) < 0 then
    (plutosdrErrorCheck (ret (.write .outFilterFirEn)),
      if ret (.write .outFilterFirEn) < 0 then p else p.set .filterFirEn enable.toUInt64)
  else p.write ret .filterFirEn enable.toUInt64

/-- The filter that `plutosdr_set_sample_rate` loads before it writes the rate, if
there has to be one. -/
def loadFirFilter (ret : IioCall → Int) : Option Nat → Plutosdr → Int × Plutosdr
  | none, p => (0, p)
  | some decimation, p =>
    if ret .malloc < 0 then (-12, p)
    else
      andThen (p.write ret .filterFirConfig (.ofNat decimation)) fun p =>
      p.enableFirFilter ret true

/-- The end of `plutosdr_set_sample_rate`.  Without a filter the code of the write
is overwritten. -/
def setBandwidth (ret : IioCall → Int) (firFilterTaps : Option Nat) (sampleRate : UInt64)
    (chn : IioChannel) (p : Plutosdr) : Int × Plutosdr :=
  let (code, p) := p.write ret (.rfBandwidth chn) sampleRate
  -- ensure filter disabled if not needed
  if firFilterTaps = none then p.enableFirFilter ret false else (code, p)

/-- `plutosdr_set_sample_rate`. -/
def setSampleRate (ret : IioCall → Int) (sampleRate : UInt64) (chn : IioChannel) (p : Plutosdr) :
    Int × Plutosdr :=
  match plutosdrSelectFirFilterConfig sampleRate with
  | none => (-1, p)
  | some firFilterTaps =>
    andThen (p.loadFirFilter ret firFilterTaps) fun p =>
    andThen (p.write ret (.samplingFrequency chn) sampleRate) fun p =>
    p.setBandwidth ret firFilterTaps sampleRate chn

/-- The sample rate, unless it is the current one already. -/
def changeSampleRate (ret : IioCall → Int) (sampleRate : UInt64) (chn : IioChannel)
    (p : Plutosdr) : Int × Plutosdr :=
  if p.currentSampleRate ≠ sampleRate then
    andThen (p.setSampleRate ret sampleRate chn) fun p =>
    (0, { p with currentSampleRate := sampleRate })
  else (0, p)

end Plutosdr

/-- The checks at the head of `plutosdr_set_rx_parameters` and of
`plutosdr_set_tx_parameters`; the gain has a range of its own in each. -/
def PlutosdrProfile.accepts (profile : PlutosdrProfile) (gain : PlutosdrRange UInt32)
    (config : SdrChannelConfig) : Bool :=
  !(profile.frequency.below config.frequency || profile.frequency.above config.frequency) &&
  !(config.sampleRate < minFirFilter || profile.sampleRateAbove config.sampleRate) &&
  !(gain.below config.gain || gain.above config.gain)

/-- `plutosdr_start_rx`: an old buffer is destroyed, and that there is no new one is
only logged. -/
def plutosdrStartRx (ret : IioCall → Int) (p : Plutosdr) : Plutosdr :=
  { p with rxBuffer := decide (0 ≤ ret .createRxBuffer) }

/-- `plutosdr_stop_rx`. -/
def plutosdrStopRx (p : Plutosdr) : Plutosdr := { p with rxBuffer := false }

/-- `plutosdr_set_rx_parameters`. -/
def plutosdrSetRxParameters (profile : PlutosdrProfile) (ret : IioCall → Int)
    (config : SdrChannelConfig) (p : Plutosdr) : Int × Plutosdr :=
  if profile.accepts profile.gain config then
    andThen (p.write ret (.frequency .rx0Lo) config.frequency) fun p =>
    andThen (p.changeSampleRate ret config.sampleRate .rx0Chn) fun p =>
    if profile.gainControlMode = .manual then
      p.write ret (.hardwaregain .rx0Chn) config.gain.toUInt64
    else (0, p)
  else (-1, p)

/-- The end of `plutosdr_set_tx_parameters`: a new buffer. -/
def Plutosdr.createTxBuffer (ret : IioCall → Int) (p : Plutosdr) : Int × Plutosdr :=
  if ret .createTxBuffer < 0 then (-1, { p with txBuffer := false })
  else (0, { p with txBuffer := true })

/-- `plutosdr_set_tx_parameters`. -/
def plutosdrSetTxParameters (profile : PlutosdrProfile) (ret : IioCall → Int)
    (config : SdrChannelConfig) (p : Plutosdr) : Int × Plutosdr :=
  if profile.accepts profile.power config then
    -- the previous tx session could have left the tx lo powered down
    andThen (p.write ret (.powerdown .tx0Lo) 0) fun p =>
    andThen (p.write ret (.frequency .tx0Lo) config.frequency) fun p =>
    andThen (p.changeSampleRate ret config.sampleRate .tx0Chn) fun p =>
    andThen (p.write ret (.hardwaregain .tx0Chn) config.gain.toUInt64) fun p =>
    p.createTxBuffer ret
  else (-1, p)

/-! ## How far a change of the sample rate gets -/

/-- One of the two ways to switch the filter works. -/
def FirSwitched (ret : IioCall → Int) : Prop :=
  0 ≤ ret (.write .filterFirEn) ∨ 0 ≤ ret (.write .outFilterFirEn)

/-- The filter is in place, as far as the rate needs one. -/
def FirLoaded (ret : IioCall → Int) : Option Nat → Prop
  | none => True
  | some _ => 0 ≤ ret .malloc ∧ 0 ≤ ret (.write .filterFirConfig) ∧ FirSwitched ret

/-- The calls behind the write of the rate succeed. -/
def BandwidthSet (ret : IioCall → Int) (chn : IioChannel) : Option Nat → Prop
  | none => FirSwitched ret
  | some _ => 0 ≤ ret (.write (.rfBandwidth chn))

/-- `plutosdr_set_sample_rate` gets as far as writing the rate. -/
def RateWritten (ret : IioCall → Int) (sampleRate : UInt64) (chn : IioChannel) : Prop :=
  ∃ taps, plutosdrSelectFirFilterConfig sampleRate = some taps ∧ FirLoaded ret taps ∧
    0 ≤ ret (.write (.samplingFrequency chn))

/-- `plutosdr_set_sample_rate` returns 0. -/
def RateSet (ret : IioCall → Int) (sampleRate : UInt64) (chn : IioChannel) : Prop :=
  ∃ taps, plutosdrSelectFirFilterConfig sampleRate = some taps ∧ FirLoaded ret taps ∧
    0 ≤ ret (.write (.samplingFrequency chn)) ∧ BandwidthSet ret chn taps

/-- What a change of the sample rate does not touch. -/
def IioAttr.isTuning : IioAttr → Bool
  | .frequency _ | .powerdown _ | .hardwaregain _ => true
  | _ => false

namespace Plutosdr
variable {ret : IioCall → Int}

theorem write_of_ok {a : IioAttr} (h : 0 ≤ ret (.write a)) (value : UInt64) (p : Plutosdr) :
    p.write ret a value = (0, p.set a value) := by
  have hok : ¬ ret (.write a) < 0 := by omega
  rw [write, plutosdrErrorCheck, if_neg hok, if_neg hok]

theorem write_of_failed {a : IioAttr} (h : ¬ 0 ≤ ret (.write a)) (value : UInt64) (p : Plutosdr) :
    p.write ret a value = (ret (.write a), p) := by
  have hfailed : ret (.write a) < 0 := by omega
  rw [write, plutosdrErrorCheck, if_pos hfailed, if_pos hfailed]

theorem write_code {a : IioAttr} {value : UInt64} {p : Plutosdr} :
    (p.write ret a value).1 = 0 ↔ 0 ≤ ret (.write a) := by
  by_cases h : 0 ≤ ret (.write a)
  · rw [write_of_ok h]
    exact iff_of_true rfl h
  · rw [write_of_failed h]
    exact iff_of_false (by dsimp only; omega) h

@[simp] theorem set_self (p : Plutosdr) (a : IioAttr) (value : UInt64) :
    (p.set a value).attrs a = value := Function.update_self ..

theorem set_other {a b : IioAttr} (h : b ≠ a) (p : Plutosdr) (value : UInt64) :
    (p.set a value).attrs b = p.attrs b := Function.update_of_ne h ..

@[simp] theorem set_currentSampleRate (p : Plutosdr) (a : IioAttr) (value : UInt64) :
    (p.set a value).currentSampleRate = p.currentSampleRate := rfl

/-- A write to one attribute leaves the others. -/
theorem write_other {a b : IioAttr} (h : b ≠ a) (value : UInt64) (p : Plutosdr) :
    (p.write ret a value).2.attrs b = p.attrs b := by
  by_cases hok : 0 ≤ ret (.write a)
  · rw [write_of_ok hok]
    exact set_other h p value
  · rw [write_of_failed hok]

@[simp] theorem write_currentSampleRate (a : IioAttr) (value : UInt64) (p : Plutosdr) :
    (p.write ret a value).2.currentSampleRate = p.currentSampleRate := by
  by_cases hok : 0 ≤ ret (.write a)
  · rw [write_of_ok hok]; rfl
  · rw [write_of_failed hok]

/-- `q` differs from `p` in attributes that no parameter is kept in. -/
structure Aside (chn : IioChannel) (p q : Plutosdr) : Prop where
  tuning : ∀ a, a.isTuning = true → q.attrs a = p.attrs a
  rate : q.attrs (.samplingFrequency chn) = p.attrs (.samplingFrequency chn)
  current : q.currentSampleRate = p.currentSampleRate

theorem Aside.refl (chn : IioChannel) (p : Plutosdr) : Aside chn p p := ⟨fun _ _ => rfl, rfl, rfl⟩

theorem Aside.write {chn : IioChannel} {p q : Plutosdr} (h : Aside chn p q) {a : IioAttr}
    (ha : a.isTuning = false) (hrate : .samplingFrequency chn ≠ a) (value : UInt64) :
    Aside chn p (q.write ret a value).2 := by
  refine ⟨fun b hb => ?_, ?_, ?_⟩
  · have hne : b ≠ a := by
      rintro rfl
      exact absurd ha (by rw [hb]; decide)
    rw [write_other hne, h.tuning b hb]
  · rw [write_other hrate, h.rate]
  · rw [write_currentSampleRate, h.current]

/-- The filter is switched, or nothing happens. -/
theorem enableFirFilter_eq (ret : IioCall → Int) (enable : Bool) (p : Plutosdr) :
    (FirSwitched ret ∧ p.enableFirFilter ret enable = (0, p.set .filterFirEn enable.toUInt64)) ∨
    (¬ FirSwitched ret ∧ (p.enableFirFilter ret enable).1 ≠ 0 ∧
      (p.enableFirFilter ret enable).2 = p) := by
  unfold enableFirFilter FirSwitched
  by_cases hfirst : ret (.write .filterFirEn) < 0
  · rw [if_pos hfirst]
    by_cases hsecond : ret (.write .outFilterFirEn) < 0
    · rw [if_pos hsecond, plutosdrErrorCheck, if_pos hsecond]
      exact Or.inr ⟨by omega, by dsimp only; omega, rfl⟩
    · rw [if_neg hsecond, plutosdrErrorCheck, if_neg hsecond]
      exact Or.inl ⟨by omega, rfl⟩
  · rw [if_neg hfirst, write_of_ok (by omega)]
    exact Or.inl ⟨by omega, rfl⟩

theorem Aside.enableFirFilter {chn : IioChannel} {p q : Plutosdr} (h : Aside chn p q)
    (enable : Bool) : Aside chn p (q.enableFirFilter ret enable).2 := by
  rcases q.enableFirFilter_eq ret enable with ⟨-, heq⟩ | ⟨-, -, heq⟩
  · rw [heq]
    refine ⟨fun a ha => ?_, ?_, h.current⟩
    · rw [set_other (by rintro rfl; cases ha), h.tuning a ha]
    · rw [set_other (by nofun), h.rate]
  · rw [heq]
    exact h

theorem enableFirFilter_code {enable : Bool} {p : Plutosdr} :
    (p.enableFirFilter ret enable).1 = 0 ↔ FirSwitched ret := by
  rcases p.enableFirFilter_eq ret enable with ⟨hok, heq⟩ | ⟨hfailed, hcode, -⟩
  · rw [heq]
    exact iff_of_true rfl hok
  · exact iff_of_false hcode hfailed

theorem loadFirFilter_code {taps : Option Nat} {p : Plutosdr} :
    (p.loadFirFilter ret taps).1 = 0 ↔ FirLoaded ret taps := by
  cases taps with
  | none => exact iff_of_true rfl trivial
  | some decimation =>
    rw [loadFirFilter, FirLoaded]
    by_cases hm : ret .malloc < 0
    · rw [if_pos hm]
      exact iff_of_false (by simp) (by omega)
    · rw [if_neg hm, andThen_code, write_code, enableFirFilter_code]
      exact (and_iff_right (Int.not_lt.mp hm)).symm

theorem loadFirFilter_aside (chn : IioChannel) (taps : Option Nat) (p : Plutosdr) :
    Aside chn p (p.loadFirFilter ret taps).2 := by
  cases taps with
  | none => exact .refl chn p
  | some decimation =>
    rw [loadFirFilter]
    split
    · exact .refl chn p
    · exact andThen_keeps ((Aside.refl chn p).write rfl (by nofun) _) fun h => h.enableFirFilter _

theorem setBandwidth_code {taps : Option Nat} {sampleRate : UInt64} {chn : IioChannel}
    {p : Plutosdr} : (p.setBandwidth ret taps sampleRate chn).1 = 0 ↔ BandwidthSet ret chn taps := by
  cases taps with
  | none => exact enableFirFilter_code
  | some decimation => exact write_code

theorem setBandwidth_aside (taps : Option Nat) (sampleRate : UInt64) (chn : IioChannel)
    (p : Plutosdr) : Aside chn p (p.setBandwidth ret taps sampleRate chn).2 := by
  have hwrite : Aside chn p (p.write ret (.rfBandwidth chn) sampleRate).2 :=
    (Aside.refl chn p).write rfl (by nofun) sampleRate
  cases taps with
  | none => exact hwrite.enableFirFilter false
  | some decimation => exact hwrite

/-! ## The parameters after a change of the sample rate -/

theorem setSampleRate_code {sampleRate : UInt64} {chn : IioChannel} {p : Plutosdr} :
    (p.setSampleRate ret sampleRate chn).1 = 0 ↔ RateSet ret sampleRate chn := by
  unfold setSampleRate RateSet
  split
  · rename_i hsel
    rw [hsel]
    exact iff_of_false (by simp) (by rintro ⟨_, h, -⟩; cases h)
  · rename_i taps hsel
    rw [andThen_code, andThen_code, loadFirFilter_code, write_code, setBandwidth_code, hsel]
    constructor
    · rintro ⟨hload, hwrite, hband⟩
      exact ⟨taps, rfl, hload, hwrite, hband⟩
    · rintro ⟨_, ⟨⟩, hload, hwrite, hband⟩
      exact ⟨hload, hwrite, hband⟩

/-- Neither the frequencies nor the gains nor what the driver remembers change. -/
theorem setSampleRate_tuning (sampleRate : UInt64) (chn : IioChannel) (p : Plutosdr) :
    (∀ a, a.isTuning = true → (p.setSampleRate ret sampleRate chn).2.attrs a = p.attrs a) ∧
    (p.setSampleRate ret sampleRate chn).2.currentSampleRate = p.currentSampleRate := by
  unfold setSampleRate
  split
  · exact ⟨fun _ _ => rfl, rfl⟩
  · rename_i taps hsel
    let Kept (q : Plutosdr) : Prop :=
      (∀ a, a.isTuning = true → q.attrs a = p.attrs a) ∧ q.currentSampleRate = p.currentSampleRate
    have hload : Aside chn p (p.loadFirFilter ret taps).2 := loadFirFilter_aside chn taps p
    refine andThen_keeps (P := Kept) ⟨hload.tuning, hload.current⟩ fun hp => ?_
    refine andThen_keeps (P := Kept) ⟨fun a ha => ?_, ?_⟩ fun hq => ?_
    · rw [write_other (by rintro rfl; cases ha), hp.1 a ha]
    · rw [write_currentSampleRate, hp.2]
    · have hband : ∀ q, Aside chn q (q.setBandwidth ret taps sampleRate chn).2 :=
        setBandwidth_aside taps sampleRate chn
      exact ⟨fun a ha => ((hband _).tuning a ha).trans (hq.1 a ha), (hband _).current.trans hq.2⟩

/-- The rate is written once the filter is loaded. -/
theorem setSampleRate_written {sampleRate : UInt64} {chn : IioChannel}
    (h : RateWritten ret sampleRate chn) (p : Plutosdr) :
    (p.setSampleRate ret sampleRate chn).2.attrs (.samplingFrequency chn) = sampleRate := by
  obtain ⟨taps, hsel, hload, hwrite⟩ := h
  unfold setSampleRate
  rw [hsel]
  dsimp only
  rw [andThen_of_ok (loadFirFilter_code.mpr hload), write_of_ok hwrite, andThen_of_ok rfl,
    (setBandwidth_aside taps sampleRate chn _).rate, set_self]

theorem setSampleRate_unwritten {sampleRate : UInt64} {chn : IioChannel}
    (h : ¬ RateWritten ret sampleRate chn) (p : Plutosdr) :
    (p.setSampleRate ret sampleRate chn).2.attrs (.samplingFrequency chn) =
      p.attrs (.samplingFrequency chn) := by
  unfold setSampleRate
  split
  · rfl
  · rename_i taps hsel
    have hload : Aside chn p (p.loadFirFilter ret taps).2 := loadFirFilter_aside chn taps p
    by_cases hfir : FirLoaded ret taps
    · have hwrite : ¬ 0 ≤ ret (.write (.samplingFrequency chn)) :=
        fun hwrite => h ⟨taps, hsel, hfir, hwrite⟩
      rw [andThen_of_ok (loadFirFilter_code.mpr hfir), andThen_of_failed (mt write_code.mp hwrite),
        write_of_failed hwrite, hload.rate]
    · rw [andThen_of_failed (mt loadFirFilter_code.mp hfir), hload.rate]

/-- The rate is the current one, or it can be set. -/
def RateDone (ret : IioCall → Int) (sampleRate : UInt64) (chn : IioChannel) (p : Plutosdr) : Prop :=
  p.currentSampleRate = sampleRate ∨ RateSet ret sampleRate chn

theorem changeSampleRate_code {sampleRate : UInt64} {chn : IioChannel} {p : Plutosdr} :
    (p.changeSampleRate ret sampleRate chn).1 = 0 ↔ RateDone ret sampleRate chn p := by
  unfold changeSampleRate RateDone
  split
  · rename_i hne
    rw [andThen_code, setSampleRate_code]
    exact ⟨fun h => Or.inr h.1, fun h => ⟨h.resolve_left hne, rfl⟩⟩
  · rename_i heq
    exact iff_of_true rfl (Or.inl (not_not.mp heq))

theorem changeSampleRate_tuning (sampleRate : UInt64) (chn : IioChannel) (p : Plutosdr)
    {a : IioAttr} (ha : a.isTuning = true) :
    (p.changeSampleRate ret sampleRate chn).2.attrs a = p.attrs a := by
  unfold changeSampleRate
  split
  · exact andThen_keeps (P := fun q : Plutosdr => q.attrs a = p.attrs a)
      ((setSampleRate_tuning sampleRate chn p).1 a ha) id
  · rfl

/-- The rate that the channel holds afterwards. -/
theorem changeSampleRate_written {sampleRate : UInt64} {chn : IioChannel} {p : Plutosdr}
    (hne : p.currentSampleRate ≠ sampleRate) (h : RateWritten ret sampleRate chn) :
    (p.changeSampleRate ret sampleRate chn).2.attrs (.samplingFrequency chn) = sampleRate := by
  rw [changeSampleRate, if_pos hne]
  exact andThen_keeps (P := fun q : Plutosdr => q.attrs (.samplingFrequency chn) = sampleRate)
    (setSampleRate_written h p) id

theorem changeSampleRate_unwritten {sampleRate : UInt64} {chn : IioChannel} {p : Plutosdr}
    (h : ¬ (p.currentSampleRate ≠ sampleRate ∧ RateWritten ret sampleRate chn)) :
    (p.changeSampleRate ret sampleRate chn).2.attrs (.samplingFrequency chn) =
      p.attrs (.samplingFrequency chn) := by
  unfold changeSampleRate
  split
  · rename_i hne
    exact andThen_keeps
      (P := fun q : Plutosdr => q.attrs (.samplingFrequency chn) = p.attrs (.samplingFrequency chn))
      (setSampleRate_unwritten (fun hw => h ⟨hne, hw⟩) p) id
  · rfl

/-- What the driver remembers afterwards: the new rate if it could be set. -/
theorem changeSampleRate_current {sampleRate : UInt64} {chn : IioChannel} {p : Plutosdr} :
    (RateDone ret sampleRate chn p →
      (p.changeSampleRate ret sampleRate chn).2.currentSampleRate = sampleRate) ∧
    (¬ RateDone ret sampleRate chn p →
      (p.changeSampleRate ret sampleRate chn).2.currentSampleRate = p.currentSampleRate) := by
  unfold changeSampleRate
  split
  · rename_i hne
    constructor
    · intro h
      rw [andThen_of_ok (setSampleRate_code.mpr (h.resolve_left hne))]
    · intro h
      rw [andThen_of_failed (mt setSampleRate_code.mp fun hs => h (Or.inr hs))]
      exact (setSampleRate_tuning sampleRate chn p).2
  · rename_i heq
    exact ⟨fun _ => not_not.mp heq, fun _ => rfl⟩

theorem rateWritten_of_set {sampleRate : UInt64} {chn : IioChannel}
    (h : RateSet ret sampleRate chn) : RateWritten ret sampleRate chn := by
  obtain ⟨taps, hsel, hload, hwrite, -⟩ := h
  exact ⟨taps, hsel, hload, hwrite⟩

/-! ## The frequency and the sample rate -/

/-- The two calls that both directions make in the same order. -/
def tune (ret : IioCall → Int) (lo chn : IioChannel) (config : SdrChannelConfig) (p : Plutosdr) :
    Int × Plutosdr :=
  andThen (p.write ret (.frequency lo) config.frequency) fun p =>
  p.changeSampleRate ret config.sampleRate chn

/-- Both calls succeed. -/
def Tuned (ret : IioCall → Int) (lo chn : IioChannel) (config : SdrChannelConfig) (p : Plutosdr) :
    Prop :=
  0 ≤ ret (.write (.frequency lo)) ∧ RateDone ret config.sampleRate chn p

variable {lo chn : IioChannel} {config : SdrChannelConfig} {p : Plutosdr}

theorem tune_of_failed (h : ¬ 0 ≤ ret (.write (.frequency lo))) :
    (p.tune ret lo chn config).2 = p := by
  rw [tune, write_of_failed h, andThen_of_failed]
  dsimp only
  omega

theorem tune_of_ok (h : 0 ≤ ret (.write (.frequency lo))) :
    p.tune ret lo chn config =
      (p.set (.frequency lo) config.frequency).changeSampleRate ret config.sampleRate chn := by
  rw [tune, write_of_ok h, andThen_of_ok rfl]

theorem tune_code : (p.tune ret lo chn config).1 = 0 ↔ Tuned ret lo chn config p := by
  by_cases h : 0 ≤ ret (.write (.frequency lo))
  · rw [tune_of_ok h, changeSampleRate_code]
    exact (and_iff_right h).symm
  · rw [tune, andThen_code, write_code]
    exact iff_of_false (fun hf => h hf.1) fun ht => h ht.1

/-- The frequency is held once it was written, whatever becomes of the rate. -/
theorem tune_frequency (h : 0 ≤ ret (.write (.frequency lo))) :
    (p.tune ret lo chn config).2.attrs (.frequency lo) = config.frequency := by
  rw [tune_of_ok h, changeSampleRate_tuning _ _ _ rfl, set_self]

theorem tune_gain (c : IioChannel) :
    (p.tune ret lo chn config).2.attrs (.hardwaregain c) = p.attrs (.hardwaregain c) := by
  by_cases h : 0 ≤ ret (.write (.frequency lo))
  · rw [tune_of_ok h, changeSampleRate_tuning _ _ _ rfl, set_other (by nofun)]
  · rw [tune_of_failed h]

theorem tune_rate_written (h : 0 ≤ ret (.write (.frequency lo)))
    (hne : p.currentSampleRate ≠ config.sampleRate) (hw : RateWritten ret config.sampleRate chn) :
    (p.tune ret lo chn config).2.attrs (.samplingFrequency chn) = config.sampleRate := by
  rw [tune_of_ok h]
  exact changeSampleRate_written hne hw

theorem tune_rate_unwritten (h : ¬ (0 ≤ ret (.write (.frequency lo)) ∧
      p.currentSampleRate ≠ config.sampleRate ∧ RateWritten ret config.sampleRate chn)) :
    (p.tune ret lo chn config).2.attrs (.samplingFrequency chn) =
      p.attrs (.samplingFrequency chn) := by
  by_cases hok : 0 ≤ ret (.write (.frequency lo))
  · have hset : (p.set (.frequency lo) config.frequency).attrs (.samplingFrequency chn) =
        p.attrs (.samplingFrequency chn) := set_other (by nofun) p _
    rw [tune_of_ok hok, ← hset]
    exact changeSampleRate_unwritten fun hw => h ⟨hok, hw⟩
  · rw [tune_of_failed hok]

theorem tune_current (h : Tuned ret lo chn config p) :
    (p.tune ret lo chn config).2.currentSampleRate = config.sampleRate := by
  rw [tune_of_ok h.1]
  exact changeSampleRate_current.1 h.2

theorem tune_current_of_failed (h : ¬ Tuned ret lo chn config p) :
    (p.tune ret lo chn config).2.currentSampleRate = p.currentSampleRate := by
  by_cases hok : 0 ≤ ret (.write (.frequency lo))
  · rw [tune_of_ok hok]
    exact changeSampleRate_current.2 fun hd => h ⟨hok, hd⟩
  · rw [tune_of_failed hok]

end Plutosdr

/-! ## The two directions -/

/-- Receiving and transmitting. -/
inductive PlutosdrDirection where
  | rx
  | tx
deriving DecidableEq, Repr

/-- The parameters that the device holds for one direction. -/
inductive PlutosdrParam where
  | frequency
  | sampleRate
  | gain
deriving DecidableEq, Repr

namespace PlutosdrDirection

/-- The local oscillator. -/
def lo : PlutosdrDirection → IioChannel
  | .rx => .rx0Lo
  | .tx => .tx0Lo

def chn : PlutosdrDirection → IioChannel
  | .rx => .rx0Chn
  | .tx => .tx0Chn

/-- The attribute a parameter is kept in. -/
def attr (dir : PlutosdrDirection) : PlutosdrParam → IioAttr
  | .frequency => .frequency dir.lo
  | .sampleRate => .samplingFrequency dir.chn
  | .gain => .hardwaregain dir.chn

/-- The range of the gain. -/
def gainRange (profile : PlutosdrProfile) : PlutosdrDirection → PlutosdrRange UInt32
  | .rx => profile.gain
  | .tx => profile.power

/-- Whether the gain comes from the settings: the gain of the receiver is the
device's own unless the mode is manual. -/
def setsGain (profile : PlutosdrProfile) : PlutosdrDirection → Prop
  | .rx => profile.gainControlMode = .manual
  | .tx => True

instance (profile : PlutosdrProfile) : (dir : PlutosdrDirection) → Decidable (dir.setsGain profile)
  | .rx => inferInstanceAs (Decidable (_ = _))
  | .tx => inferInstanceAs (Decidable True)

/-- The transmitter is powered up first. -/
def lead (ret : IioCall → Int) : PlutosdrDirection → Plutosdr → Int × Plutosdr
  | .rx, p => (0, p)
  | .tx, p => p.write ret (.powerdown .tx0Lo) 0

/-- And it gets a new buffer in the end. -/
def finish (ret : IioCall → Int) : PlutosdrDirection → Plutosdr → Int × Plutosdr
  | .rx, p => (0, p)
  | .tx, p => p.createTxBuffer ret

/-- The write of the gain. -/
def writeGain (profile : PlutosdrProfile) (ret : IioCall → Int) (config : SdrChannelConfig)
    (dir : PlutosdrDirection) (p : Plutosdr) : Int × Plutosdr :=
  if dir.setsGain profile then p.write ret (.hardwaregain dir.chn) config.gain.toUInt64 else (0, p)

/-- `set_rx_parameters` and `set_tx_parameters` of the driver. -/
def setParameters (profile : PlutosdrProfile) (ret : IioCall → Int) (config : SdrChannelConfig)
    (p : Plutosdr) : PlutosdrDirection → Int × Plutosdr
  | .rx => plutosdrSetRxParameters profile ret config p
  | .tx => plutosdrSetTxParameters profile ret config p

/-- Both functions are made of the same parts. -/
theorem setParameters_eq (profile : PlutosdrProfile) (ret : IioCall → Int)
    (config : SdrChannelConfig) (p : Plutosdr) (dir : PlutosdrDirection) :
    dir.setParameters profile ret config p =
      if profile.accepts (dir.gainRange profile) config then
        andThen (andThen (dir.lead ret p) fun p => p.tune ret dir.lo dir.chn config) fun p =>
        andThen (dir.writeGain profile ret config p) fun p => dir.finish ret p
      else (-1, p) := by
  cases dir with
  | rx =>
    have hfinish : ∀ r : Int × Plutosdr, andThen r (fun p => PlutosdrDirection.rx.finish ret p) = r := by
      intro r
      by_cases h : r.1 = 0
      · rw [andThen_of_ok h]
        exact Prod.ext h.symm rfl
      · rw [andThen_of_failed h]
    have hlead : andThen (PlutosdrDirection.rx.lead ret p)
        (fun p => p.tune ret PlutosdrDirection.rx.lo PlutosdrDirection.rx.chn config) =
        p.tune ret PlutosdrDirection.rx.lo PlutosdrDirection.rx.chn config := andThen_of_ok rfl
    simp only [hfinish]
    rw [hlead, Plutosdr.tune, andThen_assoc]
    rfl
  | tx =>
    simp only [Plutosdr.tune, andThen_assoc]
    rfl

/-- The calls before the frequency succeed. -/
def Leads (ret : IioCall → Int) : PlutosdrDirection → Prop
  | .rx => True
  | .tx => 0 ≤ ret (.write (.powerdown .tx0Lo))

/-- The calls behind the gain succeed. -/
def Finishes (ret : IioCall → Int) : PlutosdrDirection → Prop
  | .rx => True
  | .tx => 0 ≤ ret .createTxBuffer

/-- The update gets past the checks and the first call. -/
def Begins (profile : PlutosdrProfile) (ret : IioCall → Int) (config : SdrChannelConfig)
    (dir : PlutosdrDirection) : Prop :=
  profile.accepts (dir.gainRange profile) config = true ∧ dir.Leads ret

/-- The parameters that an update writes before it returns. -/
def Written (profile : PlutosdrProfile) (ret : IioCall → Int) (config : SdrChannelConfig)
    (p : Plutosdr) (dir : PlutosdrDirection) : PlutosdrParam → Prop
  | .frequency => dir.Begins profile ret config ∧ 0 ≤ ret (.write (.frequency dir.lo))
  | .sampleRate =>
      dir.Begins profile ret config ∧ 0 ≤ ret (.write (.frequency dir.lo)) ∧
      p.currentSampleRate ≠ config.sampleRate ∧ RateWritten ret config.sampleRate dir.chn
  | .gain =>
      dir.Begins profile ret config ∧ p.Tuned ret dir.lo dir.chn config ∧ dir.setsGain profile ∧
      0 ≤ ret (.write (.hardwaregain dir.chn))

/-- All the calls of an update succeed. -/
def Complete (profile : PlutosdrProfile) (ret : IioCall → Int) (config : SdrChannelConfig)
    (p : Plutosdr) (dir : PlutosdrDirection) : Prop :=
  dir.Begins profile ret config ∧ p.Tuned ret dir.lo dir.chn config ∧
  (dir.setsGain profile → 0 ≤ ret (.write (.hardwaregain dir.chn))) ∧ dir.Finishes ret

/-- What the settings say about a parameter. -/
def requested (profile : PlutosdrProfile) (config : SdrChannelConfig) (dir : PlutosdrDirection) :
    PlutosdrParam → Option UInt64
  | .frequency => some config.frequency
  | .sampleRate => some config.sampleRate
  | .gain => if dir.setsGain profile then some config.gain.toUInt64 else none

/-- `current_sample_rate` is what the channel holds. -/
def Synced (dir : PlutosdrDirection) (p : Plutosdr) : Prop :=
  p.currentSampleRate = p.attrs (.samplingFrequency dir.chn)

variable {profile : PlutosdrProfile} {ret : IioCall → Int} {config : SdrChannelConfig}
  {p : Plutosdr} {dir : PlutosdrDirection}

theorem lead_code : (dir.lead ret p).1 = 0 ↔ dir.Leads ret := by
  cases dir with
  | rx => exact iff_of_true rfl trivial
  | tx => exact Plutosdr.write_code

theorem finish_code : (dir.finish ret p).1 = 0 ↔ dir.Finishes ret := by
  cases dir with
  | rx => exact iff_of_true rfl trivial
  | tx =>
    rw [finish, Plutosdr.createTxBuffer, Finishes]
    split
    · exact iff_of_false (by simp) (by omega)
    · exact iff_of_true rfl (by omega)

theorem writeGain_code :
    (dir.writeGain profile ret config p).1 = 0 ↔
      (dir.setsGain profile → 0 ≤ ret (.write (.hardwaregain dir.chn))) := by
  unfold writeGain
  split
  · rw [Plutosdr.write_code]
    exact (imp_iff_right ‹_›).symm
  · exact iff_of_true rfl fun h => absurd h ‹_›

/-- The first call touches no parameter. -/
theorem lead_attrs (x : PlutosdrParam) :
    (dir.lead ret p).2.attrs (dir.attr x) = p.attrs (dir.attr x) := by
  cases dir with
  | rx => rfl
  | tx => exact Plutosdr.write_other (by cases x <;> nofun) _ _

theorem lead_current : (dir.lead ret p).2.currentSampleRate = p.currentSampleRate := by
  cases dir with
  | rx => rfl
  | tx => exact Plutosdr.write_currentSampleRate ..

/-- Nor does the last one. -/
theorem finish_kept :
    (dir.finish ret p).2.attrs = p.attrs ∧
    (dir.finish ret p).2.currentSampleRate = p.currentSampleRate := by
  cases dir with
  | rx => exact ⟨rfl, rfl⟩
  | tx =>
    rw [finish, Plutosdr.createTxBuffer]
    split
    · exact ⟨rfl, rfl⟩
    · exact ⟨rfl, rfl⟩

/-- The write of the gain touches no other attribute. -/
theorem writeGain_other {a : IioAttr} (ha : a ≠ .hardwaregain dir.chn) :
    (dir.writeGain profile ret config p).2.attrs a = p.attrs a := by
  unfold writeGain
  split
  · exact Plutosdr.write_other ha _ _
  · rfl

theorem writeGain_current :
    (dir.writeGain profile ret config p).2.currentSampleRate = p.currentSampleRate := by
  unfold writeGain
  split
  · exact Plutosdr.write_currentSampleRate ..
  · rfl

/-- An update that does not begin touches no parameter. -/
theorem setParameters_of_not_begins (h : ¬ dir.Begins profile ret config) :
    (dir.setParameters profile ret config p).1 ≠ 0 ∧
    (∀ x, (dir.setParameters profile ret config p).2.attrs (dir.attr x) = p.attrs (dir.attr x)) ∧
    (dir.setParameters profile ret config p).2.currentSampleRate = p.currentSampleRate := by
  rw [setParameters_eq]
  split
  · rename_i haccept
    have hlead : (dir.lead ret p).1 ≠ 0 := fun hc => h ⟨haccept, lead_code.mp hc⟩
    rw [andThen_of_failed hlead, andThen_of_failed hlead]
    exact ⟨hlead, lead_attrs, lead_current⟩
  · exact ⟨by simp, fun _ => rfl, rfl⟩

/-- One that begins tunes the device, and if it is tuned, goes on with the gain. -/
theorem setParameters_of_begins (h : dir.Begins profile ret config) :
    dir.setParameters profile ret config p =
      andThen ((dir.lead ret p).2.tune ret dir.lo dir.chn config) fun p =>
      andThen (dir.writeGain profile ret config p) fun p => dir.finish ret p := by
  rw [setParameters_eq, if_pos h.1, andThen_of_ok (r := dir.lead ret p) (lead_code.mpr h.2)]

/-- The first call does not matter for how far the next ones get. -/
theorem tuned_lead :
    (dir.lead ret p).2.Tuned ret dir.lo dir.chn config ↔ p.Tuned ret dir.lo dir.chn config := by
  unfold Plutosdr.Tuned Plutosdr.RateDone
  rw [lead_current]

/-- The calls behind the gain leave the parameters alone. -/
theorem gain_finish_attrs {a : IioAttr} :
    (andThen (dir.writeGain profile ret config p) fun p => dir.finish ret p).2.attrs a =
      (dir.writeGain profile ret config p).2.attrs a :=
  andThen_keeps (P := fun q : Plutosdr => q.attrs a = (dir.writeGain profile ret config p).2.attrs a)
    rfl fun _ => by rw [finish_kept.1]

/-- The code of an update. -/
theorem setParameters_code :
    (dir.setParameters profile ret config p).1 = 0 ↔ dir.Complete profile ret config p := by
  by_cases h : dir.Begins profile ret config
  · rw [setParameters_of_begins h, andThen_code, Plutosdr.tune_code, tuned_lead, andThen_code,
      writeGain_code, finish_code]
    exact (and_iff_right h).symm
  · exact iff_of_false (setParameters_of_not_begins h).1 fun hc => h hc.1

/-- An attribute other than that of the gain is what tuning made of it. -/
theorem setParameters_attrs (h : dir.Begins profile ret config) {a : IioAttr}
    (ha : a ≠ .hardwaregain dir.chn) :
    (dir.setParameters profile ret config p).2.attrs a =
      ((dir.lead ret p).2.tune ret dir.lo dir.chn config).2.attrs a := by
  rw [setParameters_of_begins h]
  refine andThen_keeps (P := fun q : Plutosdr => q.attrs a = _) rfl fun _ => ?_
  rw [gain_finish_attrs, writeGain_other ha]

/-- The gain after an update that was tuned. -/
theorem setParameters_gain (h : dir.Begins profile ret config)
    (ht : p.Tuned ret dir.lo dir.chn config) (c : IioChannel) :
    (dir.setParameters profile ret config p).2.attrs (.hardwaregain c) =
      (dir.writeGain profile ret config
        ((dir.lead ret p).2.tune ret dir.lo dir.chn config).2).2.attrs (.hardwaregain c) := by
  rw [setParameters_of_begins h, andThen_of_ok (Plutosdr.tune_code.mpr (tuned_lead.mpr ht)),
    gain_finish_attrs]

/-- What was written is held. -/
theorem setParameters_written {x : PlutosdrParam} (h : dir.Written profile ret config p x) :
    dir.requested profile config x =
      some ((dir.setParameters profile ret config p).2.attrs (dir.attr x)) := by
  cases x with
  | frequency =>
    obtain ⟨hbegin, hfreq⟩ := h
    rw [attr, setParameters_attrs hbegin (by nofun), Plutosdr.tune_frequency hfreq, requested]
  | sampleRate =>
    obtain ⟨hbegin, hfreq, hne, hrate⟩ := h
    rw [attr, setParameters_attrs hbegin (by nofun),
      Plutosdr.tune_rate_written hfreq (by rwa [lead_current]) hrate, requested]
  | gain =>
    obtain ⟨hbegin, htuned, hsets, hgain⟩ := h
    rw [attr, setParameters_gain hbegin htuned, writeGain, if_pos hsets,
      Plutosdr.write_of_ok hgain, Plutosdr.set_self, requested, if_pos hsets]

/-- What was not written is held as before. -/
theorem setParameters_unwritten {x : PlutosdrParam} (h : ¬ dir.Written profile ret config p x) :
    (dir.setParameters profile ret config p).2.attrs (dir.attr x) = p.attrs (dir.attr x) := by
  by_cases hbegin : dir.Begins profile ret config
  · cases x with
    | frequency =>
      have hfreq : ¬ 0 ≤ ret (.write (.frequency dir.lo)) := fun hf => h ⟨hbegin, hf⟩
      rw [attr, setParameters_attrs hbegin (by nofun), Plutosdr.tune_of_failed hfreq]
      exact lead_attrs .frequency
    | sampleRate =>
      rw [attr, setParameters_attrs hbegin (by nofun), Plutosdr.tune_rate_unwritten]
      · exact lead_attrs .sampleRate
      · rw [lead_current]
        exact fun hw => h ⟨hbegin, hw⟩
    | gain =>
      by_cases htuned : p.Tuned ret dir.lo dir.chn config
      · rw [attr, setParameters_gain hbegin htuned, writeGain]
        split
        · rename_i hsets
          have hgain : ¬ 0 ≤ ret (.write (.hardwaregain dir.chn)) :=
            fun hg => h ⟨hbegin, htuned, hsets, hg⟩
          rw [Plutosdr.write_of_failed hgain, Plutosdr.tune_gain]
          exact lead_attrs .gain
        · rw [Plutosdr.tune_gain]
          exact lead_attrs .gain
      · rw [setParameters_of_begins hbegin,
          andThen_of_failed (mt (fun hc => tuned_lead.mp (Plutosdr.tune_code.mp hc)) htuned), attr,
          Plutosdr.tune_gain]
        exact lead_attrs .gain
  · exact (setParameters_of_not_begins hbegin).2.1 x

/-- What the driver remembers of the rate after an update. -/
theorem setParameters_current (h : dir.Begins profile ret config) :
    (dir.setParameters profile ret config p).2.currentSampleRate =
      ((dir.lead ret p).2.tune ret dir.lo dir.chn config).2.currentSampleRate := by
  rw [setParameters_of_begins h]
  refine andThen_keeps (P := fun q : Plutosdr => q.currentSampleRate = _) rfl fun _ => ?_
  refine andThen_keeps (P := fun q : Plutosdr => q.currentSampleRate = _) writeGain_current
    fun hg => ?_
  rw [finish_kept.2, hg]

/-- A complete update finds or leaves every parameter as the settings say. -/
theorem requested_of_complete {x : PlutosdrParam} (hsync : dir.Synced p)
    (h : dir.Complete profile ret config p) (hx : ¬ dir.Written profile ret config p x) :
    (dir.requested profile config x).getD (p.attrs (dir.attr x)) = p.attrs (dir.attr x) := by
  obtain ⟨hbegin, htuned, hgain, -⟩ := h
  cases x with
  | frequency => exact absurd ⟨hbegin, htuned.1⟩ hx
  | sampleRate =>
    rcases htuned.2 with hcur | hset
    · rw [requested, Option.getD_some, ← hcur, attr]
      exact hsync
    · by_cases hcur : p.currentSampleRate = config.sampleRate
      · rw [requested, Option.getD_some, ← hcur, attr]
        exact hsync
      · exact absurd ⟨hbegin, htuned.1, hcur, Plutosdr.rateWritten_of_set hset⟩ hx
  | gain =>
    have hsets : ¬ dir.setsGain profile := fun hs => hx ⟨hbegin, htuned, hs, hgain hs⟩
    rw [requested, if_neg hsets, Option.getD_none]

/-- The driver remembers the rate that is held, unless an update fails after it has
written another one. -/
theorem synced_setParameters (hsync : dir.Synced p)
    (h : dir.Complete profile ret config p ∨ ∀ x, dir.Written profile ret config p x →
      dir.requested profile config x = some (p.attrs (dir.attr x))) :
    dir.Synced (dir.setParameters profile ret config p).2 := by
  unfold Synced at hsync ⊢
  by_cases hbegin : dir.Begins profile ret config
  · by_cases htuned : p.Tuned ret dir.lo dir.chn config
    · rw [setParameters_current hbegin, Plutosdr.tune_current (tuned_lead.mpr htuned)]
      by_cases hx : dir.Written profile ret config p .sampleRate
      · exact Option.some.inj (setParameters_written hx)
      · have hcur : p.currentSampleRate = config.sampleRate := by
          by_contra hne
          exact hx ⟨hbegin, htuned.1, hne,
            Plutosdr.rateWritten_of_set (htuned.2.resolve_left hne)⟩
        exact hcur.symm.trans (hsync.trans (setParameters_unwritten hx).symm)
    · rw [setParameters_current hbegin,
        Plutosdr.tune_current_of_failed (mt tuned_lead.mp htuned), lead_current, hsync]
      -- the update has failed, so the rate it wrote, if any, was there already
      have hkept := h.resolve_left fun hc => htuned hc.2.1
      by_cases hx : dir.Written profile ret config p .sampleRate
      · exact Option.some.inj ((hkept _ hx).symm.trans (setParameters_written hx))
      · exact (setParameters_unwritten hx).symm
  · obtain ⟨-, hattrs, hcur⟩ := setParameters_of_not_begins (p := p) hbegin
    rw [hcur, hsync]
    exact (hattrs .sampleRate).symm

end PlutosdrDirection

/-- What `plutosdr_create` does about the sample rate, when everything before has
worked: it reads the rate of the receiving channel, and changes it if the settings
ask for another one. -/
def plutosdrCreate (ret : IioCall → Int) (sampleRate : UInt64) (attrs : IioAttr → UInt64) :
    Option Plutosdr :=
  let p : Plutosdr := ⟨attrs, attrs (.samplingFrequency .rx0Chn), false, false⟩
  if sampleRate ≠ 0 ∧ sampleRate ≠ p.currentSampleRate then
    let (code, p) := p.setSampleRate ret sampleRate .rx0Chn
    if code ≠ 0 then none else some { p with currentSampleRate := sampleRate }
  else some p

/-- A new driver knows the rate that the receiver holds. -/
theorem synced_of_create {ret : IioCall → Int} {sampleRate : UInt64} {attrs : IioAttr → UInt64}
    {p : Plutosdr} (h : plutosdrCreate ret sampleRate attrs = some p) :
    PlutosdrDirection.rx.Synced p := by
  unfold plutosdrCreate at h
  dsimp only at h
  split at h
  · split at h
    · cases h
    · rename_i hcode
      cases h
      have hset := Plutosdr.setSampleRate_code.mp (not_not.mp hcode)
      exact (Plutosdr.setSampleRate_written (Plutosdr.rateWritten_of_set hset) _).symm
  · cases h
    rfl

/-- **The updates of a plutosdr**, in one direction. -/
def plutosdrUpdater (profile : PlutosdrProfile) (dir : PlutosdrDirection) :
    Updater Plutosdr (IioCall → Int) SdrChannelConfig PlutosdrParam UInt64 where
  update ret config p := dir.setParameters profile ret config p
  held p x := p.attrs (dir.attr x)
  requested config x := dir.requested profile config x
  Complete ret config p := dir.Complete profile ret config p
  Written ret config p x := dir.Written profile ret config p x
  Synced p := dir.Synced p
  code_eq_zero _ _ _ := PlutosdrDirection.setParameters_code
  held_written _ _ _ _ := PlutosdrDirection.setParameters_written
  held_unwritten _ _ _ _ := PlutosdrDirection.setParameters_unwritten
  unwritten _ _ _ _ := PlutosdrDirection.requested_of_complete
  synced_update _ _ _ := PlutosdrDirection.synced_setParameters

end SdrModem
