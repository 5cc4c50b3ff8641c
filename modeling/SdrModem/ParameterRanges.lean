import SdrModem.Airspy
import SdrModem.Ieee754
import SdrModem.PlutosdrErrors

/-!
# Parameters outside of their ranges

`airspy_set_rx_parameters`, `plutosdr_set_rx_parameters` and `plutosdr_set_tx_parameters`
compare the parameters with what the device supports before they write anything.  Here the
ranges of the plutosdr are the doubles that it reports, and the comparisons are those of C: a
`float` is promoted to `double` exactly, and a `uint64_t` is rounded to the nearest.

The airspy asks whether the gain is in its range, and the plutosdr whether it is outside of
it.  A gain that is not a number is neither.
-/
namespace SdrModem
open Ieee754 StepwiseUpdate

/-- The number of a `float`. -/
def floatValue (bits : UInt32) : Option Extended := binary32.value bits.toNat

/-- The number of a `double`. -/
def doubleValue (bits : UInt64) : Option Extended := binary64.value bits.toNat

/-- A call that refuses what it is asked for: an error, the driver and the device as before,
and no write. -/
structure Refused {D A : Type} (result : Int × D) (before : D) (writes : List A) : Prop where
  code : result.1 ≠ 0
  state : result.2 = before
  writes : writes = []

/-! ## The airspy -/

/-- Calls up to the first that fails. -/
def Airspy.upToFailure (ret : AirspyCall → Int) : List AirspyAttr → List AirspyAttr
  | [] => []
  | a :: l => a :: if ret (.set a) = 0 then upToFailure ret l else []

/-- **The parameters that `airspy_set_rx_parameters` writes**, or tries to. -/
def AirspyProfile.attempts (profile : AirspyProfile) (ret : AirspyCall → Int)
    (config : SdrChannelConfig) (dev : Airspy) : List AirspyAttr :=
  if profile.accepts config then
    Airspy.upToFailure ret
      ((if dev.currentSampleRate ≠ config.sampleRate then [.samplerate] else []) ++
        (profile.tuneWrites config).map Prod.fst)
  else []

/-- **What the airspy does not support.**  The gain counts in two of the modes. -/
def AirspyProfile.OutOfRange (profile : AirspyProfile) (config : SdrChannelConfig) : Prop :=
  config.frequency.toNat < 24000000 ∨ 1750000000 < config.frequency.toNat ∨
  (∀ rate ∈ profile.sampleRates, rate.toNat ≠ config.sampleRate.toNat) ∨
  (profile.gainMode = .sensitivity ∨ profile.gainMode = .linearity) ∧
    ¬ (le (exact 0) (floatValue config.gain) = true ∧
      le (floatValue config.gain) (exact 21) = true)

/-- The floats between 0 and 21. -/
theorem binary32_within {n : Nat} (h : n < 2 ^ 32) :
    le (exact 0) (binary32.value n) = true ∧ le (binary32.value n) (exact 21) = true ↔
      n ≤ 0x41a80000 ∨ n = 0x80000000 := by
  by_cases hexponent : binary32.exponent n = 2 ^ binary32.exponentBits - 1
  · have hbits : n / 2 ^ 23 % 2 ^ 8 = 2 ^ 8 - 1 := hexponent
    refine iff_of_false ?_ (by omega)
    rintro ⟨hleast, hmost⟩
    rw [Format.value, if_pos hexponent] at hleast hmost
    by_cases hfraction : binary32.fraction n = 0
    · rw [if_pos hfraction, exact, le_some] at hleast hmost
      by_cases hneg : binary32.negative n = true
      · rw [if_pos hneg, le_bot_iff] at hleast
        exact WithBot.coe_ne_bot hleast
      · rw [if_neg hneg, top_le_iff, WithBot.coe_eq_top] at hmost
        exact WithTop.coe_ne_top hmost
    · rw [if_neg hfraction] at hleast
      cases hleast
  · rw [Format.value, if_neg hexponent, exact, exact, le_some, le_some, Format.coe_le,
      Format.coe_le]
    have hpos : (0 : ℚ) ≤ binary32.magnitude n / 2 ^ binary32.scale := by positivity
    by_cases hneg : binary32.negative n = true
    · have hbits : n / 2 ^ 31 % 2 = 1 := of_decide_eq_true hneg
      rw [if_pos hneg]
      have hleast : (0 : ℚ) ≤ -(binary32.magnitude n / 2 ^ binary32.scale) ↔
          (binary32.magnitude n / 2 ^ binary32.scale : ℚ) ≤ (0 : Nat) := by
        rw [Nat.cast_zero, neg_nonneg]
      have hmost : -(binary32.magnitude n / 2 ^ binary32.scale : ℚ) ≤ (21 : Nat) := by
        push_cast
        linarith
      have hmagnitude : binary32.magnitude n ≤ binary32.magnitude 0 ↔
          n % 2 ^ 31 ≤ 0 % 2 ^ 31 := Format.magnitude_le_iff
      rw [and_iff_left hmost, Nat.cast_zero, hleast, Format.div_le_natCast, Nat.zero_mul]
      exact hmagnitude.trans (by omega)
    · have hbits : ¬ n / 2 ^ 31 % 2 = 1 := fun h => hneg (decide_eq_true h)
      rw [if_neg hneg]
      have hleast : ((0 : Nat) : ℚ) ≤ binary32.magnitude n / 2 ^ binary32.scale := by
        rw [Nat.cast_zero]
        exact hpos
      have hmagnitude : binary32.magnitude n ≤ binary32.magnitude 0x41a80000 ↔
          n % 2 ^ 31 ≤ 0x41a80000 % 2 ^ 31 := Format.magnitude_le_iff
      rw [and_iff_right hleast, Format.div_le_natCast]
      exact hmagnitude.trans (by omega)

/-- The bits of a gain between 0 and 21 are those of such a number. -/
theorem combinedGainSupported_iff (gain : UInt32) :
    combinedGainSupported gain = true ↔
      le (exact 0) (floatValue gain) = true ∧ le (floatValue gain) (exact 21) = true := by
  have hbound := gain.toNat_lt
  have hbits : combinedGainSupported gain = true ↔
      gain.toNat ≤ 0x41a80000 ∨ gain.toNat = 0x80000000 := by
    rw [combinedGainSupported, Bool.or_eq_true, decide_eq_true_iff, decide_eq_true_iff,
      UInt32.le_iff_toNat_le, ← UInt32.toNat_inj]
    rfl
  rw [hbits, floatValue, binary32_within hbound]

namespace Airspy

theorem mem_upToFailure {ret : AirspyCall → Int} {x : AirspyAttr} {l : List (AirspyAttr × UInt64)}
    (h : x ∈ (done (AirspyOk ret) l).map Prod.fst) : x ∈ upToFailure ret (l.map Prod.fst) := by
  induction l with
  | nil => exact h
  | cons w l ih =>
    rw [List.map_cons, upToFailure]
    by_cases hw : AirspyOk ret w.1 = true
    · rw [done_of_ok hw, List.map_cons] at h
      rw [if_pos (of_decide_eq_true hw)]
      rcases List.mem_cons.mp h with rfl | h
      · exact List.mem_cons_self
      · exact List.mem_cons_of_mem _ (ih h)
    · rw [done_of_failed hw] at h
      cases h

/-- **Nothing else is written.** -/
theorem setRxParameters_outside {profile : AirspyProfile} {ret : AirspyCall → Int}
    {config : SdrChannelConfig} {dev : Airspy} {x : AirspyAttr}
    (h : x ∉ profile.attempts ret config dev) :
    (airspySetRxParameters profile ret config dev).2.attrs x = dev.attrs x := by
  refine setRxParameters_unwritten fun hwritten => h ?_
  obtain ⟨haccept, hrate, hx⟩ := hwritten
  rw [AirspyProfile.attempts, if_pos haccept]
  by_cases hcur : dev.currentSampleRate = config.sampleRate
  · rw [if_neg (not_not.mpr hcur), List.nil_append]
    exact mem_upToFailure (hx.resolve_left fun hx => hx.2 hcur)
  · rw [if_pos hcur, List.singleton_append, upToFailure,
      if_pos (of_decide_eq_true (hrate.resolve_left hcur))]
    rcases hx with ⟨rfl, -⟩ | hx
    · exact List.mem_cons_self
    · exact List.mem_cons_of_mem _ (mem_upToFailure hx)

end Airspy

/-- The checks of the airspy let through what it supports. -/
theorem AirspyProfile.accepts_iff {profile : AirspyProfile} {config : SdrChannelConfig} :
    profile.accepts config = true ↔ ¬ profile.OutOfRange config := by
  have hrate : profile.isSampleRateSupported config.sampleRate = true ↔
      ¬ ∀ rate ∈ profile.sampleRates, rate.toNat ≠ config.sampleRate.toNat := by
    rw [isSampleRateSupported, List.any_eq_true]
    push Not
    refine exists_congr fun rate => and_congr_right fun _ => ?_
    rw [decide_eq_true_iff, ← UInt64.toNat_inj, UInt32.toNat_toUInt64]
  have hleast : config.frequency < airspyMinFrequency ↔ config.frequency.toNat < 24000000 :=
    UInt64.lt_iff_toNat_lt
  have hmost : config.frequency > airspyMaxFrequency ↔ 1750000000 < config.frequency.toNat :=
    UInt64.lt_iff_toNat_lt
  rw [accepts, OutOfRange, ← combinedGainSupported_iff, ← hleast, ← hmost]
  simp only [Bool.and_eq_true, Bool.not_eq_true', Bool.or_eq_false_iff, Bool.and_eq_false_iff,
    Bool.not_eq_false', decide_eq_false_iff_not, hrate]
  rw [not_or, not_or, not_or, not_and_or, not_or, not_not, and_assoc, and_assoc]

/-! ## The plutosdr -/

/-- The ends of a `plutosdr_range`. -/
structure PlutosdrEnds where
  min : UInt64
  max : UInt64

namespace PlutosdrEnds

/-- A `float` is compared with the ends. -/
def ofFloat (ends : PlutosdrEnds) : PlutosdrRange UInt32 :=
  ⟨fun v => lt (floatValue v) (doubleValue ends.min),
    fun v => lt (doubleValue ends.max) (floatValue v)⟩

/-- A `uint64_t` is compared with the ends. -/
def ofUInt64 (ends : PlutosdrEnds) : PlutosdrRange UInt64 :=
  ⟨fun v => lt (binary64.promoted v.toNat) (doubleValue ends.min),
    fun v => lt (doubleValue ends.max) (binary64.promoted v.toNat)⟩

/-- An integer that is not in the range. -/
def Outside (ends : PlutosdrEnds) (v : UInt64) : Prop :=
  lt (exact v.toNat) (doubleValue ends.min) = true ∨
    lt (doubleValue ends.max) (exact v.toNat) = true

/-- The comparisons of the driver say so. -/
def Rejected (ends : PlutosdrEnds) (v : UInt64) : Prop :=
  ends.ofUInt64.below v = true ∨ ends.ofUInt64.above v = true

/-- An integer outside of the range that is rounded to the end of it. -/
def RoundedOnto (ends : PlutosdrEnds) (v : UInt64) : Prop :=
  lt (exact v.toNat) (doubleValue ends.min) = true ∧
    binary64.promoted v.toNat = doubleValue ends.min ∨
  lt (doubleValue ends.max) (exact v.toNat) = true ∧
    binary64.promoted v.toNat = doubleValue ends.max

theorem RoundedOnto.outside {ends : PlutosdrEnds} {v : UInt64} (h : ends.RoundedOnto v) :
    ends.Outside v := h.imp And.left And.left

theorem Outside.roundedOnto {ends : PlutosdrEnds} {v : UInt64} (h : ends.Outside v)
    (hpassed : ¬ ends.Rejected v) : ends.RoundedOnto v := by
  rcases h with h | h
  · rcases Format.promoted_lt_or_eq h with hlt | heq
    · exact absurd (Or.inl hlt) hpassed
    · exact Or.inl ⟨h, heq⟩
  · rcases Format.lt_promoted_or_eq h with hlt | heq
    · exact absurd (Or.inr hlt) hpassed
    · exact Or.inr ⟨h, heq⟩

/-- A `float` that is a number in the range. -/
def Within (ends : PlutosdrEnds) (v : UInt32) : Prop :=
  le (doubleValue ends.min) (floatValue v) = true ∧ le (floatValue v) (doubleValue ends.max) = true

end PlutosdrEnds

/-- The ranges that the device reports. -/
structure PlutosdrRanges where
  gain : PlutosdrEnds
  power : PlutosdrEnds
  frequency : PlutosdrEnds
  sampleRateMax : UInt64

namespace PlutosdrRanges

/-- The range of the sample rate begins at `MIN_FIR_FILTER`, whatever the device reports. -/
def sampleRate (r : PlutosdrRanges) : PlutosdrEnds := ⟨0x411fca0800000000, r.sampleRateMax⟩

/-- The driver of a device with these ranges. -/
def profile (r : PlutosdrRanges) (gainControlMode : IioGainMode) : PlutosdrProfile :=
  ⟨r.gain.ofFloat, r.power.ofFloat, r.frequency.ofUInt64, r.sampleRate.ofUInt64.above,
    gainControlMode⟩

/-- The range of the gain, or that of the power. -/
def gainEnds (r : PlutosdrRanges) : PlutosdrDirection → PlutosdrEnds
  | .rx => r.gain
  | .tx => r.power

/-- **What the plutosdr does not support.** -/
def OutOfRange (r : PlutosdrRanges) (dir : PlutosdrDirection) (config : SdrChannelConfig) : Prop :=
  r.frequency.Outside config.frequency ∨ r.sampleRate.Outside config.sampleRate ∨
    ¬ (r.gainEnds dir).Within config.gain

/-- `config->sample_rate < pluto->sample_rate.min`, as a comparison of integers. -/
theorem sampleRate_below (r : PlutosdrRanges) (v : UInt64) :
    r.sampleRate.ofUInt64.below v = decide (v < minFirFilter) := by
  have hmin : doubleValue 0x411fca0800000000 = exact 520834 :=
    Format.value_eq_exact (by decide) (by decide) (by decide +kernel)
  have hlt : v < minFirFilter ↔ v.toNat < 520834 := UInt64.lt_iff_toNat_lt
  dsimp only [PlutosdrEnds.ofUInt64, sampleRate]
  rw [Bool.eq_iff_iff, decide_eq_true_iff, hlt, ← Format.exact_lt_exact, ← hmin]
  constructor
  · exact Format.exact_lt_of_promoted_lt
  · intro h
    rw [hmin, Format.exact_lt_exact] at h
    have hsmall : binary64.promoted v.toNat = exact v.toNat := by
      rw [Format.promoted, Format.roundNat_of_lt (h.trans (by decide)), exact]
    rw [hmin, hsmall, Format.exact_lt_exact]
    exact h

/-- One of the comparisons holds. -/
def Seen (r : PlutosdrRanges) (dir : PlutosdrDirection) (config : SdrChannelConfig) : Prop :=
  r.frequency.Rejected config.frequency ∨ r.sampleRate.Rejected config.sampleRate ∨
    lt (floatValue config.gain) (doubleValue (r.gainEnds dir).min) = true ∨
    lt (doubleValue (r.gainEnds dir).max) (floatValue config.gain) = true

/-- The checks of the driver are these comparisons. -/
theorem accepts_iff {r : PlutosdrRanges} {mode : IioGainMode} {dir : PlutosdrDirection}
    {config : SdrChannelConfig} :
    (r.profile mode).accepts (dir.gainRange (r.profile mode)) config = true ↔
      ¬ r.Seen dir config := by
  have hgain : dir.gainRange (r.profile mode) = (r.gainEnds dir).ofFloat := by
    cases dir with
    | rx => rfl
    | tx => rfl
  rw [hgain, PlutosdrProfile.accepts, ← sampleRate_below r]
  simp only [Bool.and_eq_true, Bool.not_eq_true', Bool.or_eq_false_iff, Seen,
    PlutosdrEnds.Rejected, not_or, Bool.not_eq_true, and_assoc]
  rfl

/-- **What the comparisons do not see**: a gain that is not a number, or has none as an end of
its range; and an integer outside of its range that is rounded to the end of it. -/
def Unseen (r : PlutosdrRanges) (dir : PlutosdrDirection) (config : SdrChannelConfig) : Prop :=
  floatValue config.gain = none ∨ doubleValue (r.gainEnds dir).min = none ∨
    doubleValue (r.gainEnds dir).max = none ∨ r.frequency.RoundedOnto config.frequency ∨
    r.sampleRate.RoundedOnto config.sampleRate

theorem outOfRange_of_unseen {r : PlutosdrRanges} {dir : PlutosdrDirection}
    {config : SdrChannelConfig} (h : r.Unseen dir config) : r.OutOfRange dir config := by
  rcases h with h | h | h | h | h
  · exact Or.inr (Or.inr fun hin => (le_iff_not_lt.mp hin.1).2.1 h)
  · exact Or.inr (Or.inr fun hin => (le_iff_not_lt.mp hin.1).1 h)
  · exact Or.inr (Or.inr fun hin => (le_iff_not_lt.mp hin.2).2.1 h)
  · exact Or.inl h.outside
  · exact Or.inr (Or.inl h.outside)

/-- **Parameters out of range that no comparison sees.** -/
theorem unseen_of_outOfRange {r : PlutosdrRanges} {dir : PlutosdrDirection}
    {config : SdrChannelConfig} (hout : r.OutOfRange dir config) (hseen : ¬ r.Seen dir config) :
    r.Unseen dir config := by
  rw [Seen, not_or, not_or, not_or] at hseen
  obtain ⟨hfrequency, hrate, hleast, hmost⟩ := hseen
  rcases hout with hout | hout | hout
  · exact Or.inr (Or.inr (Or.inr (Or.inl (hout.roundedOnto hfrequency))))
  · exact Or.inr (Or.inr (Or.inr (Or.inr (hout.roundedOnto hrate))))
  · by_contra hunseen
    rw [Unseen, not_or, not_or, not_or] at hunseen
    obtain ⟨hgain, hmin, hmax, -⟩ := hunseen
    exact hout ⟨le_iff_not_lt.mpr ⟨hmin, hgain, hleast⟩, le_iff_not_lt.mpr ⟨hgain, hmax, hmost⟩⟩

end PlutosdrRanges

/-- A call that passes the checks writes. -/
theorem PlutosdrDirection.writes_ne_nil {profile : PlutosdrProfile} {dir : PlutosdrDirection}
    {config : SdrChannelConfig} (h : profile.accepts (dir.gainRange profile) config = true)
    (ret : IioCall → Int) (p : Plutosdr) : dir.writes profile ret config p ≠ [] := by
  rw [writes, if_pos h]
  cases dir with
  | rx => exact List.append_ne_nil_of_left_ne_nil (List.cons_ne_nil _ _) _
  | tx => exact List.append_ne_nil_of_left_ne_nil (List.cons_ne_nil _ _) _

/-- **Parameters out of range never touch the airspy**, and they do not touch the plutosdr exactly
if there is none that its comparisons do not see, or one that they see. -/
theorem out_of_range_refused_iff (config : SdrChannelConfig) :
    (∀ (profile : AirspyProfile) (ret : AirspyCall → Int) (dev : Airspy),
      profile.OutOfRange config →
      Refused (airspySetRxParameters profile ret config dev) dev
        (profile.attempts ret config dev)) ∧
    ∀ (r : PlutosdrRanges) (mode : IioGainMode) (ret : IioCall → Int) (p : Plutosdr)
      (dir : PlutosdrDirection),
      (r.OutOfRange dir config →
        Refused (dir.setParameters (r.profile mode) ret config p) p
          (dir.writes (r.profile mode) ret config p)) ↔
      (r.Unseen dir config → r.Seen dir config) := by
  constructor
  · intro profile ret dev hout
    have hrejected : ¬ profile.accepts config = true := fun h => AirspyProfile.accepts_iff.mp h hout
    rw [Airspy.setRxParameters_of_rejected hrejected, AirspyProfile.attempts, if_neg hrejected]
    exact ⟨Int.negSucc_ne_zero 0, rfl, rfl⟩
  · intro r mode ret p dir
    constructor
    · intro hrefused hunseen
      by_contra hseen
      exact PlutosdrDirection.writes_ne_nil (PlutosdrRanges.accepts_iff.mpr hseen) ret p
        (hrefused (PlutosdrRanges.outOfRange_of_unseen hunseen)).writes
    · intro hseen hout
      have hrejected :
          ¬ (r.profile mode).accepts (dir.gainRange (r.profile mode)) config = true := by
        intro haccept
        have hnot := PlutosdrRanges.accepts_iff.mp haccept
        exact hnot (hseen (PlutosdrRanges.unseen_of_outOfRange hout hnot))
      rw [PlutosdrDirection.setParameters_eq, if_neg hrejected, PlutosdrDirection.writes,
        if_neg hrejected]
      exact ⟨Int.negSucc_ne_zero 0, rfl, rfl⟩

/-- The gain is from -1 to 73 dB, the power from -89.75 to 0 dB, the frequency from 70 MHz to 6 GHz
and the sample rate up to 61.44 MHz. -/
def plutoRanges : PlutosdrRanges :=
  ⟨⟨0xbff0000000000000, 0x4052400000000000⟩, ⟨0xc056700000000000, 0⟩,
    ⟨0x4190b07600000000, 0x41f65a0bc0000000⟩, 0x418d4c0000000000⟩

/-- A gain that is not a number. -/
def nanConfig : SdrChannelConfig := ⟨433000000, 2400000, 0x7fc00000⟩

/-- In both directions it is out of range, the call returns 0, and the device gets it. -/
theorem nan_gain_is_written :
    (∀ dir, plutoRanges.OutOfRange dir nanConfig) ∧
    ∀ dir : PlutosdrDirection,
      let result :=
        dir.setParameters (plutoRanges.profile .manual) (fun _ => 0) nanConfig driverAt3MHz
      result.1 = 0 ∧ result.2.attrs (.hardwaregain dir.chn) = 0x7fc00000 ∧
      ¬ Refused result driverAt3MHz
        (dir.writes (plutoRanges.profile .manual) (fun _ => 0) nanConfig driverAt3MHz) := by
  have hunseen : ∀ dir, plutoRanges.Unseen dir nanConfig := fun _ => Or.inl (by decide)
  have haccept : ∀ dir : PlutosdrDirection, (plutoRanges.profile .manual).accepts
      (dir.gainRange (plutoRanges.profile .manual)) nanConfig = true := by
    intro dir
    cases dir with
    | rx => decide +kernel
    | tx => decide +kernel
  refine ⟨fun dir => PlutosdrRanges.outOfRange_of_unseen (hunseen dir), fun dir => ?_⟩
  have hwritten := PlutosdrDirection.writes_ne_nil (haccept dir) (fun _ => 0) driverAt3MHz
  cases dir with
  | rx => exact ⟨by decide +kernel, by decide +kernel, fun h => hwritten h.writes⟩
  | tx => exact ⟨by decide +kernel, by decide +kernel, fun h => hwritten h.writes⟩

end SdrModem
