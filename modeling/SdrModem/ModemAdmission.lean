import SdrModem.ModemRates

/-!
# Settings that a modem is created from

The half-band stages are chosen by the bandwidth of the signal.  The PSK modem behind them is
created for the decimated rate: it has fewer samples per symbol then, and its low-pass filter
is checked against a lower rate.
-/
namespace SdrModem

/-- `*_modem_create`, by the type of the modem. -/
def wrappedCreate (liquid : Liquid) (a : FloatArith) (gfskCreate : GfskModemSettings → Bool)
    (pskPmCreate : PskPmModemSettings → Bool) : SdrModemSettings → Bool
  | .gfsk settings => gfskCreate settings
  | .psk _ settings => bpskModemCreate liquid a settings
  | .pskPm settings => pskPmCreate settings

/-- The checks of `bpsk_modem_create` that depend on the sample rate: two samples per symbol,
and a low-pass filter below half of the internal rate. -/
def RateAdmits (sampleRate baudRate bandwidth : Nat) : Prop :=
  2 ≤ samplesPerSymbol sampleRate baudRate ∧
    (bandwidth = 0 ∨ 2 * bandwidth < samplesPerSymbol sampleRate baudRate * baudRate)

/-- **Two sample rates are checked alike**: the one with more samples per symbol is refused, or
the other one is admitted. -/
def AdmitAlike (sps sps' baudRate bandwidth : Nat) : Prop :=
  max sps sps' < 2 ∨ (bandwidth ≠ 0 ∧ max sps sps' * baudRate ≤ 2 * bandwidth) ∨
    (2 ≤ min sps sps' ∧ (bandwidth = 0 ∨ 2 * bandwidth < min sps sps' * baudRate))

instance (sps sps' baudRate bandwidth : Nat) : Decidable (AdmitAlike sps sps' baudRate bandwidth) :=
  inferInstanceAs (Decidable (_ ∨ _ ∨ _))

theorem RateAdmits.baudRate_ne {sampleRate baudRate bandwidth : Nat}
    (h : RateAdmits sampleRate baudRate bandwidth) : baudRate ≠ 0 := by
  rintro rfl
  have hsps := h.1
  rw [samplesPerSymbol, Nat.div_zero] at hsps
  omega

theorem rateAdmits_iff_iff (sampleRate sampleRate' baudRate bandwidth : Nat) :
    (RateAdmits sampleRate baudRate bandwidth ↔ RateAdmits sampleRate' baudRate bandwidth) ↔
      AdmitAlike (samplesPerSymbol sampleRate baudRate) (samplesPerSymbol sampleRate' baudRate)
        baudRate bandwidth := by
  unfold RateAdmits AdmitAlike
  generalize samplesPerSymbol sampleRate baudRate = s
  generalize samplesPerSymbol sampleRate' baudRate = s'
  rcases Nat.le_total s s' with hle | hle
  · have hmul := Nat.mul_le_mul_right baudRate hle
    rw [Nat.max_eq_right hle, Nat.min_eq_left hle]
    omega
  · have hmul := Nat.mul_le_mul_right baudRate hle
    rw [Nat.max_eq_left hle, Nat.min_eq_right hle]
    omega

/-- Where the quotient of the rates has 32 bits, only the low-pass filter can tell them apart:
its bandwidth is half of a rate between the two internal ones. -/
theorem admitAlike_iff_of_lt {sampleRate baudRate bandwidth : Nat} (lowpass : Nat)
    (hlt : sampleRate / baudRate < 2 ^ 32) (hbaud : 0 < baudRate) (hle : baudRate ≤ bandwidth) :
    AdmitAlike (samplesPerSymbol sampleRate baudRate)
        (samplesPerSymbol (sampleRate / 2 ^ largestStages sampleRate bandwidth) baudRate)
        baudRate lowpass ↔
      samplesPerSymbol sampleRate baudRate < 2 ∨ lowpass = 0 ∨
      2 * lowpass <
        samplesPerSymbol (sampleRate / 2 ^ largestStages sampleRate bandwidth) baudRate * baudRate ∨
      samplesPerSymbol sampleRate baudRate * baudRate ≤ 2 * lowpass := by
  have hdiv : sampleRate / 2 ^ largestStages sampleRate bandwidth / baudRate ≤
      sampleRate / baudRate := Nat.div_le_div_right (Nat.div_le_self _ _)
  have hsps : samplesPerSymbol (sampleRate / 2 ^ largestStages sampleRate bandwidth) baudRate ≤
      samplesPerSymbol sampleRate baudRate := by
    unfold samplesPerSymbol
    rw [Nat.mod_eq_of_lt hlt, Nat.mod_eq_of_lt (by omega)]
    omega
  -- stages leave twice the bandwidth, and with it two samples per symbol
  have hfew : samplesPerSymbol (sampleRate / 2 ^ largestStages sampleRate bandwidth) baudRate < 2 →
      samplesPerSymbol sampleRate baudRate < 2 := by
    rcases Nat.eq_zero_or_pos (largestStages sampleRate bandwidth) with hzero | hpos
    · rw [hzero, Nat.pow_zero, Nat.div_one]
      exact id
    · intro hfew
      exfalso
      have hkept := hpos
      rw [largestStages_eq _ (by omega)] at hkept
      have hkept := Nat.findGreatest_of_ne_zero rfl hkept.ne'
      rw [← largestStages_eq _ (by omega)] at hkept
      have hrate : 2 * bandwidth ≤ sampleRate / 2 ^ largestStages sampleRate bandwidth := by
        exact_mod_cast hkept
      have htwo : 2 ≤ sampleRate / 2 ^ largestStages sampleRate bandwidth / baudRate := by
        rw [Nat.le_div_iff_mul_le hbaud]
        omega
      rw [samplesPerSymbol, Nat.mod_eq_of_lt (by omega)] at hfew
      omega
  have hmul := Nat.mul_le_mul_right baudRate hsps
  rw [AdmitAlike, Nat.max_eq_left hsps, Nat.min_eq_right hsps]
  omega

/-! ## The PSK modem -/

section Psk
variable {liquid : Liquid} {settings : BpskModemSettings} {beta : ℚ}

/-- The check of the low-pass filter. -/
theorem lowpass_iff (bandwidth : UInt32) {internal : Nat} (h : 0 < internal) :
    (bandwidth = 0 || (FloatArith.exact.round (FloatArith.exact.ofNat bandwidth.toNat /
      FloatArith.exact.ofNat internal)).any
        fun fc => !(fc ≤ 0 || fc ≥ 1 / 2) && liquid.firfiltKaiser fc) = true ↔
      bandwidth.toNat = 0 ∨ 2 * bandwidth.toNat < internal := by
  have hpos : (0 : ℚ) < internal := Nat.cast_pos.mpr h
  have hhalf : (bandwidth.toNat : ℚ) / internal < 1 / 2 ↔ 2 * bandwidth.toNat < internal := by
    rw [div_lt_div_iff₀ hpos two_pos, one_mul, mul_comm]
    exact_mod_cast Iff.rfl
  have hzero : bandwidth = 0 ↔ bandwidth.toNat = 0 := UInt32.toNat_inj.symm
  change (decide (bandwidth = 0) || Option.any _ (some ((bandwidth.toNat : ℚ) / internal))) =
    true ↔ _
  rw [Option.any_some, Bool.or_eq_true, decide_eq_true_eq, hzero, Bool.and_eq_true,
    liquid.firfiltKaiser_iff, hhalf]
  rcases Nat.eq_zero_or_pos bandwidth.toNat with hb | hb
  · simp [hb]
  · have hpositive : (0 : ℚ) < bandwidth.toNat / internal := div_pos (Nat.cast_pos.mpr hb) hpos
    simp only [Bool.not_eq_true', Bool.or_eq_false_iff, decide_eq_false_iff_not, not_le, ge_iff_le,
      hhalf, hpositive, true_and, and_self]

/-- **What `bpsk_modem_create` accepts**, in exact arithmetic. -/
theorem bpskModemCreate_iff
    (hbeta : Ieee754.binary32.finite settings.rrcBeta.toNat = some beta) (h0 : 0 < beta)
    (h1 : beta ≤ 1) : bpskModemCreate liquid .exact settings = true ↔
      settings.baudRate.toNat ≠ 0 ∧
      RateAdmits settings.sampleRate.toNat settings.baudRate.toNat settings.bandwidth.toNat ∧
      0 < settings.rrcDelay.toNat ∧ 0 < settings.symsyncFilterBankSize.toNat := by
  unfold bpskModemCreate RateAdmits
  rcases bpskRatePlan_cases settings.sampleRate settings.baudRate with
    ⟨hnone, hwhy⟩ | ⟨plan, hplan, hfor⟩
  · rw [hnone]
    refine iff_of_false Bool.false_ne_true ?_
    rintro ⟨hbaud, ⟨hsps, -⟩, -⟩
    omega
  · rw [hplan]
    dsimp only
    have hsps := hfor.sps_ge
    have hbaud := Nat.pos_of_ne_zero hfor.baud_ne
    have hinternal : 0 < plan.internalSampleRate.toNat := by
      rw [hfor.internal_eq]
      exact Nat.mul_pos (by omega) hbaud
    have hrate : 0 < settings.sampleRate.toNat := by
      refine Nat.pos_of_ne_zero fun hzero => ?_
      rw [samplesPerSymbol, hzero, Nat.zero_div] at hsps
      omega
    have hrx : plan.resamplerRx.all liquid.msresamp = true := by
      rw [hfor.rx_eq]
      split
      · exact (liquid.msresamp_iff _).mpr (div_pos (Nat.cast_pos.mpr hinternal)
          (Nat.cast_pos.mpr hrate))
      · rfl
    have htx : plan.resamplerTx.all liquid.msresamp = true := by
      rw [hfor.tx_eq]
      split
      · exact (liquid.msresamp_iff _).mpr (div_pos (Nat.cast_pos.mpr hrate)
          (Nat.cast_pos.mpr hinternal))
      · rfl
    rw [hbeta, hrx, htx, Bool.true_and, Bool.and_true, Bool.and_eq_true, Bool.and_eq_true,
      lowpass_iff _ hinternal, liquid.symsyncRnyquist_iff, liquid.firinterpPrototype_iff,
      hfor.sps_eq, hfor.internal_eq]
    constructor
    · rintro ⟨⟨hlowpass, -, hdelay, -, hbank⟩, -⟩
      exact ⟨hfor.baud_ne, ⟨hsps, hlowpass⟩, hdelay, hbank⟩
    · rintro ⟨-, ⟨-, hlowpass⟩, hdelay, hbank⟩
      exact ⟨⟨hlowpass, hsps, hdelay, ⟨h0.le, h1⟩, hbank⟩, hsps, hdelay, h0.le, h1⟩

end Psk

/-! ## The modem of the workers -/

/-- The half-band filters are always created: the cutoff is kept within its limits. -/
theorem halfband_created (liquid : Liquid) {numStages : Nat} (h : numStages ≤ 6)
    (bandwidth : UInt32) (rate : UInt64) :
    (sdrModemHalfbandCutoff .exact bandwidth rate).any (liquid.msresamp2 numStages) = true := by
  have hcutoff : ∃ cutoff, sdrModemHalfbandCutoff .exact bandwidth rate = some cutoff ∧
      5 / 100 ≤ cutoff ∧ cutoff ≤ 45 / 100 := by
    change ∃ cutoff, (if (bandwidth.toNat : ℚ) / 2 / rate.toNat < 5 / 100 then some (5 / 100)
      else if (bandwidth.toNat : ℚ) / 2 / rate.toNat > 45 / 100 then some (45 / 100)
      else some ((bandwidth.toNat : ℚ) / 2 / rate.toNat)) = some cutoff ∧ _
    split
    · exact ⟨_, rfl, by norm_num, by norm_num⟩
    · rename_i hlow
      split
      · exact ⟨_, rfl, by norm_num, by norm_num⟩
      · rename_i hhigh
        exact ⟨_, rfl, not_lt.mp hlow, not_lt.mp hhigh⟩
  obtain ⟨cutoff, hsome, hlow, hhigh⟩ := hcutoff
  rw [hsome, Option.any_some, liquid.msresamp2_iff]
  exact ⟨by omega, by linarith, by linarith⟩

/-- **The settings decide by the modem behind the half-band filters.** -/
theorem sdrModemCreate_exact (liquid : Liquid) (wrappedCreate : SdrModemSettings → Bool)
    (settings : SdrModemSettings) :
    sdrModemCreate liquid .exact wrappedCreate settings =
      (sdrModemGetBandwidth .exact settings).map fun bandwidth =>
        wrappedCreate (settings.decimated .exact bandwidth) := by
  unfold sdrModemCreate
  cases sdrModemGetBandwidth .exact settings with
  | none => rfl
  | some bandwidth =>
    have hle := estimateHalfbandStages_le .exact settings.sampleRate bandwidth
    have hcreated := halfband_created liquid hle bandwidth
      (basebandSampleRate .exact settings.sampleRate bandwidth)
    change some _ = some _
    rw [hcreated, Bool.or_true, Bool.true_and, Bool.and_true]

theorem estimateHalfbandStages_exact (sampleRate : UInt64) (bandwidth : UInt32) :
    estimateHalfbandStages .exact sampleRate bandwidth =
      largestStages sampleRate.toNat bandwidth.toNat := by
  refine (estimateHalfbandStages_eq_largest_iff _ _ _).mpr fun _ n _ _ => ?_
  change 2 * (bandwidth.toNat : ℚ) ≤ _ ↔ _
  exact_mod_cast Iff.rfl

/-- The bandwidth of a PSK signal, if it has 32 bits. -/
theorem sdrModemGetBandwidth_psk (modemType : PskModemType) {settings : BpskModemSettings}
    {beta : ℚ} (hbeta : Ieee754.binary32.finite settings.rrcBeta.toNat = some beta)
    (h0 : 0 < beta) :
    ((1 + beta) * settings.baudRate.toNat < 2 ^ 32 ∧
      sdrModemGetBandwidth .exact (.psk modemType settings) =
        some (UInt32.ofNat ⌊(1 + beta) * settings.baudRate.toNat⌋₊)) ∨
    (2 ^ 32 ≤ (1 + beta) * settings.baudRate.toNat ∧
      sdrModemGetBandwidth .exact (.psk modemType settings) = none) := by
  have hvalue : sdrModemGetBandwidth .exact (.psk modemType settings) =
      toUInt32 (some ((1 + beta) * settings.baudRate.toNat)) := by
    change toUInt32 (shapedBandwidth .exact settings.rrcBeta settings.baudRate) = _
    rw [shapedBandwidth, hbeta]
    rfl
  have hnonneg : (0 : ℚ) ≤ (1 + beta) * settings.baudRate.toNat :=
    mul_nonneg (by linarith) (Nat.cast_nonneg _)
  rw [hvalue, toUInt32, Option.bind_some]
  rcases lt_or_ge ((1 + beta) * settings.baudRate.toNat) (2 ^ 32) with h | h
  · exact Or.inl ⟨h, if_pos ⟨by linarith, h⟩⟩
  · exact Or.inr ⟨h, if_neg fun hrange => by linarith [hrange.2]⟩

/-- The objects of `liquid-dsp`, as it documents when they are created. -/
def Liquid.documented : Liquid where
  msresamp2 numStages fc := decide (numStages ≤ 16 ∧ 0 < fc ∧ fc < 1 / 2)
  msresamp rate := decide (0 < rate)
  firfiltKaiser fc := decide (0 < fc ∧ fc < 1 / 2)
  symsyncRnyquist k m beta numFilters :=
    beta.any fun beta => decide (2 ≤ k ∧ 0 < m ∧ (0 ≤ beta ∧ beta ≤ 1) ∧ 0 < numFilters)
  firinterpPrototype k m beta :=
    beta.any fun beta => decide (2 ≤ k ∧ 0 < m ∧ (0 ≤ beta ∧ beta ≤ 1))
  msresamp2_iff _ _ := decide_eq_true_iff
  msresamp_iff _ := decide_eq_true_iff
  firfiltKaiser_iff _ := decide_eq_true_iff
  symsyncRnyquist_iff _ _ _ _ := decide_eq_true_iff
  firinterpPrototype_iff _ _ _ := decide_eq_true_iff

/-- BPSK with 1200 baud at 48000 Hz: half-band decimation leaves 6000 Hz. -/
def pskOf1200Baud (bandwidth : UInt32) : BpskModemSettings where
  sampleRate := 48000
  baudRate := 1200
  bandwidth := bandwidth
  rrcBeta := 0x3f000000
  rrcDelay := 7
  costasBandwidth := 0x3c23d70a
  symsyncFilterBankSize := 32
  type := .bpsk

theorem rrcBeta_half : Ieee754.binary32.finite 0x3f000000 = some (1 / 2) := by decide +kernel

theorem floor_of_1200Baud : ⌊(1 + 1 / 2 : ℚ) * (1200 : UInt32).toNat⌋₊ = 1800 := by
  have hvalue : (1 + 1 / 2 : ℚ) * (1200 : UInt32).toNat = (1800 : ℕ) := by
    rw [UInt32.toNat_ofNat]
    norm_num
  rw [hvalue, Nat.floor_natCast]

/-- **Which PSK settings are admitted alike with and without half-band decimation.** -/
theorem halfband_admits_alike_iff (liquid : Liquid) (gfskCreate : GfskModemSettings → Bool)
    (pskPmCreate : PskPmModemSettings → Bool) (modemType : PskModemType)
    (settings : BpskModemSettings) (beta : ℚ)
    (hbeta : Ieee754.binary32.finite settings.rrcBeta.toNat = some beta) (h0 : 0 < beta)
    (h1 : beta ≤ 1) :
    sdrModemCreate liquid .exact (wrappedCreate liquid .exact gfskCreate pskPmCreate)
        (.psk modemType settings) = some (bpskModemCreate liquid .exact settings) ↔
      (1 + beta) * settings.baudRate.toNat < 2 ^ 32 ∧
      (settings.rrcDelay = 0 ∨ settings.symsyncFilterBankSize = 0 ∨
        AdmitAlike
          (samplesPerSymbol settings.sampleRate.toNat settings.baudRate.toNat)
          (samplesPerSymbol
            (settings.sampleRate.toNat / 2 ^ largestStages settings.sampleRate.toNat
              ⌊(1 + beta) * settings.baudRate.toNat⌋₊)
            settings.baudRate.toNat)
          settings.baudRate.toNat settings.bandwidth.toNat) := by
  rw [sdrModemCreate_exact]
  rcases sdrModemGetBandwidth_psk modemType hbeta h0 with ⟨hlt, hsome⟩ | ⟨hge, hnone⟩
  · have hfloor : (UInt32.ofNat ⌊(1 + beta) * settings.baudRate.toNat⌋₊).toNat =
        ⌊(1 + beta) * settings.baudRate.toNat⌋₊ := by
      refine UInt32.toNat_ofNat_of_lt' ?_
      exact (Nat.floor_lt' (by decide)).mpr (by exact_mod_cast hlt)
    have hrate := basebandSampleRate_toNat .exact settings.sampleRate
      (UInt32.ofNat ⌊(1 + beta) * settings.baudRate.toNat⌋₊)
    rw [estimateHalfbandStages_exact, hfloor] at hrate
    rw [hsome, Option.map_some, Option.some.injEq, Bool.eq_iff_iff, ← rateAdmits_iff_iff, ← hrate]
    -- the modem behind is created from the same settings, less the sample rate
    have hdecimated : bpskModemCreate liquid .exact { settings with
        sampleRate := basebandSampleRate .exact settings.sampleRate
          (UInt32.ofNat ⌊(1 + beta) * settings.baudRate.toNat⌋₊) } = true ↔ _ :=
      bpskModemCreate_iff hbeta h0 h1
    dsimp only at hdecimated
    change (bpskModemCreate liquid .exact { settings with
      sampleRate := basebandSampleRate .exact settings.sampleRate
        (UInt32.ofNat ⌊(1 + beta) * settings.baudRate.toNat⌋₊) } = true ↔ _) ↔ _
    rw [hdecimated, bpskModemCreate_iff hbeta h0 h1]
    have hbaud : ∀ rate, settings.baudRate.toNat ≠ 0 ∧
        RateAdmits rate settings.baudRate.toNat settings.bandwidth.toNat ↔
          RateAdmits rate settings.baudRate.toNat settings.bandwidth.toNat :=
      fun rate => and_iff_right_of_imp RateAdmits.baudRate_ne
    have hdelay : settings.rrcDelay = 0 ↔ settings.rrcDelay.toNat = 0 := UInt8.toNat_inj.symm
    have hbank : settings.symsyncFilterBankSize = 0 ↔ settings.symsyncFilterBankSize.toNat = 0 :=
      UInt8.toNat_inj.symm
    simp only [← and_assoc, hbaud, hdelay, hbank]
    rcases Nat.eq_zero_or_pos settings.rrcDelay.toNat with hd | hd
    · simp [hd, hlt]
    · rcases Nat.eq_zero_or_pos settings.symsyncFilterBankSize.toNat with hb | hb
      · simp [hb, hlt]
      · simpa [hd, hb, hd.ne', hb.ne', hlt] using iff_comm
  · rw [hnone]
    exact iff_of_false (by rintro ⟨⟩) fun h => by linarith [h.1]

theorem pskOf1200Baud_alike :
    sdrModemCreate .documented .exact
        (wrappedCreate .documented .exact (fun _ => true) (fun _ => true))
        (.psk .bpsk (pskOf1200Baud 2000)) =
      some (bpskModemCreate .documented .exact (pskOf1200Baud 2000)) := by
  refine (halfband_admits_alike_iff .documented (fun _ => true) (fun _ => true) .bpsk
    (pskOf1200Baud 2000) (1 / 2) rrcBeta_half (by norm_num) (by norm_num)).mpr
    ⟨?_, Or.inr (Or.inr ?_)⟩
  · change (1 + 1 / 2 : ℚ) * (1200 : UInt32).toNat < 2 ^ 32
    rw [UInt32.toNat_ofNat]
    norm_num
  · change AdmitAlike _ (samplesPerSymbol (48000 / 2 ^ largestStages 48000
      ⌊(1 + 1 / 2 : ℚ) * (1200 : UInt32).toNat⌋₊) 1200) 1200 2000
    rw [floor_of_1200Baud]
    decide +kernel

/-- A low-pass filter of 4000 Hz suits the rate of the signal, but not the 6000 Hz that are
left of it. -/
theorem lowpass_is_refused_after_decimation :
    bpskModemCreate .documented .exact (pskOf1200Baud 4000) = true ∧
    sdrModemCreate .documented .exact
        (wrappedCreate .documented .exact (fun _ => true) (fun _ => true))
        (.psk .bpsk (pskOf1200Baud 4000)) = some false := by
  decide +kernel

end SdrModem
