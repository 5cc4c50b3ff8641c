import Mathlib.Data.Nat.Find
import SdrModem.SdrModemCreate

/-!
# The rates of a modem

The modem behind `sdr_modem` runs at the rate to which the half-band stages take the samples.
-/
namespace SdrModem

/-! ## The number of stages -/

/-- The largest number of stages that leaves twice the bandwidth, or none. -/
def largestStages (sampleRate bandwidth : Nat) : Nat :=
  if bandwidth = 0 then 0
  else Nat.findGreatest (fun n => 2 * (bandwidth : ℚ) ≤ (sampleRate : ℚ) / 2 ^ n)
    modemHalfbandMaxStages

/-- A condition that holds up to some number: how far is told by each number below the limit. -/
theorem le_findGreatest_iff {P : Nat → Prop} [DecidablePred P] (hP : ∀ m n, m ≤ n → P n → P m)
    {limit n : Nat} (hpos : 0 < n) (hn : n ≤ limit) : n ≤ Nat.findGreatest P limit ↔ P n := by
  constructor
  · intro h
    exact hP _ _ h (Nat.findGreatest_of_ne_zero rfl (by omega))
  · exact Nat.le_findGreatest hn

theorem findGreatest_eq_iff {P Q : Nat → Prop} [DecidablePred P] [DecidablePred Q]
    (hP : ∀ m n, m ≤ n → P n → P m) (hQ : ∀ m n, m ≤ n → Q n → Q m) (limit : Nat) :
    Nat.findGreatest P limit = Nat.findGreatest Q limit ↔
      ∀ n, 0 < n → n ≤ limit → (P n ↔ Q n) := by
  constructor
  · intro h n hpos hn
    rw [← le_findGreatest_iff hP hpos hn, h, le_findGreatest_iff hQ hpos hn]
  · intro h
    have hle : ∀ n, n ≤ limit →
        (n ≤ Nat.findGreatest P limit ↔ n ≤ Nat.findGreatest Q limit) := by
      intro n hn
      rcases Nat.eq_zero_or_pos n with rfl | hpos
      · simp
      · rw [le_findGreatest_iff hP hpos hn, le_findGreatest_iff hQ hpos hn, h n hpos hn]
    exact Nat.le_antisymm ((hle _ (Nat.findGreatest_le _)).mp (Nat.le_refl _))
      ((hle _ (Nat.findGreatest_le _)).mpr (Nat.le_refl _))

/-- A rate that is high enough after `n` stages was before. -/
theorem rate_antitone (sampleRate : Nat) (bound : ℚ) (m n : Nat) (hmn : m ≤ n)
    (h : bound ≤ ((sampleRate / 2 ^ n : ℕ) : ℚ)) : bound ≤ ((sampleRate / 2 ^ m : ℕ) : ℚ) := by
  refine h.trans (Nat.cast_le.mpr ?_)
  exact Nat.div_le_div_left (Nat.pow_le_pow_right (by decide) hmn) (Nat.two_pow_pos m)

theorem estimateHalfbandStages_eq (a : FloatArith) (sampleRate : UInt64) {bandwidth : UInt32}
    (h : bandwidth ≠ 0) : estimateHalfbandStages a sampleRate bandwidth =
      Nat.findGreatest (fun n => 2 * a.ofNat bandwidth.toNat ≤ ((sampleRate.toNat / 2 ^ n : ℕ) : ℚ))
        modemHalfbandMaxStages := by
  have hanti := rate_antitone sampleRate.toNat (2 * a.ofNat bandwidth.toNat)
  have hloop : ∀ left ≤ modemHalfbandMaxStages,
      (∀ n ≤ modemHalfbandMaxStages - left, n ≠ 0 →
        2 * a.ofNat bandwidth.toNat ≤ ((sampleRate.toNat / 2 ^ n : ℕ) : ℚ)) →
      estimateHalfbandStages.loop sampleRate ⌈2 * a.ofNat bandwidth.toNat⌉₊ left =
        Nat.findGreatest (fun n => 2 * a.ofNat bandwidth.toNat ≤
          ((sampleRate.toNat / 2 ^ n : ℕ) : ℚ)) modemHalfbandMaxStages := by
    intro left
    induction left with
    | zero =>
      intro _ hall
      symm
      rw [estimateHalfbandStages.loop, Nat.findGreatest_eq_iff]
      exact ⟨Nat.le_refl _, fun _ => hall _ (Nat.le_refl _) (by decide), fun n h1 h2 => by omega⟩
    | succ left ih =>
      intro hleft hall
      have hcheck : ∀ n, sampleRate.toNat >>> n ≥ ⌈2 * a.ofNat bandwidth.toNat⌉₊ ↔
          2 * a.ofNat bandwidth.toNat ≤ ((sampleRate.toNat / 2 ^ n : ℕ) : ℚ) := by
        intro n
        rw [Nat.shiftRight_eq_div_pow, ge_iff_le, Nat.ceil_le]
      rw [estimateHalfbandStages.loop]
      simp only [hcheck]
      split
      · rename_i hnext
        refine ih (by omega) fun n hn hne => ?_
        rcases Nat.lt_or_ge (modemHalfbandMaxStages - (left + 1)) n with hlt | hge
        · obtain rfl : n = modemHalfbandMaxStages - (left + 1) + 1 := by omega
          exact hnext
        · exact hall n hge hne
      · rename_i hlast
        symm
        rw [Nat.findGreatest_eq_iff]
        exact ⟨Nat.sub_le _ _, fun hne => hall _ (Nat.le_refl _) hne,
          fun n hn _ hn' => hlast (hanti _ n (by omega) hn')⟩
  rw [estimateHalfbandStages, if_neg h]
  exact hloop _ (Nat.le_refl _) fun n hn hne => by omega

/-- An exact bound is met by a rate exactly if it is met by the rate without its fraction. -/
theorem natCast_le_div_two_pow (sampleRate bandwidth n : Nat) :
    2 * (bandwidth : ℚ) ≤ (sampleRate : ℚ) / 2 ^ n ↔
      2 * (bandwidth : ℚ) ≤ ((sampleRate / 2 ^ n : ℕ) : ℚ) := by
  have hpow : (0 : ℚ) < 2 ^ n := pow_pos two_pos n
  rw [le_div_iff₀ hpow]
  constructor
  · intro h
    have hnat : 2 * bandwidth * 2 ^ n ≤ sampleRate := by exact_mod_cast h
    exact_mod_cast (Nat.le_div_iff_mul_le (Nat.two_pow_pos n)).mpr hnat
  · intro h
    have hnat : 2 * bandwidth ≤ sampleRate / 2 ^ n := by exact_mod_cast h
    exact_mod_cast (Nat.le_div_iff_mul_le (Nat.two_pow_pos n)).mp hnat

theorem largestStages_eq (sampleRate : Nat) {bandwidth : Nat} (h : bandwidth ≠ 0) :
    largestStages sampleRate bandwidth =
      Nat.findGreatest (fun n => 2 * (bandwidth : ℚ) ≤ ((sampleRate / 2 ^ n : ℕ) : ℚ))
        modemHalfbandMaxStages := by
  rw [largestStages, if_neg h]
  simp only [natCast_le_div_two_pow]

/-- **Which bandwidths are rounded so that the number of stages stays the same.** -/
theorem estimateHalfbandStages_eq_largest_iff (a : FloatArith) (sampleRate : UInt64)
    (bandwidth : UInt32) :
    estimateHalfbandStages a sampleRate bandwidth =
        largestStages sampleRate.toNat bandwidth.toNat ↔
      (bandwidth ≠ 0 → ∀ n, 0 < n → n ≤ 6 →
        (2 * a.ofNat bandwidth.toNat ≤ ((sampleRate.toNat / 2 ^ n : ℕ) : ℚ) ↔
          2 * bandwidth.toNat ≤ sampleRate.toNat / 2 ^ n)) := by
  by_cases hzero : bandwidth = 0
  · subst hzero
    exact iff_of_true rfl fun h => absurd rfl h
  · have hne : bandwidth.toNat ≠ 0 := fun h => hzero (UInt32.toNat_inj.mp h)
    rw [estimateHalfbandStages_eq a _ hzero, largestStages_eq _ hne,
      findGreatest_eq_iff (rate_antitone _ _) (rate_antitone _ _)]
    have hcast : ∀ n, 2 * (bandwidth.toNat : ℚ) ≤ ((sampleRate.toNat / 2 ^ n : ℕ) : ℚ) ↔
        2 * bandwidth.toNat ≤ sampleRate.toNat / 2 ^ n := by
      intro n
      exact_mod_cast Iff.rfl
    simp only [hcast]
    exact ⟨fun h _ => h, fun h => h hzero⟩

/-! ## The rate -/

theorem basebandSampleRate_toNat (a : FloatArith) (sampleRate : UInt64) (bandwidth : UInt32) :
    (basebandSampleRate a sampleRate bandwidth).toNat =
      sampleRate.toNat / 2 ^ estimateHalfbandStages a sampleRate bandwidth := by
  have hle : _ ≤ 6 := estimateHalfbandStages_le a sampleRate bandwidth
  unfold basebandSampleRate
  dsimp only
  generalize estimateHalfbandStages a sampleRate bandwidth = stages at hle ⊢
  split
  · rename_i hzero
    rw [hzero, pow_zero, Nat.div_one]
  · rw [UInt64.toNat_shiftRight, Nat.shiftRight_eq_div_pow, UInt64.toNat_ofNat_of_lt'
      (show stages < 2 ^ 64 by omega), Nat.mod_eq_of_lt (by omega)]

theorem SdrModemSettings.sampleRate_withSampleRate (rate : UInt64) (settings : SdrModemSettings) :
    (settings.withSampleRate rate).sampleRate = rate := by
  cases settings <;> rfl

/-- **The modem is told the rate its samples really have.** -/
structure TrueRate (a : FloatArith) (sampleRate : UInt64) (bandwidth : UInt32) : Prop where
  stages : estimateHalfbandStages a sampleRate bandwidth =
    largestStages sampleRate.toNat bandwidth.toNat
  told : ∀ settings : SdrModemSettings, settings.sampleRate = sampleRate →
    sdrModemGetBandwidth a settings = some bandwidth →
    (settings.decimated a bandwidth).sampleRate.toNat *
      2 ^ estimateHalfbandStages a sampleRate bandwidth = sampleRate.toNat

/-- Settings with any sample rate and any bandwidth. -/
def gfskOfRate (sampleRate : UInt64) (bandwidth : UInt32) : SdrModemSettings :=
  .gfsk ⟨sampleRate, 9600, 5000, bandwidth, 0x3f000000, 1, 0, 0⟩

/-- **When the modem is told the rate of its samples**: the float bandwidth tells the stages,
and they divide the sample rate. -/
theorem baseband_rate_true_iff (a : FloatArith) (sampleRate : UInt64) (bandwidth : UInt32) :
    TrueRate a sampleRate bandwidth ↔
      (bandwidth ≠ 0 → ∀ n, 0 < n → n ≤ 6 →
        (2 * a.ofNat bandwidth.toNat ≤ ((sampleRate.toNat / 2 ^ n : ℕ) : ℚ) ↔
          2 * bandwidth.toNat ≤ sampleRate.toNat / 2 ^ n)) ∧
      2 ^ largestStages sampleRate.toNat bandwidth.toNat ∣ sampleRate.toNat := by
  rw [← estimateHalfbandStages_eq_largest_iff]
  constructor
  · intro h
    have htold := h.told (gfskOfRate sampleRate bandwidth) rfl rfl
    rw [h.stages] at htold
    exact ⟨h.stages, Dvd.intro_left _ htold⟩
  · rintro ⟨hstages, hdvd⟩
    refine ⟨hstages, fun settings hrate _ => ?_⟩
    rw [SdrModemSettings.decimated, SdrModemSettings.sampleRate_withSampleRate, hrate,
      basebandSampleRate_toNat, hstages, Nat.div_mul_cancel hdvd]

/-- Two stages take 48001 samples to 12000 and a quarter, and the modem is told 12000. -/
theorem fraction_of_rate_is_lost :
    (SdrModemSettings.decimated .binary32 5000 (gfskOfRate 48001 5000)).sampleRate = 12000 ∧
    ¬ TrueRate .binary32 48001 5000 ∧ ¬ TrueRate .exact 48001 5000 := by
  have hstages : estimateHalfbandStages .binary32 48001 5000 = 2 := by decide +kernel
  have hexact : estimateHalfbandStages .exact 48001 5000 = 2 := by decide +kernel
  have hrate : (basebandSampleRate .binary32 48001 5000).toNat = 12000 := by
    rw [basebandSampleRate_toNat, hstages]
    rfl
  have hrate' : (basebandSampleRate .exact 48001 5000).toNat = 12000 := by
    rw [basebandSampleRate_toNat, hexact]
    rfl
  refine ⟨UInt64.toNat_inj.mp hrate, fun h => ?_, fun h => ?_⟩
  · have htold := h.told (gfskOfRate 48001 5000) rfl rfl
    rw [hstages] at htold
    exact absurd (hrate ▸ htold : 12000 * 2 ^ 2 = 48001) (by decide)
  · have htold := h.told (gfskOfRate 48001 5000) rfl rfl
    rw [hexact] at htold
    exact absurd (hrate' ▸ htold : 12000 * 2 ^ 2 = 48001) (by decide)

/-! ## The rate plan of the PSK modem -/

/-- The samples per symbol, of which there are at most 15; the quotient is stored in 32 bits. -/
def samplesPerSymbol (sampleRate baudRate : Nat) : Nat := min 15 (sampleRate / baudRate % 2 ^ 32)

/-- Whether the rates are bridged by resamplers. -/
def NeedsResampling (sampleRate baudRate : Nat) : Prop :=
  15 < sampleRate / baudRate % 2 ^ 32 ∨ ¬ baudRate ∣ sampleRate

instance (sampleRate baudRate : Nat) : Decidable (NeedsResampling sampleRate baudRate) :=
  inferInstanceAs (Decidable (_ ∨ _))

/-- What `bpsk_modem_create` makes of a sample rate and a baud rate. -/
structure PlansFor (sampleRate baudRate : Nat) (plan : BpskRatePlan) : Prop where
  baud_ne : baudRate ≠ 0
  sps_ge : 2 ≤ samplesPerSymbol sampleRate baudRate
  sps_eq : plan.samplesPerSymbol.toNat = samplesPerSymbol sampleRate baudRate
  internal_eq : plan.internalSampleRate.toNat = samplesPerSymbol sampleRate baudRate * baudRate
  rx_eq : plan.resamplerRx = if NeedsResampling sampleRate baudRate then
    some ((plan.internalSampleRate.toNat : ℚ) / (sampleRate : ℚ)) else none
  tx_eq : plan.resamplerTx = if NeedsResampling sampleRate baudRate then
    some ((sampleRate : ℚ) / (plan.internalSampleRate.toNat : ℚ)) else none

theorem bpskRatePlan_cases (sampleRate : UInt64) (baudRate : UInt32) :
    (bpskRatePlan sampleRate baudRate = none ∧
      (baudRate.toNat = 0 ∨ samplesPerSymbol sampleRate.toNat baudRate.toNat < 2)) ∨
    ∃ plan, bpskRatePlan sampleRate baudRate = some plan ∧
      PlansFor sampleRate.toNat baudRate.toNat plan := by
  have hquotient : (sampleRate / baudRate.toUInt64).toUInt32.toNat =
      sampleRate.toNat / baudRate.toNat % 2 ^ 32 := by
    rw [UInt64.toNat_toUInt32, UInt64.toNat_div, UInt32.toNat_toUInt64]
  have hdvd : sampleRate % baudRate.toUInt64 ≠ 0 ↔ ¬ baudRate.toNat ∣ sampleRate.toNat := by
    rw [Ne, ← UInt64.toNat_inj, UInt64.toNat_mod, UInt32.toNat_toUInt64,
      Nat.dvd_iff_mod_eq_zero]
    rfl
  -- the three branches choose the samples per symbol and whether there are resamplers
  have hbranches : ∃ needs sps,
      (if (sampleRate / baudRate.toUInt64).toUInt32 > bpskModemTargetSps then
          (true, bpskModemTargetSps)
        else if sampleRate % baudRate.toUInt64 ≠ 0 then
          (true, (sampleRate / baudRate.toUInt64).toUInt32)
        else (false, (sampleRate / baudRate.toUInt64).toUInt32)) = (needs, sps) ∧
      sps.toNat = samplesPerSymbol sampleRate.toNat baudRate.toNat ∧
      (needs = true ↔ NeedsResampling sampleRate.toNat baudRate.toNat) := by
    have htarget : (sampleRate / baudRate.toUInt64).toUInt32 > bpskModemTargetSps ↔
        15 < sampleRate.toNat / baudRate.toNat % 2 ^ 32 := by
      rw [← hquotient]
      exact UInt32.lt_iff_toNat_lt
    unfold NeedsResampling samplesPerSymbol
    by_cases hmany : 15 < sampleRate.toNat / baudRate.toNat % 2 ^ 32
    · rw [if_pos (htarget.mpr hmany)]
      exact ⟨_, _, rfl, (Nat.min_eq_left hmany.le).symm, iff_of_true rfl (Or.inl hmany)⟩
    · have hsps := (Nat.min_eq_right (Nat.le_of_not_lt hmany)).symm
      rw [if_neg (mt htarget.mp hmany)]
      by_cases hrest : sampleRate % baudRate.toUInt64 ≠ 0
      · rw [if_pos hrest]
        exact ⟨_, _, rfl, hquotient.trans hsps, iff_of_true rfl (Or.inr (hdvd.mp hrest))⟩
      · rw [if_neg hrest]
        refine ⟨_, _, rfl, hquotient.trans hsps, iff_of_false (by decide) ?_⟩
        exact not_or.mpr ⟨hmany, mt hdvd.mpr hrest⟩
  obtain ⟨needs, sps, hpair, hsps, hneeds⟩ := hbranches
  by_cases hzero : baudRate = 0
  · exact Or.inl ⟨by rw [bpskRatePlan, if_pos hzero], Or.inl (congrArg UInt32.toNat hzero)⟩
  · rw [bpskRatePlan, if_neg hzero]
    dsimp only
    rw [hpair]
    dsimp only
    by_cases hfew : sps < 2
    · have hlt : sps.toNat < 2 := UInt32.lt_iff_toNat_lt.mp hfew
      exact Or.inl ⟨if_pos hfew, Or.inr (hsps ▸ hlt)⟩
    · have hge : 2 ≤ sps.toNat := UInt32.le_iff_toNat_le.mp (UInt32.not_lt.mp hfew)
      refine Or.inr ⟨_, if_neg hfew, ?_, hsps ▸ hge, hsps, ?_, ?_, ?_⟩
      · exact fun h => hzero (UInt32.toNat_inj.mp h)
      · have hsmall : sps.toNat ≤ 15 := hsps ▸ Nat.min_le_left _ _
        have hbaud := baudRate.toNat_lt
        rw [UInt64.toNat_mul, UInt32.toNat_toUInt64, UInt32.toNat_toUInt64, hsps]
        rw [hsps] at hsmall
        exact Nat.mod_eq_of_lt (by nlinarith)
      · simp only [hneeds]
      · simp only [hneeds]

/-- **The rate plan is consistent.** -/
structure ConsistentPlan (sampleRate baudRate : Nat) (plan : BpskRatePlan) : Prop where
  quotient : plan.samplesPerSymbol.toNat = min 15 (sampleRate / baudRate)
  range : 2 ≤ plan.samplesPerSymbol.toNat ∧ plan.samplesPerSymbol.toNat ≤ 15
  internal : plan.internalSampleRate.toNat = plan.samplesPerSymbol.toNat * baudRate ∧
    plan.samplesPerSymbol.toNat * baudRate ≤ sampleRate
  resamplers : (plan.resamplerRx.isSome = true ↔
      plan.samplesPerSymbol.toNat * baudRate ≠ sampleRate) ∧
    (plan.resamplerTx.isSome = true ↔ plan.samplesPerSymbol.toNat * baudRate ≠ sampleRate)

theorem PlansFor.consistent_iff {sampleRate baudRate : Nat} {plan : BpskRatePlan}
    (h : PlansFor sampleRate baudRate plan) : ConsistentPlan sampleRate baudRate plan ↔
      (sampleRate / baudRate < 2 ^ 32 ∨ 15 < sampleRate / baudRate % 2 ^ 32 ∨
        sampleRate / baudRate % 2 ^ 32 = 15 ∧ ¬ baudRate ∣ sampleRate) := by
  have hbaud : 0 < baudRate := Nat.pos_of_ne_zero h.baud_ne
  have hwhole : sampleRate / baudRate * baudRate ≤ sampleRate := Nat.div_mul_le_self _ _
  have hrx : plan.resamplerRx.isSome = true ↔ NeedsResampling sampleRate baudRate := by
    rw [h.rx_eq]
    split <;> simp_all
  have htx : plan.resamplerTx.isSome = true ↔ NeedsResampling sampleRate baudRate := by
    rw [h.tx_eq]
    split <;> simp_all
  have hmod := Nat.mod_le (sampleRate / baudRate) (2 ^ 32)
  -- 15 samples per symbol are less than a larger quotient
  have hless : 15 < sampleRate / baudRate → 15 * baudRate < sampleRate := fun hlt =>
    Nat.lt_of_lt_of_le (Nat.mul_lt_mul_of_pos_right hlt hbaud) hwhole
  constructor
  · intro hplan
    by_cases hsmall : sampleRate / baudRate < 2 ^ 32
    · exact Or.inl hsmall
    · have hsps := h.sps_eq.symm.trans hplan.quotient
      rw [samplesPerSymbol, Nat.min_eq_left (by omega : 15 ≤ sampleRate / baudRate)] at hsps
      have hneeds : NeedsResampling sampleRate baudRate := by
        refine hrx.mp (hplan.resamplers.1.mpr ?_)
        rw [hplan.quotient, Nat.min_eq_left (by omega : 15 ≤ sampleRate / baudRate)]
        exact (hless (by omega)).ne
      rcases hneeds with hmany | hrest
      · exact Or.inr (Or.inl hmany)
      · by_cases hmany : 15 < sampleRate / baudRate % 2 ^ 32
        · exact Or.inr (Or.inl hmany)
        · exact Or.inr (Or.inr ⟨by omega, hrest⟩)
  · intro hcond
    have hsps : samplesPerSymbol sampleRate baudRate = min 15 (sampleRate / baudRate) := by
      rw [samplesPerSymbol]
      rcases hcond with hsmall | hmany | ⟨heq, -⟩
      · rw [Nat.mod_eq_of_lt hsmall]
      · omega
      · omega
    have hle : samplesPerSymbol sampleRate baudRate * baudRate ≤ sampleRate := by
      rw [hsps]
      exact (Nat.mul_le_mul_right _ (Nat.min_le_right _ _)).trans hwhole
    have hneeds : NeedsResampling sampleRate baudRate ↔
        samplesPerSymbol sampleRate baudRate * baudRate ≠ sampleRate := by
      constructor
      · rintro (hmany | hrest)
        · rw [hsps, Nat.min_eq_left (by omega : 15 ≤ sampleRate / baudRate)]
          exact (hless (by omega)).ne
        · exact fun heq => hrest (Dvd.intro_left _ heq)
      · intro hne
        by_contra hnot
        obtain ⟨hfew, hdvd⟩ := not_or.mp hnot
        have hdvd := Decidable.not_not.mp hdvd
        rcases hcond with hsmall | hmany | ⟨-, hrest⟩
        · rw [Nat.mod_eq_of_lt hsmall] at hfew
          rw [hsps, Nat.min_eq_right (by omega), Nat.div_mul_cancel hdvd] at hne
          exact hne rfl
        · exact hfew hmany
        · exact hrest hdvd
    rw [← h.sps_eq] at hle hneeds hsps
    refine ⟨hsps, ⟨?_, ?_⟩, ⟨?_, hle⟩, hrx.trans hneeds, htx.trans hneeds⟩
    · rw [h.sps_eq]
      exact h.sps_ge
    · rw [h.sps_eq]
      exact Nat.min_le_left _ _
    · rw [h.internal_eq, h.sps_eq]

/-- **When the rate plan is consistent**: the quotient has 32 bits, or what is left of it in
32 bits makes no plan or the same one. -/
theorem rate_plan_consistent_iff (sampleRate : UInt64) (baudRate : UInt32) :
    (∀ plan ∈ bpskRatePlan sampleRate baudRate,
      ConsistentPlan sampleRate.toNat baudRate.toNat plan) ↔
    (sampleRate.toNat / baudRate.toNat < 2 ^ 32 ∨
      sampleRate.toNat / baudRate.toNat % 2 ^ 32 < 2 ∨
      15 < sampleRate.toNat / baudRate.toNat % 2 ^ 32 ∨
      sampleRate.toNat / baudRate.toNat % 2 ^ 32 = 15 ∧ ¬ baudRate.toNat ∣ sampleRate.toNat) := by
  rcases bpskRatePlan_cases sampleRate baudRate with ⟨hnone, hwhy⟩ | ⟨plan, hplan, hfor⟩
  · rw [hnone]
    refine iff_of_true (by rintro _ ⟨⟩) ?_
    rcases hwhy with hzero | hfew
    · left
      rw [hzero, Nat.div_zero]
      decide
    · right
      left
      rw [samplesPerSymbol] at hfew
      omega
  · have hge := hfor.sps_ge
    rw [samplesPerSymbol] at hge
    rw [hplan]
    simp only [Option.mem_some_iff, forall_eq']
    rw [hfor.consistent_iff]
    constructor
    · exact fun h => h.imp_right Or.inr
    · rintro (h | h | h)
      · exact Or.inl h
      · omega
      · exact Or.inr h

/-- `2 ^ 32 + 2` samples per symbol are stored as 2, and the modem runs at 2 Hz without a
resampler. -/
theorem truncated_quotient_makes_wrong_plan :
    ∃ plan, bpskRatePlan 4294967298 1 = some plan ∧ plan.samplesPerSymbol = 2 ∧
      plan.internalSampleRate = 2 ∧ plan.resamplerRx = none ∧
      ¬ ConsistentPlan 4294967298 1 plan := by
  refine ⟨⟨2, 2, none, none⟩, rfl, rfl, rfl, rfl, fun h => ?_⟩
  exact absurd h.quotient (by decide)

end SdrModem
