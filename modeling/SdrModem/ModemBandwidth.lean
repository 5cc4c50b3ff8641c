import SdrModem.ModemRates

/-!
# The bandwidth of what a client asks for

The bandwidth of a PSK signal is a `float` that is converted to an integer.  The numbers that
it comes from are read from the wire and nothing looks at them before the conversion, so it is
defined only for some of them.
-/
namespace SdrModem

open Ieee754 (binary32)

/-! ## The numbers of a message -/

/-- The largest `float`. -/
theorem magnitude_le_largest {bits : Nat} (h : binary32.exponent bits ≠ 2 ^ 8 - 1) :
    binary32.magnitude bits + 2 ^ 253 ≤ 2 ^ 24 * 2 ^ 253 := by
  have hfraction := binary32.fraction_lt bits
  have hexponent : binary32.exponent bits < 2 ^ 8 := Nat.mod_lt _ (by decide)
  rw [Ieee754.Format.magnitude]
  split
  · have hlt : binary32.fraction bits < 2 ^ 23 := hfraction
    omega
  · have hlead : 2 ^ binary32.fractionBits + binary32.fraction bits + 1 ≤ 2 ^ 24 := by
      change _ < 2 ^ 23 at hfraction
      change 2 ^ 23 + _ + 1 ≤ 2 ^ 24
      omega
    calc (2 ^ binary32.fractionBits + binary32.fraction bits) *
          2 ^ (binary32.exponent bits - 1) + 2 ^ 253
        ≤ (2 ^ binary32.fractionBits + binary32.fraction bits) * 2 ^ 253 + 2 ^ 253 :=
          Nat.add_le_add_right
            (Nat.mul_le_mul_left _ (Nat.pow_le_pow_right two_pos (by omega))) _
      _ = (2 ^ binary32.fractionBits + binary32.fraction bits + 1) * 2 ^ 253 :=
          (Nat.succ_mul _ _).symm
      _ ≤ 2 ^ 24 * 2 ^ 253 := Nat.mul_le_mul_right _ hlead

theorem abs_finite_le {bits : Nat} {q : ℚ} (h : binary32.finite bits = some q) :
    |q| + 2 ^ 104 ≤ 2 ^ 128 := by
  unfold Ieee754.Format.finite at h
  split at h
  · cases h
  · rename_i hexponent
    have hle : (binary32.magnitude bits : ℚ) + 2 ^ 253 ≤ 2 ^ 24 * 2 ^ 253 := by
      exact_mod_cast magnitude_le_largest hexponent
    have hscale : (2 : ℚ) ^ binary32.scale = 2 ^ 149 := rfl
    have hquotient : (0 : ℚ) ≤ binary32.magnitude bits / 2 ^ binary32.scale := by positivity
    have habs : |q| = binary32.magnitude bits / 2 ^ binary32.scale := by
      rw [← Option.some.inj h]
      split
      · rw [abs_neg, abs_of_nonneg hquotient]
      · exact abs_of_nonneg hquotient
    rw [habs, hscale, div_add' _ _ _ (by positivity), div_le_iff₀ (by positivity)]
    calc (binary32.magnitude bits : ℚ) + 2 ^ 104 * 2 ^ 149
        = binary32.magnitude bits + 2 ^ 253 := by rw [← pow_add]
      _ ≤ 2 ^ 24 * 2 ^ 253 := hle
      _ = 2 ^ 128 * 2 ^ 149 := by rw [← pow_add, ← pow_add]

/-- One more than a `float` is not too large for one. -/
theorem round_one_add {bits : Nat} {q : ℚ} (h : binary32.finite bits = some q) :
    binary32.round (1 + q) = some (binary32.nearest (1 + q)) := by
  have hle := abs_le.mp (le_sub_right_of_add_le (abs_finite_le h))
  refine if_pos ?_
  rw [abs_lt, neg_lt, ← Ieee754.Format.nearest_neg]
  have hlt : ∀ r : ℚ, r ≤ 1 + (2 ^ 128 - 2 ^ 104) → binary32.nearest r < 2 ^ (128 : ℤ) := by
    intro r hr
    rw [Ieee754.Format.nearest_lt_two_zpow_iff (by decide)]
    exact hr.trans_lt (by norm_num [binary32])
  exact ⟨hlt _ (by linarith [hle.1]), hlt _ (by linarith [hle.2])⟩

/-! ## The conversion -/

/-- `1 + rrc_beta` and the baud rate as floats, multiplied but not rounded. -/
def shapedProduct (beta : ℚ) (baudRate : UInt32) : ℚ :=
  binary32.nearest (1 + beta) * binary32.roundNat baudRate.toNat

theorem shapedBandwidth_eq_some_iff {rrcBeta baudRate : UInt32} {v : ℚ} :
    shapedBandwidth .binary32 rrcBeta baudRate = some v ↔
      ∃ beta, binary32.finite rrcBeta.toNat = some beta ∧
        binary32.round (shapedProduct beta baudRate) = some v := by
  unfold shapedBandwidth
  cases hbeta : binary32.finite rrcBeta.toNat with
  | none => exact iff_of_false (by rintro ⟨⟩) (by rintro ⟨_, ⟨⟩, -⟩)
  | some beta =>
    have hsum : FloatArith.binary32.round (1 + beta) = some (binary32.nearest (1 + beta)) :=
      round_one_add hbeta
    change (do let sum ← FloatArith.binary32.round (1 + beta); _) = _ ↔ _
    rw [hsum]
    exact ⟨fun h => ⟨beta, rfl, h⟩, fun ⟨_, hsome, h⟩ => by rwa [Option.some.inj hsome]⟩

/-- **The conversion is defined**, and the bandwidth of PSK-PM has 32 bits. -/
def DefinedConversion : SdrModemSettings → Prop
  | .gfsk _ => True
  | .psk _ settings =>
    ∃ v, shapedBandwidth .binary32 settings.rrcBeta settings.baudRate = some v ∧
      -1 < v ∧ v < 2 ^ 32
  | .pskPm settings =>
    ∃ v, shapedBandwidth .binary32 settings.rrcBeta settings.baudRate = some v ∧
      -1 < v ∧ v < 2 ^ 32 ∧ 2 * (settings.subcarrierFrequency.toNat + ⌊v⌋₊) < 2 ^ 32

/-- The roll-off is a number, and the product is not rounded out of the range. -/
def ShapedInRange : SdrModemSettings → Prop
  | .gfsk _ => True
  | .psk _ settings =>
    ∃ beta, binary32.finite settings.rrcBeta.toNat = some beta ∧
      -(1 - 1 / 2 ^ 25) < shapedProduct beta settings.baudRate ∧
      shapedProduct beta settings.baudRate < 2 ^ 32 - 2 ^ 7
  | .pskPm settings =>
    ∃ beta, binary32.finite settings.rrcBeta.toNat = some beta ∧
      -(1 - 1 / 2 ^ 25) < shapedProduct beta settings.baudRate ∧
      settings.subcarrierFrequency.toNat < 2 ^ 31 ∧
      binary32.RoundsBelow ((2 ^ 31 - settings.subcarrierFrequency.toNat : ℕ) : ℚ)
        (shapedProduct beta settings.baudRate)

/-- Which numbers are rounded into the range of the conversion. -/
theorem round_in_range_iff (q : ℚ) :
    (∃ v, binary32.round q = some v ∧ -1 < v ∧ v < 2 ^ 32) ↔
      -(1 - 1 / 2 ^ 25) < q ∧ q < 2 ^ 32 - 2 ^ 7 := by
  have h := Ieee754.Format.round_between_iff (F := binary32) (j := 0) (k := 32) (by decide)
    (by decide) (by decide) (by decide) q
  norm_num [binary32] at h ⊢
  exact h

/-- Nothing is converted wrongly exactly if the creation has a result. -/
theorem sdrModemCreate_psk_ne_none_iff (liquid : Liquid)
    (wrappedCreate : SdrModemSettings → Bool) (modemType : PskModemType)
    (settings : BpskModemSettings) :
    sdrModemCreate liquid .binary32 wrappedCreate (.psk modemType settings) ≠ none ↔
      DefinedConversion (.psk modemType settings) := by
  have hcreate : sdrModemCreate liquid .binary32 wrappedCreate (.psk modemType settings) ≠ none ↔
      toUInt32 (shapedBandwidth .binary32 settings.rrcBeta settings.baudRate) ≠ none := by
    unfold sdrModemCreate
    change (do let bandwidth ← toUInt32 (shapedBandwidth .binary32 settings.rrcBeta
      settings.baudRate); _) ≠ none ↔ _
    cases toUInt32 (shapedBandwidth .binary32 settings.rrcBeta settings.baudRate) with
    | none => exact iff_of_false (fun h => h rfl) (fun h => h rfl)
    | some bandwidth => exact iff_of_true (by rintro ⟨⟩) (by rintro ⟨⟩)
  rw [hcreate, toUInt32, DefinedConversion]
  cases shapedBandwidth .binary32 settings.rrcBeta settings.baudRate with
  | none => exact iff_of_false (fun h => h rfl) (by rintro ⟨_, ⟨⟩, -⟩)
  | some v =>
    rw [Option.bind_some]
    split
    · rename_i hrange
      exact iff_of_true (by rintro ⟨⟩) ⟨v, rfl, hrange⟩
    · rename_i hrange
      refine iff_of_false (fun h => h rfl) ?_
      rintro ⟨w, hw, hin⟩
      exact hrange (Option.some.inj hw ▸ hin)

/-- **Which settings are converted safely.** -/
theorem definedConversion_iff (settings : SdrModemSettings) :
    DefinedConversion settings ↔ ShapedInRange settings := by
  cases settings with
  | gfsk settings => exact Iff.rfl
  | psk modemType settings =>
    unfold DefinedConversion ShapedInRange
    constructor
    · rintro ⟨v, hv, hrange⟩
      obtain ⟨beta, hbeta, hround⟩ := shapedBandwidth_eq_some_iff.mp hv
      exact ⟨beta, hbeta, (round_in_range_iff _).mp ⟨v, hround, hrange⟩⟩
    · rintro ⟨beta, hbeta, hrange⟩
      obtain ⟨v, hround, hin⟩ := (round_in_range_iff _).mpr hrange
      exact ⟨v, shapedBandwidth_eq_some_iff.mpr ⟨beta, hbeta, hround⟩, hin⟩
  | pskPm settings =>
    simp only [DefinedConversion, ShapedInRange]
    obtain ⟨sub, hsub⟩ : ∃ sub, settings.subcarrierFrequency.toNat = sub := ⟨_, rfl⟩
    rw [hsub]
    have hclog : -(binary32.scale : ℤ) ≤
        Int.clog 2 ((2 ^ 31 - sub : ℕ) : ℚ) - 1 - binary32.fractionBits := by
      rw [Int.clog_natCast]
      change (-149 : ℤ) ≤ (Nat.clog 2 (2 ^ 31 - sub) : ℤ) - 1 - (23 : ℕ)
      omega
    constructor
    · rintro ⟨v, hv, hlow, hhigh, hfits⟩
      obtain ⟨beta, hbeta, hround⟩ := shapedBandwidth_eq_some_iff.mp hv
      have hrange := (round_in_range_iff _).mp ⟨v, hround, hlow, hhigh⟩
      have hlt : sub < 2 ^ 31 := by omega
      refine ⟨beta, hbeta, hrange.1, hlt, ?_⟩
      rw [← Ieee754.Format.nearest_lt_iff (Nat.cast_pos.mpr (by omega)) hclog,
        Ieee754.Format.eq_nearest_of_round hround]
      exact (Nat.floor_lt' (by omega)).mp (by omega)
    · rintro ⟨beta, hbeta, hlow, hlt, hbelow⟩
      rw [← Ieee754.Format.nearest_lt_iff (Nat.cast_pos.mpr (by omega)) hclog] at hbelow
      have hhigh : shapedProduct beta settings.baudRate < 2 ^ 32 - 2 ^ 7 := by
        have hmax : ((2 ^ 31 - sub : ℕ) : ℚ) ≤ ((2 ^ 32 : ℕ) : ℚ) :=
          Nat.cast_le.mpr (by omega)
        have hlt32 : binary32.nearest (shapedProduct beta settings.baudRate) < 2 ^ (32 : ℤ) :=
          hbelow.trans_le (by exact_mod_cast hmax)
        have hproduct := (Ieee754.Format.nearest_lt_two_zpow_iff (by decide) _).mp hlt32
        norm_num [binary32] at hproduct ⊢
        exact hproduct
      obtain ⟨v, hround, hin⟩ := (round_in_range_iff _).mpr ⟨hlow, hhigh⟩
      refine ⟨v, shapedBandwidth_eq_some_iff.mpr ⟨beta, hbeta, hround⟩, hin.1, hin.2, ?_⟩
      rw [Ieee754.Format.eq_nearest_of_round hround] at hbelow
      have hfloor := (Nat.floor_lt' (by omega)).mpr hbelow
      omega

/-- The roll-off that the settings document, with a baud rate that is not too high. -/
theorem shapedProduct_documented {beta : ℚ} (h0 : 0 < beta) (h1 : beta ≤ 1) {baudRate : UInt32}
    (hbaud : baudRate.toNat ≤ 2 ^ 30) :
    0 ≤ shapedProduct beta baudRate ∧ shapedProduct beta baudRate ≤ 2 ^ 31 := by
  have hlog : Int.log 2 |1 + beta| ≤ 1 := by
    have hle : |1 + beta| ≤ (2 : ℚ) ^ (1 : ℤ) := by
      rw [abs_of_pos (by linarith), zpow_one]
      linarith
    have hpos : 0 < |1 + beta| := abs_pos.mpr (by linarith)
    calc Int.log 2 |1 + beta| ≤ Int.log 2 ((2 : ℚ) ^ (1 : ℤ)) := Int.log_mono_right hpos hle
      _ = 1 := by exact_mod_cast Int.log_zpow (R := ℚ) (b := 2) (by decide) 1
  have hlow : (2 : ℚ) ^ (0 : ℤ) ≤ binary32.nearest (1 + beta) := by
    refine Ieee754.Format.two_zpow_le_nearest ?_ (by rw [zpow_zero]; linarith)
    exact max_le (by change _ - ((23 : ℕ) : ℤ) ≤ 0; omega) (by decide)
  have hhigh : binary32.nearest (1 + beta) ≤ (2 : ℚ) ^ (1 : ℤ) := by
    refine Ieee754.Format.nearest_le_two_zpow ?_ (by rw [zpow_one]; linarith)
    exact max_le (by change _ - ((23 : ℕ) : ℤ) ≤ 1; omega) (by decide)
  have hrounded : (binary32.roundNat baudRate.toNat : ℚ) ≤ 2 ^ 30 := by
    have h := Ieee754.Format.roundNat_le (F := binary32) (m := 1) (j := 30) (s := 0) (by decide)
      (n := baudRate.toNat) (by omega)
    exact_mod_cast (by omega : binary32.roundNat baudRate.toNat ≤ 2 ^ 30)
  rw [zpow_zero] at hlow
  rw [zpow_one] at hhigh
  have hnonneg : (0 : ℚ) ≤ binary32.roundNat baudRate.toNat := Nat.cast_nonneg _
  constructor
  · exact mul_nonneg (by linarith) hnonneg
  · calc shapedProduct beta baudRate ≤ 2 * 2 ^ 30 :=
        mul_le_mul hhigh hrounded hnonneg (by norm_num)
      _ = 2 ^ 31 := by norm_num

/-! ## What a client sends -/

/-- **Which messages are accepted without an undefined conversion.** -/
theorem accepted_conversion_defined_iff (buffer : List UInt8) :
    (∀ comm, apiDecodeCommSettings buffer = some comm → DefinedConversion comm.modemSettings) ↔
      ∀ comm, apiDecodeCommSettings buffer = some comm → ShapedInRange comm.modemSettings := by
  refine forall_congr' fun comm => imp_congr_right fun _ => ?_
  exact definedConversion_iff comm.modemSettings

/-- BPSK with 1200 baud at 48000 Hz, and a roll-off that is not a number. -/
def bufferOfNan : List UInt8 :=
  List.replicate apiSdrSize 0 ++ [2] ++
    [0, 0, 0, 0, 0, 0, 0xbb, 0x80, 0, 0, 0x04, 0xb0, 0, 0, 0, 0, 0x7f, 0xc0, 0, 0, 7, 0, 0, 0, 0, 32]

/-- It is accepted, and there is nothing that the roll-off could be converted to. -/
theorem nan_is_accepted :
    ∃ comm, apiDecodeCommSettings bufferOfNan = some comm ∧
      ¬ DefinedConversion comm.modemSettings := by
  refine ⟨_, rfl, ?_⟩
  rintro ⟨v, hv, -⟩
  obtain ⟨beta, hbeta, -⟩ := shapedBandwidth_eq_some_iff.mp hv
  have hnan : binary32.finite 0x7fc00000 = none := by decide
  change binary32.finite 0x7fc00000 = some beta at hbeta
  rw [hnan] at hbeta
  cases hbeta

end SdrModem
