import Mathlib.Data.Int.Log
import Mathlib.Data.Rat.Floor
import Mathlib.Tactic.FieldSimp
import SdrModem.Ieee754

/-!
# Rounding of rational numbers

The result of an operation is the number of the format that is nearest to the exact one, and
of two that are equally near the even one.  Below a power of two the numbers are half as far
apart as above it, so what is rounded up to it starts a quarter of that step below it
(`nearest_lt_two_zpow_iff`).
-/
namespace Ieee754

/-! ## To integers -/

/-- The nearest integer, or the even one of two. -/
def roundInt (q : ℚ) : ℤ :=
  if 1 < 2 * (q - ⌊q⌋) ∨ 2 * (q - ⌊q⌋) = 1 ∧ ⌊q⌋ % 2 = 1 then ⌊q⌋ + 1 else ⌊q⌋

/-- An integer is nearest, and even if there is another one. -/
structure Nearest (q : ℚ) (r : ℤ) : Prop where
  le : 2 * (r : ℚ) ≤ 2 * q + 1
  ge : 2 * q - 1 ≤ 2 * (r : ℚ)
  even : 2 * (r : ℚ) = 2 * q + 1 ∨ 2 * (r : ℚ) = 2 * q - 1 → r % 2 = 0

theorem nearest_roundInt (q : ℚ) : Nearest q (roundInt q) := by
  have hlow := Int.floor_le q
  have hhigh := Int.lt_floor_add_one q
  unfold roundInt
  split
  · rename_i hup
    have hhalf : 1 ≤ 2 * (q - ⌊q⌋) := by
      rcases hup with h | h
      · exact h.le
      · exact h.1.ge
    refine ⟨by push_cast; linarith, by push_cast; linarith, fun htie => ?_⟩
    push_cast at htie
    rcases hup with h | ⟨-, hodd⟩
    · rcases htie with htie | htie <;> linarith
    · omega
  · rename_i hdown
    rw [not_or, not_lt, not_and] at hdown
    refine ⟨by linarith, by linarith, fun htie => ?_⟩
    rcases htie with htie | htie
    · linarith
    · have := hdown.2 (by linarith)
      omega

theorem Nearest.unique {q : ℚ} {r s : ℤ} (hr : Nearest q r) (hs : Nearest q s) : r = s := by
  have hclose : r ≤ s + 1 ∧ s ≤ r + 1 := by
    have h1 := hr.le
    have h2 := hr.ge
    have h3 := hs.le
    have h4 := hs.ge
    constructor
    · have : (r : ℚ) ≤ ((s + 1 : ℤ) : ℚ) := by push_cast; linarith
      exact_mod_cast this
    · have : (s : ℚ) ≤ ((r + 1 : ℤ) : ℚ) := by push_cast; linarith
      exact_mod_cast this
  by_contra hne
  rcases (by omega : r = s + 1 ∨ s = r + 1) with h | h
  · have hcast : (r : ℚ) = s + 1 := by exact_mod_cast h
    have h1 := hr.even (Or.inl (by have := hr.le; have := hs.ge; linarith))
    have h2 := hs.even (Or.inr (by have := hr.le; have := hs.ge; linarith))
    omega
  · have hcast : (s : ℚ) = r + 1 := by exact_mod_cast h
    have h1 := hs.even (Or.inl (by have := hs.le; have := hr.ge; linarith))
    have h2 := hr.even (Or.inr (by have := hs.le; have := hr.ge; linarith))
    omega

theorem roundInt_neg (q : ℚ) : roundInt (-q) = -roundInt q := by
  have h := nearest_roundInt q
  refine (nearest_roundInt (-q)).unique ⟨?_, ?_, fun htie => ?_⟩
  · have := h.ge
    push_cast
    linarith
  · have := h.le
    push_cast
    linarith
  · push_cast at htie
    have := h.even (htie.symm.imp (fun h => by linarith) (fun h => by linarith))
    omega

/-- A number is reached from one half below it, or if it is odd from above that. -/
theorem roundInt_lt_iff {q : ℚ} {n : ℤ} :
    roundInt q < n ↔ 2 * q < 2 * (n : ℚ) - 1 ∨ 2 * q = 2 * (n : ℚ) - 1 ∧ n % 2 = 1 := by
  have h := nearest_roundInt q
  have h1 := h.ge
  have h2 := h.le
  constructor
  · intro hlt
    have hcast : (roundInt q : ℚ) ≤ n - 1 := by exact_mod_cast (by omega : roundInt q ≤ n - 1)
    rcases lt_or_eq_of_le (by linarith : 2 * q ≤ 2 * (n : ℚ) - 1) with hbelow | htie
    · exact Or.inl hbelow
    · have hround : roundInt q = n - 1 := by
        have : (roundInt q : ℚ) = ((n - 1 : ℤ) : ℚ) := by push_cast; linarith
        exact_mod_cast this
      have := h.even (Or.inr (by rw [hround]; push_cast; linarith))
      exact Or.inr ⟨htie, by omega⟩
  · rintro (hbelow | ⟨htie, hodd⟩)
    · have : (roundInt q : ℚ) < n := by linarith
      exact_mod_cast this
    · have hle : roundInt q ≤ n := by
        have : (roundInt q : ℚ) ≤ n := by linarith
        exact_mod_cast this
      refine lt_of_le_of_ne hle fun heq => ?_
      have := h.even (Or.inl (by rw [heq]; linarith))
      omega

theorem le_roundInt {q : ℚ} {n : ℤ} (h : (n : ℚ) ≤ q) : n ≤ roundInt q := by
  have := (nearest_roundInt q).ge
  have : (n : ℚ) < ((roundInt q + 1 : ℤ) : ℚ) := by push_cast; linarith
  exact Int.lt_add_one_iff.mp (by exact_mod_cast this)

theorem roundInt_le {q : ℚ} {n : ℤ} (h : q ≤ n) : roundInt q ≤ n := by
  have := (nearest_roundInt q).le
  have : (roundInt q : ℚ) < ((n + 1 : ℤ) : ℚ) := by push_cast; linarith
  exact Int.lt_add_one_iff.mp (by exact_mod_cast this)

/-! ## To a format -/

namespace Format
variable (F : Format)

/-- The rational number of these bits, if they stand for one. -/
def finite (bits : Nat) : Option ℚ :=
  if F.exponent bits = 2 ^ F.exponentBits - 1 then none
  else
    let q : ℚ := F.magnitude bits / 2 ^ F.scale
    some (if F.negative bits then -q else q)

/-- How far apart the numbers are where this one is. -/
def step (q : ℚ) : ℚ := 2 ^ max (Int.log 2 |q| - F.fractionBits) (-F.scale : ℤ)

/-- The nearest number, if there was no largest exponent. -/
def nearest (q : ℚ) : ℚ := roundInt (q / F.step q) * F.step q

/-- **The result of an operation** whose exact result is this one; `none` is an infinity. -/
def round (q : ℚ) : Option ℚ :=
  if |F.nearest q| < 2 ^ 2 ^ (F.exponentBits - 1) then some (F.nearest q) else none

/-- How far apart the numbers just below this one are. -/
def stepBelow (x : ℚ) : ℚ := 2 ^ (Int.clog 2 x - 1 - F.fractionBits)

/-- The middle between the last number below `x` and the next one is not reached, or it is and
the last one is even. -/
def RoundsBelow (x q : ℚ) : Prop :=
  2 * q < (2 * ⌈x / F.stepBelow x⌉ - 1) * F.stepBelow x ∨
    2 * q = (2 * ⌈x / F.stepBelow x⌉ - 1) * F.stepBelow x ∧ ⌈x / F.stepBelow x⌉ % 2 = 1

variable {F : Format}

theorem step_pos (q : ℚ) : 0 < F.step q := zpow_pos two_pos _

theorem nearest_neg (q : ℚ) : F.nearest (-q) = -F.nearest q := by
  rw [nearest, nearest, step, abs_neg, ← step, neg_div, roundInt_neg, Int.cast_neg, neg_mul]

theorem eq_nearest_of_round {q r : ℚ} (h : F.round q = some r) : F.nearest q = r := by
  unfold round at h
  split at h
  · exact Option.some.inj h
  · cases h

/-- A power of two that is not too small is some number of steps. -/
theorem exists_steps {j : ℤ} {q : ℚ}
    (hj : max (Int.log 2 |q| - F.fractionBits) (-F.scale : ℤ) ≤ j) :
    ∃ n : ℤ, (2 : ℚ) ^ j = n * F.step q := by
  obtain ⟨n, hn⟩ := Int.le.dest hj
  refine ⟨2 ^ n, ?_⟩
  rw [step, ← hn, zpow_add₀ two_ne_zero, zpow_natCast, mul_comm]
  push_cast
  rfl

theorem nearest_le_two_zpow {j : ℤ} {q : ℚ}
    (hj : max (Int.log 2 |q| - F.fractionBits) (-F.scale : ℤ) ≤ j) (h : q ≤ 2 ^ j) :
    F.nearest q ≤ 2 ^ j := by
  obtain ⟨n, hpower⟩ := exists_steps (F := F) hj
  have hle : roundInt (q / F.step q) ≤ n :=
    roundInt_le ((div_le_iff₀ (F.step_pos q)).mpr (h.trans hpower.le))
  rw [hpower, nearest]
  exact mul_le_mul_of_nonneg_right (by exact_mod_cast hle) (F.step_pos q).le

theorem two_zpow_le_nearest {j : ℤ} {q : ℚ}
    (hj : max (Int.log 2 |q| - F.fractionBits) (-F.scale : ℤ) ≤ j) (h : 2 ^ j ≤ q) :
    2 ^ j ≤ F.nearest q := by
  obtain ⟨n, hpower⟩ := exists_steps (F := F) hj
  have hle : n ≤ roundInt (q / F.step q) :=
    le_roundInt ((le_div_iff₀ (F.step_pos q)).mpr (hpower.ge.trans h))
  rw [hpower, nearest]
  exact mul_le_mul_of_nonneg_right (by exact_mod_cast hle) (F.step_pos q).le

/-- **What is less than a positive number when it is rounded.** -/
theorem nearest_lt_iff {x : ℚ} (hx : 0 < x)
    (hk : -F.scale ≤ Int.clog 2 x - 1 - F.fractionBits) (q : ℚ) :
    F.nearest q < x ↔ F.RoundsBelow x q := by
  obtain ⟨k, hk_eq⟩ : ∃ k, Int.clog 2 x = k := ⟨_, rfl⟩
  unfold RoundsBelow stepBelow
  rw [hk_eq] at hk ⊢
  have hlow : (2 : ℚ) ^ (k - 1) < x := by
    rw [← hk_eq]
    exact_mod_cast Int.zpow_pred_clog_lt_self (b := 2) (by decide) hx
  have hhigh : x ≤ (2 : ℚ) ^ k := by
    rw [← hk_eq]
    exact_mod_cast Int.self_le_zpow_clog (b := 2) (by decide) x
  obtain ⟨s, hs_eq⟩ : ∃ s : ℚ, 2 ^ (k - 1 - F.fractionBits) = s := ⟨_, rfl⟩
  have hs : 0 < s := hs_eq ▸ zpow_pos two_pos _
  -- both powers are some number of steps
  have hpower : (2 : ℚ) ^ (k - 1) = ((2 ^ F.fractionBits : ℤ) : ℚ) * s := by
    rw [← hs_eq]
    push_cast
    rw [← zpow_natCast, ← zpow_add₀ two_ne_zero]
    congr 1
    omega
  have hdouble : (2 : ℚ) ^ k = 2 * 2 ^ (k - 1) := by
    rw [← zpow_one_add₀ two_ne_zero]
    congr 1
    omega
  have hpowers : (2 : ℚ) ^ k = ((2 ^ (F.fractionBits + 1) : ℤ) : ℚ) * s := by
    rw [hdouble, hpower]
    push_cast
    ring
  rw [hs_eq]
  obtain ⟨m, hm_eq⟩ : ∃ m, ⌈x / s⌉ = m := ⟨_, rfl⟩
  have hm_gt : (2 ^ F.fractionBits : ℤ) < m := by
    rw [← hm_eq, Int.lt_ceil, lt_div_iff₀ hs, ← hpower]
    exact hlow
  have hm_le : m ≤ 2 ^ (F.fractionBits + 1) := by
    rw [← hm_eq, Int.ceil_le, div_le_iff₀ hs, ← hpowers]
    exact hhigh
  rw [hm_eq]
  have hm_low : (2 : ℚ) ^ (k - 1) + s ≤ m * s := by
    have hcast : ((2 ^ F.fractionBits : ℤ) : ℚ) + 1 ≤ m := by exact_mod_cast hm_gt
    calc (2 : ℚ) ^ (k - 1) + s = (((2 ^ F.fractionBits : ℤ) : ℚ) + 1) * s := by rw [hpower]; ring
      _ ≤ m * s := mul_le_mul_of_nonneg_right hcast hs.le
  have hm_high : (m : ℚ) * s ≤ 2 ^ k := by
    rw [hpowers]
    exact mul_le_mul_of_nonneg_right (by exact_mod_cast hm_le) hs.le
  have hmiddle : (2 * (m : ℚ) - 1) * s = 2 * (m * s) - s := by ring
  have hpos : (0 : ℚ) < 2 ^ (k - 1) := zpow_pos two_pos _
  rcases le_or_gt q 0 with hq | hq
  · -- nothing above zero comes of it
    have hnonpos : roundInt (q / F.step q) ≤ 0 :=
      roundInt_le (by push_cast; exact div_nonpos_of_nonpos_of_nonneg hq (F.step_pos q).le)
    have hnearest : F.nearest q ≤ 0 :=
      mul_nonpos_of_nonpos_of_nonneg (by exact_mod_cast hnonpos) (F.step_pos q).le
    exact iff_of_true (by linarith) (Or.inl (by linarith))
  · have hbelow : (2 : ℚ) ^ Int.log 2 q ≤ q := by
      exact_mod_cast Int.zpow_log_le_self (b := 2) (by decide) hq
    have habove : q < (2 : ℚ) ^ (Int.log 2 q + 1) := by
      exact_mod_cast Int.lt_zpow_succ_log_self (b := 2) (by decide) q
    have habs : |q| = q := abs_of_pos hq
    rcases lt_trichotomy (Int.log 2 q) (k - 1) with he | he | he
    · have hsmall : q < 2 ^ (k - 1) :=
        habove.trans_le (zpow_le_zpow_right₀ one_le_two (by omega))
      have hnearest := nearest_le_two_zpow (F := F) (j := k - 1) (by rw [habs]; omega) hsmall.le
      exact iff_of_true (by linarith) (Or.inl (by linarith))
    · -- the numbers are as far apart as just below `x`
      have hstep : F.step q = s := by
        rw [step, habs, he, max_eq_left hk, hs_eq]
      rw [nearest, hstep, ← lt_div_iff₀ hs, ← Int.lt_ceil, hm_eq, roundInt_lt_iff, mul_div_assoc',
        div_lt_iff₀ hs, div_eq_iff hs.ne']
    · have hlarge : (2 : ℚ) ^ k ≤ q := (zpow_le_zpow_right₀ one_le_two (by omega)).trans hbelow
      have hnearest := two_zpow_le_nearest (F := F) (by rw [habs]; omega) hbelow
      have hpow : (2 : ℚ) ^ k ≤ 2 ^ Int.log 2 q := zpow_le_zpow_right₀ one_le_two (by omega)
      refine iff_of_false (by linarith) ?_
      rintro (h | ⟨h, -⟩) <;> linarith

/-- **What is less than a power of two when it is rounded.** -/
theorem nearest_lt_two_zpow_iff {k : ℤ} (hk : -F.scale ≤ k - 1 - F.fractionBits) (q : ℚ) :
    F.nearest q < 2 ^ k ↔ q < 2 ^ k - 2 ^ (k - 2 - F.fractionBits) := by
  have hclog : Int.clog 2 ((2 : ℚ) ^ k) = k := by
    exact_mod_cast Int.clog_zpow (R := ℚ) (b := 2) (by decide) k
  have hstep : F.stepBelow (2 ^ k) = 2 * 2 ^ (k - 2 - F.fractionBits) := by
    rw [stepBelow, hclog, ← zpow_one_add₀ two_ne_zero]
    congr 1
    omega
  have hceil : ⌈(2 : ℚ) ^ k / F.stepBelow (2 ^ k)⌉ = 2 ^ (F.fractionBits + 1) := by
    rw [stepBelow, hclog, ← zpow_sub₀ two_ne_zero,
      (by omega : k - (k - 1 - F.fractionBits) = ((F.fractionBits + 1 : ℕ) : ℤ)), zpow_natCast]
    exact_mod_cast Int.ceil_intCast (R := ℚ) (2 ^ (F.fractionBits + 1))
  have hpower : (2 : ℚ) ^ k =
      ((2 ^ (F.fractionBits + 1) : ℤ) : ℚ) * (2 * 2 ^ (k - 2 - F.fractionBits)) := by
    push_cast
    rw [← zpow_one_add₀ two_ne_zero, ← zpow_natCast, ← zpow_add₀ two_ne_zero]
    congr 1
    push_cast
    omega
  rw [nearest_lt_iff (zpow_pos two_pos k) (by rw [hclog]; exact hk), RoundsBelow, hceil, hstep]
  have heven : (2 : ℤ) ^ (F.fractionBits + 1) % 2 = 0 := by rw [pow_succ]; omega
  rw [heven]
  constructor
  · rintro (h | ⟨-, ⟨⟩⟩)
    linarith
  · intro h
    left
    linarith

/-- **The range of a rounded number**: between a negative power of two and a positive one. -/
theorem round_between_iff {j k : ℤ} (hj : -F.scale ≤ j - 1 - F.fractionBits)
    (hk : -F.scale ≤ k - 1 - F.fractionBits) (hjmax : j ≤ 2 ^ (F.exponentBits - 1))
    (hkmax : k ≤ 2 ^ (F.exponentBits - 1)) (q : ℚ) :
    (∃ r, F.round q = some r ∧ -2 ^ j < r ∧ r < 2 ^ k) ↔
      -(2 ^ j - 2 ^ (j - 2 - F.fractionBits)) < q ∧ q < 2 ^ k - 2 ^ (k - 2 - F.fractionBits) := by
  have hlow : -2 ^ j < F.nearest q ↔ -((2 : ℚ) ^ j - 2 ^ (j - 2 - F.fractionBits)) < q := by
    rw [neg_lt, ← nearest_neg, nearest_lt_two_zpow_iff hj, neg_lt]
  rw [← hlow, ← nearest_lt_two_zpow_iff hk]
  constructor
  · rintro ⟨r, hr, hrange⟩
    rw [eq_nearest_of_round hr]
    exact hrange
  · rintro ⟨hgt, hlt⟩
    refine ⟨F.nearest q, if_pos ?_, hgt, hlt⟩
    have hmax : ∀ i : ℤ, i ≤ 2 ^ (F.exponentBits - 1) →
        (2 : ℚ) ^ i ≤ 2 ^ 2 ^ (F.exponentBits - 1) := by
      intro i hi
      rw [← zpow_natCast]
      exact zpow_le_zpow_right₀ one_le_two (by exact_mod_cast hi)
    rw [abs_lt]
    exact ⟨by linarith [hmax j hjmax], by linarith [hmax k hkmax]⟩

end Format
end Ieee754
