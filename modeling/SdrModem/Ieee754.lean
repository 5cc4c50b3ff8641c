import Mathlib.Algebra.Order.Field.Rat
import Mathlib.Order.WithBot
import Mathlib.Tactic.Linarith
import Mathlib.Tactic.Positivity
import Mathlib.Tactic.Ring

/-!
# Binary floating point numbers

The bits of a format stand for a rational number, an infinity, or no number at all.  A
comparison with something that is not a number is false, in both directions.

An integer is promoted to the nearest number of the format.  No number of the format is
between the two (`promoted_le`, `le_promoted`), so a comparison with one of them can only
change when the integer is promoted to that number itself.
-/
namespace Ieee754

/-! ## Comparisons -/

section Compare
variable {α : Type} [LinearOrder α]

/-- `<` if there are two numbers. -/
def lt : Option α → Option α → Bool
  | some a, some b => a < b
  | _, _ => false

/-- `<=` if there are two numbers. -/
def le : Option α → Option α → Bool
  | some a, some b => a ≤ b
  | _, _ => false

theorem lt_some {a b : α} : lt (some a) (some b) = true ↔ a < b := decide_eq_true_iff

theorem le_some {a b : α} : le (some a) (some b) = true ↔ a ≤ b := decide_eq_true_iff

/-- A comparison that holds is one of two numbers. -/
theorem exists_of_lt {a b : Option α} (h : lt a b = true) :
    ∃ x y, a = some x ∧ b = some y ∧ x < y := by
  cases a with
  | none => cases h
  | some x =>
    cases b with
    | none => cases h
    | some y => exact ⟨x, y, rfl, rfl, lt_some.mp h⟩

/-- The two ways to ask whether a number is in a range differ in what is not a number. -/
theorem le_iff_not_lt {a b : Option α} :
    le a b = true ↔ a ≠ none ∧ b ≠ none ∧ ¬ lt b a = true := by
  cases a with
  | none => exact ⟨nofun, fun h => absurd rfl h.1⟩
  | some a =>
    cases b with
    | none => exact ⟨nofun, fun h => absurd rfl h.2.1⟩
    | some b =>
      rw [le_some, lt_some, not_lt]
      exact ⟨fun h => ⟨nofun, nofun, h⟩, fun h => h.2.2⟩

end Compare

/-! ## Formats -/

/-- The rational numbers and the infinities. -/
abbrev Extended : Type := WithBot (WithTop ℚ)

/-- How many bits there are for the exponent and for the fraction. -/
structure Format where
  exponentBits : Nat
  fractionBits : Nat

/-- `float`. -/
def binary32 : Format := ⟨8, 23⟩

/-- `double`. -/
def binary64 : Format := ⟨11, 52⟩

namespace Format
variable (F : Format)

def exponent (bits : Nat) : Nat := bits / 2 ^ F.fractionBits % 2 ^ F.exponentBits

def fraction (bits : Nat) : Nat := bits % 2 ^ F.fractionBits

def negative (bits : Nat) : Bool := bits / 2 ^ (F.fractionBits + F.exponentBits) % 2 = 1

/-- How many times the smallest number. -/
def magnitude (bits : Nat) : Nat :=
  if F.exponent bits = 0 then F.fraction bits
  else (2 ^ F.fractionBits + F.fraction bits) * 2 ^ (F.exponent bits - 1)

/-- How often the smallest number is halved from 1. -/
def scale : Nat := 2 ^ (F.exponentBits - 1) - 2 + F.fractionBits

/-- **The number of these bits.** -/
def value (bits : Nat) : Option Extended :=
  if F.exponent bits = 2 ^ F.exponentBits - 1 then
    if F.fraction bits = 0 then some (if F.negative bits then ⊥ else ⊤) else none
  else
    let q : ℚ := F.magnitude bits / 2 ^ F.scale
    some (((if F.negative bits then -q else q : ℚ) : WithTop ℚ) : WithBot (WithTop ℚ))

/-- **An integer in this format**: it keeps the leading bits, and is rounded to the nearest, or
to the even one of two. -/
def roundNat (n : Nat) : Nat :=
  let e := n.log2 - F.fractionBits
  let q := n / 2 ^ e
  let r := n % 2 ^ e
  if 2 ^ e < 2 * r ∨ 2 * r = 2 ^ e ∧ q % 2 = 1 then (q + 1) * 2 ^ e else q * 2 ^ e

/-- An integer that is compared with a number of this format. -/
def promoted (n : Nat) : Option Extended :=
  some (((F.roundNat n : ℚ) : WithTop ℚ) : WithBot (WithTop ℚ))

end Format

/-- The integer itself. -/
def exact (n : Nat) : Option Extended := some (((n : ℚ) : WithTop ℚ) : WithBot (WithTop ℚ))

namespace Format
variable {F : Format}

/-! ## The order of the bits -/

theorem exponent_fraction (bits : Nat) :
    F.exponent bits * 2 ^ F.fractionBits + F.fraction bits =
      bits % 2 ^ (F.fractionBits + F.exponentBits) := by
  rw [exponent, fraction, pow_add, Nat.mod_mul, Nat.mul_comm, Nat.add_comm]

theorem fraction_lt (bits : Nat) : F.fraction bits < 2 ^ F.fractionBits :=
  Nat.mod_lt _ (Nat.two_pow_pos _)

/-- The magnitude has no more leading bits than the fraction and one. -/
theorem magnitude_eq (bits : Nat) :
    ∃ m j, m < 2 ^ (F.fractionBits + 1) ∧ F.magnitude bits = m * 2 ^ j := by
  have hlt := F.fraction_lt bits
  rw [magnitude]
  by_cases h : F.exponent bits = 0
  · rw [if_pos h]
    exact ⟨F.fraction bits, 0, by rw [pow_succ]; omega, (Nat.mul_one _).symm⟩
  · rw [if_neg h]
    exact ⟨2 ^ F.fractionBits + F.fraction bits, _, by rw [pow_succ]; omega, rfl⟩

theorem magnitude_lt (bits : Nat) :
    F.magnitude bits < 2 ^ F.fractionBits * 2 ^ F.exponent bits := by
  have hlt := F.fraction_lt bits
  rw [magnitude]
  by_cases h : F.exponent bits = 0
  · rw [if_pos h, h, pow_zero, Nat.mul_one]
    exact hlt
  · obtain ⟨e, he⟩ := Nat.exists_eq_succ_of_ne_zero h
    rw [if_neg h, he, Nat.succ_sub_one, pow_succ, ← Nat.mul_assoc, Nat.mul_right_comm]
    exact Nat.mul_lt_mul_of_pos_right (by omega) (Nat.two_pow_pos _)

/-- **The magnitude grows with the bits.** -/
theorem magnitude_strictMono {a b : Nat}
    (h : a % 2 ^ (F.fractionBits + F.exponentBits) < b % 2 ^ (F.fractionBits + F.exponentBits)) :
    F.magnitude a < F.magnitude b := by
  rw [← exponent_fraction, ← exponent_fraction] at h
  have ha := F.fraction_lt a
  have hb := F.fraction_lt b
  rcases Nat.lt_trichotomy (F.exponent a) (F.exponent b) with hlt | heq | hgt
  · have hpos : F.exponent b ≠ 0 := by omega
    calc F.magnitude a < 2 ^ F.fractionBits * 2 ^ F.exponent a := F.magnitude_lt a
      _ ≤ 2 ^ F.fractionBits * 2 ^ (F.exponent b - 1) :=
        Nat.mul_le_mul_left _ (Nat.pow_le_pow_right Nat.two_pos (by omega))
      _ ≤ F.magnitude b := by
        rw [magnitude, if_neg hpos]
        exact Nat.mul_le_mul_right _ (Nat.le_add_right _ _)
  · rw [heq] at h
    rw [magnitude, magnitude, heq]
    split
    · omega
    · exact Nat.mul_lt_mul_of_pos_right (by omega) (Nat.two_pow_pos _)
  · have hle : (F.exponent b + 1) * 2 ^ F.fractionBits ≤ F.exponent a * 2 ^ F.fractionBits :=
      Nat.mul_le_mul_right _ hgt
    rw [Nat.add_mul, Nat.one_mul] at hle
    omega

theorem magnitude_congr {a b : Nat}
    (h : a % 2 ^ (F.fractionBits + F.exponentBits) = b % 2 ^ (F.fractionBits + F.exponentBits)) :
    F.magnitude a = F.magnitude b := by
  have hexponent : F.exponent a = F.exponent b := by
    rw [pow_add] at h
    rw [exponent, exponent, ← Nat.mod_mul_right_div_self, ← Nat.mod_mul_right_div_self, h]
  rw [← exponent_fraction, ← exponent_fraction, hexponent] at h
  rw [magnitude, magnitude, hexponent, Nat.add_left_cancel h]

theorem magnitude_le_iff {a b : Nat} :
    F.magnitude a ≤ F.magnitude b ↔
      a % 2 ^ (F.fractionBits + F.exponentBits) ≤ b % 2 ^ (F.fractionBits + F.exponentBits) := by
  constructor
  · intro h
    exact Nat.le_of_not_lt fun hlt => absurd (magnitude_strictMono hlt) (Nat.not_lt.mpr h)
  · intro h
    rcases Nat.lt_or_eq_of_le h with hlt | heq
    · exact (magnitude_strictMono hlt).le
    · exact (magnitude_congr heq).le

/-! ## Rounding of integers -/

theorem roundNat_cases (n : Nat) :
    ∃ e, (e = 0 ∨ 2 ^ (F.fractionBits + e) ≤ n) ∧
      (F.roundNat n = n / 2 ^ e * 2 ^ e ∨
        n % 2 ^ e ≠ 0 ∧ F.roundNat n = (n / 2 ^ e + 1) * 2 ^ e) := by
  refine ⟨n.log2 - F.fractionBits, ?_, ?_⟩
  · by_cases h : n.log2 ≤ F.fractionBits
    · exact Or.inl (Nat.sub_eq_zero_of_le h)
    · refine Or.inr ?_
      rw [Nat.add_sub_cancel' (by omega)]
      refine Nat.log2_self_le ?_
      rintro rfl
      rw [Nat.log2_zero] at h
      omega
  · rw [roundNat]
    split
    · rename_i hup
      refine Or.inr ⟨fun hzero => ?_, rfl⟩
      rw [hzero] at hup
      have := Nat.two_pow_pos (n.log2 - F.fractionBits)
      omega
    · exact Or.inl rfl

/-- Numbers with few leading bits that are not a multiple of a unit are below those with as
many leading bits that are. -/
theorem lt_of_coarse {m j t e n s : Nat} (hm : m < 2 ^ (t + 1)) (hj : j < e + s)
    (hn : 2 ^ (t + e) ≤ n) : m * 2 ^ j < n / 2 ^ e * 2 ^ e * 2 ^ s := by
  have hq : 2 ^ t ≤ n / 2 ^ e := by
    rw [Nat.le_div_iff_mul_le (Nat.two_pow_pos e), ← pow_add]
    exact hn
  calc m * 2 ^ j < 2 ^ (t + 1) * 2 ^ j := Nat.mul_lt_mul_of_pos_right hm (Nat.two_pow_pos _)
    _ = 2 ^ t * 2 ^ (j + 1) := by ring
    _ ≤ 2 ^ t * 2 ^ (e + s) := Nat.mul_le_mul_left _ (Nat.pow_le_pow_right Nat.two_pos hj)
    _ = 2 ^ t * 2 ^ e * 2 ^ s := by ring
    _ ≤ n / 2 ^ e * 2 ^ e * 2 ^ s :=
      Nat.mul_le_mul_right _ (Nat.mul_le_mul_right _ hq)

/-- **No number of the format is between an integer and what it is rounded down to**, ... -/
theorem le_roundNat {m j s : Nat} (hm : m < 2 ^ (F.fractionBits + 1)) {n : Nat}
    (h : m * 2 ^ j ≤ n * 2 ^ s) : m * 2 ^ j ≤ F.roundNat n * 2 ^ s := by
  obtain ⟨e, hlead, hround⟩ := F.roundNat_cases n
  have hfloor : m * 2 ^ j ≤ n / 2 ^ e * 2 ^ e * 2 ^ s := by
    rcases hlead with rfl | hlead
    · rw [pow_zero, Nat.div_one, Nat.mul_one]
      exact h
    · by_cases hj : j < e + s
      · exact (lt_of_coarse hm hj hlead).le
      · -- both are multiples of the unit of the integer
        obtain ⟨k, rfl⟩ := Nat.exists_eq_add_of_le (Nat.le_of_not_lt hj)
        have hunit : m * 2 ^ (e + s + k) = m * 2 ^ k * 2 ^ e * 2 ^ s := by ring
        rw [hunit] at h ⊢
        have hle := Nat.le_of_mul_le_mul_right h (Nat.two_pow_pos s)
        exact Nat.mul_le_mul_right _ (Nat.mul_le_mul_right _
          ((Nat.le_div_iff_mul_le (Nat.two_pow_pos e)).mpr hle))
  rcases hround with hround | ⟨-, hround⟩
  · rw [hround]
    exact hfloor
  · rw [hround]
    exact hfloor.trans (Nat.mul_le_mul_right _ (Nat.mul_le_mul_right _ (Nat.le_succ _)))

/-- ... or up to. -/
theorem roundNat_le {m j s : Nat} (hm : m < 2 ^ (F.fractionBits + 1)) {n : Nat}
    (h : n * 2 ^ s ≤ m * 2 ^ j) : F.roundNat n * 2 ^ s ≤ m * 2 ^ j := by
  obtain ⟨e, hlead, hround⟩ := F.roundNat_cases n
  have hsplit := Nat.div_add_mod' n (2 ^ e)
  rcases hround with hround | ⟨hrest, hround⟩
  · rw [hround]
    exact (Nat.mul_le_mul_right _ (by omega)).trans h
  · rcases hlead with rfl | hlead
    · rw [pow_zero, Nat.mod_one] at hrest
      exact absurd rfl hrest
    · by_cases hj : j < e + s
      · have hlt := lt_of_coarse hm hj hlead
        have hle : n / 2 ^ e * 2 ^ e * 2 ^ s ≤ n * 2 ^ s := Nat.mul_le_mul_right _ (by omega)
        omega
      · obtain ⟨k, rfl⟩ := Nat.exists_eq_add_of_le (Nat.le_of_not_lt hj)
        have hunit : m * 2 ^ (e + s + k) = m * 2 ^ k * 2 ^ e * 2 ^ s := by ring
        rw [hround, hunit]
        rw [hunit] at h
        have hle := Nat.le_of_mul_le_mul_right h (Nat.two_pow_pos s)
        have hlt : n / 2 ^ e * 2 ^ e < m * 2 ^ k * 2 ^ e := by omega
        have hnext : n / 2 ^ e + 1 ≤ m * 2 ^ k := Nat.lt_of_mul_lt_mul_right hlt
        exact Nat.mul_le_mul_right _ (Nat.mul_le_mul_right _ hnext)

/-- Small integers are numbers of the format. -/
theorem roundNat_of_lt {n : Nat} (h : n < 2 ^ (F.fractionBits + 1)) : F.roundNat n = n := by
  have hle := roundNat_le h (le_refl (n * 2 ^ 0))
  have hge := le_roundNat h (le_refl (n * 2 ^ 0))
  rw [pow_zero, Nat.mul_one, Nat.mul_one] at hle hge
  exact Nat.le_antisymm hle hge

/-! ## Comparisons of integers -/

theorem coe_le {p q : ℚ} : ((p : WithTop ℚ) : Extended) ≤ ((q : WithTop ℚ) : Extended) ↔ p ≤ q := by
  rw [WithBot.coe_le_coe, WithTop.coe_le_coe]

theorem natCast_le_div {n m s : Nat} : (n : ℚ) ≤ m / 2 ^ s ↔ n * 2 ^ s ≤ m := by
  rw [le_div_iff₀ (by positivity)]
  exact_mod_cast Iff.rfl

theorem div_le_natCast {n m s : Nat} : (m / 2 ^ s : ℚ) ≤ n ↔ m ≤ n * 2 ^ s := by
  rw [div_le_iff₀ (by positivity)]
  exact_mod_cast Iff.rfl

/-- The bits of an integer. -/
theorem value_eq_exact {bits n : Nat} (hfinite : F.exponent bits ≠ 2 ^ F.exponentBits - 1)
    (hpos : F.negative bits = false) (h : F.magnitude bits = n * 2 ^ F.scale) :
    F.value bits = exact n := by
  have hne : (2 : ℚ) ^ F.scale ≠ 0 := by positivity
  have hq : (F.magnitude bits / 2 ^ F.scale : ℚ) = n := by
    rw [h]
    push_cast
    exact mul_div_cancel_right₀ _ hne
  rw [value, if_neg hfinite, hpos, hq]
  rfl

theorem exact_lt_exact {n m : Nat} : lt (exact n) (exact m) = true ↔ n < m := by
  rw [exact, exact, lt_some, WithBot.coe_lt_coe, WithTop.coe_lt_coe, Nat.cast_lt]

/-- What the bits of a number can be. -/
theorem value_cases {bits : Nat} {v : Extended} (h : F.value bits = some v) :
    v = ⊥ ∨ v = ⊤ ∨ ∃ q : ℚ, v = ((q : WithTop ℚ) : Extended) ∧
      (q = F.magnitude bits / 2 ^ F.scale ∨ q = -(F.magnitude bits / 2 ^ F.scale)) := by
  rw [value] at h
  split at h
  · split at h
    · cases h
      split
      · exact Or.inl rfl
      · exact Or.inr (Or.inl rfl)
    · cases h
  · cases h
    refine Or.inr (Or.inr ⟨_, rfl, ?_⟩)
    split
    · exact Or.inr rfl
    · exact Or.inl rfl

/-- An integer up to a number of the format stays there, ... -/
theorem promoted_le {bits n : Nat} {v : Extended} (hv : F.value bits = some v)
    (h : (((n : ℚ) : WithTop ℚ) : Extended) ≤ v) :
    (((F.roundNat n : ℚ) : WithTop ℚ) : Extended) ≤ v := by
  rcases value_cases hv with rfl | rfl | ⟨q, rfl, rfl | rfl⟩
  · exact absurd (le_bot_iff.mp h) (WithBot.coe_ne_bot)
  · exact le_top
  · obtain ⟨m, j, hm, heq⟩ := F.magnitude_eq bits
    rw [coe_le, heq, natCast_le_div] at h ⊢
    exact roundNat_le hm h
  · rw [coe_le] at h ⊢
    have hpos : (0 : ℚ) ≤ F.magnitude bits / 2 ^ F.scale := by positivity
    have hzero : n = 0 := by
      have hle : (n : ℚ) ≤ 0 := by linarith
      exact Nat.le_zero.mp (by exact_mod_cast hle)
    subst hzero
    rw [roundNat_of_lt (Nat.two_pow_pos _)]
    exact h

/-- ... and so does one from it on. -/
theorem le_promoted {bits n : Nat} {v : Extended} (hv : F.value bits = some v)
    (h : v ≤ (((n : ℚ) : WithTop ℚ) : Extended)) :
    v ≤ (((F.roundNat n : ℚ) : WithTop ℚ) : Extended) := by
  rcases value_cases hv with rfl | rfl | ⟨q, rfl, rfl | rfl⟩
  · exact bot_le
  · exact absurd (WithBot.coe_eq_top.mp (top_le_iff.mp h)) WithTop.coe_ne_top
  · obtain ⟨m, j, hm, heq⟩ := F.magnitude_eq bits
    rw [coe_le, heq, div_le_natCast] at h ⊢
    exact le_roundNat hm h
  · rw [coe_le]
    have hpos : (0 : ℚ) ≤ F.magnitude bits / 2 ^ F.scale := by positivity
    have hround : (0 : ℚ) ≤ F.roundNat n := by positivity
    linarith

/-- A comparison of the promoted integer holds for the integer. -/
theorem exact_lt_of_promoted_lt {n bits : Nat} (h : lt (F.promoted n) (F.value bits) = true) :
    lt (exact n) (F.value bits) = true := by
  obtain ⟨r, v, hr, hv, hlt⟩ := exists_of_lt h
  cases hr
  rw [hv, exact, lt_some]
  exact lt_of_not_ge fun hle => absurd (le_promoted hv hle) (not_le_of_gt hlt)

/-- **A comparison is lost only by an integer that is promoted to the other number.** -/
theorem promoted_lt_or_eq {n bits : Nat} (h : lt (exact n) (F.value bits) = true) :
    lt (F.promoted n) (F.value bits) = true ∨ F.promoted n = F.value bits := by
  obtain ⟨x, v, hx, hv, hlt⟩ := exists_of_lt h
  cases hx
  rw [hv, promoted, lt_some, Option.some_inj]
  exact (promoted_le hv hlt.le).lt_or_eq

theorem lt_promoted_or_eq {n bits : Nat} (h : lt (F.value bits) (exact n) = true) :
    lt (F.value bits) (F.promoted n) = true ∨ F.promoted n = F.value bits := by
  obtain ⟨v, x, hv, hx, hlt⟩ := exists_of_lt h
  cases hx
  rw [hv, promoted, lt_some, Option.some_inj]
  exact (le_promoted hv hlt.le).lt_or_eq.imp id Eq.symm

end Format
end Ieee754
