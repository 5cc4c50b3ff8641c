import SdrModem.Config
import SdrModem.Numerals

/-!
# The numbers of an Airspy

`app_config_parse_airspy_number` is "strict: the whole string must be a number within
[0, max]".  It looks for a minus sign at the first character only, and `strtoull` skips
white space before it looks for one.
-/
namespace SdrModem
open Libc

/-- `app_config_parse_airspy_number` with its out parameter: the return value and
`*result` afterwards. -/
def appConfigParseAirspyNumberInto (str : String) (max result : UInt64) : Int × UInt64 :=
  match appConfigParseAirspyNumber str max with
  | .error code => (code, result)
  | .ok value => (0, value)

/-- `app_config_parse_airspy_gain` with its out parameter. -/
def appConfigParseAirspyGainInto (str : String) (max result : UInt8) : Int × UInt8 :=
  match appConfigParseAirspyGain str max with
  | .error code => (code, result)
  | .ok value => (0, value)

/-- A string of the right form: what may be before the literal is left open. -/
def LiteralBehind (admits : List Char → Option Char → Prop) (str : String) (v : Nat) : Prop :=
  ∃ before sign literal, Numeral str.toList before sign literal v ∧ admits before sign

/-- Nothing is before the literal. -/
def Bare (before : List Char) (sign : Option Char) : Prop := before = [] ∧ sign = none

/-- White space and a plus sign may be before the literal. -/
def NoMinus (_before : List Char) (sign : Option Char) : Prop := sign ≠ some '-'

/-- **Numbers are parsed strictly**, with what counts as a literal and its value. -/
structure ParsesLiterals (isLiteral : String → Nat → Prop) (str : String) (max : UInt64) :
    Prop where
  accepts : ∀ result, (appConfigParseAirspyNumberInto str max result).1 = 0 ↔
    ∃ v, isLiteral str v ∧ v ≤ max.toNat
  value : ∀ result v, (appConfigParseAirspyNumberInto str max result).1 = 0 → isLiteral str v →
    (appConfigParseAirspyNumberInto str max result).2.toNat = v
  unchanged : ∀ result, (appConfigParseAirspyNumberInto str max result).1 ≠ 0 →
    (appConfigParseAirspyNumberInto str max result).2 = result

/-- **A gain that is stored is what the string says.** -/
def GainWritten (isLiteral : String → Nat → Prop) (str : String) (max : UInt8) : Prop :=
  ∀ result g, appConfigParseAirspyGainInto str max result = (0, g) → isLiteral str g.toNat

/-- What `strtoull` makes of a number: a minus sign takes it modulo `2 ^ 64`. -/
def unsignedValue (sign : Option Char) (m : Nat) : Nat :=
  if sign = some '-' then (2 ^ 64 - m) % 2 ^ 64 else m

/-- A number that the checks let through. -/
structure LetThrough (str : String) (max : UInt64) (sign : Option Char) (m : Nat) : Prop where
  start : str.toList.head? ≠ some '-'
  range : m < 2 ^ 64
  le_max : unsignedValue sign m ≤ max.toNat

theorem toUnsigned_toNat (sign : Option Char) (rest : List Char) {m : Nat} (h : m < 2 ^ 64) :
    (Number.toUnsigned ⟨decide (sign = some '-'), m, rest⟩).toNat = unsignedValue sign m := by
  have hm : (UInt64.ofNat m).toNat = m := UInt64.toNat_ofNat_of_lt' h
  unfold Number.toUnsigned unsignedValue
  dsimp only
  rw [if_neg (Nat.not_le.mpr h)]
  by_cases hsign : sign = some '-'
  · rw [if_pos (decide_eq_true hsign), if_pos hsign, UInt64.toNat_sub, hm]
    rfl
  · rw [if_neg (by simpa using hsign), if_neg hsign, hm]

/-- **Which strings are accepted**, and with which value. -/
theorem parseAirspyNumber_eq_ok_iff {str : String} {max value : UInt64} :
    appConfigParseAirspyNumber str max = .ok value ↔
      ∃ before sign literal m, Numeral str.toList before sign literal m ∧
        LetThrough str max sign m ∧ value.toNat = unsignedValue sign m := by
  constructor
  · intro h
    unfold appConfigParseAirspyNumber at h
    split at h
    · cases h
    · rename_i n hread
      split at h
      · cases h
      · rename_i hcheck
        obtain ⟨negative, m, rest⟩ := n
        simp only [Bool.or_eq_true, decide_eq_true_eq, not_or, Decidable.not_not, Nat.not_le,
          UInt64.not_lt] at hcheck
        obtain ⟨⟨⟨hstart, rfl⟩, hrange⟩, hmax⟩ := hcheck
        obtain ⟨before, sign, literal, hnumeral, rfl⟩ := readNumber_eq_some_iff.mp hread
        have hvalue := toUnsigned_toNat sign [] hrange
        refine ⟨before, sign, literal, m, hnumeral, ⟨hstart, hrange, ?_⟩, ?_⟩
        · rw [← hvalue]
          exact UInt64.le_iff_toNat_le.mp hmax
        · rw [← hvalue, ← Except.ok.inj h]
  · rintro ⟨before, sign, literal, m, hnumeral, ⟨hstart, hrange, hmax⟩, hvalue⟩
    have hread := readNumber_eq_some_iff.mpr ⟨before, sign, literal, hnumeral, rfl⟩
    have hunsigned := toUnsigned_toNat sign [] hrange
    rw [← hunsigned] at hmax hvalue
    unfold appConfigParseAirspyNumber
    rw [hread]
    simp only
    rw [if_neg, UInt64.toNat_inj.mp hvalue]
    simp only [Bool.or_eq_true, decide_eq_true_eq, not_or, Decidable.not_not, Nat.not_le,
      UInt64.not_lt]
    exact ⟨⟨⟨hstart, trivial⟩, hrange⟩, UInt64.le_iff_toNat_le.mpr hmax⟩

theorem parseAirspyNumberInto_cases (str : String) (max result : UInt64) :
    (∃ value, appConfigParseAirspyNumber str max = .ok value ∧
      appConfigParseAirspyNumberInto str max result = (0, value)) ∨
    ((∀ value, appConfigParseAirspyNumber str max ≠ .ok value) ∧
      appConfigParseAirspyNumberInto str max result = (-1, result)) := by
  unfold appConfigParseAirspyNumberInto
  cases h : appConfigParseAirspyNumber str max with
  | ok value => exact Or.inl ⟨value, rfl, rfl⟩
  | error code =>
    have hcode : code = -1 := by
      unfold appConfigParseAirspyNumber at h
      split at h
      · exact (Except.error.inj h).symm
      · split at h
        · exact (Except.error.inj h).symm
        · cases h
    subst hcode
    exact Or.inr ⟨by rintro _ ⟨⟩, rfl⟩

/-! ## The condition -/

section Condition
variable {admits : List Char → Option Char → Prop} {str : String}

/-- **When numbers are parsed strictly**: nothing is let through but what may be there. -/
theorem parsesLiterals_iff (hadmits : ∀ before sign, admits before sign → sign ≠ some '-')
    (max : UInt64) : ParsesLiterals (LiteralBehind admits) str max ↔
      ∀ before sign literal m, Numeral str.toList before sign literal m →
        LetThrough str max sign m → admits before sign := by
  constructor
  · intro h before sign literal m hnumeral hthrough
    have hlt : unsignedValue sign m < 2 ^ 64 :=
      Nat.lt_of_le_of_lt hthrough.le_max max.toNat_lt
    have hok : appConfigParseAirspyNumber str max = .ok (UInt64.ofNat (unsignedValue sign m)) :=
      parseAirspyNumber_eq_ok_iff.mpr
        ⟨before, sign, literal, m, hnumeral, hthrough, UInt64.toNat_ofNat_of_lt' hlt⟩
    obtain ⟨v, ⟨before', sign', literal', hnumeral', hgood⟩, -⟩ := (h.accepts 0).mp (by
      rw [appConfigParseAirspyNumberInto, hok])
    obtain ⟨rfl, rfl, -⟩ := hnumeral.unique hnumeral'
    exact hgood
  · intro h
    have hvalue : ∀ value, appConfigParseAirspyNumber str max = .ok value →
        LiteralBehind admits str value.toNat ∧ value.toNat ≤ max.toNat := by
      intro value hok
      obtain ⟨before, sign, literal, m, hnumeral, hthrough, hvalue⟩ :=
        parseAirspyNumber_eq_ok_iff.mp hok
      have hgood := h before sign literal m hnumeral hthrough
      have hmax := hthrough.le_max
      rw [unsignedValue, if_neg (hadmits _ _ hgood)] at hvalue hmax
      exact ⟨⟨before, sign, literal, hvalue ▸ hnumeral, hgood⟩, hvalue ▸ hmax⟩
    refine ⟨fun result => ⟨fun hcode => ?_, ?_⟩, fun result v hcode hv => ?_, fun result hcode => ?_⟩
    · rcases parseAirspyNumberInto_cases str max result with ⟨value, hok, -⟩ | ⟨-, hresult⟩
      · exact ⟨value.toNat, hvalue value hok⟩
      · rw [hresult] at hcode
        cases hcode
    · rintro ⟨v, ⟨before, sign, literal, hnumeral, hgood⟩, hmax⟩
      have hsign := hadmits _ _ hgood
      have hrange : v < 2 ^ 64 := Nat.lt_of_le_of_lt hmax max.toNat_lt
      have hsame : unsignedValue sign v = v := if_neg hsign
      have hok : appConfigParseAirspyNumber str max = .ok (UInt64.ofNat v) := by
        refine parseAirspyNumber_eq_ok_iff.mpr ⟨before, sign, literal, v, hnumeral, ?_, ?_⟩
        · exact ⟨hnumeral.head_ne_minus hsign, hrange, by rwa [hsame]⟩
        · rw [hsame, UInt64.toNat_ofNat_of_lt' hrange]
      rw [appConfigParseAirspyNumberInto, hok]
    · rcases parseAirspyNumberInto_cases str max result with ⟨value, hok, hresult⟩ | ⟨-, hresult⟩
      · obtain ⟨before, sign, literal, hnumeral, -⟩ := (hvalue value hok).1
        obtain ⟨before', sign', literal', hnumeral', -⟩ := hv
        rw [hresult]
        exact (hnumeral.unique hnumeral').2.2
      · rw [hresult] at hcode
        cases hcode
    · rcases parseAirspyNumberInto_cases str max result with ⟨value, -, hresult⟩ | ⟨-, hresult⟩
      · rw [hresult] at hcode
        exact absurd rfl hcode
      · rw [hresult]

/-- A gain is a number, cut to a byte. -/
theorem parseAirspyGainInto_eq_iff {max result g : UInt8} :
    appConfigParseAirspyGainInto str max result = (0, g) ↔
      ∃ value, appConfigParseAirspyNumber str max.toUInt64 = .ok value ∧ value.toUInt8 = g := by
  unfold appConfigParseAirspyGainInto appConfigParseAirspyGain
  rcases parseAirspyNumberInto_cases str max.toUInt64 0 with ⟨value, hok, -⟩ | ⟨hnot, hresult⟩
  · rw [hok]
    simp [Except.map]
  · cases h : appConfigParseAirspyNumber str max.toUInt64 with
    | ok value => exact absurd h (hnot value)
    | error code =>
      rw [appConfigParseAirspyNumberInto, h] at hresult
      obtain ⟨rfl, -⟩ := Prod.mk.inj hresult
      simp [Except.map]

/-- **When the gains that are stored were written.** -/
theorem gainWritten_iff (hadmits : ∀ before sign, admits before sign → sign ≠ some '-')
    (max : UInt8) : GainWritten (LiteralBehind admits) str max ↔
      ∀ before sign literal m, Numeral str.toList before sign literal m →
        LetThrough str max.toUInt64 sign m → admits before sign := by
  constructor
  · intro h before sign literal m hnumeral hthrough
    have hlt : unsignedValue sign m < 2 ^ 64 :=
      Nat.lt_of_le_of_lt hthrough.le_max max.toUInt64.toNat_lt
    have hok : appConfigParseAirspyNumber str max.toUInt64 =
        .ok (UInt64.ofNat (unsignedValue sign m)) :=
      parseAirspyNumber_eq_ok_iff.mpr
        ⟨before, sign, literal, m, hnumeral, hthrough, UInt64.toNat_ofNat_of_lt' hlt⟩
    obtain ⟨before', sign', literal', hnumeral', hgood⟩ :=
      h 0 _ (parseAirspyGainInto_eq_iff.mpr ⟨_, hok, rfl⟩)
    obtain ⟨rfl, rfl, -⟩ := hnumeral.unique hnumeral'
    exact hgood
  · intro h result g hg
    obtain ⟨value, hok, rfl⟩ := parseAirspyGainInto_eq_iff.mp hg
    obtain ⟨before, sign, literal, m, hnumeral, hthrough, hvalue⟩ :=
      parseAirspyNumber_eq_ok_iff.mp hok
    have hgood := h before sign literal m hnumeral hthrough
    have hmax := hthrough.le_max
    rw [unsignedValue, if_neg (hadmits _ _ hgood)] at hvalue hmax
    have hbyte : value.toUInt8.toNat = m := by
      have hle : m ≤ max.toNat := by simpa using hmax
      have hlt := max.toNat_lt
      rw [UInt64.toNat_toUInt8, hvalue]
      exact Nat.mod_eq_of_lt (by omega)
    exact ⟨before, sign, literal, hbyte ▸ hnumeral, hgood⟩

end Condition

/-- A literal is a numeral with nothing before it. -/
theorem literalBehind_bare (str : String) :
    LiteralBehind Bare str = IntegerLiteral str.toList := by
  funext v
  refine propext ⟨?_, fun h => ⟨[], none, _, ⟨rfl, ?_, Or.inl rfl, h⟩, rfl, rfl⟩⟩
  · rintro ⟨_, _, literal, hnumeral, rfl, rfl⟩
    rw [hnumeral.whole]
    exact hnumeral.value
  · intro c hc
    cases hc

/-- What is let through although something is before the literal. -/
def LetThroughBehind (admits : List Char → Option Char → Prop) (str : String) (max : UInt64) :
    Prop :=
  ∃ before sign literal m, Numeral str.toList before sign literal m ∧
    LetThrough str max sign m ∧ ¬ admits before sign

theorem not_letThroughBehind_iff {admits : List Char → Option Char → Prop} {str : String}
    {max : UInt64} : ¬ LetThroughBehind admits str max ↔
      ∀ before sign literal m, Numeral str.toList before sign literal m →
        LetThrough str max sign m → admits before sign := by
  simp only [LetThroughBehind, not_exists, not_and, Classical.not_not]

/-- **When the numbers of an Airspy are parsed strictly.**  A literal is digits behind the
mark of their base; or, in the second reading, what may have white space and a plus sign
before it. -/
theorem airspy_number_strict_iff (str : String) :
    (∀ max, ParsesLiterals (IntegerLiteral ·.toList) str max ↔ ¬ LetThroughBehind Bare str max) ∧
    (∀ max, GainWritten (IntegerLiteral ·.toList) str max ↔
      ¬ LetThroughBehind Bare str max.toUInt64) ∧
    (∀ max, ParsesLiterals (LiteralBehind NoMinus) str max ↔
      ¬ LetThroughBehind NoMinus str max) ∧
    (∀ max, GainWritten (LiteralBehind NoMinus) str max ↔
      ¬ LetThroughBehind NoMinus str max.toUInt64) := by
  have hbare : ∀ before sign, Bare before sign → sign ≠ some '-' := by
    rintro before sign ⟨-, rfl⟩
    simp
  have hminus : ∀ before sign, NoMinus before sign → sign ≠ some '-' := fun _ _ h => h
  have hliteral : (fun s : String => IntegerLiteral s.toList) = LiteralBehind Bare :=
    funext fun s => (literalBehind_bare s).symm
  refine ⟨fun max => ?_, fun max => ?_, fun max => ?_, fun max => ?_⟩
  · rw [hliteral, not_letThroughBehind_iff]
    exact parsesLiterals_iff hbare max
  · rw [hliteral, not_letThroughBehind_iff]
    exact gainWritten_iff hbare max
  · rw [not_letThroughBehind_iff]
    exact parsesLiterals_iff hminus max
  · rw [not_letThroughBehind_iff]
    exact gainWritten_iff hminus max

/-- A number that is read with a minus sign is no literal. -/
theorem not_literalBehind_of_negative (str : String)
    (h : (readNumber 0 str.toList).map Number.negative = some true) (v : Nat) :
    ¬ LiteralBehind NoMinus str v := by
  rintro ⟨before, sign, literal, hnumeral, hsign⟩
  rw [readNumber_eq_some_iff.mpr ⟨before, sign, literal, hnumeral, rfl⟩] at h
  exact hsign (of_decide_eq_true (Option.some.inj h))

/-- A blank hides the minus sign: the serial number is `2 ^ 64 - 1`, and the mixer gain 15. -/
theorem minus_behind_blank_is_let_through :
    let serial := " -1"
    let gain := " -18446744073709551601"
    let max := UInt64.ofNat (2 ^ 64 - 1)
    appConfigParseAirspyNumberInto serial max 0 = (0, max) ∧
    appConfigParseAirspyGainInto gain airspyMaxMixerGain 0 = (0, 15) ∧
    ¬ ParsesLiterals (IntegerLiteral ·.toList) serial max ∧
    ¬ GainWritten (IntegerLiteral ·.toList) gain airspyMaxMixerGain ∧
    ¬ ParsesLiterals (LiteralBehind NoMinus) serial max ∧
    ¬ GainWritten (LiteralBehind NoMinus) gain airspyMaxMixerGain := by
  intro serial gain max
  have hserial : appConfigParseAirspyNumberInto serial max 0 = (0, max) := by decide
  have hgain : appConfigParseAirspyGainInto gain airspyMaxMixerGain 0 = (0, 15) := by decide
  have hnot := not_literalBehind_of_negative serial (by decide)
  have hnot' := not_literalBehind_of_negative gain (by decide)
  have hbare : ∀ {str : String} {v : Nat}, IntegerLiteral str.toList v →
      LiteralBehind NoMinus str v := by
    intro str v h
    rw [← literalBehind_bare] at h
    obtain ⟨before, sign, literal, hnumeral, -, rfl⟩ := h
    exact ⟨before, none, literal, hnumeral, by simp [NoMinus]⟩
  refine ⟨hserial, hgain, fun h => ?_, fun h => ?_, fun h => ?_, fun h => ?_⟩
  · obtain ⟨v, hv, -⟩ := (h.accepts 0).mp (congrArg Prod.fst hserial)
    exact hnot v (hbare hv)
  · exact hnot' _ (hbare (h 0 15 hgain))
  · obtain ⟨v, hv, -⟩ := (h.accepts 0).mp (congrArg Prod.fst hserial)
    exact hnot v hv
  · exact hnot' _ (h 0 15 hgain)

end SdrModem
