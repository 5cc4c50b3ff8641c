import Mathlib.Data.Nat.Digits.Defs
import SdrModem.Libc

/-!
# Integer literals

The numbers that `strtoull` finds in base 0, as a grammar: white space, a sign, and a literal
that tells its base.  `readNumber` reads a whole string exactly if the string is one of these
(`readNumber_eq_some_iff`).
-/
namespace Libc

/-- What digits are worth by their places, the highest first. -/
def placeValue (base : Nat) (digits : List Char) : Nat :=
  Nat.ofDigits base (digits.map fun c => (digitValue c).getD 0).reverse

/-- **Integer literals** and their values: decimal, octal behind a `0`, and hexadecimal. -/
inductive IntegerLiteral : List Char → Nat → Prop
  | decimal (d : Char) (digits : List Char) (hd : d ≠ '0')
      (h : ∀ c ∈ d :: digits, isDigit 10 c = true) :
      IntegerLiteral (d :: digits) (placeValue 10 (d :: digits))
  | octal (digits : List Char) (h : ∀ c ∈ digits, isDigit 8 c = true) :
      IntegerLiteral ('0' :: digits) (placeValue 8 digits)
  | hexadecimal (x d : Char) (digits : List Char) (hx : x = 'x' ∨ x = 'X')
      (h : ∀ c ∈ d :: digits, isDigit 16 c = true) :
      IntegerLiteral ('0' :: x :: d :: digits) (placeValue 16 (d :: digits))

/-- White space, a sign, and a literal of this value. -/
structure Numeral (s before : List Char) (sign : Option Char) (literal : List Char) (m : Nat) :
    Prop where
  whole : s = before ++ sign.toList ++ literal
  white : ∀ c ∈ before, isSpace c = true
  signs : sign = none ∨ sign = some '+' ∨ sign = some '-'
  value : IntegerLiteral literal m

/-! ## Digits -/

theorem digitsValue_eq {base : Nat} {digits : List Char}
    (h : ∀ c ∈ digits, isDigit base c = true) : digitsValue base digits = placeValue base digits := by
  have hfold : ∀ (l : List Char) (acc : Nat),
      l.foldl (fun acc c => acc * base + (digitValue c).getD 0) acc =
        acc * base ^ l.length + placeValue base l := by
    intro l
    induction l with
    | nil => intro acc; simp [placeValue]
    | cons c l ih =>
      intro acc
      have hcons : placeValue base (c :: l) =
          placeValue base l + base ^ l.length * (digitValue c).getD 0 := by
        rw [placeValue, List.map_cons, List.reverse_cons, Nat.ofDigits_append,
          Nat.ofDigits_singleton, List.length_reverse, List.length_map, placeValue]
      rw [List.foldl_cons, ih, hcons, List.length_cons, pow_succ]
      ring
  have htake : digits.takeWhile (isDigit base) = digits := List.takeWhile_eq_self_iff.mpr h
  rw [digitsValue, htake, hfold, Nat.zero_mul, Nat.zero_add]

/-- A leading zero is worth nothing. -/
theorem placeValue_zero (base : Nat) (digits : List Char) :
    placeValue base ('0' :: digits) = placeValue base digits := by
  have hzero : (digitValue '0').getD 0 = 0 := by decide
  rw [placeValue, List.map_cons, List.reverse_cons, Nat.ofDigits_append, Nat.ofDigits_singleton,
    hzero, Nat.mul_zero, Nat.add_zero, placeValue]

theorem isDigit_mono {a b : Nat} (hab : a ≤ b) {c : Char} (h : isDigit a c = true) :
    isDigit b c = true := by
  unfold isDigit at h ⊢
  cases hc : digitValue c with
  | none => rw [hc] at h; cases h
  | some n =>
    rw [hc] at h
    exact decide_eq_true (Nat.lt_of_lt_of_le (of_decide_eq_true h) hab)

/-- A decimal digit by its code. -/
theorem toNat_of_isDigit {c : Char} (h : isDigit 10 c = true) : 0x30 ≤ c.toNat ∧ c.toNat ≤ 0x39 := by
  unfold isDigit digitValue at h
  dsimp only at h
  split at h
  · assumption
  · split at h
    · rw [Option.any_some] at h
      have := of_decide_eq_true h
      omega
    · split at h
      · rw [Option.any_some] at h
        have := of_decide_eq_true h
        omega
      · cases h

/-- A decimal digit is neither white space nor a sign nor the mark of a base. -/
theorem ne_of_isDigit {c e : Char} (h : isDigit 10 c = true)
    (he : e.toNat < 0x30 ∨ 0x39 < e.toNat) : c ≠ e := by
  rintro rfl
  have := toNat_of_isDigit h
  omega

theorem not_isSpace_of_isDigit {c : Char} (h : isDigit 10 c = true) : isSpace c = false := by
  have hne : ∀ e : Char, e.toNat < 0x30 ∨ 0x39 < e.toNat → c ≠ e := fun e => ne_of_isDigit h
  simp [isSpace, hne ' ' (by decide), hne '\t' (by decide), hne '\n' (by decide),
    hne '\x0b' (by decide), hne '\x0c' (by decide), hne '\r' (by decide)]

/-- A literal starts with a decimal digit. -/
theorem IntegerLiteral.head {s : List Char} {m : Nat} (h : IntegerLiteral s m) :
    ∃ d rest, s = d :: rest ∧ isDigit 10 d = true := by
  cases h with
  | decimal d digits hd h => exact ⟨d, digits, rfl, h d List.mem_cons_self⟩
  | octal digits h => exact ⟨'0', digits, rfl, by decide⟩
  | hexadecimal x d digits hx h => exact ⟨'0', _, rfl, by decide⟩

/-! ## Reading -/

theorem dropWhile_isDigit_iff {base : Nat} {s : List Char} :
    s.dropWhile (isDigit base) = [] ↔ ∀ c ∈ s, isDigit base c = true := List.dropWhile_eq_nil_iff

/-- The base of a literal, and its digits. -/
theorem IntegerLiteral.guessBase {s : List Char} {m : Nat} (h : IntegerLiteral s m) :
    ∃ base digits, Libc.guessBase s = (base, digits) ∧ digits.head?.any (isDigit base) = true ∧
      (∀ c ∈ digits, isDigit base c = true) ∧ digitsValue base digits = m := by
  cases h with
  | decimal d digits hd h =>
    have hguess : Libc.guessBase (d :: digits) = (10, d :: digits) := by
      unfold Libc.guessBase
      split
      · rename_i heq; exact absurd (List.cons.inj heq).1 hd
      · rename_i heq; exact absurd (List.cons.inj heq).1 hd
      · rfl
    exact ⟨10, _, hguess, h d List.mem_cons_self, h, digitsValue_eq h⟩
  | octal digits h =>
    have hall : ∀ c ∈ '0' :: digits, isDigit 8 c = true :=
      List.forall_mem_cons.mpr ⟨by decide, h⟩
    have hguess : Libc.guessBase ('0' :: digits) = (8, '0' :: digits) := by
      unfold Libc.guessBase
      split
      · rename_i x d rest heq
        obtain rfl := (List.cons.inj heq).2
        have hx : isDigit 10 x = true := isDigit_mono (by decide) (h x List.mem_cons_self)
        simp [ne_of_isDigit hx (show ('x' : Char).toNat < 0x30 ∨ 0x39 < ('x' : Char).toNat by decide),
          ne_of_isDigit hx (show ('X' : Char).toNat < 0x30 ∨ 0x39 < ('X' : Char).toNat by decide)]
      · rename_i heq
        rw [(List.cons.inj heq).2]
      · rename_i hne
        exact absurd rfl (hne digits)
    refine ⟨8, _, hguess, hall '0' List.mem_cons_self, hall, ?_⟩
    rw [digitsValue_eq hall, placeValue_zero]
  | hexadecimal x d digits hx h =>
    have hguess : Libc.guessBase ('0' :: x :: d :: digits) = (16, d :: digits) := by
      have hd : isDigit 16 d = true := h d List.mem_cons_self
      rcases hx with rfl | rfl <;> simp [Libc.guessBase, hd]
    exact ⟨16, _, hguess, h d List.mem_cons_self, h, digitsValue_eq h⟩

/-- Digits of the base that was told are a literal. -/
theorem literal_of_guessBase {s digits : List Char} {base : Nat}
    (hguess : guessBase s = (base, digits)) (hhead : digits.head?.any (isDigit base) = true)
    (hall : ∀ c ∈ digits, isDigit base c = true) :
    IntegerLiteral s (digitsValue base digits) := by
  rw [digitsValue_eq hall]
  unfold guessBase at hguess
  split at hguess
  · rename_i x d rest
    split at hguess
    · rename_i hx
      obtain ⟨rfl, rfl⟩ := Prod.mk.inj hguess
      exact .hexadecimal x d rest (by simpa using (Bool.and_eq_true_iff.mp hx).1) hall
    · obtain ⟨rfl, rfl⟩ := Prod.mk.inj hguess
      rw [placeValue_zero]
      exact .octal _ (List.forall_mem_cons.mp hall).2
  · obtain ⟨rfl, rfl⟩ := Prod.mk.inj hguess
    rw [placeValue_zero]
    exact .octal _ (List.forall_mem_cons.mp hall).2
  · rename_i hshort hne
    obtain ⟨rfl, rfl⟩ := Prod.mk.inj hguess
    cases s with
    | nil => cases hhead
    | cons d digits =>
      refine .decimal d digits ?_ hall
      rintro rfl
      exact hne digits rfl

/-- What is behind the white space and the sign. -/
structure Signed (s before : List Char) (sign : Option Char) (rest : List Char) : Prop where
  whole : s = before ++ sign.toList ++ rest
  white : ∀ c ∈ before, isSpace c = true
  signs : sign = none ∨ sign = some '+' ∨ sign = some '-'
  start : ∀ c, (sign.toList ++ rest).head? = some c → isSpace c = false
  unsigned : sign = none → rest.head? ≠ some '-' ∧ rest.head? ≠ some '+'

theorem Signed.split {s before : List Char} {sign : Option Char} {rest : List Char}
    (h : Signed s before sign rest) :
    s.takeWhile isSpace = before ∧ s.dropWhile isSpace = sign.toList ++ rest := by
  rw [h.whole, List.append_assoc, List.takeWhile_append_of_pos h.white,
    List.dropWhile_append_of_pos h.white]
  cases hstart : sign.toList ++ rest with
  | nil => exact ⟨List.append_nil _, rfl⟩
  | cons c t =>
    have hc : ¬ isSpace c = true := by rw [h.start c (by rw [hstart]; rfl)]; decide
    rw [List.takeWhile_cons_of_neg hc, List.dropWhile_cons_of_neg hc]
    exact ⟨List.append_nil _, rfl⟩

theorem exists_signed (s : List Char) : ∃ before sign rest, Signed s before sign rest := by
  have hwhole : s = s.takeWhile isSpace ++ s.dropWhile isSpace :=
    List.takeWhile_append_dropWhile.symm
  have hwhite : ∀ c ∈ s.takeWhile isSpace, isSpace c = true := fun c hc =>
    List.mem_takeWhile_imp hc
  have hstart : ∀ c, (s.dropWhile isSpace).head? = some c → isSpace c = false := by
    intro c hc
    have hnot := List.head?_dropWhile_not isSpace s
    rw [hc] at hnot
    simpa using hnot
  cases ht : s.dropWhile isSpace with
  | nil =>
    rw [ht] at hwhole hstart
    refine ⟨_, none, [], ⟨by simpa using hwhole, hwhite, Or.inl rfl, hstart, ?_⟩⟩
    rintro -
    exact ⟨by simp, by simp⟩
  | cons c rest =>
    rw [ht] at hwhole hstart
    by_cases hplus : c = '+'
    · subst hplus
      exact ⟨_, some '+', rest, ⟨by simpa using hwhole, hwhite, Or.inr (Or.inl rfl), hstart,
        by rintro ⟨⟩⟩⟩
    · by_cases hminus : c = '-'
      · subst hminus
        exact ⟨_, some '-', rest, ⟨by simpa using hwhole, hwhite, Or.inr (Or.inr rfl), hstart,
          by rintro ⟨⟩⟩⟩
      · refine ⟨_, none, c :: rest, ⟨by simpa using hwhole, hwhite, Or.inl rfl, hstart, ?_⟩⟩
        rintro -
        exact ⟨by simpa using hminus, by simpa using hplus⟩

/-- The number behind a sign. -/
def readLiteral (rest : List Char) : Option (Nat × List Char) :=
  let (base, digits) := guessBase rest
  if digits.head?.any (isDigit base) then
    some (digitsValue base digits, digits.dropWhile (isDigit base))
  else none

theorem readNumber_of_signed {s before : List Char} {sign : Option Char} {rest : List Char}
    (h : Signed s before sign rest) :
    readNumber 0 s =
      (readLiteral rest).map fun n => ⟨decide (sign = some '-'), n.1, n.2⟩ := by
  have hdrop := h.split.2
  have hread : ∀ n : Bool, (if ((guessBase rest).2.head?.any (isDigit (guessBase rest).1)) = true then
      some (Number.mk n (digitsValue (guessBase rest).1 (guessBase rest).2)
        ((guessBase rest).2.dropWhile (isDigit (guessBase rest).1))) else none) =
      (readLiteral rest).map fun m => ⟨n, m.1, m.2⟩ := by
    intro n
    unfold readLiteral
    dsimp only
    split <;> rfl
  unfold readNumber
  dsimp only
  rw [hdrop]
  rcases h.signs with rfl | rfl | rfl
  · obtain ⟨hminus, hplus⟩ := h.unsigned rfl
    rw [← hread]
    simp [hminus, hplus]
  · rw [← hread]
    simp
  · rw [← hread]
    simp

theorem readLiteral_eq_some_iff {rest : List Char} {m : Nat} :
    readLiteral rest = some (m, []) ↔ IntegerLiteral rest m := by
  constructor
  · intro h
    unfold readLiteral at h
    dsimp only at h
    split at h
    · rename_i hhead
      obtain ⟨rfl, hrest⟩ := Prod.mk.inj (Option.some.inj h)
      exact literal_of_guessBase rfl hhead (dropWhile_isDigit_iff.mp hrest)
    · cases h
  · intro h
    obtain ⟨base, digits, hguess, hhead, hall, hvalue⟩ := h.guessBase
    simp only [readLiteral, hguess, hhead, if_true, hvalue, dropWhile_isDigit_iff.mpr hall]

/-- A numeral is a literal behind a sign. -/
theorem Numeral.signed {s before : List Char} {sign : Option Char} {literal : List Char} {m : Nat}
    (h : Numeral s before sign literal m) : Signed s before sign literal := by
  obtain ⟨d, digits, hliteral, hd⟩ := h.value.head
  refine ⟨h.whole, h.white, h.signs, ?_, ?_⟩
  · intro c hc
    rcases h.signs with rfl | rfl | rfl
    · rw [hliteral] at hc
      obtain rfl : d = c := by simpa using hc
      exact not_isSpace_of_isDigit hd
    · obtain rfl : '+' = c := by simpa using hc
      decide
    · obtain rfl : '-' = c := by simpa using hc
      decide
  · rintro -
    rw [hliteral, List.head?_cons]
    refine ⟨fun heq => ?_, fun heq => ?_⟩
    · exact ne_of_isDigit hd (by decide) (Option.some.inj heq)
    · exact ne_of_isDigit hd (by decide) (Option.some.inj heq)

/-- Without a minus sign the string does not start with one. -/
theorem Numeral.head_ne_minus {s before : List Char} {sign : Option Char} {literal : List Char}
    {m : Nat} (h : Numeral s before sign literal m) (hsign : sign ≠ some '-') :
    s.head? ≠ some '-' := by
  rw [h.whole]
  cases before with
  | cons c before =>
    have hc := h.white c List.mem_cons_self
    intro hhead
    obtain rfl : c = '-' := by simpa using hhead
    exact absurd hc (by decide)
  | nil =>
    rcases h.signs with rfl | rfl | rfl
    · exact (h.signed.unsigned rfl).1
    · simp
    · exact absurd rfl hsign

/-- **What is read as a number as a whole.** -/
theorem readNumber_eq_some_iff {s : List Char} {negative : Bool} {m : Nat} :
    readNumber 0 s = some ⟨negative, m, []⟩ ↔
      ∃ before sign literal, Numeral s before sign literal m ∧
        negative = decide (sign = some '-') := by
  constructor
  · intro h
    obtain ⟨before, sign, rest, hs⟩ := exists_signed s
    rw [readNumber_of_signed hs] at h
    obtain ⟨⟨n, rest'⟩, hread, hnumber⟩ := Option.map_eq_some_iff.mp h
    obtain ⟨hnegative, rfl, rfl⟩ := Number.mk.inj hnumber
    exact ⟨before, sign, rest, ⟨hs.whole, hs.white, hs.signs, readLiteral_eq_some_iff.mp hread⟩,
      hnegative.symm⟩
  · rintro ⟨before, sign, literal, hs, rfl⟩
    rw [readNumber_of_signed hs.signed, readLiteral_eq_some_iff.mpr hs.value]
    rfl

/-- The sign is told by the string. -/
theorem Signed.sign_eq {s before : List Char} {sign : Option Char} {rest : List Char}
    (h : Signed s before sign rest) :
    sign = (s.dropWhile isSpace).head?.filter fun c => c = '+' || c = '-' := by
  rw [h.split.2]
  rcases h.signs with rfl | rfl | rfl
  · obtain ⟨hminus, hplus⟩ := h.unsigned rfl
    cases rest with
    | nil => rfl
    | cons c rest => simp [Option.filter, by simpa using hminus, by simpa using hplus]
  · rfl
  · rfl

/-- The parts of a numeral and its value are told by the string. -/
theorem Numeral.unique {s before before' : List Char} {sign sign' : Option Char}
    {literal literal' : List Char} {m m' : Nat} (h : Numeral s before sign literal m)
    (h' : Numeral s before' sign' literal' m') : before = before' ∧ sign = sign' ∧ m = m' := by
  have hone := readNumber_eq_some_iff.mpr ⟨before, sign, literal, h, rfl⟩
  have htwo := readNumber_eq_some_iff.mpr ⟨before', sign', literal', h', rfl⟩
  obtain ⟨-, hvalue, -⟩ := Number.mk.inj (Option.some.inj (hone.symm.trans htwo))
  have hbefore := h.signed.split.1.symm.trans h'.signed.split.1
  exact ⟨hbefore, h.signed.sign_eq.trans h'.signed.sign_eq.symm, hvalue⟩

end Libc
