import Mathlib.Algebra.Group.Int.Defs
import Mathlib.Data.List.Basic
import Mathlib.Data.List.TakeWhile
import Mathlib.Data.String.Basic

/-!
# Numbers and options in the C library

What a program reads its command line with: `strtol` and its siblings on a string, and
`getopt_long` on the elements of `argv`.  `scan` is `getopt_long` in the order of the
elements (`REQUIRE_ORDER`): it stops at the first element that is not an option.  Every
option takes an argument.

When `argv` is made of pairs `--name value`, a scan that knows all the names returns the
pairs (`scan_pairs`).  One that does not know a name takes it for an option without
argument, and goes on with the value.
-/
namespace Libc

/-! ## Numbers -/

/-- `isspace` of the C locale. -/
def isSpace (c : Char) : Bool :=
  c = ' ' || c = '\t' || c = '\n' || c = '\x0b' || c = '\x0c' || c = '\r'

def digitValue (c : Char) : Option Nat :=
  let n := c.toNat
  if 0x30 ≤ n ∧ n ≤ 0x39 then some (n - 0x30)
  else if 0x61 ≤ n ∧ n ≤ 0x7a then some (n - 0x61 + 10)
  else if 0x41 ≤ n ∧ n ≤ 0x5a then some (n - 0x41 + 10)
  else none

/-- A digit of the base. -/
def isDigit (base : Nat) (c : Char) : Bool := (digitValue c).any (· < base)

/-- What the digits at the head of a string are worth. -/
def digitsValue (base : Nat) (s : List Char) : Nat :=
  (s.takeWhile (isDigit base)).foldl (fun acc c => acc * base + (digitValue c).getD 0) 0

/-- A number that was found in a string, and what follows it. -/
structure Number where
  negative : Bool
  magnitude : Nat
  rest : List Char

/-- The base that the number itself tells: `0x` for 16, `0` for 8. -/
def guessBase : List Char → Nat × List Char
  | '0' :: x :: d :: s =>
    if (x = 'x' || x = 'X') && isDigit 16 d then (16, d :: s) else (8, '0' :: x :: d :: s)
  | '0' :: s => (8, '0' :: s)
  | s => (10, s)

/-- The number that `strtol` and its siblings find: white space, a sign, and at least one
digit.  The base is 10, or told by the number if `base` is 0. -/
def readNumber (base : Nat) (s : List Char) : Option Number :=
  let s := s.dropWhile isSpace
  let negative := s.head? = some '-'
  let s := if negative || s.head? = some '+' then s.tail else s
  let (base, s) := if base = 0 then guessBase s else (base, s)
  if s.head?.any (isDigit base) then
    some ⟨negative, digitsValue base s, s.dropWhile (isDigit base)⟩
  else none

/-- The number at the head of a string, in base 10; 0 if there is none. -/
def decimal (s : String) : Int :=
  match readNumber 10 s.toList with
  | none => 0
  | some n => if n.negative then -n.magnitude else n.magnitude

/-- `strtol` and `strtoll` in base 10: out of range, the nearest `long`. -/
def strtoll (s : String) : Int64 := Int64.ofInt (max (-2 ^ 63) (min (2 ^ 63 - 1) (decimal s)))

/-- `atoi`: the result of `strtol`, cut to an `int`. -/
def atoi (s : String) : Int32 := (strtoll s).toInt32

/-- `strtoul` and `strtoull` of a number: a negative one is taken modulo `2 ^ 64`, and one
out of range gives the largest and sets `errno`. -/
def Number.toUnsigned (n : Number) : UInt64 :=
  if 2 ^ 64 ≤ n.magnitude then UInt64.ofNat (2 ^ 64 - 1)
  else if n.negative then 0 - UInt64.ofNat n.magnitude else UInt64.ofNat n.magnitude

/-- `strtoul` and `strtoull` in base 10. -/
def strtoull (s : String) : UInt64 :=
  match readNumber 10 s.toList with
  | none => 0
  | some n => n.toUnsigned

example : atoi " -12x" = -12 ∧ atoi "x" = 0 ∧ atoi "4294967297" = 1 := by decide

example : strtoull "-1" = 18446744073709551615 ∧
    strtoull "99999999999999999999" = 18446744073709551615 := by
  decide

/-! ## Options -/

section Options
variable {O : Type}

/-- The options that a call of `getopt_long` knows; all of them take an argument. -/
structure Options (O : Type) where
  long : List (String × O)
  short : List (Char × O)

/-- A long option: by its name, or by the beginning of exactly one. -/
def Options.findLong (t : Options O) (name : List Char) : Option O :=
  match t.long.find? fun e => e.1.toList = name with
  | some e => some e.2
  | none =>
    match t.long.filter fun e => name.isPrefixOf e.1.toList with
    | [e] => some e.2
    | _ => none

/-- The letters of an element that starts with one `-`: what they return, and the option
that takes the next element as its argument, if the last letter is one. -/
def Options.scanLetters (t : Options O) : List Char → List (Option (O × String)) × Option O
  | [] => ([], none)
  | c :: cs =>
    match t.short.lookup c with
    | none => (none :: (t.scanLetters cs).1, (t.scanLetters cs).2)
    | some o => if cs = [] then ([], some o) else ([some (o, String.ofList cs)], none)

/-- **`getopt_long`** until it returns -1.  Each result is an option with its argument, or
`none` for `'?'`: an option that is not known, or one whose argument is missing. -/
def Options.scan (t : Options O) : List String → List (Option (O × String))
  | [] => []
  | a :: rest =>
    match a.toList with
    | ['-', '-'] => []
    | '-' :: '-' :: body =>
      match t.findLong (body.takeWhile (· ≠ '=')), body.dropWhile (· ≠ '=') with
      | some o, _ :: arg => some (o, String.ofList arg) :: t.scan rest
      | some o, [] =>
        match rest with
        | [] => [none]
        | b :: rest => some (o, b) :: t.scan rest
      | none, _ => none :: t.scan rest
    | '-' :: c :: cs =>
      match t.scanLetters (c :: cs) with
      | (events, none) => events ++ t.scan rest
      | (events, some o) =>
        match rest with
        | [] => events ++ [none]
        | b :: rest => events ++ some (o, b) :: t.scan rest
    -- the first element that is not an option
    | _ => []

/-- An element that ends a scan. -/
def isOperand (a : String) : Bool :=
  match a.toList with
  | '-' :: _ :: _ => false
  | _ => true

/-- A pair as two elements of `argv`. -/
def pairArgs (name : O → String) (l : List (O × String)) : List String :=
  l.flatMap fun e => ["--" ++ name e.1, e.2]

/-- The characters of a name. -/
def IsName (name : String) : Prop := name.toList ≠ [] ∧ '=' ∉ name.toList

theorem isName_ofList {cs : List Char} (h : cs ≠ [] ∧ '=' ∉ cs) : IsName (String.ofList cs) := by
  rw [IsName, String.toList_ofList]
  exact h

theorem takeWhile_name {name : String} (h : IsName name) :
    name.toList.takeWhile (· ≠ '=') = name.toList := by
  refine List.takeWhile_eq_self_iff.mpr fun c hc => ?_
  exact decide_eq_true fun heq => h.2 (heq ▸ hc)

theorem dropWhile_name {name : String} (h : IsName name) :
    name.toList.dropWhile (· ≠ '=') = [] := by
  refine List.dropWhile_eq_nil_iff.mpr fun c hc => ?_
  exact decide_eq_true fun heq => h.2 (heq ▸ hc)

variable {t : Options O}

/-- A name that stands for one option only is found. -/
theorem findLong_of_mem {name : String} {o : O} (hmem : (name, o) ∈ t.long)
    (huniq : ∀ e ∈ t.long, e.1 = name → e.2 = o) : t.findLong name.toList = some o := by
  unfold Options.findLong
  cases hfind : t.long.find? fun e => e.1.toList = name.toList with
  | none => exact absurd (decide_eq_true rfl) (List.find?_eq_none.mp hfind _ hmem)
  | some e =>
    have hname : e.1.toList = name.toList := by simpa using List.find?_some hfind
    exact congrArg some (huniq e (List.mem_of_find?_eq_some hfind) (String.toList_inj.mp hname))

/-- A name that is known, with its value behind it. -/
theorem scan_known {name : String} (h : IsName name) {o : O} (ho : t.findLong name.toList = some o)
    (value : String) (rest : List String) :
    t.scan (("--" ++ name) :: value :: rest) = some (o, value) :: t.scan rest := by
  obtain ⟨c, cs, hname⟩ := List.exists_cons_of_ne_nil h.1
  have hchars : ("--" ++ name).toList = '-' :: '-' :: c :: cs := by
    rw [String.toList_append, hname]
    rfl
  have htake := takeWhile_name h
  have hdrop := dropWhile_name h
  rw [hname] at htake hdrop ho
  rw [Options.scan, hchars]
  simp only [htake, hdrop, ho]

/-- A name that is not known: the value is the next element. -/
theorem scan_unknown {name : String} (h : IsName name) (ho : t.findLong name.toList = none)
    (rest : List String) : t.scan (("--" ++ name) :: rest) = none :: t.scan rest := by
  obtain ⟨c, cs, hname⟩ := List.exists_cons_of_ne_nil h.1
  have hchars : ("--" ++ name).toList = '-' :: '-' :: c :: cs := by
    rw [String.toList_append, hname]
    rfl
  have htake := takeWhile_name h
  have hdrop := dropWhile_name h
  rw [hname] at htake hdrop ho
  rw [Options.scan, hchars]
  simp only [htake, hdrop, ho]

/-- A scan ends at an operand. -/
theorem scan_operand {a : String} (h : isOperand a = true) (rest : List String) :
    t.scan (a :: rest) = [] := by
  unfold isOperand at h
  rw [Options.scan]
  split
  · rfl
  · rename_i body hne hchars
    rw [hchars] at h
    cases h
  · rename_i c cs hne hchars
    rw [hchars] at h
    cases h
  · rfl

/-- **A scan that knows all names returns the pairs.** -/
theorem scan_pairs {name : O → String} (hname : ∀ o, IsName (name o))
    (hfind : ∀ o, t.findLong (name o).toList = some o) (l : List (O × String)) :
    t.scan (pairArgs name l) = l.map some := by
  induction l with
  | nil => rfl
  | cons e l ih =>
    have hcons : pairArgs name (e :: l) = ("--" ++ name e.1) :: e.2 :: pairArgs name l := rfl
    rw [hcons, scan_known (hname e.1) (hfind e.1), ih]
    rfl

end Options
end Libc
