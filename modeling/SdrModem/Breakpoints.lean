import Mathlib.Algebra.Order.Field.Basic

/-!
# Curves through breakpoints

A table of breakpoints has a time and a value for each of them, and the times increase.  Its
curve goes in straight lines from one breakpoint to the next, and it is flat before the first
one and after the last one.  A cursor that knows the interval of a time knows the value of
the curve at this time.
-/
namespace Breakpoints
variable {ι K : Type} [Field K] [LinearOrder K] (time value : ι → K)

/-- Every breakpoint is later than those before it. -/
def Increasing (table : List ι) : Prop := table.Pairwise fun a b => time a < time b

/-- Between two breakpoints. -/
def line (a b : ι) (t : K) : K :=
  value a + (t - time a) / (time b - time a) * (value b - value a)

/-- The curve, looked up from the beginning of the table. -/
def curve : List ι → K → K
  | [], _ => 0
  | [a], _ => value a
  | a :: b :: rest, t =>
    if t ≤ time a then value a
    else if t < time b then line time value a b t
    else curve (b :: rest) t

/-- **The interval of a time**: it goes up to the next breakpoint.  The first one has no
beginning, and the last one has no end. -/
structure Contains (table : List ι) (i : Nat) (t : K) : Prop where
  lt : i < table.length
  from_le : 0 < i → ∀ a, table[i]? = some a → time a ≤ t
  lt_next : ∀ b, table[i + 1]? = some b → t < time b

variable {time value} {table : List ι} {t : K}

/-- Flat before the first breakpoint. -/
theorem curve_of_le {a : ι} (ha : table[0]? = some a) (h : t ≤ time a) :
    curve time value table t = value a := by
  match table with
  | [_] =>
    obtain rfl := Option.some.inj ha
    rfl
  | _ :: _ :: _ =>
    obtain rfl := Option.some.inj ha
    exact if_pos h

/-- From the second breakpoint on, the first one does not matter. -/
theorem curve_cons {a b : ι} {rest : List ι} (hinc : Increasing time (a :: b :: rest))
    (h : time b ≤ t) : curve time value (a :: b :: rest) t = curve time value (b :: rest) t := by
  have hab : time a < time b := List.rel_of_pairwise_cons hinc List.mem_cons_self
  rw [curve, if_neg (not_le.mpr (hab.trans_le h)), if_neg (not_lt.mpr h)]

omit [Field K] in
/-- A breakpoint that is not the first one is not before the second one. -/
theorem Increasing.le_of_getElem? {a b : ι} {rest : List ι} (hinc : Increasing time (b :: rest))
    {i : Nat} (ha : (b :: rest)[i]? = some a) : time b ≤ time a := by
  cases i with
  | zero =>
    obtain rfl := Option.some.inj ha
    exact le_refl _
  | succ i => exact (List.rel_of_pairwise_cons hinc (List.mem_of_getElem? ha)).le

omit [Field K] in
/-- No breakpoint is after the last one. -/
theorem Increasing.le_of_mem_of_last (hinc : Increasing time table) {a b : ι} (ha : a ∈ table)
    (hb : table[table.length - 1]? = some b) : time a ≤ time b := by
  induction table with
  | nil => cases ha
  | cons c rest ih =>
    rcases List.mem_cons.mp ha with rfl | ha
    · exact hinc.le_of_getElem? hb
    · cases rest with
      | nil => cases ha
      | cons d rest => exact ih hinc.of_cons ha hb

/-- Flat after the last breakpoint. -/
theorem curve_of_last (hinc : Increasing time table) {a : ι}
    (ha : table[table.length - 1]? = some a) (h : time a ≤ t) :
    curve time value table t = value a := by
  induction table with
  | nil => cases ha
  | cons b rest ih =>
    cases rest with
    | nil =>
      obtain rfl := Option.some.inj ha
      rfl
    | cons c rest =>
      have htail : Increasing time (c :: rest) := hinc.of_cons
      rw [curve_cons hinc ((htail.le_of_getElem? ha).trans h)]
      exact ih htail ha

/-- **Between two breakpoints** the curve is a line. -/
theorem curve_of_between (hinc : Increasing time table) {a b : ι} {i : Nat}
    (ha : table[i]? = some a) (hb : table[i + 1]? = some b) (hat : time a < t) (htb : t < time b) :
    curve time value table t = line time value a b t := by
  induction table generalizing i with
  | nil => cases ha
  | cons c rest ih =>
    cases rest with
    | nil => cases hb
    | cons d rest =>
      cases i with
      | zero =>
        obtain rfl := Option.some.inj ha
        obtain rfl := Option.some.inj hb
        rw [curve, if_neg (not_le.mpr hat), if_pos htb]
      | succ i =>
        have htail : Increasing time (d :: rest) := hinc.of_cons
        rw [curve_cons hinc ((htail.le_of_getElem? ha).trans hat.le)]
        exact ih htail ha hb

/-- At a breakpoint the curve has its value. -/
theorem curve_at (hinc : Increasing time table) {a : ι} {i : Nat} (ha : table[i]? = some a) :
    curve time value table (time a) = value a := by
  induction table generalizing i with
  | nil => cases ha
  | cons c rest ih =>
    cases i with
    | zero => exact curve_of_le ha (le_refl _)
    | succ i =>
      cases rest with
      | nil => cases ha
      | cons d rest =>
        have htail : Increasing time (d :: rest) := hinc.of_cons
        rw [curve_cons hinc (htail.le_of_getElem? ha)]
        exact ih htail ha

/-- **The interval of a time gives the curve**, from its own breakpoint on. -/
theorem Contains.curve_eq (hinc : Increasing time table) {i : Nat} (h : Contains time table i t)
    {a b : ι} (ha : table[i]? = some a) (hb : table[i + 1]? = some b) (hat : time a ≤ t) :
    curve time value table t = line time value a b t := by
  rcases hat.lt_or_eq with hlt | rfl
  · exact curve_of_between hinc ha hb hlt (h.lt_next b hb)
  · rw [curve_at hinc ha, line, sub_self, zero_div, zero_mul, add_zero]

end Breakpoints
