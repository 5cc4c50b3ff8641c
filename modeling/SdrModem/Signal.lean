import Mathlib.Algebra.BigOperators.Intervals
import Mathlib.Algebra.BigOperators.Group.Finset.Basic
import Mathlib.Data.Nat.Cast.Field
import Mathlib.Tactic.Ring

/-!
# Signals and moving averages

A signal has a value at every integer time, and a causal one is 0 before time 0.  The moving
average of a signal is a signal again, so it can be taken several times.
-/
namespace Signal
variable {K : Type} [Field K]

/-- Nothing before time 0. -/
def Causal (y : ℤ → K) : Prop := ∀ n < 0, y n = 0

/-- The signal of these samples. -/
def ofList (xs : List K) (n : ℤ) : K := if 0 ≤ n then xs.getD n.toNat 0 else 0

/-- The average of the last `L` values. -/
def movingAverage (L : ℕ) (y : ℤ → K) (n : ℤ) : K := (∑ k ∈ Finset.range L, y (n - k)) / L

/-- The `L` values before a time, the oldest one first. -/
def window (L : ℕ) (y : ℤ → K) (n : ℤ) : List K := (List.range L).map fun k => y (n - L + (k : ℕ))

variable {L : ℕ} {y : ℤ → K}

theorem causal_ofList (xs : List K) : Causal (ofList xs) := fun _ hn => if_neg (not_le.mpr hn)

theorem Causal.movingAverage (h : Causal y) (L : ℕ) : Causal (movingAverage L y) := by
  intro n hn
  have hzero : ∑ k ∈ Finset.range L, y (n - k) = 0 :=
    Finset.sum_eq_zero fun k _ => h (n - k) (by omega)
  rw [Signal.movingAverage, hzero, zero_div]

/-- Before time 0 there is nothing in a window. -/
theorem Causal.window_zero (h : Causal y) (L : ℕ) : window L y 0 = List.replicate L 0 := by
  rw [List.eq_replicate_iff]
  refine ⟨by rw [window, List.length_map, List.length_range], ?_⟩
  intro v hv
  obtain ⟨k, hk, rfl⟩ := List.mem_map.mp hv
  rw [List.mem_range] at hk
  exact h _ (by omega)

omit [Field K] in
/-- A window begins with the oldest value. -/
theorem window_succ (L : ℕ) (y : ℤ → K) (n : ℤ) :
    window (L + 1) y n = y (n - (L + 1 : ℕ)) :: window L y n := by
  unfold window
  rw [List.range_succ_eq_map, List.map_cons, List.map_map]
  congr 1
  · rw [Nat.cast_zero, add_zero]
  · refine List.map_congr_left fun k _ => ?_
    dsimp only [Function.comp_apply]
    congr 1
    push_cast
    ring

omit [Field K] in
/-- A window ends with the newest value. -/
theorem window_succ_next (L : ℕ) (y : ℤ → K) (n : ℤ) :
    window (L + 1) y (n + 1) = window L y n ++ [y n] := by
  unfold window
  rw [List.range_succ, List.map_append, List.map_singleton]
  congr 1
  · refine List.map_congr_left fun k _ => ?_
    congr 1
    push_cast
    ring
  · congr 2
    push_cast
    ring

/-- **The moving average** is the average of a window. -/
theorem movingAverage_eq (L : ℕ) (y : ℤ → K) (n : ℤ) :
    movingAverage L y n = (window L y (n + 1)).sum / L := by
  have hsum : (window L y (n + 1)).sum = ∑ k ∈ Finset.range L, y (n + 1 - L + (k : ℕ)) := rfl
  rw [movingAverage, hsum, ← Finset.sum_range_reflect]
  congr 1
  refine Finset.sum_congr rfl fun k hk => ?_
  rw [Finset.mem_range] at hk
  congr 1
  omega

/-- The average of a constant. -/
theorem movingAverage_const [CharZero K] (hL : 1 ≤ L) {c : K} {n : ℤ}
    (h : ∀ m, n - (L - 1 : ℕ) ≤ m → m ≤ n → y m = c) : movingAverage L y n = c := by
  have hsum : ∑ k ∈ Finset.range L, y (n - k) = ∑ _k ∈ Finset.range L, c := by
    refine Finset.sum_congr rfl fun k hk => ?_
    rw [Finset.mem_range] at hk
    exact h _ (by omega) (by omega)
  have hne : (L : K) ≠ 0 := Nat.cast_ne_zero.mpr (by omega)
  rw [movingAverage, hsum, Finset.sum_const, Finset.card_range, nsmul_eq_mul,
    mul_div_cancel_left₀ c hne]

/-- **A constant passes several averages**, each of which looks `L - 1` values back. -/
theorem iterate_movingAverage_const [CharZero K] (hL : 1 ≤ L) {c : K} (count : ℕ) {n : ℤ}
    (h : ∀ m, n - (count * (L - 1) : ℕ) ≤ m → m ≤ n → y m = c) :
    (movingAverage L)^[count] y n = c := by
  induction count generalizing y with
  | zero => exact h n (by simp) (le_refl n)
  | succ count ih =>
    rw [Function.iterate_succ_apply]
    refine ih fun m hge hle => movingAverage_const hL fun i hi hi' => h i ?_ (hi'.trans hle)
    rw [Nat.succ_mul]
    push_cast at hi hge ⊢
    omega

end Signal
