import Mathlib.Data.List.Rotate
import Mathlib.Tactic.IntervalCases
import SdrModem.Demodulator
import SdrModem.Signal

/-!
# The DC blocker as a filter

What `dc_blocker.c` computes, in the terms of signals: the input, late by the group delay,
minus four moving averages of it.  A ring is a queue that starts at its index, so what the
five rings hold are windows of five signals: the input, and the output of every stage before
the last one.
-/
namespace SdrModem
open Mealy Signal

namespace Ring
variable {n : Nat}

/-- The samples of a ring, the oldest one first. -/
def contents (r : Ring n) : List ℚ := r.samples.toList.rotate r.index

theorem contents_create (h : 0 < n) : (create h).contents = List.replicate n 0 := by
  unfold contents create
  rw [Vector.toList_replicate, List.rotate_replicate]

/-- A list with one element replaced, from behind it. -/
theorem rotate_set_succ {l : List ℚ} {i : Nat} (hi : i < l.length) (x : ℚ) :
    (l.set i x).rotate (i + 1) = (l.rotate i).tail ++ [x] := by
  rw [List.rotate_eq_drop_append_take (by rw [List.length_set]; omega),
    List.rotate_eq_drop_append_take hi.le, List.drop_set_of_lt (by omega),
    List.take_set, List.take_succ_eq_append_getElem hi, List.set_append_right _ _ (by simp [hi.le]),
    List.drop_eq_getElem_cons hi, List.cons_append, List.tail_cons, List.append_assoc]
  simp [hi.le]

/-- **A ring is a queue**: the oldest sample comes out and the new one goes to the end. -/
theorem push_eq {r : Ring n} {a : ℚ} {rest : List ℚ} (h : r.contents = a :: rest) (input : ℚ) :
    (r.push input).2 = a ∧ (r.push input).1.contents = rest ++ [input] := by
  have hi : r.index.val < r.samples.toList.length := by
    rw [Vector.length_toList]
    exact r.index.isLt
  have hhead : r.samples.toList.rotate r.index = r.samples[r.index] :: rest := by
    rw [contents, List.rotate_eq_drop_append_take hi.le, List.drop_eq_getElem_cons hi,
      List.cons_append] at h
    rw [List.rotate_eq_drop_append_take hi.le, List.drop_eq_getElem_cons hi, List.cons_append]
    congr 1
    exact (List.cons.inj h).2
  refine ⟨?_, ?_⟩
  · rw [contents, hhead] at h
    exact (List.cons.inj h).1
  · have hturn : (r.push input).1.contents =
        (r.samples.toList.set r.index input).rotate (r.index.val + 1) := by
      unfold push contents
      dsimp only
      rw [Vector.toList_set]
      by_cases hend : r.index.val + 1 = n
      · rw [if_pos hend, List.rotate_zero]
        have hlength : (r.samples.toList.set r.index input).length = r.index.val + 1 := by
          rw [List.length_set, Vector.length_toList, hend]
        rw [← hlength, List.rotate_length]
      · rw [if_neg hend]
    rw [hturn, rotate_set_succ hi, hhead, List.tail_cons]

/-- **A ring holds a window**, and goes on with it. -/
theorem push_window (hn : 0 < n) {r : Ring n} {y : ℤ → ℚ} {t : ℤ} (h : r.contents = window n y t) :
    (r.push (y t)).2 = y (t - n) ∧ (r.push (y t)).1.contents = window n y (t + 1) := by
  obtain ⟨m, rfl⟩ : ∃ m, n = m + 1 := ⟨n - 1, by omega⟩
  rw [window_succ] at h
  rw [window_succ_next]
  exact push_eq h (y t)

end Ring

/-- **A stage has seen a signal** up to a time. -/
structure Boxcar.Follows {length : Nat} (y : ℤ → ℚ) (t : ℤ) (stage : Boxcar length) : Prop where
  contents : stage.ring.contents = window length y t
  sum : stage.sum = (window length y t).sum

/-- **One stage** is a moving average. -/
theorem Boxcar.Follows.process {length : Nat} (hlength : 0 < length) {y : ℤ → ℚ} {t : ℤ}
    {stage : Boxcar length} (h : stage.Follows y t) :
    (stage.process (y t)).1.Follows y (t + 1) ∧
      (stage.process (y t)).2 = movingAverage length y t := by
  obtain ⟨holdest, hcontents⟩ := Ring.push_window hlength h.contents
  have hsum : stage.sum + (y t - y (t - length)) = (window length y (t + 1)).sum := by
    obtain ⟨m, rfl⟩ : ∃ m, length = m + 1 := ⟨length - 1, by omega⟩
    rw [h.sum, window_succ, window_succ_next, List.sum_cons, List.sum_append, List.sum_singleton]
    ring
  unfold Boxcar.process
  dsimp only
  rw [holdest, hsum]
  exact ⟨⟨hcontents, rfl⟩, (movingAverage_eq length y t).symm⟩

namespace DcBlocker
variable {length : Nat}

/-- Every stage has seen the output of the one before it. -/
def Cascade (length : Nat) (t : ℤ) : (ℤ → ℚ) → List (Boxcar length) → Prop
  | _, [] => True
  | y, stage :: stages => stage.Follows y t ∧ Cascade length t (movingAverage length y) stages

theorem cascade_replicate (hlength : 0 < length) {y : ℤ → ℚ} (hy : Causal y) (count : Nat) :
    Cascade length 0 y (List.replicate count ⟨.create hlength, 0⟩) := by
  induction count generalizing y with
  | zero => exact trivial
  | succ count ih =>
    rw [List.replicate_succ]
    refine ⟨⟨?_, ?_⟩, ih (hy.movingAverage length)⟩
    · rw [hy.window_zero, Ring.contents_create]
    · rw [hy.window_zero, List.sum_replicate, nsmul_zero]

/-- **The loop over the stages**: one moving average after the other. -/
theorem Cascade.process (hlength : 0 < length) {y : ℤ → ℚ} {t : ℤ} {stages : List (Boxcar length)}
    (h : Cascade length t y stages) :
    Cascade length (t + 1) y (cascade stages (y t)).1 ∧
      (cascade stages (y t)).1.length = stages.length ∧
      (cascade stages (y t)).2 = (movingAverage length)^[stages.length] y t := by
  induction stages generalizing y with
  | nil => exact ⟨trivial, rfl, rfl⟩
  | cons stage stages ih =>
    obtain ⟨hstage, hstages⟩ := h
    obtain ⟨hnext, hvalue⟩ := hstage.process hlength
    obtain ⟨hrest, hcount, hdc⟩ := ih hstages
    unfold cascade
    dsimp only
    rw [hvalue]
    refine ⟨⟨hnext, hrest⟩, ?_, ?_⟩
    · rw [List.length_cons, hcount, List.length_cons]
    · rw [hdc, List.length_cons, Function.iterate_succ_apply]

/-- **The blocker has seen a signal** up to a time. -/
structure Follows (x : ℤ → ℚ) (t : ℤ) (blocker : DcBlocker length) : Prop where
  stages : Cascade length t x blocker.stages
  count : blocker.stages.length = dcBlockerStages
  delayed : blocker.delayed.contents = window (dcBlockerStages * (length - 1) / 2) x t

/-- What the filter is: the input, late by the group delay of the averages, without their
output. -/
def filter (length : Nat) (x : ℤ → ℚ) (n : ℤ) : ℚ :=
  x (n - (2 * (length - 1) : Nat)) - (movingAverage length)^[4] x n

theorem delay_eq (length : Nat) : dcBlockerStages * (length - 1) / 2 = 2 * (length - 1) := by
  unfold dcBlockerStages
  omega

/-- A new blocker has not seen anything. -/
theorem follows_create {blocker : DcBlocker length} (h : create length = some blocker)
    {x : ℤ → ℚ} (hx : Causal x) : blocker.Follows x 0 := by
  unfold create at h
  split at h
  · cases h
  · obtain rfl := Option.some.inj h
    refine ⟨cascade_replicate _ hx _, List.length_replicate, ?_⟩
    rw [hx.window_zero, Ring.contents_create]

/-- **One sample.** -/
theorem Follows.step (hlength : 2 ≤ length) {x : ℤ → ℚ} {t : ℤ} {blocker : DcBlocker length}
    (h : blocker.Follows x t) :
    (blocker.step (x t)).1.Follows x (t + 1) ∧ (blocker.step (x t)).2 = [filter length x t] := by
  obtain ⟨hstages, hcount, hdc⟩ := h.stages.process (by omega)
  obtain ⟨hlate, hdelayed⟩ :=
    Ring.push_window (by rw [delay_eq]; omega) h.delayed
  unfold DcBlocker.step
  dsimp only
  refine ⟨⟨hstages, hcount.trans h.count, hdelayed⟩, ?_⟩
  rw [hlate, hdc, h.count, delay_eq, filter]
  rfl

/-- **A block** of a signal. -/
theorem Follows.process (hlength : 2 ≤ length) {x : ℤ → ℚ} {t : Nat} {blocker : DcBlocker length}
    (h : blocker.Follows x t) {xs : List ℚ}
    (hxs : ∀ i (hi : i < xs.length), x (t + i : Nat) = xs[i]) :
    (blocker.process xs).2 = (List.range' t xs.length).map fun n => filter length x (n : Nat) := by
  induction xs generalizing blocker t with
  | nil => rfl
  | cons a xs ih =>
    obtain ⟨hnext, houtput⟩ := h.step hlength
    have hfirst : x t = a := hxs 0 (by simp)
    rw [hfirst] at hnext houtput
    have hrest : (DcBlocker.process (blocker.step a).1 xs).2 =
        (List.range' (t + 1) xs.length).map fun n => filter length x (n : Nat) := by
      refine ih (t := t + 1) (by exact_mod_cast hnext) fun i hi => ?_
      have hthis := hxs (i + 1) (by rw [List.length_cons]; omega)
      rw [show t + 1 + i = t + (i + 1) by omega]
      exact hthis
    change (blocker.step a).2 ++ (DcBlocker.process (blocker.step a).1 xs).2 = _
    rw [houtput, hrest, List.length_cons, List.range'_succ, List.map_cons]
    rfl

/-- The output of calls, one after the other, on a new blocker. -/
theorem chunks_process {blocker : DcBlocker length} (h : create length = some blocker)
    (hlength : 2 ≤ length) (inputs : List (List ℚ)) :
    (chunks process blocker inputs).2 =
      (List.range inputs.flatten.length).map fun n =>
        filter length (ofList inputs.flatten) (n : Nat) := by
  have hstreams : Streaming (@process length) := streaming_steps step
  rw [hstreams.chunks_eq, List.range_eq_range']
  refine (follows_create h (causal_ofList inputs.flatten)).process (t := 0) hlength fun i hi => ?_
  rw [Nat.zero_add, ofList, if_pos (Int.natCast_nonneg i), Int.toNat_natCast,
    List.getD_eq_getElem _ _ hi]

/-- **A constant is taken out** of a signal. -/
theorem filter_const (hlength : 2 ≤ length) {x : ℤ → ℚ} {c : ℚ} {n : ℤ}
    (h : ∀ m, n - (4 * (length - 1) : Nat) ≤ m → m ≤ n → x m = c) : filter length x n = 0 := by
  have hlate : x (n - (2 * (length - 1) : Nat)) = c := h _ (by omega) (by omega)
  rw [filter, hlate, iterate_movingAverage_const (by omega) 4 h, sub_self]

/-- **The DC blocker is the filter it claims to be**, however the input is cut into calls, and
where the last samples have all been the same its output is 0. -/
theorem process_is_filter (hlength : 2 ≤ length) (inputs : List (List ℚ)) :
    ∃ blocker : DcBlocker length, create length = some blocker ∧
      (chunks process blocker inputs).2 =
        (List.range inputs.flatten.length).map (fun n : Nat =>
          ofList inputs.flatten (n - (2 * (length - 1) : Nat)) -
            (movingAverage length)^[4] (ofList inputs.flatten) n) ∧
      ∀ c n, 4 * (length - 1) ≤ n →
        (∀ i, n - 4 * (length - 1) ≤ i → i ≤ n → inputs.flatten[i]? = some c) →
        (chunks process blocker inputs).2[n]? = some 0 := by
  obtain ⟨blocker, hblocker⟩ : ∃ blocker : DcBlocker length, create length = some blocker := by
    unfold create
    rw [dif_neg (by omega)]
    exact ⟨_, rfl⟩
  have houtput := chunks_process hblocker hlength inputs
  refine ⟨blocker, hblocker, houtput, fun c n hn hconst => ?_⟩
  have hlt : n < inputs.flatten.length := by
    by_contra hge
    have hnone := List.getElem?_eq_none (not_lt.mp hge)
    rw [hconst n (by omega) (le_refl n)] at hnone
    cases hnone
  have hzero : filter length (ofList inputs.flatten) (n : Nat) = 0 := by
    refine filter_const hlength (c := c) fun m hge hle => ?_
    obtain ⟨i, rfl⟩ := Int.eq_ofNat_of_zero_le (show 0 ≤ m by omega)
    rw [ofList, if_pos (Int.natCast_nonneg i), Int.toNat_natCast, List.getD_eq_getElem?_getD,
      hconst i (by omega) (by omega)]
    rfl
  rw [houtput, List.getElem?_map, List.getElem?_range hlt, Option.map_some, hzero]

/-- The shortest average, and a constant. -/
theorem process_is_filter_two :
    ∃ blocker : DcBlocker 2, create 2 = some blocker ∧
      (chunks process blocker [[7, 7], [], [7, 7, 7]]).2 =
        (List.range 5).map (fun n : Nat => ofList [7, 7, 7, 7, 7] (n - (2 * (2 - 1) : Nat)) -
          (movingAverage 2)^[4] (ofList [7, 7, 7, 7, 7]) n) ∧
      (chunks process blocker [[7, 7], [], [7, 7, 7]]).2[4]? = some 0 := by
  obtain ⟨blocker, hblocker, houtput, hconst⟩ :=
    process_is_filter (le_refl 2) [[7, 7], [], [7, 7, 7]]
  refine ⟨blocker, hblocker, houtput, hconst 7 4 (le_refl 4) fun i _ hi => ?_⟩
  interval_cases i
  all_goals rfl

end DcBlocker
end SdrModem
