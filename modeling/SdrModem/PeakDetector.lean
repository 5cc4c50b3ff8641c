import Mathlib.Data.List.Chain
import Mathlib.Order.Lattice
import Mathlib.Algebra.Notation.Defs
import SdrModem.Mealy

/-!
# Detecting peaks in bursts

A detector sees one value after the other.  A value that is high enough becomes the
candidate, a higher one takes its place, and a candidate that has been the highest one for
`search` values is a peak.  For `burst` values after it, only a higher peak counts, and for
`holdoff` values none at all.

`Tracks` is the invariant: what the detector keeps is what the values say.  Every peak then
is the highest one around, and two peaks in a row `Follow` each other.
-/
open Mealy

/-- The numbers of a detector. -/
structure PeakRule (α : Type) where
  threshold : α
  holdoff : Nat
  search : Nat
  burst : Nat

/-- A value, and where it is. -/
structure Peak (α : Type) where
  index : Nat
  value : α
deriving DecidableEq

/-- A peak, and the index at which it was settled that it is one. -/
structure SettledPeak (α : Type) extends Peak α where
  settledAt : Nat

/-- A detector that has seen the values before `index`. -/
structure PeakDetector (α : Type) where
  index : Nat
  last : Option (Peak α)
  candidate : Option (Peak α)

section
variable {α : Type} [LinearOrder α]

/-- **One peak after the other**: they are apart, and within a burst the second one is
higher. -/
structure PeakRule.Follows (rule : PeakRule α) (q p : Peak α) : Prop where
  held : q.index + rule.holdoff ≤ p.index
  searched : q.index + rule.search < p.index
  burst : q.index + rule.burst ≤ p.index ∨ q.value < p.value

/-- **A peak of these values.** -/
structure PeakRule.IsPeak (rule : PeakRule α) (value : Nat → α) (s : SettledPeak α) : Prop where
  value_eq : s.value = value s.index
  threshold_le : rule.threshold ≤ s.value
  highest : ∀ i, s.index < i → i ≤ s.index + rule.search → value i ≤ s.value
  settledAt_eq : s.settledAt = s.index + rule.search

namespace PeakDetector
variable [Zero α] (rule : PeakRule α)

/-- The detector before the values. -/
def start (index : Nat) : PeakDetector α := ⟨index, none, none⟩

/-- What a value has to exceed. -/
def floor (d : PeakDetector α) : α :=
  match d.last with
  | none => 0
  | some q => if d.index < q.index + rule.burst then q.value else 0

/-- Whether the next value becomes the candidate. -/
def Accepts (d : PeakDetector α) (value : α) : Prop :=
  (∀ q ∈ d.last, q.index + rule.holdoff ≤ d.index) ∧ rule.threshold ≤ value ∧
    d.floor rule < value ∧ ∀ p ∈ d.candidate, p.value < value

instance (d : PeakDetector α) (value : α) : Decidable (d.Accepts rule value) :=
  inferInstanceAs (Decidable (_ ∧ _ ∧ _ ∧ _))

/-- The candidate with the next value. -/
def search (d : PeakDetector α) (value : α) : Option (Peak α) :=
  if d.Accepts rule value then some ⟨d.index, value⟩ else d.candidate

/-- The next value. -/
def step (d : PeakDetector α) (value : α) : PeakDetector α × List (SettledPeak α) :=
  match d.search rule value with
  | none => (⟨d.index + 1, d.last, none⟩, [])
  | some p =>
    if p.index + rule.search ≤ d.index then (⟨d.index + 1, some p, none⟩, [⟨p, d.index⟩])
    else (⟨d.index + 1, d.last, some p⟩, [])

/-- The next values of a sequence. -/
def run (value : Nat → α) (d : PeakDetector α) (count : Nat) :
    PeakDetector α × List (SettledPeak α) :=
  steps (step rule) d ((List.range' d.index count).map value)

/-- What is known of a candidate. -/
structure Found (value : Nat → α) (last : Option (Peak α)) (p : Peak α) : Prop where
  value_eq : p.value = value p.index
  pos : 0 < p.value
  threshold_le : rule.threshold ≤ p.value
  follows : ∀ q ∈ last, rule.Follows q p

/-- **What the detector keeps is what the values say.** -/
structure Tracks (value : Nat → α) (d : PeakDetector α) : Prop where
  last : ∀ q ∈ d.last, 0 < q.value ∧ q.index + rule.search < d.index
  found : ∀ p ∈ d.candidate, Found rule value d.last p
  within : ∀ p ∈ d.candidate, p.index < d.index ∧ d.index ≤ p.index + rule.search
  highest : ∀ p ∈ d.candidate, ∀ i, p.index < i → i < d.index → value i ≤ p.value

variable {rule} {value : Nat → α} {d : PeakDetector α}

theorem tracks_start (rule : PeakRule α) (value : Nat → α) (index : Nat) :
    Tracks rule value (start index) := ⟨nofun, nofun, nofun, nofun⟩

@[simp] theorem index_step (rule : PeakRule α) (d : PeakDetector α) (v : α) :
    (d.step rule v).1.index = d.index + 1 := by
  unfold step
  split
  · rfl
  · split
    · rfl
    · rfl

/-- What a value exceeds is not negative. -/
theorem Tracks.floor_nonneg (h : Tracks rule value d) : 0 ≤ d.floor rule := by
  unfold floor
  split
  · exact le_refl 0
  · rename_i q hq
    split
    · exact (h.last q hq).1.le
    · exact le_refl 0

/-- A value that is accepted is a candidate. -/
theorem Tracks.found_of_accepts (h : Tracks rule value d) (ha : d.Accepts rule (value d.index)) :
    Found rule value d.last ⟨d.index, value d.index⟩ := by
  obtain ⟨hheld, hthreshold, hfloor, -⟩ := ha
  refine ⟨rfl, h.floor_nonneg.trans_lt hfloor, hthreshold, fun q hq => ⟨hheld q hq, ?_, ?_⟩⟩
  · exact (h.last q hq).2
  · by_cases hburst : d.index < q.index + rule.burst
    · right
      simpa only [floor, Option.mem_def.mp hq, if_pos hburst] using hfloor
    · left
      exact not_lt.mp hburst

/-- **A value that is not accepted is not higher than the candidate**, also where the burst
before has ended in between. -/
theorem Tracks.le_of_not_accepts (h : Tracks rule value d) {p : Peak α} (hp : p ∈ d.candidate)
    {v : α} (ha : ¬ d.Accepts rule v) : v ≤ p.value := by
  have hfound := h.found p hp
  have hwithin := h.within p hp
  by_contra hlt
  rw [not_le] at hlt
  refine ha ⟨fun q hq => ?_, hfound.threshold_le.trans hlt.le, ?_, fun p' hp' => ?_⟩
  · have := (hfound.follows q hq).held
    omega
  · unfold floor
    split
    · exact hfound.pos.trans hlt
    · rename_i q hq
      split
      · rename_i hburst
        rcases (hfound.follows q hq).burst with hafter | hhigher
        · omega
        · exact hhigher.trans hlt
      · exact hfound.pos.trans hlt
  · obtain rfl := Option.mem_unique hp hp'
    exact hlt

/-- **The candidate with the next value**, new or old. -/
theorem Tracks.search (h : Tracks rule value d) {p : Peak α}
    (hp : d.search rule (value d.index) = some p) :
    Found rule value d.last p ∧ p.index ≤ d.index ∧ d.index ≤ p.index + rule.search ∧
      ∀ i, p.index < i → i ≤ d.index → value i ≤ p.value := by
  unfold PeakDetector.search at hp
  split at hp
  · rename_i ha
    obtain rfl := Option.some.inj hp
    exact ⟨h.found_of_accepts ha, le_refl _, Nat.le_add_right _ _, fun i hlt hle => by
      dsimp only at hlt
      omega⟩
  · rename_i ha
    have hwithin := h.within p hp
    refine ⟨h.found p hp, hwithin.1.le, hwithin.2, fun i hlt hle => ?_⟩
    rcases Nat.lt_or_eq_of_le hle with hbefore | rfl
    · exact h.highest p hp i hlt hbefore
    · exact h.le_of_not_accepts hp ha

/-- **One value.** -/
theorem Tracks.step (h : Tracks rule value d) :
    Tracks rule value (d.step rule (value d.index)).1 ∧
    (((d.step rule (value d.index)).2 = [] ∧ (d.step rule (value d.index)).1.last = d.last) ∨
      ∃ s, (d.step rule (value d.index)).2 = [s] ∧ rule.IsPeak value s ∧
        (∀ q ∈ d.last, rule.Follows q s.toPeak) ∧
        (d.step rule (value d.index)).1.last = some s.toPeak) := by
  have hlast : ∀ q ∈ d.last, 0 < q.value ∧ q.index + rule.search < d.index + 1 :=
    fun q hq => ⟨(h.last q hq).1, Nat.lt_succ_of_lt (h.last q hq).2⟩
  unfold PeakDetector.step
  cases hp : d.search rule (value d.index) with
  | none => exact ⟨⟨hlast, nofun, nofun, nofun⟩, Or.inl ⟨rfl, rfl⟩⟩
  | some p =>
    obtain ⟨hfound, hle, hge, hhighest⟩ := h.search hp
    dsimp only
    split
    · rename_i hend
      refine ⟨⟨?_, nofun, nofun, nofun⟩, Or.inr ⟨_, rfl, ?_, hfound.follows, rfl⟩⟩
      · rintro q hq
        obtain rfl := Option.some.inj hq
        exact ⟨hfound.pos, Nat.lt_succ_of_le hend⟩
      · refine ⟨hfound.value_eq, hfound.threshold_le, fun i hlt hi => ?_, le_antisymm hge hend⟩
        exact hhighest i hlt (le_trans hi hend)
    · rename_i hgoes
      refine ⟨⟨hlast, ?_, ?_, ?_⟩, Or.inl ⟨rfl, rfl⟩⟩
      · rintro _ ⟨⟩
        exact hfound
      · rintro _ ⟨⟩
        dsimp only
        omega
      · rintro _ ⟨⟩ i hlt hi
        exact hhighest i hlt (Nat.le_of_lt_succ hi)

theorem run_succ (rule : PeakRule α) (value : Nat → α) (d : PeakDetector α) (count : Nat) :
    run rule value d (count + 1) =
      ((run rule value (d.step rule (value d.index)).1 count).1,
        (d.step rule (value d.index)).2 ++
          (run rule value (d.step rule (value d.index)).1 count).2) := by
  unfold run
  rw [List.range'_succ, List.map_cons, steps, index_step]

/-- A run goes on where it was. -/
theorem run_add (rule : PeakRule α) (value : Nat → α) (d : PeakDetector α) (m n : Nat) :
    run rule value d (m + n) =
      ((run rule value (run rule value d m).1 n).1,
        (run rule value d m).2 ++ (run rule value (run rule value d m).1 n).2) := by
  induction m generalizing d with
  | zero => rw [Nat.zero_add]; rfl
  | succ m ih => rw [Nat.add_right_comm, run_succ, run_succ, ih, List.append_assoc]

@[simp] theorem index_run (rule : PeakRule α) (value : Nat → α) (d : PeakDetector α)
    (count : Nat) : (run rule value d count).1.index = d.index + count := by
  induction count generalizing d with
  | zero => rfl
  | succ count ih =>
    rw [run_succ, ih, index_step]
    omega

/-- **A run**: everything that was settled is a peak, and one follows the other. -/
theorem Tracks.run (h : Tracks rule value d) (count : Nat) :
    (∀ s ∈ (d.run rule value count).2, rule.IsPeak value s) ∧
    List.IsChain rule.Follows
      (d.last.toList ++ (d.run rule value count).2.map SettledPeak.toPeak) := by
  induction count generalizing d with
  | zero =>
    refine ⟨nofun, ?_⟩
    cases d.last with
    | none => exact .nil
    | some q => exact .singleton q
  | succ count ih =>
    rw [run_succ]
    obtain ⟨hnext, ⟨hnone, hsame⟩ | ⟨s, hs, hpeak, hfollows, hlast⟩⟩ := h.step
    · rw [hnone, List.nil_append, ← hsame]
      exact ih hnext
    · obtain ⟨hpeaks, hchain⟩ := ih hnext
      rw [hlast] at hchain
      rw [hs]
      refine ⟨?_, ?_⟩
      · rintro s' hmem
        rcases List.mem_cons.mp hmem with rfl | hmem
        · exact hpeak
        · exact hpeaks s' hmem
      · cases hq : d.last with
        | none => exact hchain
        | some q => exact List.isChain_cons_cons.mpr ⟨hfollows q hq, hchain⟩

end PeakDetector
end
