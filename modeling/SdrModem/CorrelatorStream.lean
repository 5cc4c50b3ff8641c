import Mathlib.Tactic.Linarith
import SdrModem.GfskCorrelator
import SdrModem.Mealy

/-!
# The correlator on an endless stream

What the correlator is for, without calls and buffers: a `Tracker` has seen a stream up to
some sample, and positions are counted from the beginning of the stream.  It takes one
sample after the other, so it is a Mealy machine, and where calls begin and end means
nothing to it.

The sampler runs behind the samples that have arrived, by `sampler_lag` samples, and never
turns back: it samples at most one symbol for a sample, and a symbol is at least `sps`
samples behind the one before it, also where the sampler has been moved in between.
-/
namespace SdrModem
open Mealy

/-- A correlator that has seen `past`. -/
structure Tracker where
  past : List ℚ
  holdoff : Nat
  /-- the index and the value of the peak while there is a search -/
  peak : Option (Nat × ℚ)
  burstPeak : ℚ
  burstEnd : Nat
  position : ℚ
  dc : ℚ
  gain : ℚ
  /-- where the burst of a sync at an index ends -/
  ends : Nat → Nat

namespace Tracker
variable (config : CorrelatorConfig)

/-- The zeros of the history come first. -/
def start : Tracker :=
  ⟨List.replicate config.historyLen 0, 0, none, 0, 0, config.historyLen, 0, 1,
    fun p => p + config.burstLen⟩

/-- What the window that ends with a sample looks like. -/
def correlation (t : Tracker) (stop : Nat) : Correlation :=
  config.correlate (config.window t.past stop)

/-- The search for the sync word. -/
def search (t : Tracker) (index : Nat) : Tracker :=
  if index ≥ t.holdoff then
    let value := |(t.correlation config index).value|
    let minValue := if index < t.burstEnd then t.burstPeak else 0
    if value ≥ config.threshold ∧ value > minValue ∧ (∀ p ∈ t.peak, value > p.2) then
      { t with peak := some (index, value) }
    else t
  else t

/-- The sampler goes to the first symbol of the sync word. -/
def sync (t : Tracker) (p : Nat × ℚ) : Tracker :=
  let peak := t.correlation config p.1
  let fraction := peakFraction |(t.correlation config (p.1 - 1)).value| |peak.value|
    |(t.correlation config (p.1 + 1)).value|
  { t with
    dc := (config.dcAndGain t.gain peak).1
    gain := (config.dcAndGain t.gain peak).2
    position := p.1 + fraction - ((config.templateLen : ℚ) - 1) + (config.sps.toNat / 2 : Nat)
    holdoff := p.1 + config.templateLen
    peak := none
    burstPeak := p.2
    burstEnd := t.ends p.1 }

/-- The end of a search. -/
def settle (t : Tracker) (index : Nat) : Tracker :=
  match t.peak with
  | none => t
  | some p => if index - p.1 ≥ config.peakSearchLen then t.sync config p else t

/-- A symbol, if it is time for one. -/
def sample (t : Tracker) (index : Nat) : Tracker × List SoftSymbol :=
  if t.position + config.samplerLag ≤ index then
    let i := ⌊t.position⌋₊
    let mu := t.position - i
    ({ t with position := t.position + config.sps.toNat },
      [⟨t.position, softSymbol (t.past.getD i 0 * (1 - mu) + t.past.getD (i + 1) 0 * mu)
        t.dc t.gain⟩])
  else (t, [])

/-- The next sample arrives. -/
def arrive (t : Tracker) (x : ℚ) : Tracker := { t with past := t.past ++ [x] }

/-- The search at the next sample. -/
def detect (t : Tracker) (x : ℚ) : Tracker :=
  ((t.arrive x).search config t.past.length).settle config t.past.length

/-- The next sample of the stream. -/
def step (t : Tracker) (x : ℚ) : Tracker × List SoftSymbol :=
  (t.detect config x).sample config t.past.length

/-- The samples of a block. -/
def run : Tracker → List ℚ → Tracker × List SoftSymbol := steps (step config)

/-- **Where the cursors are** once all of `past` has been looked at: no symbol is due, and a
search has not gone on for too long. -/
structure Settled (t : Tracker) : Prop where
  history : config.historyLen ≤ t.past.length
  ahead : (t.past.length : ℚ) - 1 < t.position + config.samplerLag
  peak : ∀ p ∈ t.peak, p.1 < t.past.length ∧ t.past.length ≤ p.1 + config.peakSearchLen

/-- **The next symbol is not before `floor`**, and `floor` is at most a symbol ahead. -/
structure NotBefore (floor : ℚ) (t : Tracker) : Prop where
  floor_le : floor ≤ t.position
  recent : floor + config.samplerLag ≤ t.past.length - 1 + config.sps.toNat

end Tracker

/-- **The sizes are as they should be**: the peak search is not cut to nothing. -/
structure CorrelatorConfig.Sound (config : CorrelatorConfig) : Prop where
  two_le_sps : 2 ≤ config.sps.toNat
  search_pos : 0 < config.peakSearchLen

/-- **No burst ends beyond a `size_t`**: a sync is for a peak that is `peak_search_len` samples
behind the end of the buffer, or further. -/
def CorrelatorConfig.BurstFits (config : CorrelatorConfig) : Prop :=
  config.historyLen + config.maxInputBufferLength + config.burstLen ≤ 2 ^ 64 + config.peakSearchLen

/-- The fraction is at most half a sample. -/
theorem peakFraction_mem (before peak after : ℚ) :
    -1 / 2 ≤ peakFraction before peak after ∧ peakFraction before peak after ≤ 1 / 2 := by
  unfold peakFraction
  dsimp only
  split
  · split
    · norm_num
    · split
      · norm_num
      · rename_i hle hge
        exact ⟨not_lt.mp hge, not_lt.mp hle⟩
  · norm_num

namespace Tracker
variable {config : CorrelatorConfig} {t : Tracker} {index : Nat} {floor : ℚ}

/-! ## One sample -/

theorem settled_start (config : CorrelatorConfig) : Settled config (start config) := by
  have hlength : (start config).past.length = config.historyLen := List.length_replicate
  refine ⟨hlength.ge, ?_, nofun⟩
  rw [hlength]
  change (config.historyLen : ℚ) - 1 < config.historyLen + config.samplerLag
  have hlag : (0 : ℚ) ≤ config.samplerLag := Nat.cast_nonneg _
  linarith

/-- What a search does: the peak is the same, or it is here. -/
theorem search_cases (config : CorrelatorConfig) (t : Tracker) (index : Nat) :
    t.search config index = t ∨
      ∃ value, t.search config index = { t with peak := some (index, value) } := by
  unfold search
  dsimp only
  generalize (if index < t.burstEnd then t.burstPeak else 0) = minValue
  split
  · split
    · exact Or.inr ⟨_, rfl⟩
    · exact Or.inl rfl
  · exact Or.inl rfl

@[simp] theorem past_search (t : Tracker) (index : Nat) :
    (t.search config index).past = t.past := by
  rcases search_cases config t index with heq | ⟨value, heq⟩
  · rw [heq]
  · rw [heq]

@[simp] theorem past_settle (t : Tracker) (index : Nat) :
    (t.settle config index).past = t.past := by
  unfold settle
  split
  · rfl
  · split
    · rfl
    · rfl

/-- Where the sampler goes: it is not due yet. -/
theorem position_sync (config : CorrelatorConfig) (t : Tracker) (p : Nat × ℚ) :
    (p.1 + config.peakSearchLen : ℚ) + 1 / 2 + config.sps.toNat ≤
      (t.sync config p).position + config.samplerLag := by
  have hfraction := (peakFraction_mem |(t.correlation config (p.1 - 1)).value|
    |(t.correlation config p.1).value| |(t.correlation config (p.1 + 1)).value|).1
  have hhalf : (0 : ℚ) ≤ (config.sps.toNat / 2 : Nat) := Nat.cast_nonneg _
  have hlag : (config.samplerLag : ℚ) =
      config.templateLen + config.peakSearchLen + config.sps.toNat := by
    rw [CorrelatorConfig.samplerLag]
    push_cast
    ring
  unfold sync
  dsimp only
  rw [hlag]
  linarith

theorem ends_search (t : Tracker) (index : Nat) : (t.search config index).ends = t.ends := by
  rcases search_cases config t index with heq | ⟨value, heq⟩
  · rw [heq]
  · rw [heq]

theorem ends_settle (t : Tracker) (index : Nat) : (t.settle config index).ends = t.ends := by
  unfold settle
  split
  · rfl
  · split
    · rfl
    · rfl

theorem ends_detect (t : Tracker) (x : ℚ) : (t.detect config x).ends = t.ends := by
  unfold detect
  rw [ends_settle, ends_search, arrive]

@[simp] theorem past_detect (t : Tracker) (x : ℚ) : (t.detect config x).past = t.past ++ [x] := by
  unfold detect
  rw [past_settle, past_search, arrive]

/-- The cursors between the search and the sampler. -/
structure Searched (config : CorrelatorConfig) (floor : ℚ) (t : Tracker) (index : Nat) : Prop where
  position : (index : ℚ) - 1 < t.position + config.samplerLag
  floor_le : floor ≤ t.position
  recent : floor + config.samplerLag ≤ index - 1 + config.sps.toNat
  peak : ∀ p ∈ t.peak, p.1 ≤ index ∧ index < p.1 + config.peakSearchLen

/-- The peak before the search ends: old or new, it is not longer ago than the search takes. -/
theorem Settled.peak_search (h : Settled config t) (x : ℚ) :
    ∀ p ∈ ((t.arrive x).search config t.past.length).peak,
      p.1 ≤ t.past.length ∧ t.past.length ≤ p.1 + config.peakSearchLen := by
  rcases search_cases config (t.arrive x) t.past.length with
    heq | ⟨value, heq⟩
  · rw [heq]
    intro p hp
    obtain ⟨hlt, hle⟩ := h.peak p hp
    omega
  · rw [heq]
    rintro p hp
    obtain rfl := Option.some.inj hp
    dsimp only
    omega

/-- **The search** at the next sample. -/
theorem Settled.detect (hsound : config.Sound) (h : Settled config t)
    (hfloor : NotBefore config floor t) (x : ℚ) :
    Searched config floor (t.detect config x) t.past.length := by
  have hpos := hsound.search_pos
  have hpeak := h.peak_search x
  have hsame : ((t.arrive x).search config t.past.length).position =
      t.position := by
    rcases search_cases config (t.arrive x) t.past.length with
      heq | ⟨value, heq⟩
    · rw [heq]
      rfl
    · rw [heq]
      rfl
  unfold Tracker.detect
  generalize (t.arrive x).search config t.past.length = s at hpeak hsame ⊢
  unfold settle
  cases hs : s.peak with
  | none =>
    exact ⟨hsame ▸ h.ahead, hsame ▸ hfloor.floor_le, hfloor.recent, by rw [hs]; nofun⟩
  | some p =>
    obtain ⟨hle, hge⟩ := hpeak p hs
    dsimp only
    split
    · -- the search ends exactly `peak_search_len` samples after the peak
      rename_i hend
      have hindex : (t.past.length : ℚ) = p.1 + config.peakSearchLen := by
        exact_mod_cast (by omega : t.past.length = p.1 + config.peakSearchLen)
      have hposition := position_sync config s p
      rw [← hindex] at hposition
      have hsps : (0 : ℚ) ≤ config.sps.toNat := Nat.cast_nonneg _
      have hrecent := hfloor.recent
      exact ⟨by linarith, by linarith, hrecent, nofun⟩
    · rename_i hgoes
      refine ⟨hsame ▸ h.ahead, hsame ▸ hfloor.floor_le, hfloor.recent, ?_⟩
      rw [hs]
      rintro q hq
      obtain rfl := Option.some.inj hq
      omega

/-- The sampler at this index. -/
theorem Searched.sample (hsound : config.Sound) (h : Searched config floor t index)
    (hlength : t.past.length = index + 1) (hhistory : config.historyLen ≤ index) :
    Settled config (t.sample config index).1 ∧
    (((t.sample config index).2 = [] ∧ NotBefore config floor (t.sample config index).1) ∨
      ∃ s, (t.sample config index).2 = [s] ∧ floor ≤ s.position ∧
        s.position + config.samplerLag ≤ index ∧
        NotBefore config (s.position + config.sps.toNat) (t.sample config index).1) := by
  have hsps : (2 : ℚ) ≤ config.sps.toNat := by exact_mod_cast hsound.two_le_sps
  have hcast : (t.past.length : ℚ) = index + 1 := by exact_mod_cast hlength
  have hpeak : ∀ p ∈ t.peak, p.1 < t.past.length ∧ t.past.length ≤ p.1 + config.peakSearchLen := by
    intro p hp
    obtain ⟨hle, hlt⟩ := h.peak p hp
    omega
  have hposition := h.position
  have hrecent := h.recent
  unfold Tracker.sample
  by_cases hdue : t.position + config.samplerLag ≤ index
  · rw [if_pos hdue]
    refine ⟨⟨by dsimp only; omega, ?_, hpeak⟩, Or.inr ⟨_, rfl, h.floor_le, hdue, ?_⟩⟩
    · dsimp only
      linarith
    · refine ⟨le_refl _, ?_⟩
      dsimp only
      linarith
  · rw [if_neg hdue]
    refine ⟨⟨by dsimp only; omega, ?_, hpeak⟩, Or.inl ⟨rfl, h.floor_le, ?_⟩⟩
    · dsimp only
      linarith
    · dsimp only
      linarith

/-- **One sample**: at most one symbol comes out, and it is not before `floor`. -/
theorem Settled.step (hsound : config.Sound) (h : Settled config t)
    (hfloor : NotBefore config floor t) (x : ℚ) :
    Settled config (t.step config x).1 ∧
    (((t.step config x).2 = [] ∧ NotBefore config floor (t.step config x).1) ∨
      ∃ s, (t.step config x).2 = [s] ∧ floor ≤ s.position ∧
        s.position + config.samplerLag ≤ t.past.length ∧
        NotBefore config (s.position + config.sps.toNat) (t.step config x).1) :=
  (h.detect hsound hfloor x).sample hsound (by simp) h.history

@[simp] theorem past_step (t : Tracker) (x : ℚ) : (t.step config x).1.past = t.past ++ [x] := by
  unfold step sample
  split
  · exact past_detect t x
  · exact past_detect t x

theorem ends_step (t : Tracker) (x : ℚ) : (t.step config x).1.ends = t.ends := by
  unfold step sample
  split
  · exact ends_detect t x
  · exact ends_detect t x

/-! ## A block -/

@[simp] theorem past_run (t : Tracker) (xs : List ℚ) : (t.run config xs).1.past = t.past ++ xs := by
  induction xs generalizing t with
  | nil => simp [run, steps]
  | cons x xs ih =>
    change ((t.step config x).1.run config xs).1.past = _
    rw [ih, past_step, List.append_assoc, List.singleton_append]

theorem ends_run (t : Tracker) (xs : List ℚ) : (t.run config xs).1.ends = t.ends := by
  induction xs generalizing t with
  | nil => rfl
  | cons x xs ih => exact (ih (t.step config x).1).trans (ends_step t x)

/-- A symbol is far enough behind the one before it. -/
def Apart (config : CorrelatorConfig) (a b : ℚ) : Prop := a + config.sps.toNat ≤ b

/-- **A block of samples**: the symbols are apart from each other, from what came before and
from what comes after, and every symbol takes the sampler on by at least `sps` samples. -/
theorem Settled.run_behind (hsound : config.Sound) {a : ℚ} (h : Settled config t)
    (hfloor : NotBefore config (a + config.sps.toNat) t) (xs : List ℚ) :
    Settled config (t.run config xs).1 ∧
    ∃ b, NotBefore config (b + config.sps.toNat) (t.run config xs).1 ∧
      a + (t.run config xs).2.length * config.sps.toNat ≤ b ∧
      ∀ rest, List.IsChain (Apart config) (b :: rest) →
        List.IsChain (Apart config)
          (a :: ((t.run config xs).2.map SoftSymbol.position ++ rest)) := by
  induction xs generalizing t a with
  | nil => exact ⟨h, a, hfloor, by simp [Tracker.run, steps], fun _ hrest => hrest⟩
  | cons x xs ih =>
    obtain ⟨hsettled, hcases⟩ := h.step hsound hfloor x
    change Settled config ((t.step config x).1.run config xs).1 ∧
      ∃ b, NotBefore config (b + config.sps.toNat) ((t.step config x).1.run config xs).1 ∧
        a + ((t.step config x).2 ++ ((t.step config x).1.run config xs).2).length *
          config.sps.toNat ≤ b ∧
        ∀ rest, List.IsChain (Apart config) (b :: rest) →
          List.IsChain (Apart config) (a :: (((t.step config x).2 ++
            ((t.step config x).1.run config xs).2).map SoftSymbol.position ++ rest))
    rcases hcases with ⟨hnone, hfloor⟩ | ⟨s, hs, hle, -, hfloor⟩
    · rw [hnone, List.nil_append]
      exact ih hsettled hfloor
    · obtain ⟨hrun, b, hb, hlength, hchain⟩ := ih hsettled hfloor
      rw [hs]
      refine ⟨hrun, b, hb, ?_, fun rest hrest => ?_⟩
      · rw [List.singleton_append, List.length_cons]
        push_cast
        linarith
      · exact List.isChain_cons_cons.mpr ⟨hle, hchain rest hrest⟩

/-- The sampler is where it is. -/
theorem Settled.notBefore (h : Settled config t) :
    NotBefore config ((t.past.length : ℚ) - 1 - config.samplerLag) t := by
  have hahead := h.ahead
  have hsps : (0 : ℚ) ≤ config.sps.toNat := Nat.cast_nonneg _
  constructor
  · linarith
  · linarith

/-- A symbol could have been sampled just now. -/
theorem Settled.behind (h : Settled config t) :
    ∃ a, a + config.sps.toNat = (t.past.length : ℚ) - 1 - config.samplerLag ∧
      NotBefore config (a + config.sps.toNat) t := by
  refine ⟨(t.past.length : ℚ) - 1 - config.samplerLag - config.sps.toNat, sub_add_cancel _ _, ?_⟩
  rw [sub_add_cancel]
  exact h.notBefore

theorem Settled.run (hsound : config.Sound) (h : Settled config t) (xs : List ℚ) :
    Settled config (t.run config xs).1 := by
  obtain ⟨a, -, hfloor⟩ := h.behind
  exact (h.run_behind hsound hfloor xs).1

/-- **A block has a symbol for every `sps` samples**, and one more at most. -/
theorem Settled.length_run_le (hsound : config.Sound) (h : Settled config t) (xs : List ℚ) :
    (t.run config xs).2.length ≤ xs.length / config.sps.toNat + 1 := by
  have hpos : 0 < config.sps.toNat := by have := hsound.two_le_sps; omega
  obtain ⟨a, ha, hfloor⟩ := h.behind
  obtain ⟨-, b, hb, hle, -⟩ := h.run_behind hsound hfloor xs
  have hrecent := hb.recent
  rw [past_run, List.length_append] at hrecent
  push_cast at hrecent
  have hcast : ((t.run config xs).2.length * config.sps.toNat : ℚ) ≤
      xs.length + config.sps.toNat := by linarith
  rw [← Nat.add_div_right _ hpos, Nat.le_div_iff_mul_le hpos]
  exact_mod_cast hcast

end Tracker
end SdrModem
