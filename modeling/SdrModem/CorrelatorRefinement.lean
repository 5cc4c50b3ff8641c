import SdrModem.CorrelatorStream

/-!
# The correlator in calls

A call of `gfsk_correlator_process` does to its buffer what a `Tracker` does to the stream,
`base` samples further back.  As long as the cursors of the tracker are where they should
be, none of the checks of the model fails: every read is within the samples that have
arrived, no difference wraps around, and the output has room.
-/
namespace SdrModem

/-- **The buffer is a part of the stream**: it starts at `base`, and the samples `ahead` have
not been looked at.  The next one has this index in the buffer. -/
structure Mirrors (config : CorrelatorConfig) (base index : Nat) (ahead : List ℚ)
    (c : GfskCorrelator) (t : Tracker) : Prop where
  config_eq : c.config = config
  samples : c.samples = t.past.drop base ++ ahead
  index_eq : c.correlatorIndex = index
  holdoff : c.holdoffIndex = t.holdoff - base
  search : c.peakSearch = t.peak.isSome
  peak : ∀ p ∈ t.peak, c.peakIndex + base = p.1 ∧ c.peakValue = p.2
  burstPeak : c.burstPeak = t.burstPeak
  burstEnd : c.burstEndIndex = t.burstEnd - base
  position : c.samplePosition + base = t.position
  dc : c.dc = t.dc
  gain : c.gain = t.gain

/-- **The bursts of a call end where the code says**: the buffer of the call is the stream from
`base` to `stop`. -/
def CorrelatorConfig.EndsIn (config : CorrelatorConfig) (base stop : Nat) (ends : Nat → Nat) :
    Prop :=
  ∀ p, base ≤ p → p + config.peakSearchLen < stop →
    ends p - base = (p - base + config.burstLen) % 2 ^ 64

theorem checkedSub_of_le {a b : Nat} (h : b ≤ a) : checkedSub a b = some (a - b) := if_pos h

namespace CorrelatorConfig
variable {config : CorrelatorConfig}

/-- A window behind `base`, in both coordinates. -/
theorem window_drop {past : List ℚ} {base stop : Nat} (htemplate : config.templateLen ≤ stop + 1)
    (hstop : stop + base < past.length) (ahead : List ℚ) :
    config.window (past.drop base ++ ahead) stop = config.window past (stop + base) := by
  have hstart : base + (stop + 1 - config.templateLen) = stop + base + 1 - config.templateLen := by
    omega
  unfold window
  rw [List.drop_append_of_le_length (by rw [List.length_drop]; omega), List.drop_drop, hstart,
    List.take_append_of_le_length]
  rw [List.length_drop]
  omega

/-- If no burst ends beyond a `size_t`, bursts end as they do in the stream. -/
theorem BurstFits.endsIn (h : config.BurstFits) {base stop : Nat}
    (hstop : stop ≤ base + config.historyLen + config.maxInputBufferLength) :
    config.EndsIn base stop fun p => p + config.burstLen := by
  intro p hbase hlast
  unfold BurstFits at h
  dsimp only
  rw [Nat.mod_eq_of_lt (by omega)]
  omega

theorem templateLen_le : config.templateLen ≤ config.historyLen := by
  unfold historyLen samplerLag
  omega

/-- There is room in front of the sampler: twice `sps` is not cut to nothing, either. -/
theorem Sound.lag_lt (h : config.Sound) : config.samplerLag < config.historyLen := by
  have hdouble : (2 * config.sps).toNat ≠ 0 := by
    intro hzero
    have hsearch : gfskCorrelatorPeakSearchSymbols * config.sps = 4 * (2 * config.sps) := by
      rw [← UInt32.mul_assoc]
      rfl
    have hcut := h.search_pos
    rw [peakSearchLen, hsearch, UInt32.toNat_inj.mp (hzero.trans (UInt32.toNat_zero).symm)] at hcut
    exact absurd hcut (by decide)
  unfold historyLen
  omega

end CorrelatorConfig

namespace Mirrors
variable {config : CorrelatorConfig} {base index : Nat} {ahead : List ℚ} {c : GfskCorrelator}
  {t : Tracker}

theorem length_samples (h : Mirrors config base index ahead c t) :
    c.samples.length = t.past.length - base + ahead.length := by
  rw [h.samples, List.length_append, List.length_drop]

/-- **A window that has arrived** is read. -/
theorem correlate_eq (h : Mirrors config base index ahead c t) (stop : Nat)
    (htemplate : config.templateLen ≤ stop + 1) (hstop : stop + base < t.past.length) :
    c.correlate stop = some (t.correlation config (stop + base)) := by
  have hlength := h.length_samples
  unfold GfskCorrelator.correlate
  rw [h.config_eq, checkedSub_of_le htemplate, Option.bind_some, if_pos (by omega), h.samples,
    CorrelatorConfig.window_drop htemplate hstop]
  rfl

/-- A sample that has arrived is read. -/
theorem getElem?_eq (h : Mirrors config base index ahead c t) {i : Nat}
    (hi : i + base < t.past.length) : c.samples[i]? = some (t.past.getD (i + base) 0) := by
  rw [h.samples, List.getElem?_append_left (by rw [List.length_drop]; omega), List.getElem?_drop,
    Nat.add_comm base i, List.getD_eq_getElem?_getD, List.getElem?_eq_getElem hi]
  rfl

/-- **The search.** -/
theorem search_eq (h : Mirrors config base index ahead c t)
    (hindex : index + base + 1 = t.past.length) (hhistory : config.historyLen ≤ index) :
    ∃ c', c.search index = some c' ∧
      Mirrors config base index ahead c' (t.search config (index + base)) := by
  have htemplate := config.templateLen_le
  have hfound := h.correlate_eq index (by omega) (by omega)
  have hheld : index ≥ c.holdoffIndex ↔ index + base ≥ t.holdoff := by
    rw [h.holdoff]
    omega
  have hmin : (if index < c.burstEndIndex then c.burstPeak else 0) =
      if index + base < t.burstEnd then t.burstPeak else 0 := by
    have hburst : index < c.burstEndIndex ↔ index + base < t.burstEnd := by
      rw [h.burstEnd]
      omega
    simp only [hburst, h.burstPeak]
  have hhigher : ∀ value : ℚ, (c.peakSearch = false ∨ value > c.peakValue) ↔
      ∀ p ∈ t.peak, value > p.2 := by
    intro value
    rw [h.search]
    cases hp : t.peak with
    | none => simp
    | some p => simp [(h.peak p hp).2]
  unfold GfskCorrelator.search Tracker.search
  by_cases hheld' : index + base ≥ t.holdoff
  · rw [if_pos (hheld.mpr hheld'), if_pos hheld', hfound, Option.bind_some]
    dsimp only
    rw [hmin]
    generalize |(t.correlation config (index + base)).value| = value
    generalize (if index + base < t.burstEnd then t.burstPeak else 0) = minValue
    have hcondition : (value ≥ c.config.threshold ∧ value > minValue ∧
        (c.peakSearch = false ∨ value > c.peakValue)) ↔
        value ≥ config.threshold ∧ value > minValue ∧ ∀ p ∈ t.peak, value > p.2 := by
      rw [hhigher, h.config_eq]
    by_cases hpeak : value ≥ config.threshold ∧ value > minValue ∧ ∀ p ∈ t.peak, value > p.2
    · rw [if_pos (hcondition.mpr hpeak), if_pos hpeak]
      refine ⟨_, rfl, ?_⟩
      exact { h with
        search := rfl
        peak := fun p hp => by
          obtain rfl := Option.some.inj hp
          exact ⟨rfl, rfl⟩ }
    · rw [if_neg (mt hcondition.mp hpeak), if_neg hpeak]
      exact ⟨c, rfl, h⟩
  · rw [if_neg (mt hheld.mp hheld'), if_neg hheld']
    exact ⟨c, rfl, h⟩

/-- **A sync**, for a peak that is far enough behind the last sample and before it. -/
theorem sync_eq (h : Mirrors config base index ahead c t) {p : Nat × ℚ} (hp : t.peak = some p)
    (hafter : p.1 + 1 < t.past.length) (hbefore : config.templateLen < p.1 - base)
    (hposition : (base : ℚ) ≤ (t.sync config p).position)
    (hends : t.ends p.1 - base = (p.1 - base + config.burstLen) % 2 ^ 64) :
    ∃ c', c.sync = some c' ∧ Mirrors config base index ahead c' (t.sync config p) := by
  obtain ⟨hindex, hvalue⟩ := h.peak p hp
  have hat := h.correlate_eq c.peakIndex (by omega) (by omega)
  have hprevious := h.correlate_eq (c.peakIndex - 1) (by omega) (by omega)
  have hnext := h.correlate_eq (c.peakIndex + 1) (by omega) (by omega)
  rw [hindex] at hat
  rw [show c.peakIndex - 1 + base = p.1 - 1 by omega] at hprevious
  rw [show c.peakIndex + 1 + base = p.1 + 1 by omega] at hnext
  have hcast : (c.peakIndex : ℚ) = p.1 - base := by
    rw [← hindex]
    push_cast
    ring
  unfold GfskCorrelator.sync
  rw [hat, Option.bind_some, checkedSub_of_le (by omega), Option.bind_some, hprevious,
    Option.bind_some, hnext, Option.bind_some]
  dsimp only
  have hsame : (c.peakIndex : ℚ) + peakFraction |(t.correlation config (p.1 - 1)).value|
      |(t.correlation config p.1).value| |(t.correlation config (p.1 + 1)).value| -
        ((c.config.templateLen : ℚ) - 1) + (c.config.sps.toNat / 2 : Nat) =
      (t.sync config p).position - base := by
    rw [hcast, h.config_eq]
    unfold Tracker.sync
    dsimp only
    ring
  rw [hsame, if_neg (by linarith)]
  refine ⟨_, rfl, ?_⟩
  exact { h with
    holdoff := by
      rw [h.config_eq]
      change c.peakIndex + config.templateLen = p.1 + config.templateLen - base
      omega
    search := rfl
    peak := nofun
    burstPeak := hvalue
    burstEnd := by
      rw [h.config_eq]
      change (c.peakIndex + config.burstLen) % 2 ^ 64 = t.ends p.1 - base
      rw [hends, ← hindex, Nat.add_sub_cancel]
    position := by ring
    dc := by
      rw [h.config_eq, h.gain]
      rfl
    gain := by
      rw [h.config_eq, h.gain]
      rfl }

/-- **The end of a search.** -/
theorem settle_eq (hsound : config.Sound) (h : Mirrors config base index ahead c t)
    (hindex : index + base + 1 = t.past.length) (hhistory : config.historyLen ≤ index)
    (hpeak : ∀ p ∈ t.peak,
      p.1 ≤ index + base ∧ index + base ≤ p.1 + config.peakSearchLen)
    (hends : config.EndsIn base (index + base + 1) t.ends) :
    ∃ c', c.settle index = some c' ∧
      Mirrors config base index ahead c' (t.settle config (index + base)) := by
  have hpos := hsound.search_pos
  have hsps := hsound.two_le_sps
  unfold GfskCorrelator.settle Tracker.settle
  cases hp : t.peak with
  | none =>
    rw [h.search, hp]
    exact ⟨c, rfl, h⟩
  | some p =>
    obtain ⟨hle, hge⟩ := hpeak p hp
    obtain ⟨hpindex, -⟩ := h.peak p hp
    rw [h.search, hp, Option.isSome_some, if_pos rfl, checkedSub_of_le (by omega), Option.bind_some,
      h.config_eq]
    have hdistance : index - c.peakIndex = index + base - p.1 := by omega
    rw [hdistance]
    dsimp only
    by_cases hend : index + base - p.1 ≥ config.peakSearchLen
    · rw [if_pos hend, if_pos hend]
      have hlen : config.historyLen = config.templateLen + config.peakSearchLen +
          config.sps.toNat + (2 * config.sps).toNat := rfl
      refine h.sync_eq hp (by omega) (by omega) ?_ (hends p.1 (by omega) (by omega))
      -- the new position is not before the buffer: the lag is shorter than the history
      have hsync := Tracker.position_sync config t p
      have hcast : (p.1 + config.peakSearchLen : ℚ) = index + base := by
        exact_mod_cast (by omega : p.1 + config.peakSearchLen = index + base)
      have hlag : (config.samplerLag : ℚ) ≤ index := by
        exact_mod_cast (by have := hsound.lag_lt; omega : config.samplerLag ≤ index)
      have hnonneg : (0 : ℚ) ≤ config.sps.toNat := Nat.cast_nonneg _
      linarith
    · rw [if_neg hend, if_neg hend]
      exact ⟨c, rfl, h⟩

end Mirrors

theorem GfskCorrelator.create_eq {config : CorrelatorConfig} {c : GfskCorrelator}
    (h : create config = some c) :
    c = ⟨config, List.replicate config.historyLen 0, config.historyLen, 0, false, 0, 0, 0, 0,
      config.historyLen, 0, 1⟩ := by
  unfold create at h
  split at h
  · cases h
  · split at h
    · cases h
    · exact (Option.some.inj h).symm

/-- A symbol of the buffer in the stream. -/
def SoftSymbol.shift (base : Nat) (s : SoftSymbol) : SoftSymbol := ⟨s.position + base, s.value⟩

theorem GfskCorrelator.outputSymbols_of_not_due {c : GfskCorrelator} {index : Nat}
    (h : ¬ c.samplePosition + c.config.samplerLag ≤ index) (room : Nat) :
    outputSymbols index room c = some (c, []) := by
  cases room with
  | zero => exact if_neg h
  | succ room => exact if_neg h

namespace Mirrors
variable {config : CorrelatorConfig} {base index : Nat} {ahead : List ℚ} {c : GfskCorrelator}
  {t : Tracker}

/-- **One symbol**, at a position that has arrived. -/
theorem outputSymbol_eq (h : Mirrors config base index ahead c t) {i : Nat}
    (hbase : (base : ℚ) ≤ t.position) (hnext : ⌊t.position⌋₊ + 1 < t.past.length)
    (hdue : t.position + config.samplerLag ≤ i) :
    ∃ c' s, c.outputSymbol = some (c', s) ∧
      Mirrors config base index ahead c' (t.sample config i).1 ∧
      [s.shift base] = (t.sample config i).2 := by
  have hnonneg : 0 ≤ c.samplePosition := by linarith [h.position]
  have hfloor : ⌊t.position⌋₊ = ⌊c.samplePosition⌋₊ + base := by
    rw [← h.position, Nat.floor_add_natCast hnonneg]
  have hmu : c.samplePosition - (⌊c.samplePosition⌋₊ : ℚ) = t.position - (⌊t.position⌋₊ : ℚ) := by
    rw [hfloor, ← h.position]
    push_cast
    ring
  have hthis := h.getElem?_eq (i := ⌊c.samplePosition⌋₊) (by omega)
  have hafter := h.getElem?_eq (i := ⌊c.samplePosition⌋₊ + 1) (by omega)
  rw [← hfloor] at hthis
  rw [show ⌊c.samplePosition⌋₊ + 1 + base = ⌊t.position⌋₊ + 1 by omega] at hafter
  unfold GfskCorrelator.outputSymbol
  rw [if_neg (not_lt.mpr hnonneg)]
  dsimp only
  rw [hthis, Option.bind_some, hafter, Option.bind_some, hmu]
  refine ⟨_, _, rfl, ?_, ?_⟩
  · unfold Tracker.sample
    rw [if_pos hdue]
    exact { h with
      position := by
        rw [h.config_eq, ← h.position]
        ring }
  · unfold Tracker.sample
    rw [if_pos hdue, SoftSymbol.shift, h.dc, h.gain, h.position]

/-- Whether a symbol is due, in both coordinates. -/
theorem due_iff (h : Mirrors config base index ahead c t) :
    c.samplePosition + c.config.samplerLag ≤ index ↔
      t.position + config.samplerLag ≤ (index + base : Nat) := by
  rw [← h.position, h.config_eq]
  push_cast
  constructor
  · intro hle
    linarith
  · intro hle
    linarith

/-- **The sampler**: it samples once at most. -/
theorem outputSymbols_eq (hsound : config.Sound) {floor : ℚ}
    (h : Mirrors config base index ahead c t) (hindex : index + base + 1 = t.past.length)
    (hhistory : config.historyLen ≤ index)
    (hsearched : Tracker.Searched config floor t (index + base)) {room : Nat}
    (hroom : t.position + config.samplerLag ≤ (index + base : Nat) → 0 < room) :
    ∃ c' symbols, GfskCorrelator.outputSymbols index room c = some (c', symbols) ∧
      Mirrors config base index ahead c' (t.sample config (index + base)).1 ∧
      symbols.map (SoftSymbol.shift base) = (t.sample config (index + base)).2 := by
  have hsps : (2 : ℚ) ≤ config.sps.toNat := by exact_mod_cast hsound.two_le_sps
  have hposition := hsearched.position
  by_cases hdue : t.position + config.samplerLag ≤ (index + base : Nat)
  · obtain ⟨room, rfl⟩ : ∃ left, room = left + 1 := ⟨room - 1, by have := hroom hdue; omega⟩
    have hlag : (config.samplerLag : ℚ) + 1 ≤ index := by
      exact_mod_cast (by have := hsound.lag_lt; omega : config.samplerLag + 1 ≤ index)
    have hone : (1 : ℚ) ≤ config.samplerLag := by
      have hle : config.sps.toNat ≤ config.samplerLag := by
        unfold CorrelatorConfig.samplerLag
        omega
      have hcast : (config.sps.toNat : ℚ) ≤ config.samplerLag := by exact_mod_cast hle
      linarith
    push_cast at hdue hposition
    have hbase : (base : ℚ) ≤ t.position := by linarith
    have hnext : ⌊t.position⌋₊ + 1 < t.past.length := by
      have hfloor : (⌊t.position⌋₊ : ℚ) ≤ t.position :=
        Nat.floor_le ((Nat.cast_nonneg base).trans hbase)
      have hlt : (⌊t.position⌋₊ + 1 : ℚ) ≤ (index + base : Nat) := by
        push_cast
        linarith
      have hnat : ⌊t.position⌋₊ + 1 ≤ index + base := by exact_mod_cast hlt
      omega
    have hdue' : t.position + config.samplerLag ≤ (index + base : Nat) := by
      push_cast
      exact hdue
    obtain ⟨c', s, hc', hmirrors, hs⟩ := h.outputSymbol_eq hbase hnext hdue'
    -- the next symbol is not due before `sps` samples have passed
    have hnot : ¬ c'.samplePosition + c'.config.samplerLag ≤ index := by
      rw [hmirrors.due_iff]
      unfold Tracker.sample
      rw [if_pos hdue']
      push_cast
      linarith
    refine ⟨c', [s], ?_, hmirrors, hs⟩
    rw [GfskCorrelator.outputSymbols, if_pos (h.due_iff.mpr hdue')]
    dsimp only
    rw [hc', Option.bind_some]
    dsimp only
    rw [GfskCorrelator.outputSymbols_of_not_due hnot room, Option.bind_some]
  · refine ⟨c, [], GfskCorrelator.outputSymbols_of_not_due (mt h.due_iff.mp hdue) room, ?_, ?_⟩
    · unfold Tracker.sample
      rw [if_neg hdue]
      exact h
    · unfold Tracker.sample
      rw [if_neg hdue]
      rfl

/-- The next sample arrives. -/
theorem arrive {x : ℚ} (h : Mirrors config base index (x :: ahead) c t)
    (hbase : base ≤ t.past.length) : Mirrors config base index ahead c (t.arrive x) := by
  refine { h with samples := ?_ }
  rw [h.samples, Tracker.arrive, List.drop_append_of_le_length hbase, List.append_assoc]
  rfl

/-- **The search at the next sample.** -/
theorem detect_eq {x : ℚ} (hsound : config.Sound) (h : Mirrors config base index (x :: ahead) c t)
    (hindex : index + base = t.past.length) (hhistory : config.historyLen ≤ index)
    (hsettled : Tracker.Settled config t)
    (hends : config.EndsIn base (index + base + 1) t.ends) :
    ∃ c', (c.search index).bind (fun c => c.settle index) = some c' ∧
      Mirrors config base index ahead c' (t.detect config x) := by
  have hlength : index + base + 1 = (t.arrive x).past.length := by
    rw [Tracker.arrive, List.length_append, List.length_singleton]
    omega
  have hpeak := hsettled.peak_search x
  rw [← hindex] at hpeak
  obtain ⟨c1, hc1, h1⟩ := (h.arrive (by omega)).search_eq hlength hhistory
  obtain ⟨c2, hc2, h2⟩ :=
    h1.settle_eq hsound (by rw [Tracker.past_search]; exact hlength) hhistory hpeak
      (by rw [Tracker.ends_search]; exact hends)
  refine ⟨c2, ?_, ?_⟩
  · rw [hc1, Option.bind_some, hc2]
  · unfold Tracker.detect
    rw [← hindex]
    exact h2

/-- **The loop.**  The symbols before have left enough room: `max_input_buffer_length`
samples before the end of the call, the sampler had not come further than `output` says. -/
theorem loop_eq (hsound : config.Sound) {floor : ℚ} {output : List SoftSymbol}
    (h : Mirrors config base index ahead c t) (hindex : index + base = t.past.length)
    (hhistory : config.historyLen ≤ index) (hsettled : Tracker.Settled config t)
    (hfloor : Tracker.NotBefore config floor t)
    (hends : config.EndsIn base (t.past.length + ahead.length) t.ends)
    (hroom : ((t.past.length + ahead.length : Nat) : ℚ) - 1 - config.maxInputBufferLength +
      output.length * config.sps.toNat ≤ floor + config.samplerLag) :
    ∃ c' symbols, GfskCorrelator.loop ahead.length c output = some (c', output ++ symbols) ∧
      Mirrors config base (index + ahead.length) [] c' (t.run config ahead).1 ∧
      symbols.map (SoftSymbol.shift base) = (t.run config ahead).2 := by
  induction ahead generalizing c t index floor output with
  | nil => exact ⟨c, [], by rw [List.append_nil]; rfl, h, rfl⟩
  | cons x xs ih =>
    obtain ⟨c1, hc1, h1⟩ := h.detect_eq hsound hindex hhistory hsettled
      fun p hp hlast => hends p hp (by rw [List.length_cons]; omega)
    have hsearched := hsettled.detect hsound hfloor x
    obtain ⟨hsettled', hcases⟩ := hsettled.step hsound hfloor x
    have hdueRoom : (t.detect config x).position + config.samplerLag ≤ (index + base : Nat) →
        0 < config.outputLen - output.length := by
      intro hdue
      have hle : (output.length * config.sps.toNat : Nat) ≤ (config.maxInputBufferLength : ℚ) := by
        have hfloorLe := hsearched.floor_le
        rw [hindex] at hdue
        push_cast [List.length_cons] at hroom ⊢
        have hnonneg : (0 : ℚ) ≤ xs.length := Nat.cast_nonneg _
        linarith
      have hdiv := (Nat.le_div_iff_mul_le (by have := hsound.two_le_sps; omega)).mpr
        (Nat.cast_le.mp hle)
      unfold CorrelatorConfig.outputLen
      omega
    rw [← hindex] at hsearched
    have hlength : index + base + 1 = (t.detect config x).past.length := by
      rw [Tracker.past_detect, List.length_append, List.length_singleton, hindex]
    obtain ⟨c2, symbols, hc2, h2, hsymbols⟩ :=
      h1.outputSymbols_eq hsound hlength hhistory hsearched hdueRoom
    rw [hindex] at h2 hsymbols
    have hnext : Mirrors config base (index + 1) xs
        { c2 with correlatorIndex := c2.correlatorIndex + 1 } (t.step config x).1 :=
      { h2 with index_eq := congrArg (· + 1) h2.index_eq }
    have hroom' : ∃ floor', Tracker.NotBefore config floor' (t.step config x).1 ∧
        (((t.step config x).1.past.length + xs.length : Nat) : ℚ) - 1 -
          config.maxInputBufferLength + (output ++ symbols).length * config.sps.toNat ≤
            floor' + config.samplerLag := by
      have hcount : (output ++ symbols).length = output.length + (t.step config x).2.length := by
        rw [List.length_append, Tracker.step, ← hsymbols, List.length_map]
      rw [hcount, Tracker.past_step, List.length_append, List.length_singleton]
      push_cast [List.length_cons] at hroom ⊢
      rcases hcases with ⟨hnone, hfloor⟩ | ⟨s, hs, hle, -, hfloor⟩
      · rw [hnone]
        refine ⟨floor, hfloor, ?_⟩
        rw [List.length_nil, Nat.cast_zero]
        linarith
      · rw [hs]
        refine ⟨_, hfloor, ?_⟩
        rw [List.length_singleton, Nat.cast_one]
        linarith
    obtain ⟨floor', hfloor', hroom'⟩ := hroom'
    obtain ⟨c', more, hloop, hend, hmore⟩ := ih hnext
      (by rw [Tracker.past_step, List.length_append, List.length_singleton]; omega) (by omega)
      hsettled' hfloor'
      (by
        rw [Tracker.ends_step, Tracker.past_step, List.length_append, List.length_singleton,
          Nat.add_assoc, Nat.add_comm 1]
        exact hends)
      hroom'
    refine ⟨c', symbols ++ more, ?_, ?_, ?_⟩
    · rw [List.length_cons, GfskCorrelator.loop]
      dsimp only
      rw [h.index_eq, ← Option.bind_assoc, hc1, Option.bind_some, h1.config_eq, hc2,
        Option.bind_some]
      dsimp only
      rw [hloop, List.append_assoc]
    · rw [List.length_cons, Nat.add_comm xs.length 1, ← Nat.add_assoc]
      exact hend
    · rw [List.map_append, hsymbols, hmore]
      rfl

/-- **The end of a call**: the buffer starts later, and has the history in it. -/
theorem keepHistory_eq (hsound : config.Sound) (h : Mirrors config base index [] c t)
    (hindex : index + base = t.past.length) (hhistory : config.historyLen ≤ index)
    (hsettled : Tracker.Settled config t) (start : Nat)
    (hstart : start + config.historyLen = t.past.length) :
    ∃ c', c.keepHistory = some c' ∧ Mirrors config start config.historyLen [] c' t := by
  have hlength := h.length_samples
  rw [List.length_nil, Nat.add_zero] at hlength
  -- the peak of a search is not older than the history
  have hpeak : ∀ p ∈ t.peak, start ≤ p.1 := by
    intro p hp
    have hrecent := (hsettled.peak p hp).2
    have hsearch : config.peakSearchLen ≤ config.historyLen := by
      unfold CorrelatorConfig.historyLen CorrelatorConfig.samplerLag
      omega
    omega
  have hposition : (start : ℚ) ≤ t.position := by
    have hahead := hsettled.ahead
    have hlag : (config.samplerLag : ℚ) + 1 ≤ config.historyLen := by
      exact_mod_cast hsound.lag_lt
    have hcast : (start : ℚ) + config.historyLen = t.past.length := by exact_mod_cast hstart
    linarith
  obtain ⟨shift, hshift⟩ : ∃ shift, start = base + shift := ⟨start - base, by omega⟩
  have hshiftLength : c.samples.length - config.historyLen = shift := by omega
  have hpeakIndex : ∃ peakIndex,
      (if c.peakSearch then checkedSub c.peakIndex shift else some c.peakIndex) =
        some peakIndex ∧ ∀ p ∈ t.peak, peakIndex + start = p.1 := by
    rw [h.search]
    cases hp : t.peak with
    | none => exact ⟨c.peakIndex, rfl, nofun⟩
    | some p =>
      have hle := hpeak p hp
      have hpindex := (h.peak p hp).1
      refine ⟨c.peakIndex - shift, ?_, fun q hq => ?_⟩
      · rw [Option.isSome_some, if_pos rfl, checkedSub_of_le (by omega)]
      · obtain rfl := Option.some.inj hq
        omega
  obtain ⟨peakIndex, hpeakIndex, hsame⟩ := hpeakIndex
  have hcut : ∀ n : Nat, (if n > shift then n - shift else 0) = n - shift := by
    intro n
    split
    · rfl
    · omega
  unfold GfskCorrelator.keepHistory
  rw [h.config_eq, checkedSub_of_le (by omega), Option.bind_some, hshiftLength, h.index_eq,
    checkedSub_of_le (by omega), Option.bind_some, hpeakIndex, Option.bind_some]
  have hcast : (start : ℚ) = base + shift := by exact_mod_cast hshift
  rw [if_neg (by linarith [h.position])]
  refine ⟨_, rfl, ?_⟩
  constructor
  · rfl
  · dsimp only
    rw [h.samples, List.append_nil, List.append_nil, List.drop_drop, hshift]
  · dsimp only
    omega
  · dsimp only
    rw [hcut, h.holdoff, hshift, Nat.sub_sub]
  · exact h.search
  · exact fun p hp => ⟨hsame p hp, (h.peak p hp).2⟩
  · exact h.burstPeak
  · dsimp only
    rw [hcut, h.burstEnd, hshift, Nat.sub_sub]
  · dsimp only
    rw [hcast, ← h.position]
    ring
  · exact h.dc
  · exact h.gain

/-- **A call**: the symbols are those of the stream, there is room for them, and the buffer is
a part of the stream again. -/
theorem process_eq (hsound : config.Sound) (h : Mirrors config base config.historyLen [] c t)
    (hbase : base + config.historyLen = t.past.length) (hsettled : Tracker.Settled config t)
    {input : List ℚ} (hinput : input.length ≤ config.maxInputBufferLength)
    (hends : config.EndsIn base (t.past.length + input.length) t.ends) :
    ∃ c' output, c.process input = some (c', some output) ∧
      Mirrors config (base + input.length) config.historyLen [] c' (t.run config input).1 ∧
      output.map (SoftSymbol.shift base) = (t.run config input).2 := by
  have hcopied : Mirrors config base config.historyLen input
      { c with samples := c.samples ++ input } t := by
    refine { h with samples := ?_ }
    dsimp only
    rw [h.samples, List.append_nil]
  have hroom : ((t.past.length + input.length : Nat) : ℚ) - 1 - config.maxInputBufferLength +
      ([] : List SoftSymbol).length * config.sps.toNat ≤
        (t.past.length : ℚ) - 1 - config.samplerLag + config.samplerLag := by
    have hcast : (input.length : ℚ) ≤ config.maxInputBufferLength := by exact_mod_cast hinput
    rw [List.length_nil]
    push_cast
    linarith
  obtain ⟨c1, symbols, hloop, h1, hsymbols⟩ :=
    hcopied.loop_eq hsound (by omega) (le_refl _) hsettled hsettled.notBefore hends hroom
  have hlength : (t.run config input).1.past.length = t.past.length + input.length := by
    rw [Tracker.past_run, List.length_append]
  have hrun := hsettled.run hsound input
  obtain ⟨c2, hkeep, h2⟩ := h1.keepHistory_eq hsound (by omega) (by omega) hrun
    (base + input.length) (by omega)
  refine ⟨c2, symbols, ?_, h2, hsymbols⟩
  have hleft : (c.samples ++ input).length - c.correlatorIndex = input.length := by
    rw [List.length_append, h.length_samples, h.index_eq, List.length_nil]
    omega
  unfold GfskCorrelator.process
  rw [if_neg (by rw [h.config_eq]; omega)]
  dsimp only
  rw [hleft, hloop, Option.bind_some]
  dsimp only
  rw [hkeep, Option.bind_some, List.nil_append]

/-- A new correlator is at the beginning of a stream. -/
theorem of_create (h : GfskCorrelator.create config = some c) :
    Mirrors config 0 config.historyLen [] c (Tracker.start config) := by
  rw [GfskCorrelator.create_eq h]
  refine ⟨rfl, ?_, rfl, rfl, rfl, nofun, rfl, rfl, ?_, rfl, rfl⟩
  · rw [List.append_nil]
    rfl
  · rw [Nat.cast_zero, add_zero]
    rfl

end Mirrors
end SdrModem
