import SdrModem.CorrelatorSafety
import SdrModem.PeakDetector

/-!
# The sync words of a stream

Every `gfsk_correlator_sync` of a sequence of calls, with the peak it is called for and the
index that was looked at.  The search of the code keeps its windows as indexes into the
buffer, which are moved back at the end of a call and stop at 0; in the stream it is a
`PeakDetector` on the correlation values.  Nothing else of the correlator matters for it: the
sampler may be anywhere, and where the code would leave a buffer the syncs up to there count.
-/
namespace SdrModem

namespace CorrelatorConfig
variable (config : CorrelatorConfig)

/-- What the detector of this correlator goes by. -/
def peakRule : PeakRule ℚ :=
  ⟨config.threshold, config.templateLen, config.peakSearchLen, config.burstLen⟩

/-- The correlation value of the stream at an index. -/
def valueAt (stream : List ℚ) (index : Nat) : ℚ :=
  |(config.correlate (config.window stream index)).value|

/-- The samples of the calls that are not too long. -/
def accepted (inputs : List (List ℚ)) : List ℚ :=
  (inputs.filter fun input => input.length ≤ config.maxInputBufferLength).flatten

/-- The stream of these calls, with the zeros of the history. -/
def stream (inputs : List (List ℚ)) : List ℚ :=
  List.replicate config.historyLen 0 ++ config.accepted inputs

end CorrelatorConfig

namespace GfskCorrelator

/-- The call of `gfsk_correlator_sync` at the end of the search, if there is one. -/
def syncCall (c : GfskCorrelator) (index : Nat) : List (SettledPeak ℚ) :=
  if c.peakSearch = true ∧ c.peakIndex + c.config.peakSearchLen ≤ index then
    [⟨⟨c.peakIndex, c.peakValue⟩, index⟩]
  else []

/-- The calls of `gfsk_correlator_sync` in the loop of `gfsk_correlator_process`. -/
def loopSyncs : Nat → GfskCorrelator → List SoftSymbol → List (SettledPeak ℚ)
  | 0, _, _ => []
  | left + 1, c, output =>
    let index := c.correlatorIndex
    (c.search index).elim [] fun c =>
    c.syncCall index ++ (c.settle index).elim [] fun c =>
    (outputSymbols index (c.config.outputLen - output.length) c).elim [] fun (c, symbols) =>
    loopSyncs left { c with correlatorIndex := c.correlatorIndex + 1 } (output ++ symbols)

/-- The calls of `gfsk_correlator_sync` in `gfsk_correlator_process`. -/
def processSyncs (c : GfskCorrelator) (input : List ℚ) : List (SettledPeak ℚ) :=
  if input.length > c.config.maxInputBufferLength then []
  else
    let c := { c with samples := c.samples ++ input }
    loopSyncs (c.samples.length - c.correlatorIndex) c []

/-- A sync of the buffer in the stream. -/
def shiftSync (base : Nat) (s : SettledPeak ℚ) : SettledPeak ℚ :=
  ⟨⟨s.index + base, s.value⟩, s.settledAt + base⟩

/-- The syncs of calls, one after the other, in the stream. -/
def syncs : Nat → GfskCorrelator → List (List ℚ) → List (SettledPeak ℚ)
  | _, _, [] => []
  | base, c, input :: inputs =>
    (c.processSyncs input).map (shiftSync base) ++ (c.process input).elim [] fun (c, output) =>
      syncs (if output.isSome then base + input.length else base) c inputs

end GfskCorrelator

/-- **The search is a detector on the stream**: the buffer is the part of the stream from
`base` up to `stop`. -/
structure Watches (config : CorrelatorConfig) (stream : List ℚ) (base stop : Nat)
    (c : GfskCorrelator) (d : PeakDetector ℚ) : Prop where
  config_eq : c.config = config
  samples : c.samples = (stream.take stop).drop base
  index : c.correlatorIndex + base = d.index
  history : config.historyLen ≤ c.correlatorIndex
  holdoff : c.holdoffIndex = d.last.elim 0 (fun q => q.index + config.templateLen) - base
  burstPeak : c.burstPeak = d.last.elim 0 Peak.value
  burstEnd : c.burstEndIndex = d.last.elim 0 (fun q => q.index + config.burstLen) - base
  search : c.peakSearch = d.candidate.isSome
  candidate : ∀ p ∈ d.candidate, c.peakIndex + base = p.index ∧ c.peakValue = p.value

namespace GfskCorrelator
variable {c c' : GfskCorrelator} {index : Nat}

/-! ## What the functions leave alone -/

/-- The result of a correlation that stays within the samples. -/
theorem correlate_cases {found : Correlation} (h : c.correlate index = some found) :
    c.config.templateLen ≤ index + 1 ∧ index < c.samples.length ∧
      found = c.config.correlate (c.config.window c.samples index) := by
  unfold correlate checkedSub at h
  split at h
  · rename_i htemplate
    rw [Option.bind_some] at h
    split at h
    · rename_i hlength
      exact ⟨htemplate, hlength, (Option.some.inj h).symm⟩
    · cases h
  · cases h

/-- A sync remembers the peak. -/
theorem sync_cases (h : c.sync = some c') : ∃ dc gain samplePosition,
    c' = { c with
      dc := dc
      gain := gain
      samplePosition := samplePosition
      holdoffIndex := c.peakIndex + c.config.templateLen
      peakSearch := false
      burstPeak := c.peakValue
      burstEndIndex := (c.peakIndex + c.config.burstLen) % 2 ^ 64 } := by
  unfold sync at h
  obtain ⟨peak, -, h⟩ := Option.bind_eq_some_iff.mp h
  obtain ⟨beforeIndex, -, h⟩ := Option.bind_eq_some_iff.mp h
  obtain ⟨before, -, h⟩ := Option.bind_eq_some_iff.mp h
  obtain ⟨after, -, h⟩ := Option.bind_eq_some_iff.mp h
  dsimp only at h
  split at h
  · cases h
  · exact ⟨_, _, _, (Option.some.inj h).symm⟩

/-- The sampler only moves itself. -/
theorem outputSymbol_cases {symbol : SoftSymbol} (h : c.outputSymbol = some (c', symbol)) :
    ∃ samplePosition, c' = { c with samplePosition := samplePosition } := by
  unfold outputSymbol at h
  split at h
  · cases h
  · dsimp only at h
    obtain ⟨sample, -, h⟩ := Option.bind_eq_some_iff.mp h
    obtain ⟨next, -, h⟩ := Option.bind_eq_some_iff.mp h
    exact ⟨_, (Prod.mk.inj (Option.some.inj h)).1.symm⟩

theorem outputSymbols_cases {room : Nat} {symbols : List SoftSymbol}
    (h : outputSymbols index room c = some (c', symbols)) :
    ∃ samplePosition, c' = { c with samplePosition := samplePosition } := by
  induction room generalizing c c' symbols with
  | zero =>
    rw [outputSymbols] at h
    split at h
    · cases h
    · exact ⟨c.samplePosition, (Prod.mk.inj (Option.some.inj h)).1.symm⟩
  | succ room ih =>
    rw [outputSymbols] at h
    split at h
    · obtain ⟨⟨c1, symbol⟩, hone, h⟩ := Option.bind_eq_some_iff.mp h
      obtain ⟨⟨c2, rest⟩, hrest, h⟩ := Option.bind_eq_some_iff.mp h
      obtain ⟨position, rfl⟩ := outputSymbol_cases hone
      obtain ⟨position', rfl⟩ := ih hrest
      exact ⟨position', (Prod.mk.inj (Option.some.inj h)).1.symm⟩
    · exact ⟨c.samplePosition, (Prod.mk.inj (Option.some.inj h)).1.symm⟩

/-- The end of a call moves the indexes back. -/
theorem keepHistory_cases (h : c.keepHistory = some c') : ∃ shift peakIndex,
    shift + c.config.historyLen = c.samples.length ∧ shift ≤ c.correlatorIndex ∧
    (c.peakSearch = true → peakIndex + shift = c.peakIndex) ∧
    c' = { c with
      samples := c.samples.drop shift
      correlatorIndex := c.correlatorIndex - shift
      samplePosition := c.samplePosition - shift
      holdoffIndex := c.holdoffIndex - shift
      burstEndIndex := c.burstEndIndex - shift
      peakIndex := peakIndex } := by
  have hcut : ∀ n shift : Nat, (if n > shift then n - shift else 0) = n - shift := by
    intro n shift
    split
    · rfl
    · omega
  have hsub : ∀ {a b r : Nat}, checkedSub a b = some r → b ≤ a ∧ r = a - b := by
    intro a b r hr
    unfold checkedSub at hr
    split at hr
    · exact ⟨by assumption, (Option.some.inj hr).symm⟩
    · cases hr
  unfold keepHistory at h
  obtain ⟨shift, hshift, h⟩ := Option.bind_eq_some_iff.mp h
  obtain ⟨correlatorIndex, hindex, h⟩ := Option.bind_eq_some_iff.mp h
  obtain ⟨peakIndex, hpeak, h⟩ := Option.bind_eq_some_iff.mp h
  obtain ⟨hle, rfl⟩ := hsub hshift
  obtain ⟨hle', rfl⟩ := hsub hindex
  split at h
  · cases h
  · rw [hcut, hcut] at h
    refine ⟨_, peakIndex, Nat.sub_add_cancel hle, hle', fun hsearch => ?_, (Option.some.inj h).symm⟩
    rw [if_pos hsearch] at hpeak
    obtain ⟨hle'', rfl⟩ := hsub hpeak
    exact Nat.sub_add_cancel hle''

end GfskCorrelator

namespace CorrelatorConfig
variable {config : CorrelatorConfig}

/-- The window of a buffer is that of the stream. -/
theorem window_take_drop {stream : List ℚ} {base stop index : Nat}
    (htemplate : config.templateLen ≤ index + 1) (hindex : index + base < stop) :
    config.window ((stream.take stop).drop base) index = config.window stream (index + base) := by
  have hstart :
      base + (index + 1 - config.templateLen) = index + base + 1 - config.templateLen := by
    omega
  unfold window
  rw [List.drop_drop, hstart, List.drop_take, List.take_take, min_eq_left (by omega)]

end CorrelatorConfig

namespace Watches
variable {config : CorrelatorConfig} {stream : List ℚ} {base stop : Nat} {c c' : GfskCorrelator}
  {d : PeakDetector ℚ}

theorem of_create (h : GfskCorrelator.create config = some c) (stream : List ℚ)
    (hstart : stream.take config.historyLen = List.replicate config.historyLen 0) :
    Watches config stream 0 config.historyLen c (PeakDetector.start config.historyLen) := by
  rw [GfskCorrelator.create_eq h]
  refine ⟨rfl, ?_, rfl, le_refl _, rfl, rfl, rfl, rfl, nofun⟩
  rw [hstart]
  rfl

/-- **The search** finds the candidate of the detector. -/
theorem search_some (h : Watches config stream base stop c d) (hstop : d.index < stop)
    (hsome : c.search c.correlatorIndex = some c') :
    Watches config stream base stop c'
      ⟨d.index, d.last, d.search config.peakRule (config.valueAt stream d.index)⟩ := by
  have hindex := h.index
  have hheld : c.correlatorIndex ≥ c.holdoffIndex ↔
      ∀ q ∈ d.last, q.index + config.templateLen ≤ d.index := by
    rw [h.holdoff]
    cases d.last with
    | none => simp
    | some q =>
      simp only [Option.elim_some, Option.mem_def, Option.some.injEq, forall_eq']
      omega
  have hfloor : (if c.correlatorIndex < c.burstEndIndex then c.burstPeak else 0) =
      d.floor config.peakRule := by
    rw [h.burstEnd, h.burstPeak]
    unfold PeakDetector.floor
    cases d.last with
    | none => simp
    | some q =>
      have hburst : c.correlatorIndex < q.index + config.burstLen - base ↔
          d.index < q.index + config.burstLen := by omega
      simp only [Option.elim_some, hburst]
      rfl
  have hhigher : ∀ value : ℚ, (c.peakSearch = false ∨ value > c.peakValue) ↔
      ∀ p ∈ d.candidate, p.value < value := by
    intro value
    rw [h.search]
    cases hp : d.candidate with
    | none => simp
    | some p => simp [(h.candidate p hp).2]
  have hkept : ¬ d.Accepts config.peakRule (config.valueAt stream d.index) → c' = c →
      Watches config stream base stop c'
        ⟨d.index, d.last, d.search config.peakRule (config.valueAt stream d.index)⟩ := by
    rintro hno rfl
    unfold PeakDetector.search
    rw [if_neg hno]
    exact h
  unfold GfskCorrelator.search at hsome
  split at hsome
  · rename_i hindex'
    obtain ⟨found, hfound, hsome⟩ := Option.bind_eq_some_iff.mp hsome
    obtain ⟨htemplate, -, rfl⟩ := GfskCorrelator.correlate_cases hfound
    rw [h.config_eq] at htemplate
    have hvalue : |(c.config.correlate (c.config.window c.samples c.correlatorIndex)).value| =
        config.valueAt stream d.index := by
      rw [h.config_eq, h.samples, CorrelatorConfig.window_take_drop htemplate (by omega), hindex]
      rfl
    dsimp only at hsome
    rw [hfloor, hvalue] at hsome
    split at hsome
    · rename_i hpeak
      obtain rfl := Option.some.inj hsome
      rw [h.config_eq, hhigher] at hpeak
      have haccepts : d.Accepts config.peakRule (config.valueAt stream d.index) :=
        ⟨hheld.mp hindex', hpeak⟩
      unfold PeakDetector.search
      rw [if_pos haccepts]
      exact { h with
        search := rfl
        candidate := fun p hp => by
          obtain rfl := Option.some.inj hp
          exact ⟨hindex, rfl⟩ }
    · rename_i hpeak
      rw [h.config_eq, hhigher] at hpeak
      exact hkept (fun ha => hpeak ha.2) (Option.some.inj hsome).symm
  · rename_i hindex'
    exact hkept (fun ha => hindex' (hheld.mpr ha.1)) (Option.some.inj hsome).symm

/-- The next index. -/
theorem next {index : Nat} (h : Watches config stream base stop c d) (hindex : d.index = index)
    (samplePosition : ℚ) :
    Watches config stream base stop
      { c with samplePosition := samplePosition, correlatorIndex := c.correlatorIndex + 1 }
      ⟨index + 1, d.last, d.candidate⟩ := by
  refine { h with index := ?_, history := ?_ }
  · have := h.index
    dsimp only
    omega
  · have := h.history
    dsimp only
    omega

/-- **The end of a search** is that of the detector: the sync is called where the detector
settles. -/
theorem settle {p : Option (Peak ℚ)} {index : Nat}
    (h : Watches config stream base stop c ⟨index, d.last, p⟩) (hburst : config.BurstFits)
    (hroom : index < base + config.historyLen + config.maxInputBufferLength)
    (hsearch : d.search config.peakRule (config.valueAt stream index) = p)
    (hindex : d.index = index) :
    (c.syncCall c.correlatorIndex).map (GfskCorrelator.shiftSync base) =
        (d.step config.peakRule (config.valueAt stream index)).2 ∧
      ∀ c', c.settle c.correlatorIndex = some c' →
        c'.correlatorIndex = c.correlatorIndex ∧
        Watches config stream base stop c'
          { (d.step config.peakRule (config.valueAt stream index)).1 with index := index } := by
  have hplace : c.correlatorIndex + base = index := h.index
  unfold PeakDetector.step
  rw [hsearch]
  cases p with
  | none =>
    have hnot : c.peakSearch = false := h.search
    refine ⟨?_, ?_⟩
    · simp [GfskCorrelator.syncCall, hnot]
    · intro c' hc'
      simp only [GfskCorrelator.settle, hnot, Bool.false_eq_true, if_false,
        Option.some.injEq] at hc'
      subst hc'
      exact ⟨rfl, h⟩
  | some p =>
    have hsome : c.peakSearch = true := h.search
    obtain ⟨hpindex, hpvalue⟩ := h.candidate p rfl
    have hend : c.peakIndex + c.config.peakSearchLen ≤ c.correlatorIndex ↔
        p.index + config.peakRule.search ≤ index := by
      rw [h.config_eq]
      change _ ↔ p.index + config.peakSearchLen ≤ index
      omega
    dsimp only
    by_cases hdue : p.index + config.peakRule.search ≤ index
    · rw [hindex, if_pos hdue]
      refine ⟨?_, ?_⟩
      · rw [GfskCorrelator.syncCall, if_pos ⟨hsome, hend.mpr hdue⟩, List.map_singleton,
          GfskCorrelator.shiftSync]
        dsimp only
        rw [hpindex, hpvalue, hplace]
      · intro c' hc'
        have hdue' := hend.mpr hdue
        rw [GfskCorrelator.settle, if_pos hsome, checkedSub_of_le (by omega), Option.bind_some,
          if_pos (by omega)] at hc'
        obtain ⟨dc, gain, samplePosition, rfl⟩ := GfskCorrelator.sync_cases hc'
        refine ⟨rfl, ?_⟩
        exact { h with
          holdoff := by
            rw [h.config_eq]
            change c.peakIndex + config.templateLen = p.index + config.templateLen - base
            omega
          burstPeak := hpvalue
          burstEnd := by
            rw [h.config_eq]
            change (c.peakIndex + config.burstLen) % 2 ^ 64 = p.index + config.burstLen - base
            change p.index + config.peakSearchLen ≤ index at hdue
            unfold CorrelatorConfig.BurstFits at hburst
            rw [Nat.mod_eq_of_lt (by omega)]
            omega
          search := rfl
          candidate := by rintro _ ⟨⟩ }
    · rw [hindex, if_neg hdue]
      refine ⟨?_, ?_⟩
      · rw [GfskCorrelator.syncCall, if_neg fun hboth => hdue (hend.mp hboth.2), List.map_nil]
      · intro c' hc'
        rw [GfskCorrelator.settle, if_pos hsome] at hc'
        obtain ⟨distance, hdistance, hc'⟩ := Option.bind_eq_some_iff.mp hc'
        unfold checkedSub at hdistance
        split at hdistance
        · obtain rfl := Option.some.inj hdistance
          rw [if_neg (by have := mt hend.mp hdue; omega)] at hc'
          obtain rfl := Option.some.inj hc'
          exact ⟨rfl, h⟩
        · cases hdistance

/-- **One index**: what the code calls is what the detector settles, and if no check fails
the search goes on as the detector does. -/
theorem index_step (h : Watches config stream base stop c d) (hstop : d.index < stop)
    (hburst : config.BurstFits)
    (hroom : stop ≤ base + config.historyLen + config.maxInputBufferLength)
    {c1 : GfskCorrelator} (hc1 : c.search c.correlatorIndex = some c1) :
    (c1.syncCall c.correlatorIndex).map (GfskCorrelator.shiftSync base) =
        (d.step config.peakRule (config.valueAt stream d.index)).2 ∧
      ∀ c2 room c3 symbols, c1.settle c.correlatorIndex = some c2 →
        GfskCorrelator.outputSymbols c.correlatorIndex room c2 = some (c3, symbols) →
        Watches config stream base stop
          { c3 with correlatorIndex := c3.correlatorIndex + 1 }
          (d.step config.peakRule (config.valueAt stream d.index)).1 := by
  have hsearch := h.search_some hstop hc1
  have hsame : c1.correlatorIndex = c.correlatorIndex := by
    have hone := hsearch.index
    have htwo := h.index
    dsimp only at hone
    omega
  obtain ⟨hcall, hsettle⟩ := hsearch.settle hburst (by omega) rfl rfl
  rw [hsame] at hcall hsettle
  refine ⟨hcall, fun c2 room c3 symbols hc2 hc3 => ?_⟩
  obtain ⟨-, hwatches⟩ := hsettle c2 hc2
  obtain ⟨samplePosition, rfl⟩ := GfskCorrelator.outputSymbols_cases hc3
  have hnext := hwatches.next rfl samplePosition
  rw [← PeakDetector.index_step config.peakRule d] at hnext
  exact hnext

/-- **The loop** of a call: its syncs are the first ones of the detector, and all of them if
no check fails. -/
theorem loop (h : Watches config stream base stop c d) (hburst : config.BurstFits)
    (hroom : stop ≤ base + config.historyLen + config.maxInputBufferLength) {left : Nat}
    (hleft : d.index + left ≤ stop) (output : List SoftSymbol) :
    (GfskCorrelator.loopSyncs left c output).map (GfskCorrelator.shiftSync base) <+:
        (d.run config.peakRule (config.valueAt stream) left).2 ∧
      ∀ c' output', GfskCorrelator.loop left c output = some (c', output') →
        (GfskCorrelator.loopSyncs left c output).map (GfskCorrelator.shiftSync base) =
            (d.run config.peakRule (config.valueAt stream) left).2 ∧
          Watches config stream base stop c'
            (d.run config.peakRule (config.valueAt stream) left).1 := by
  induction left generalizing c d output with
  | zero =>
    refine ⟨List.prefix_refl _, fun c' output' hloop => ⟨rfl, ?_⟩⟩
    obtain ⟨rfl, -⟩ := Prod.mk.inj (Option.some.inj hloop)
    exact h
  | succ left ih =>
    rw [PeakDetector.run_succ, GfskCorrelator.loopSyncs, GfskCorrelator.loop]
    dsimp only
    cases hc1 : c.search c.correlatorIndex with
    | none => exact ⟨List.nil_prefix, fun _ _ hloop => absurd hloop.symm (Option.some_ne_none _)⟩
    | some c1 =>
      obtain ⟨hcall, hnext⟩ := h.index_step (by omega) hburst hroom hc1
      rw [Option.elim_some, List.map_append, hcall, Option.bind_some]
      cases hc2 : c1.settle c.correlatorIndex with
      | none =>
        refine ⟨?_, fun _ _ hloop => absurd hloop.symm (Option.some_ne_none _)⟩
        rw [Option.elim_none, List.map_nil, List.append_nil]
        exact List.prefix_append _ _
      | some c2 =>
        rw [Option.elim_some, Option.bind_some]
        cases hc3 : GfskCorrelator.outputSymbols c.correlatorIndex
            (c2.config.outputLen - output.length) c2 with
        | none =>
          refine ⟨?_, fun _ _ hloop => absurd hloop.symm (Option.some_ne_none _)⟩
          rw [Option.elim_none, List.map_nil, List.append_nil]
          exact List.prefix_append _ _
        | some r =>
          obtain ⟨c3, symbols⟩ := r
          obtain ⟨hinitial, hall⟩ := ih (hnext c2 _ c3 symbols hc2 hc3)
            (by rw [PeakDetector.index_step]; omega) (output ++ symbols)
          rw [Option.elim_some, Option.bind_some]
          refine ⟨(List.prefix_append_right_inj _).mpr hinitial, fun c' output' hloop => ?_⟩
          obtain ⟨hsyncs, hwatches⟩ := hall c' output' hloop
          exact ⟨by rw [hsyncs], hwatches⟩

/-- **The end of a call**: the buffer starts later. -/
theorem keepHistory (h : Watches config stream base stop c d) (hindex : d.index = stop)
    (hstop : stop ≤ stream.length) (hkeep : c.keepHistory = some c') :
    ∃ start, start + config.historyLen = stop ∧
      Watches config stream start stop c' d := by
  obtain ⟨shift, peakIndex, hshift, hle, hpeak, rfl⟩ := GfskCorrelator.keepHistory_cases hkeep
  have hlength : c.samples.length = stop - base := by
    rw [h.samples, List.length_drop, List.length_take, min_eq_left hstop]
  have hplace := h.index
  rw [h.config_eq] at hshift
  refine ⟨base + shift, by omega, ?_⟩
  constructor
  · exact h.config_eq
  · dsimp only
    rw [h.samples, List.drop_drop]
  · dsimp only
    omega
  · dsimp only
    omega
  · dsimp only
    rw [h.holdoff, Nat.sub_sub]
  · exact h.burstPeak
  · dsimp only
    rw [h.burstEnd, Nat.sub_sub]
  · exact h.search
  · intro p hp
    obtain ⟨hpindex, hpvalue⟩ := h.candidate p hp
    refine ⟨?_, hpvalue⟩
    have hsearch : c.peakSearch = true := by
      rw [h.search, Option.mem_def.mp hp]
      rfl
    have := hpeak hsearch
    dsimp only
    omega

/-- The samples of a call are copied behind the history. -/
theorem copy (h : Watches config stream base stop c d) {input : List ℚ}
    (hinput : input <+: stream.drop stop) (hbase : base ≤ stop) (hstop : stop ≤ stream.length) :
    Watches config stream base (stop + input.length)
      { c with samples := c.samples ++ input } d := by
  refine { h with samples := ?_ }
  dsimp only
  rw [h.samples, List.take_add, List.prefix_iff_eq_take.mp hinput, List.length_take,
    List.drop_append_of_le_length]
  · rw [List.take_eq_take_min]
    simp
  · rw [List.length_take]
    omega

/-- **A call**: its syncs are the first ones of the detector, and all of them if the call
returns. -/
theorem process (h : Watches config stream base stop c d) (hburst : config.BurstFits)
    (hbase : base + config.historyLen = stop) (hindex : d.index = stop) {input : List ℚ}
    (hinput : input <+: stream.drop stop) (hstop : stop ≤ stream.length)
    (hlength : input.length ≤ config.maxInputBufferLength) :
    (c.processSyncs input).map (GfskCorrelator.shiftSync base) <+:
        (d.run config.peakRule (config.valueAt stream) input.length).2 ∧
      ∀ c' output, c.process input = some (c', output) →
        (c.processSyncs input).map (GfskCorrelator.shiftSync base) =
            (d.run config.peakRule (config.valueAt stream) input.length).2 ∧
          ∃ start, start + config.historyLen = stop + input.length ∧
            Watches config stream start (stop + input.length) c'
              (d.run config.peakRule (config.valueAt stream) input.length).1 := by
  have hfitsStream := hinput.length_le
  rw [List.length_drop] at hfitsStream
  have hleft : (c.samples ++ input).length - c.correlatorIndex = input.length := by
    have hplace := h.index
    rw [List.length_append, h.samples, List.length_drop, List.length_take, min_eq_left hstop]
    omega
  obtain ⟨hinitial, hall⟩ :=
    (h.copy hinput (by omega) hstop).loop hburst (by omega)
      (show d.index + input.length ≤ _ by omega) []
  unfold GfskCorrelator.processSyncs GfskCorrelator.process
  have hfits : ¬ input.length > c.config.maxInputBufferLength := by
    rw [h.config_eq]
    omega
  rw [if_neg hfits, if_neg hfits]
  dsimp only
  rw [hleft]
  refine ⟨hinitial, fun c' output hprocess => ?_⟩
  obtain ⟨⟨c1, symbols⟩, hloop, hprocess⟩ := Option.bind_eq_some_iff.mp hprocess
  obtain ⟨c2, hkeep, hprocess⟩ := Option.bind_eq_some_iff.mp hprocess
  obtain ⟨rfl, -⟩ := Prod.mk.inj (Option.some.inj hprocess)
  obtain ⟨hsyncs, hwatches⟩ := hall c1 symbols hloop
  refine ⟨hsyncs, hwatches.keepHistory ?_ (by omega) hkeep⟩
  rw [PeakDetector.index_run, hindex]

end Watches

namespace GfskCorrelator
variable {config : CorrelatorConfig} {c : GfskCorrelator}

/-- A call that is too long does nothing. -/
theorem process_too_long {input : List ℚ}
    (h : input.length > c.config.maxInputBufferLength) :
    c.process input = some (c, none) ∧ c.processSyncs input = [] := by
  unfold process processSyncs
  rw [if_pos h, if_pos h]
  exact ⟨rfl, rfl⟩

/-- The output of a call that is not too long. -/
theorem isSome_of_process {c' : GfskCorrelator} {input : List ℚ} {output : Option (List SoftSymbol)}
    (hlength : input.length ≤ c.config.maxInputBufferLength)
    (h : c.process input = some (c', output)) : output.isSome := by
  unfold process at h
  rw [if_neg (by omega)] at h
  obtain ⟨⟨c1, symbols⟩, -, h⟩ := Option.bind_eq_some_iff.mp h
  obtain ⟨c2, -, h⟩ := Option.bind_eq_some_iff.mp h
  rw [← (Prod.mk.inj (Option.some.inj h)).2]
  rfl

end GfskCorrelator

namespace CorrelatorConfig
variable {config : CorrelatorConfig}

theorem accepted_cons_of_le {input : List ℚ} (h : input.length ≤ config.maxInputBufferLength)
    (inputs : List (List ℚ)) :
    config.accepted (input :: inputs) = input ++ config.accepted inputs := by
  simp [accepted, h]

theorem accepted_cons_of_lt {input : List ℚ} (h : config.maxInputBufferLength < input.length)
    (inputs : List (List ℚ)) : config.accepted (input :: inputs) = config.accepted inputs := by
  simp [accepted, h]

end CorrelatorConfig

namespace Watches
variable {config : CorrelatorConfig} {stream : List ℚ} {base stop : Nat} {c c' : GfskCorrelator}
  {d : PeakDetector ℚ}

/-- **A sequence of calls**: the syncs are the first ones of the detector on the stream, and
all of them if every call returns. -/
theorem calls (h : Watches config stream base stop c d) (hburst : config.BurstFits)
    (hbase : base + config.historyLen = stop) (hindex : d.index = stop)
    (hstop : stop ≤ stream.length) {inputs : List (List ℚ)}
    (hinputs : stream.drop stop = config.accepted inputs) :
    c.syncs base inputs <+:
        (d.run config.peakRule (config.valueAt stream) (config.accepted inputs).length).2 ∧
      ∀ outputs, c.calls inputs = some outputs → c.syncs base inputs =
        (d.run config.peakRule (config.valueAt stream) (config.accepted inputs).length).2 := by
  induction inputs generalizing base stop c d with
  | nil => exact ⟨List.prefix_refl _, fun _ _ => rfl⟩
  | cons input inputs ih =>
    rw [GfskCorrelator.syncs, GfskCorrelator.calls]
    by_cases hlength : input.length ≤ config.maxInputBufferLength
    · rw [CorrelatorConfig.accepted_cons_of_le hlength] at hinputs ⊢
      obtain ⟨hinitial, hall⟩ :=
        h.process hburst hbase hindex ⟨_, hinputs.symm⟩ hstop hlength
      rw [List.length_append, PeakDetector.run_add]
      cases hprocess : c.process input with
      | none =>
        refine ⟨?_, fun _ hcalls => absurd hcalls.symm (Option.some_ne_none _)⟩
        rw [Option.elim_none, List.append_nil]
        exact hinitial.trans (List.prefix_append _ _)
      | some r =>
        obtain ⟨c1, output⟩ := r
        obtain ⟨hsyncs, start, hstart, hnext⟩ := hall c1 output hprocess
        have hsome : output.isSome :=
          GfskCorrelator.isSome_of_process (by rw [h.config_eq]; exact hlength) hprocess
        have hmoved : start = base + input.length := by omega
        have hlen : stop + input.length ≤ stream.length := by
          have hdrop := congrArg List.length hinputs
          rw [List.length_drop, List.length_append] at hdrop
          omega
        have hrest : stream.drop (stop + input.length) = config.accepted inputs := by
          rw [← List.drop_drop, hinputs, List.drop_left]
        obtain ⟨hinitial', hall'⟩ := ih hnext hstart
          (by rw [PeakDetector.index_run, hindex]) hlen hrest
        rw [Option.elim_some, Option.bind_some]
        dsimp only
        rw [if_pos hsome, hsyncs, ← hmoved]
        refine ⟨(List.prefix_append_right_inj _).mpr hinitial', fun outputs hcalls => ?_⟩
        obtain ⟨rest, hcalls, -⟩ := Option.map_eq_some_iff.mp hcalls
        rw [hall' rest hcalls]
    · obtain ⟨hprocess, hnone⟩ : c.process input = some (c, none) ∧ c.processSyncs input = [] :=
        GfskCorrelator.process_too_long (by rw [h.config_eq]; omega)
      rw [CorrelatorConfig.accepted_cons_of_lt (by omega)] at hinputs ⊢
      obtain ⟨hinitial, hall⟩ := ih h hbase hindex hstop hinputs
      rw [hprocess, hnone, List.map_nil, List.nil_append, Option.elim_some, Option.bind_some]
      refine ⟨hinitial, fun outputs hcalls => ?_⟩
      obtain ⟨rest, hcalls, -⟩ := Option.map_eq_some_iff.mp hcalls
      exact hall rest hcalls

end Watches

namespace GfskCorrelator
variable {config : CorrelatorConfig} {c : GfskCorrelator}

/-- **The syncs of a new correlator** are the peaks of its stream, up to where a check fails. -/
theorem syncs_prefix (hc : create config = some c) (hburst : config.BurstFits)
    (inputs : List (List ℚ)) :
    c.syncs 0 inputs <+:
        ((PeakDetector.start config.historyLen).run config.peakRule
          (config.valueAt (config.stream inputs)) (config.accepted inputs).length).2 ∧
      ∀ outputs, c.calls inputs = some outputs → c.syncs 0 inputs =
        ((PeakDetector.start config.historyLen).run config.peakRule
          (config.valueAt (config.stream inputs)) (config.accepted inputs).length).2 := by
  have hlength : (List.replicate config.historyLen (0 : ℚ)).length = config.historyLen :=
    List.length_replicate
  refine (Watches.of_create hc (config.stream inputs) ?_).calls hburst (Nat.zero_add _) rfl ?_ ?_
  · rw [CorrelatorConfig.stream, List.take_left' hlength]
  · rw [CorrelatorConfig.stream, List.length_append, hlength]
    omega
  · rw [CorrelatorConfig.stream, List.drop_left' hlength]

/-- **Sync words obey the burst rule.**  Every sync is for a value that is above the threshold
and the highest one until the search ends, it is called exactly then, and it follows the sync
before: behind its template and its search, and within its burst only if it is stronger.  The end
of no burst may wrap around. -/
theorem syncs_obey_burst_rule (hc : create config = some c) (hburst : config.BurstFits)
    (inputs : List (List ℚ)) :
    (∀ s ∈ c.syncs 0 inputs,
      config.peakRule.IsPeak (config.valueAt (config.stream inputs)) s) ∧
    List.IsChain config.peakRule.Follows ((c.syncs 0 inputs).map SettledPeak.toPeak) := by
  obtain ⟨⟨rest, hrest⟩, -⟩ := syncs_prefix hc hburst inputs
  obtain ⟨hpeaks, hchain⟩ := (PeakDetector.tracks_start config.peakRule
    (config.valueAt (config.stream inputs)) config.historyLen).run (config.accepted inputs).length
  rw [← hrest] at hpeaks hchain
  refine ⟨fun s hs => hpeaks s (List.mem_append_left _ hs), ?_⟩
  have hall : List.IsChain config.peakRule.Follows
      ((c.syncs 0 inputs).map SettledPeak.toPeak ++ rest.map SettledPeak.toPeak) := by
    rw [← List.map_append]
    exact hchain
  exact hall.left_of_append

/-- The newest sample is the correlation. -/
def lastSample : CorrelatorConfig where
  sps := 2
  syncwordBits := 1
  threshold := 1 / 2
  burstSymbols := 20
  maxInputBufferLength := 16
  templateMean := 0
  templateEnergy := 1
  correlate := fun window => ⟨window.getLastD 0, 1, 0⟩

/-- A peak, and a stronger one in its burst. -/
theorem syncs_obey_burst_rule_stronger :
    ∃ c, create lastSample = some c ∧
      (c.syncs 0
        [[0, 1, 3 / 4], List.replicate 16 0, [0, 3 / 4, 2], List.replicate 16 0]).length = 2 ∧
      (∀ s ∈ c.syncs 0 [[0, 1, 3 / 4], List.replicate 16 0, [0, 3 / 4, 2], List.replicate 16 0],
        lastSample.peakRule.IsPeak (lastSample.valueAt (lastSample.stream
          [[0, 1, 3 / 4], List.replicate 16 0, [0, 3 / 4, 2], List.replicate 16 0])) s) ∧
      List.IsChain lastSample.peakRule.Follows
        ((c.syncs 0 [[0, 1, 3 / 4], List.replicate 16 0, [0, 3 / 4, 2],
          List.replicate 16 0]).map SettledPeak.toPeak) := by
  have hburst : lastSample.BurstFits := by
    unfold CorrelatorConfig.BurstFits
    decide
  exact ⟨_, rfl, by decide +kernel, syncs_obey_burst_rule rfl hburst _⟩

/-- A burst of all the samples there can be. -/
def endlessBurst : CorrelatorConfig := { lastSample with burstSymbols := 0x7fffffffffffffff }

/-- The end of an endless burst wraps around, and a weaker sync word in it re-times it. -/
theorem weaker_sync_in_endless_burst :
    ∃ c, create endlessBurst = some c ∧ endlessBurst.burstLen = 2 ^ 64 - 2 ∧
      ¬ List.IsChain endlessBurst.peakRule.Follows
        ((c.syncs 0 [[0, 0, 2], List.replicate 16 0, [1], List.replicate 16 0]).map
          SettledPeak.toPeak) := by
  obtain ⟨c, hc⟩ : ∃ c, create endlessBurst = some c := ⟨_, rfl⟩
  have hlen : endlessBurst.burstLen = 2 ^ 64 - 2 := by decide +kernel
  have hpeaks : (c.syncs 0 [[0, 0, 2], List.replicate 16 0, [1], List.replicate 16 0]).map
      SettledPeak.toPeak = [⟨26, 2⟩, ⟨43, 1⟩] := by
    obtain rfl := Option.some.inj hc
    decide +kernel
  refine ⟨c, hc, hlen, fun hchain => ?_⟩
  rw [hpeaks] at hchain
  have hburst : endlessBurst.peakRule.burst = 2 ^ 64 - 2 := hlen
  rcases (List.isChain_pair.mp hchain).burst with hbehind | hstronger
  · dsimp only at hbehind
    rw [hburst] at hbehind
    omega
  · exact absurd hstronger (by norm_num)

end GfskCorrelator
end SdrModem
