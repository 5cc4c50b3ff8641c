import SdrModem.CorrelatorRefinement

/-!
# The correlator stays within its buffers

In every sequence of calls, whatever the windows correlate to, and in stream coordinates:
the symbols are at least `sps` samples apart, also across a sync.  There is one condition.
`peak_search_len` is a product of 32 bits, and where it is cut to 0 the search ends at the
peak itself, one sample before the window behind the peak has arrived.
-/
namespace SdrModem

namespace GfskCorrelator

/-- Calls, one after the other, with the symbols of each. -/
def calls : GfskCorrelator → List (List ℚ) → Option (List (List SoftSymbol))
  | _, [] => some []
  | c, input :: inputs =>
    (c.process input).bind fun (c, output) => (c.calls inputs).map (output.getD [] :: ·)

/-- Where the symbols of calls are in the stream. -/
def streamPositions : Nat → List (List ℚ) → List (List SoftSymbol) → List ℚ
  | base, input :: inputs, output :: outputs =>
    output.map (fun s => s.position + (base : ℚ)) ++
      streamPositions (base + input.length) inputs outputs
  | _, _, _ => []

end GfskCorrelator

/-- **Calls of a new correlator are safe**: every check of the model holds, the symbols of a
call fit the output, and they are `sps` samples apart in the stream. -/
def SafeCalls (config : CorrelatorConfig) (inputs : List (List ℚ)) : Prop :=
  ∃ c outputs, GfskCorrelator.create config = some c ∧ c.calls inputs = some outputs ∧
    (∀ output ∈ outputs, output.length ≤ config.outputLen) ∧
    List.IsChain (fun a b : ℚ => a + config.sps.toNat ≤ b)
      (GfskCorrelator.streamPositions 0 inputs outputs)

namespace Mirrors
variable {config : CorrelatorConfig} {c : GfskCorrelator} {t : Tracker}

/-- **A sequence of calls** keeps the symbols apart, wherever the bursts of each call end. -/
theorem calls_apart (hsound : config.Sound) {base : Nat}
    (h : Mirrors config base config.historyLen [] c t)
    (hbase : base + config.historyLen = t.past.length) (hsettled : Tracker.Settled config t)
    {a : ℚ} (hfloor : Tracker.NotBefore config (a + config.sps.toNat) t)
    {inputs : List (List ℚ)}
    (hinputs : ∀ input ∈ inputs, input.length ≤ config.maxInputBufferLength) :
    ∃ outputs, c.calls inputs = some outputs ∧
      (∀ output ∈ outputs, output.length ≤ config.outputLen) ∧
      List.IsChain (Tracker.Apart config)
        (a :: GfskCorrelator.streamPositions base inputs outputs) := by
  induction inputs generalizing c t base a with
  | nil => exact ⟨[], rfl, nofun, .singleton a⟩
  | cons input inputs ih =>
    have hinput := hinputs input List.mem_cons_self
    -- the bursts of this call, as the sum of the code has them
    let t' : Tracker := { t with ends := fun p => base + (p - base + config.burstLen) % 2 ^ 64 }
    have hbase' : base + config.historyLen = t'.past.length := hbase
    have hmirrors : Mirrors config base config.historyLen [] c t' := { h with }
    have hsettled' : Tracker.Settled config t' := { hsettled with }
    have hfloor' : Tracker.NotBefore config (a + config.sps.toNat) t' := { hfloor with }
    obtain ⟨c', output, hprocess, h', houtput⟩ :=
      hmirrors.process_eq hsound hbase' hsettled' hinput fun p _ _ => Nat.add_sub_cancel_left _ _
    obtain ⟨hsettled', b, hb, -, hchain⟩ := hsettled'.run_behind hsound hfloor' input
    obtain ⟨outputs, hcalls, hfits, happart⟩ := ih h'
      (by rw [Tracker.past_run, List.length_append, ← hbase']; omega) hsettled' hb
      fun input hmem => hinputs input (List.mem_cons_of_mem _ hmem)
    refine ⟨output :: outputs, ?_, ?_, ?_⟩
    · rw [GfskCorrelator.calls, hprocess, Option.bind_some]
      dsimp only
      rw [hcalls, Option.map_some, Option.getD_some]
    · intro o ho
      rcases List.mem_cons.mp ho with rfl | ho
      · have hlength := Tracker.Settled.length_run_le hsound (t := t') { hsettled with } input
        rw [← houtput, List.length_map] at hlength
        have hdiv := Nat.div_le_div_right (c := config.sps.toNat) hinput
        unfold CorrelatorConfig.outputLen
        omega
      · exact hfits o ho
    · have hpositions : output.map (fun s => s.position + (base : ℚ)) =
          (t'.run config input).2.map SoftSymbol.position := by
        rw [← houtput, List.map_map]
        rfl
      rw [GfskCorrelator.streamPositions, hpositions]
      exact hchain _ happart

end Mirrors

namespace GfskCorrelator
variable {config : CorrelatorConfig} {c : GfskCorrelator}

/-- Without samples nothing happens to a new correlator. -/
theorem process_nil (h : create config = some c) : c.process [] = some (c, some []) := by
  rw [create_eq h]
  simp [process, loop, keepHistory, checkedSub]

theorem calls_nil (h : create config = some c) {inputs : List (List ℚ)}
    (hinputs : ∀ input ∈ inputs, input = []) : c.calls inputs = some (inputs.map fun _ => []) := by
  induction inputs with
  | nil => rfl
  | cons input inputs ih =>
    rw [hinputs input List.mem_cons_self, calls, process_nil h, Option.bind_some]
    dsimp only
    rw [ih fun input hmem => hinputs input (List.mem_cons_of_mem _ hmem)]
    rfl

theorem streamPositions_nil (base : Nat) (inputs : List (List ℚ)) :
    streamPositions base inputs (inputs.map fun _ => []) = [] := by
  induction inputs generalizing base with
  | nil => rfl
  | cons input inputs ih =>
    rw [List.map_cons, streamPositions, ih]
    rfl

/-- A sync at the last sample reads the window behind it. -/
theorem sync_none (h : c.samples.length ≤ c.peakIndex + 1) : c.sync = none := by
  have hnone : c.correlate (c.peakIndex + 1) = none := by
    simp [correlate, Nat.not_lt.mpr h]
  simp [sync, hnone]

end GfskCorrelator

namespace CorrelatorConfig
variable {config : CorrelatorConfig}

theorem create_isSome (hsps : 2 ≤ config.sps) (heven : config.sps % 2 = 0)
    (hbits : 1 ≤ config.syncwordBits) : ∃ c, GfskCorrelator.create config = some c := by
  unfold GfskCorrelator.create
  rw [if_neg (not_or.mpr ⟨UInt32.not_lt.mpr hsps, not_not.mpr heven⟩), if_neg (by omega)]
  exact ⟨_, rfl⟩

theorem peakSearchLen_eq_zero_iff :
    config.peakSearchLen = 0 ↔ gfskCorrelatorPeakSearchSymbols * config.sps = 0 := by
  rw [peakSearchLen, ← UInt32.toNat_zero, UInt32.toNat_inj]

/-- If the peak search takes time, all calls are safe. -/
theorem safeCalls_of_sound (hsound : config.Sound) (heven : config.sps % 2 = 0)
    (hbits : 1 ≤ config.syncwordBits) {inputs : List (List ℚ)}
    (hinputs : ∀ input ∈ inputs, input.length ≤ config.maxInputBufferLength) :
    SafeCalls config inputs := by
  obtain ⟨c, hc⟩ := create_isSome (UInt32.le_iff_toNat_le.mpr hsound.two_le_sps) heven hbits
  have hmirrors := Mirrors.of_create hc
  have hbase : 0 + config.historyLen = (Tracker.start config).past.length := by
    rw [Nat.zero_add]
    exact List.length_replicate.symm
  have hsettled := Tracker.settled_start config
  obtain ⟨a, -, hfloor⟩ := hsettled.behind
  obtain ⟨outputs, hcalls, hfits, hchain⟩ :=
    hmirrors.calls_apart hsound hbase hsettled hfloor hinputs
  exact ⟨c, outputs, hc, hcalls, hfits, hchain.of_cons⟩

/-- Without samples nothing happens. -/
theorem safeCalls_of_empty (hsps : 2 ≤ config.sps) (heven : config.sps % 2 = 0)
    (hbits : 1 ≤ config.syncwordBits) {inputs : List (List ℚ)}
    (hinputs : ∀ input ∈ inputs, input = []) :
    SafeCalls config inputs := by
  obtain ⟨c, hc⟩ := create_isSome hsps heven hbits
  refine ⟨c, _, hc, GfskCorrelator.calls_nil hc hinputs, ?_, ?_⟩
  · intro output hmem
    obtain ⟨input, -, rfl⟩ := List.mem_map.mp hmem
    exact Nat.zero_le _
  · rw [GfskCorrelator.streamPositions_nil]
    exact .nil

/-- Everything correlates. -/
def alwaysFound (sps : UInt32) (syncwordBits maxInputBufferLength : Nat) : CorrelatorConfig where
  sps := sps
  syncwordBits := syncwordBits
  threshold := 0
  burstSymbols := 2048
  maxInputBufferLength := maxInputBufferLength
  templateMean := 0
  templateEnergy := 1
  correlate := fun _ => ⟨1, 1, 0⟩

/-- If the peak search takes no time, the first sample is a peak and the sync reads beyond
it. -/
theorem not_safeCalls_of_cut {sps : UInt32} (syncwordBits : Nat) {maxInputBufferLength : Nat}
    (hcut : gfskCorrelatorPeakSearchSymbols * sps = 0) (hmax : 1 ≤ maxInputBufferLength) :
    ¬ SafeCalls (alwaysFound sps syncwordBits maxInputBufferLength) [[0]] := by
  rintro ⟨c, outputs, hc, hcalls, -, -⟩
  rw [GfskCorrelator.create_eq hc, GfskCorrelator.calls] at hcalls
  have hprocess : GfskCorrelator.process ⟨alwaysFound sps syncwordBits maxInputBufferLength,
      List.replicate (alwaysFound sps syncwordBits maxInputBufferLength).historyLen 0,
      (alwaysFound sps syncwordBits maxInputBufferLength).historyLen, 0, false, 0, 0, 0, 0,
      (alwaysFound sps syncwordBits maxInputBufferLength).historyLen, 0, 1⟩ [0] = none := by
    have hsearch : (alwaysFound sps syncwordBits maxInputBufferLength).peakSearchLen = 0 :=
      peakSearchLen_eq_zero_iff.mpr hcut
    have htemplate := (alwaysFound sps syncwordBits maxInputBufferLength).templateLen_le
    generalize hconfig : alwaysFound sps syncwordBits maxInputBufferLength = config
      at hsearch htemplate ⊢
    have hfound : ∀ samples, config.correlate samples = ⟨1, 1, 0⟩ := by
      rw [← hconfig]
      exact fun _ => rfl
    have hthreshold : config.threshold = 0 := by
      rw [← hconfig]
      rfl
    have hlength : ¬ ([0] : List ℚ).length > config.maxInputBufferLength := by
      rw [← hconfig]
      exact Nat.not_lt.mpr hmax
    rw [GfskCorrelator.process, if_neg hlength]
    dsimp only
    rw [List.length_append, List.length_replicate, Nat.add_sub_cancel_left, List.length_singleton,
      GfskCorrelator.loop]
    dsimp only
    have hcorrelate : GfskCorrelator.correlate ⟨config, List.replicate config.historyLen 0 ++ [0],
        config.historyLen, 0, false, 0, 0, 0, 0, config.historyLen, 0, 1⟩ config.historyLen =
          some ⟨1, 1, 0⟩ := by
      rw [GfskCorrelator.correlate, checkedSub_of_le (by dsimp only; omega), Option.bind_some,
        if_pos (by simp), hfound]
    simp [GfskCorrelator.search, hcorrelate, hthreshold, GfskCorrelator.settle, checkedSub, hsearch,
      GfskCorrelator.sync_none]
  rw [hprocess, Option.bind_none] at hcalls
  cases hcalls

end CorrelatorConfig

/-- **When the correlator never leaves its buffers and never goes back.** -/
theorem correlator_safe_iff {sps : UInt32} (hsps : 2 ≤ sps) (heven : sps % 2 = 0)
    {syncwordBits : Nat} (hbits : 1 ≤ syncwordBits) (maxInputBufferLength : Nat) :
    (∀ config : CorrelatorConfig, config.sps = sps → config.syncwordBits = syncwordBits →
      config.maxInputBufferLength = maxInputBufferLength → ∀ inputs : List (List ℚ),
        (∀ input ∈ inputs, input.length ≤ maxInputBufferLength) → SafeCalls config inputs) ↔
    gfskCorrelatorPeakSearchSymbols * sps ≠ 0 ∨ maxInputBufferLength = 0 := by
  constructor
  · intro hsafe
    by_contra hnot
    obtain ⟨hcut, hmax⟩ := not_or.mp hnot
    have hone : 1 ≤ maxInputBufferLength := by omega
    refine CorrelatorConfig.not_safeCalls_of_cut syncwordBits (not_not.mp hcut) hone
      (hsafe (.alwaysFound sps syncwordBits maxInputBufferLength) rfl rfl rfl [[0]] ?_)
    intro input hmem
    rw [List.mem_singleton.mp hmem]
    exact hone
  · rintro hcondition config rfl rfl rfl inputs hinputs
    by_cases hcut : config.peakSearchLen = 0
    · have hzero := hcondition.resolve_left
        (not_not.mpr (CorrelatorConfig.peakSearchLen_eq_zero_iff.mp hcut))
      refine CorrelatorConfig.safeCalls_of_empty hsps heven hbits fun input hmem => ?_
      exact List.length_eq_zero_iff.mp (Nat.le_zero.mp (hzero ▸ hinputs input hmem))
    · exact CorrelatorConfig.safeCalls_of_sound
        ⟨UInt32.le_iff_toNat_le.mp hsps, Nat.pos_of_ne_zero hcut⟩ heven hbits hinputs

/-- The correlator of the modem: two samples for a symbol. -/
theorem correlator_two_samples_safe :
    SafeCalls (.alwaysFound 2 32 256) [[0, 1], [], List.replicate 256 0] :=
  (@correlator_safe_iff 2 (by decide) (by decide) 32 (by decide) 256).mpr
    (by decide) (.alwaysFound 2 32 256) rfl rfl rfl _ (by
      intro input hmem
      rw [List.mem_cons, List.mem_cons, List.mem_singleton] at hmem
      rcases hmem with rfl | rfl | rfl
      · decide
      · decide
      · rw [List.length_replicate])

/-- `8 * sps` is 0 in 32 bits. -/
theorem correlator_reads_beyond_peak :
    ¬ ∀ config : CorrelatorConfig, 2 ≤ config.sps → config.sps % 2 = 0 →
      1 ≤ config.syncwordBits → config.syncwordBits ≤ 64 → ∀ inputs : List (List ℚ),
        (∀ input ∈ inputs, input.length ≤ config.maxInputBufferLength) →
          SafeCalls config inputs := by
  intro hsafe
  refine CorrelatorConfig.not_safeCalls_of_cut 1 (by decide) (le_refl 1)
    (hsafe (.alwaysFound 0x20000000 1 1) (by decide) (by decide) (le_refl 1) (by decide) [[0]] ?_)
  intro input hmem
  rw [List.mem_singleton.mp hmem]
  exact le_refl 1

end SdrModem
