import SdrModem.CorrelatorRefinement
import SdrModem.Demodulator
import SdrModem.Stage

/-!
# Where a call ends

Demodulation does not depend on how a stream is cut into calls.  A chain is made of stages,
and the objects of `liquid-dsp` are stages to begin with.  The stages of the modems
themselves have to be brought to that form: what is left of a call in the decimator waits for
the next call, and the indexes of the correlator are moved back at the end of every call.
-/
universe u v

namespace SdrModem
open Mealy

/-- The outputs of calls that are not refused. -/
def accepted {σ : Type u} {α β : Type} (call : σ → List α → Option (σ × Option (List β))) (s : σ)
    (input : List α) : Option (σ × List β) :=
  (call s input).bind fun (s, output) => output.map (s, ·)

/-- A call that is a call of something else. -/
theorem accepted_eq {σ : Type u} {τ : Type v} {α β γ : Type}
    {f : σ → List α → Option (σ × Option (List γ))}
    {g : τ → List β → Option (τ × Option (List γ))} {s : σ} {t : τ} {mk : τ → σ}
    {input : List α} {input' : List β}
    (h : f s input = (g t input').map (Prod.map mk id)) :
    accepted f s input = (accepted g t input').map (Prod.map mk id) := by
  rw [accepted, h, accepted]
  cases g t input' with
  | none => rfl
  | some result =>
    obtain ⟨t', output⟩ := result
    cases output <;> rfl

/-! ## The decimator -/

namespace HalfbandDecim
variable {α : Type} {decimation : Nat}

/-- The decimator without a buffer: a sample waits until there is a block. -/
def blockStep (decimation : Nat) (s : List α × Object (List α) α) (sample : α) :
    (List α × Object (List α) α) × List α :=
  let block := s.1 ++ [sample]
  if block.length = decimation then
    (([], (s.2.process [block]).1), (s.2.process [block]).2)
  else ((block, s.2), [])

/-- All blocks of a buffer at once. -/
theorem steps_blockStep {history : List α} (hhistory : history.length < decimation)
    (resampler : Object (List α) α) (input : List α) :
    steps (blockStep decimation) (history, resampler) input =
      let working := history ++ input
      let numBlocks := working.length / decimation
      ((working.drop (numBlocks * decimation),
        (resampler.process (blocks decimation numBlocks working)).1),
        (resampler.process (blocks decimation numBlocks working)).2) := by
  induction input generalizing history resampler with
  | nil =>
    dsimp only
    rw [List.append_nil, Nat.div_eq_of_lt hhistory, Nat.zero_mul, List.drop_zero]
    rfl
  | cons sample input ih =>
    dsimp only
    rw [steps, blockStep]
    dsimp only
    by_cases hfull : (history ++ [sample]).length = decimation
    · have hpos : 0 < decimation := by omega
      have hblocks : (history ++ sample :: input).length / decimation =
          input.length / decimation + 1 := by
        rw [List.append_cons, List.length_append, hfull, Nat.add_div_left _ hpos]
      have htake : (history ++ sample :: input).take decimation = history ++ [sample] := by
        rw [List.append_cons, ← hfull, List.take_left]
      have hdrop : (history ++ sample :: input).drop decimation = input := by
        rw [List.append_cons, ← hfull, List.drop_left]
      have hrest := @ih [] hpos (resampler.process [history ++ [sample]]).1
      rw [if_pos hfull, hblocks, blocks, htake, hdrop, Nat.add_mul, Nat.one_mul,
        Nat.add_comm _ decimation, ← List.drop_drop, hdrop, hrest]
      rfl
    · have hshort : (history ++ [sample]).length < decimation := by
        rw [List.length_append, List.length_singleton] at hfull ⊢
        omega
      rw [if_neg hfull]
      dsimp only
      rw [ih hshort, List.nil_append, List.append_cons history sample input]

theorem length_blocks (decimation numBlocks : Nat) (samples : List α) :
    (blocks decimation numBlocks samples).length = numBlocks := by
  induction numBlocks generalizing samples with
  | zero => rfl
  | succ numBlocks ih => rw [blocks, List.length_cons, ih]

/-- A block has at least two samples. -/
theorem length_steps_blockStep {history : List α} (hhistory : history.length < decimation)
    (htwo : 2 ≤ decimation) (resampler : Object (List α) α) (input : List α) :
    (steps (blockStep decimation) (history, resampler) input).2.length ≤ input.length := by
  rw [steps_blockStep hhistory]
  dsimp only
  rw [Object.length_process, length_blocks, List.length_append]
  have hlt : history.length + input.length < (input.length + 1) * decimation := by
    have hle := Nat.mul_le_mul_left input.length htwo
    rw [Nat.add_mul, Nat.one_mul]
    omega
  exact Nat.lt_succ_iff.mp ((Nat.div_lt_iff_lt_mul (by omega)).mpr hlt)

/-- What does not fill a block is left. -/
theorem length_history_steps {history : List α} (hhistory : history.length < decimation)
    (resampler : Object (List α) α) (input : List α) :
    (steps (blockStep decimation) (history, resampler) input).1.1.length < decimation := by
  rw [steps_blockStep hhistory]
  dsimp only
  rw [List.length_drop, ← Nat.mod_eq_sub_div_mul]
  exact Nat.mod_lt _ (by omega)

/-- A decimator with this in it. -/
def holding (f : HalfbandDecim α) (s : List α × Object (List α) α) : HalfbandDecim α :=
  { f with history := s.1, resampler := s.2 }

/-- **A call of the decimator**: there is room for all the blocks. -/
theorem process_holding (config : HalfbandDecimConfig α) (hpos : 1 ≤ config.numStages)
    (hle : config.numStages ≤ modemHalfbandMaxStages) {bufferSize : UInt32}
    {s : List α × Object (List α) α} (hs : s.1.length < 2 ^ config.numStages) {input : List α}
    (hinput : input.length ≤ bufferSize.toNat) :
    ((create config bufferSize).holding s).process input =
      ((create config bufferSize).holding (steps (blockStep (2 ^ config.numStages)) s input).1,
        some (steps (blockStep (2 ^ config.numStages)) s input).2) := by
  have hdecimation := decimation_create config hle bufferSize
  have htwo : 2 ≤ 2 ^ config.numStages := Nat.pow_le_pow_right (by decide : 0 < 2) hpos
  have houtput : (create config bufferSize).outputLen =
      bufferSize.toNat / 2 ^ config.numStages + 1 := by
    have hsum : (create config bufferSize).outputLen =
        (bufferSize.toNat / (create config bufferSize).decimation.toNat + 1) % 2 ^ 32 := by
      change (bufferSize / (create config bufferSize).decimation + 1).toNat = _
      rw [UInt32.toNat_add, UInt32.toNat_div]
      rfl
    have hlt := bufferSize.toNat_lt
    have hhalf := Nat.div_le_div_left htwo (by decide : 0 < 2) (a := bufferSize.toNat)
    rw [hsum, hdecimation, Nat.mod_eq_of_lt (by omega)]
  have hroom : (s.1 ++ input).length / 2 ^ config.numStages ≤
      (create config bufferSize).outputLen := by
    rw [houtput, ← Nat.add_div_right _ (by omega)]
    apply Nat.div_le_div_right
    rw [List.length_append]
    omega
  obtain ⟨history, resampler⟩ := s
  rw [steps_blockStep hs]
  have hnot : ¬ input.length >
      ((create config bufferSize).holding (history, resampler)).maxInputBufferLength :=
    Nat.not_lt.mpr hinput
  rw [process, if_neg hnot]
  dsimp only [holding] at hroom ⊢
  rw [hdecimation, Nat.min_eq_left hroom]

end HalfbandDecim

/-! ## GFSK -/

/-- `gfsk_correlator_process`, as far as the modem is concerned. -/
def GfskCorrelator.softBits (c : GfskCorrelator) (input : List ℚ) :
    Option (GfskCorrelator × Option (List Int8)) :=
  (c.process input).map fun (c, output) =>
    (c, output.map fun symbols => symbols.map SoftSymbol.value)

/-- **The correlator**, wherever a peak search is when a call ends. -/
theorem GfskCorrelator.streams_softBits {ι : Type} {config : CorrelatorConfig}
    (hsound : config.Sound) {len : ι → Nat} {c : ι → GfskCorrelator}
    (hburst : ∀ i, CorrelatorConfig.BurstFits { config with maxInputBufferLength := len i })
    (hc : ∀ i, create { config with maxInputBufferLength := len i } = some (c i)) :
    StreamsAlike.{0, 0} (accepted softBits) len c := by
  refine ⟨(Stage.ofStep (Tracker.step config)).map SoftSymbol.value, Tracker.start config,
    fun i => ?_⟩
  have hci := hc i
  have hfits := hburst i
  generalize hconfig : { config with maxInputBufferLength := len i } = sized at hci hfits
  -- the tracker has no buffer
  have hrun : Tracker.run config = Tracker.run sized := by rw [← hconfig]; rfl
  have hstart : Tracker.start config = Tracker.start sized := by rw [← hconfig]; rfl
  have hlen : len i = sized.maxInputBufferLength := by rw [← hconfig]
  replace hsound : sized.Sound := by rw [← hconfig]; exact ⟨hsound.1, hsound.2⟩
  rw [hstart, hlen]
  refine ⟨fun c t => ∃ base, Mirrors sized base sized.historyLen [] c t ∧
      base + sized.historyLen = t.past.length ∧ Tracker.Settled sized t ∧
        t.ends = fun p => p + sized.burstLen,
    ?_, 0, Mirrors.of_create hci, ?_, Tracker.settled_start sized, rfl⟩
  · rintro c t ⟨base, hmirrors, hbase, hsettled, hends⟩ input hinput
    change ∃ c', accepted softBits c input =
        some (c', (Tracker.run config t input).2.map SoftSymbol.value) ∧
      ∃ base, Mirrors sized base sized.historyLen [] c' (Tracker.run config t input).1 ∧
        base + sized.historyLen = (Tracker.run config t input).1.past.length ∧
        Tracker.Settled sized (Tracker.run config t input).1 ∧
          (Tracker.run config t input).1.ends = fun p => p + sized.burstLen
    rw [hrun]
    obtain ⟨c', output, hprocess, hmirrors', houtput⟩ :=
      hmirrors.process_eq hsound hbase hsettled hinput (hends ▸ hfits.endsIn (by omega))
    refine ⟨c', ?_, base + input.length, hmirrors', ?_, hsettled.run hsound input,
      (t.ends_run input).trans hends⟩
    · have hvalues : output.map SoftSymbol.value =
          (t.run sized input).2.map SoftSymbol.value := by
        rw [← houtput, List.map_map]
        rfl
      rw [accepted, softBits, hprocess, Option.map_some, Option.bind_some]
      dsimp only
      rw [Option.map_some, Option.map_some, hvalues]
    · rw [Tracker.past_run t input, List.length_append]
      omega
  · rw [Nat.zero_add]
    exact List.length_replicate.symm

namespace GfskTiming
variable {ι : Type} {config : GfskRxConfig} {len : ι → Nat} {timing : ι → GfskTiming}

theorem streams_syncword (hbits : config.syncwordBits ≠ 0) (hword : ι → config.syncwordBits ≤ 64)
    (hlen : ∀ i, len i ≤ 2 ^ 33) (h : ∀ i, create config (len i) = some (timing i)) :
    StreamsAlike.{1, 1} (accepted demodulate) len timing := by
  have hcorrelator : ∀ i, ∃ correlator,
      GfskCorrelator.create (config.correlator (len i)) = some correlator ∧
        timing i = .syncword (.create config.matchedFilter) correlator := by
    intro i
    have hi := h i
    rw [create, if_pos hbits, Option.map_eq_some_iff] at hi
    obtain ⟨correlator, hcorrelator, heq⟩ := hi
    exact ⟨correlator, hcorrelator, heq.symm⟩
  choose correlator hcorrelator htiming using hcorrelator
  obtain rfl : timing = fun i => .syncword (.create config.matchedFilter) (correlator i) :=
    funext htiming
  have hsearch : 0 < (config.correlator 0).peakSearchLen := by
    change 0 < (gfskCorrelatorPeakSearchSymbols * 2).toNat
    decide
  -- a burst of 2048 symbols is far from the end of a `size_t`
  have hburst : ∀ i, (config.correlator (len i)).BurstFits := by
    intro i
    have hhistory : (config.correlator (len i)).historyLen = config.syncwordBits * 2 + 22 := rfl
    have hmax : (config.correlator (len i)).maxInputBufferLength = len i := rfl
    have hburstLen : (config.correlator (len i)).burstLen = 4096 := by
      change ((2048 : UInt64) * (2 : UInt32).toUInt64).toNat = 4096
      decide
    have hle := hlen i
    have hbitsLe := hword i
    unfold CorrelatorConfig.BurstFits
    omega
  have hstreams := GfskCorrelator.streams_softBits ⟨le_refl 2, hsearch⟩ hburst hcorrelator
  have hcall : ∀ (matched : Object ℚ ℚ) (correlator : GfskCorrelator) (input : List ℚ),
      demodulate (.syncword matched correlator) input =
        (correlator.softBits (matched.process input).2).map
          (Prod.map (.syncword (matched.process input).1) id) := by
    intro matched correlator input
    rw [demodulate, GfskCorrelator.softBits, Option.map_map]
    rfl
  exact StreamsAlike.andThen (Stage.object ℚ ℚ) (fun _ => True)
    (fun _ matched _ input hinput =>
      ⟨trivial, (Object.length_process matched input).trans_le hinput⟩)
    (fun _ => GfskTiming.syncword)
    (fun _ matched correlator _ input _ => accepted_eq (hcall matched correlator input)) trivial
    hstreams

theorem streams_recovery (hbits : config.syncwordBits = 0)
    (h : ∀ i, create config (len i) = some (timing i)) :
    StreamsAlike.{1, 1} (accepted demodulate) len timing := by
  -- without a correlator there is nothing of that length
  have hsame : ∀ n m, create config n = create config m := by
    intro n m
    rw [create, create, if_neg (not_not.mpr hbits), if_neg (not_not.mpr hbits)]
  have hrecovery : ∀ n timing, create config n = some timing →
      ∃ dc symbolSync, timing = .recovery dc symbolSync := by
    intro n timing hn
    rw [create, if_neg (not_not.mpr hbits)] at hn
    dsimp only at hn
    split at hn
    · obtain ⟨dc, -, rfl⟩ := Option.map_eq_some_iff.mp hn
      exact ⟨some dc, _, rfl⟩
    · exact ⟨none, _, (Option.some.inj hn).symm⟩
  let blocker := (Stage.ofStep (@DcBlocker.step gfskModemDcBlockLength)).orNot
  let symbols := (Stage.ofStep SymsyncObject.step).map gfskSoftBit
  have hof : ∀ s : (blocker.andThen symbols).State,
      StreamsAlike.{1, 1} (accepted demodulate) len fun _ => .recovery s.1 s.2 :=
    StreamsAlike.of_run (blocker.andThen symbols) (fun _ s => GfskTiming.recovery s.1 s.2)
      fun _ _ _ _ => rfl
  rcases isEmpty_or_nonempty ι with hempty | ⟨⟨i⟩⟩
  · exact ⟨blocker.andThen symbols, (none, ⟨config.symsync, config.symsync.machine.init⟩),
      fun i => hempty.elim i⟩
  · obtain ⟨dc, symbolSync, hi⟩ := hrecovery _ _ (h i)
    obtain rfl : timing = fun _ => .recovery dc symbolSync := by
      funext j
      rw [← hi]
      exact Option.some.inj ((h j).symm.trans ((hsame _ _).trans (h i)))
    exact hof (dc, symbolSync)

end GfskTiming

/-- A resampler of this configuration, if there is one. -/
def ResamplerOf (config : Option RxResampler) (resampler : Option (Object Iq (List Iq))) : Prop :=
  resampler.map Object.machine = config.map RxResampler.machine

namespace ResamplerOf
variable {config : Option RxResampler} {resampler : Option (Object Iq (List Iq))}

theorem created (config : Option RxResampler) :
    ResamplerOf config (config.map fun r => .create r.machine) := by
  cases config <;> rfl

theorem emit (h : ResamplerOf config resampler) (input : List Iq) :
    ResamplerOf config (optional Object.emit resampler input).1 := by
  rw [ResamplerOf, ← h]
  cases resampler with
  | none => rfl
  | some resampler => exact congrArg some (Object.machine_process resampler input)

/-- **The output of the resampler fits its buffer.** -/
theorem length_emit_le (h : ResamplerOf config resampler) {input : List Iq} {limit : Nat}
    (hinput : input.length ≤ limit) :
    (optional Object.emit resampler input).2.length ≤ rxMaxInputBufferLength config limit := by
  cases resampler with
  | none =>
    cases config with
    | none => exact hinput
    | some r => cases h
  | some resampler =>
    cases config with
    | none => cases h
    | some r =>
      obtain ⟨machine, state⟩ := resampler
      obtain rfl : machine = r.machine := Option.some.inj h
      have hlength : (input.length : ℚ) * r.rate ≤ (limit : ℚ) * r.rate :=
        mul_le_mul_of_nonneg_right (Nat.cast_le.mpr hinput) r.rate_nonneg
      exact (r.fits state input).trans (Nat.add_le_add_right (Nat.ceil_le_ceil hlength) _)

end ResamplerOf

/-- A buffer behind the resampler is hardly longer than the one before it. -/
theorem rxMaxInputBufferLength_le (resampler : Option RxResampler) (limit : Nat) :
    rxMaxInputBufferLength resampler limit ≤ limit + 16 := by
  cases resampler with
  | none => exact Nat.le_add_right _ _
  | some r =>
    have hceil : ⌈(limit : ℚ) * r.rate⌉₊ ≤ limit :=
      Nat.ceil_le.mpr (mul_le_of_le_one_right (Nat.cast_nonneg _) r.rate_le_one)
    exact Nat.add_le_add_right hceil _

/-- The resampler and the filter in front of a modem. -/
def rxFront : Stage.{1} Iq Iq := (Stage.emitter Iq Iq).orNot.andThen (Stage.object Iq Iq).orNot

theorem length_rxFront_le {config : Option RxResampler} {s : rxFront.State}
    (h : ResamplerOf config s.1) {input : List Iq} {limit : Nat} (hinput : input.length ≤ limit) :
    (rxFront.run s input).2.length ≤ rxMaxInputBufferLength config limit := by
  obtain ⟨resampler, lowpass⟩ := s
  have hfilter : ∀ samples,
      (optional Object.process lowpass samples).2.length = samples.length := by
    intro samples
    cases lowpass with
    | none => rfl
    | some filter => exact Object.length_process filter samples
  exact (hfilter _).trans_le (h.length_emit_le hinput)

section Sizes
variable {ι : Type} {bufferSize : ι → UInt32}

/-- **GFSK**, with a sync word or without one. -/
theorem GfskRx.streams {config : GfskRxConfig} {m : ι → GfskRx}
    (h : ∀ i, create config (bufferSize i) = some (m i)) :
    StreamsAlike.{1, 1} (accepted demodulate) (fun i => (bufferSize i).toNat) m := by
  let samples := rxFront.andThen (Stage.object Iq ℚ)
  let mk : ι → samples.State → GfskTiming → GfskRx := fun i s timing =>
    ⟨(bufferSize i).toNat, s.1.1, s.1.2, s.2, timing⟩
  let front : samples.State :=
    ((config.resampler.map fun r => .create r.machine, config.lowpass.map .create),
      .create config.freqdem)
  have htiming : ∀ i, ∃ timing, GfskTiming.create config
      (rxMaxInputBufferLength config.resampler (bufferSize i).toNat) = some timing ∧
        m i = mk i front timing := by
    intro i
    have hi := h i
    rw [create] at hi
    split at hi
    · cases hi
    · obtain ⟨timing, htiming, heq⟩ := Option.map_eq_some_iff.mp hi
      exact ⟨timing, htiming, heq.symm⟩
  choose timing htiming hm using htiming
  have hword : ι → config.syncwordBits ≤ 64 := by
    intro i
    have hi := h i
    rw [create] at hi
    split at hi
    · cases hi
    · exact Nat.le_of_not_gt ‹_›
  have hlen : ∀ i, rxMaxInputBufferLength config.resampler (bufferSize i).toNat ≤ 2 ^ 33 := by
    intro i
    have hlt := (bufferSize i).toNat_lt
    exact (rxMaxInputBufferLength_le config.resampler _).trans (by omega)
  obtain rfl : m = fun i => mk i front (timing i) := funext hm
  have hstreams : StreamsAlike.{1, 1} (accepted GfskTiming.demodulate)
      (fun i => rxMaxInputBufferLength config.resampler (bufferSize i).toNat) timing := by
    by_cases hbits : config.syncwordBits = 0
    · exact GfskTiming.streams_recovery hbits htiming
    · exact GfskTiming.streams_syncword hbits hword hlen htiming
  have hcall : ∀ i s timing input, input.length ≤ (bufferSize i).toNat →
      demodulate (mk i s timing) input =
        (timing.demodulate (samples.run s input).2).map
          (Prod.map (mk i (samples.run s input).1) id) := by
    intro i s timing input hinput
    rw [demodulate, if_neg (Nat.not_lt.mpr hinput)]
    rfl
  refine StreamsAlike.andThen samples (fun s => ResamplerOf config.resampler s.1.1)
    (fun i s hs input hinput => ⟨hs.emit input, ?_⟩) mk
    (fun i s timing _ input hinput => accepted_eq (hcall i s timing input hinput))
    (ResamplerOf.created config.resampler) hstreams
  exact (Object.length_process s.2 _).trans_le (length_rxFront_le hs hinput)

/-! ## BPSK, DPSK, SDPSK and PSK-PM -/

/-- **BPSK, DPSK and SDPSK.** -/
theorem BpskRx.streams (config : BpskRxConfig) (bufferSize : ι → UInt32) :
    StreamsAlike.{1, 1} (accepted fun m input => some (demodulate m input))
      (fun i => (bufferSize i).toNat) fun i => create config (bufferSize i) := by
  let symbols := (rxFront.andThen (Stage.object Iq Iq)).andThen (Stage.emitter Iq Iq)
  let chain := symbols.andThen (Stage.ofStep (symbolStep config.atan2f))
  let mk : ι → chain.State → BpskRx := fun i s =>
    ⟨(bufferSize i).toNat, s.1.1.1.1, s.1.1.1.2, s.1.1.2, s.1.2, s.2.1, s.2.2, config.atan2f⟩
  have hcall : ∀ i s input, input.length ≤ (bufferSize i).toNat →
      accepted (fun m input => some (demodulate m input)) (mk i s) input =
        some (mk i (chain.run s input).1, (chain.run s input).2) := by
    intro i s input hinput
    rw [accepted, demodulate, if_neg (Nat.not_lt.mpr hinput)]
    rfl
  exact StreamsAlike.of_run chain mk hcall
    ((((config.resampler.map fun r => .create r.machine, config.lowpass.map .create),
      .create config.agc), .create config.symsync), (.create config.costas, config.detector.create))

/-- **PSK-PM**: BPSK behind two oscillators. -/
theorem PskPmRx.streams (config : PskPmRxConfig) (bufferSize : ι → UInt32) :
    StreamsAlike.{1, 1} (accepted fun m input => some (demodulate m input))
      (fun i => (bufferSize i).toNat) fun i => create config (bufferSize i) := by
  let carrier := Stage.ofStep (carrierStep config.atan2f)
  let mk : ι → carrier.State → BpskRx → PskPmRx := fun i s subcarrierModem =>
    ⟨(bufferSize i).toNat, s.1, s.2, subcarrierModem, config.atan2f⟩
  have hlength : ∀ s input, (carrier.run s input).2.length = input.length := by
    intro s input
    induction input generalizing s with
    | nil => rfl
    | cons sample input ih => exact congrArg (· + 1) (ih _)
  have hcall : ∀ i s subcarrierModem input, input.length ≤ (bufferSize i).toNat →
      some (demodulate (mk i s subcarrierModem) input) =
        (some (subcarrierModem.demodulate (carrier.run s input).2)).map
          (Prod.map (mk i (carrier.run s input).1) id) := by
    intro i s subcarrierModem input hinput
    rw [demodulate, if_neg (Nat.not_lt.mpr hinput)]
    rfl
  exact StreamsAlike.andThen carrier (fun _ => True)
    (fun _ s _ input hinput => ⟨trivial, (hlength s input).trans_le hinput⟩) mk
    (fun i s subcarrierModem _ input hinput =>
      accepted_eq (f := fun m input => some (demodulate m input))
        (hcall i s subcarrierModem input hinput))
    (r := (.create config.carrierPll, .create config.subcarrierNco)) trivial
    (BpskRx.streams config.subcarrier bufferSize)

/-! ## The modem of the workers -/

theorem WrappedRx.streams {config : WrappedRxConfig} {m : ι → WrappedRx}
    (h : ∀ i, create (bufferSize i) config = some (m i)) :
    StreamsAlike.{1, 1} (accepted demodulate) (fun i => (bufferSize i).toNat) m := by
  cases config with
  | gfsk config =>
    choose modem hmodem hm using fun i => Option.map_eq_some_iff.mp (h i)
    obtain rfl := funext hm
    exact (GfskRx.streams hmodem).wrap _ fun _ _ => accepted_eq rfl
  | bpsk config =>
    obtain rfl := funext fun i => Option.some.inj (h i)
    exact (BpskRx.streams config bufferSize).wrap _ fun _ _ => accepted_eq rfl
  | pskPm config =>
    obtain rfl := funext fun i => Option.some.inj (h i)
    exact (PskPmRx.streams config bufferSize).wrap _ fun _ _ => accepted_eq rfl

end Sizes

namespace SdrModemRx

/-- **The modem**, whatever the length of its calls. -/
theorem streamsAlike {ι : Type} {config : SdrModemRxConfig} {bufferSize : ι → UInt32}
    {m : ι → SdrModemRx} (h : ∀ i, create config (bufferSize i) = some (m i)) :
    StreamsAlike.{1, 1} (accepted demodulate) (fun i => (bufferSize i).toNat) m := by
  choose modem hmodem hm using fun i => Option.map_eq_some_iff.mp (h i)
  obtain rfl := funext fun i => (hm i).symm
  have hstreams := WrappedRx.streams hmodem
  have hle := estimateHalfbandStages_le .binary32 config.sampleRate config.bandwidth
  unfold HalfbandDecim.forRate
  generalize estimateHalfbandStages .binary32 config.sampleRate config.bandwidth = stages at hle ⊢
  by_cases hstages : stages = 0
  · simp only [hstages, if_true]
    exact hstreams.wrap (fun modem => SdrModemRx.mk modem none) fun _ _ => accepted_eq rfl
  · have hpos : 1 ≤ stages := Nat.one_le_iff_ne_zero.mpr hstages
    have htwo : 2 ≤ 2 ^ stages := Nat.pow_le_pow_right (by decide : 0 < 2) hpos
    simp only [hstages, if_false]
    let blocks := Stage.ofStep (HalfbandDecim.blockStep (α := Iq) (2 ^ stages))
    let mk : ι → blocks.State → WrappedRx → SdrModemRx := fun i s modem =>
      ⟨modem, some ((HalfbandDecim.create ⟨stages, config.msresamp2⟩ (bufferSize i)).holding s)⟩
    have hcall : ∀ i (s : blocks.State) (modem : WrappedRx) (input : List Iq),
        s.1.length < 2 ^ stages → input.length ≤ (bufferSize i).toNat →
        demodulate (mk i s modem) input =
          (modem.demodulate (blocks.run s input).2).map
            (Prod.map (mk i (blocks.run s input).1) id) := by
      intro i s modem input hs hinput
      have hprocess :=
        HalfbandDecim.process_holding ⟨stages, config.msresamp2⟩ hpos hle hs hinput
      dsimp only [demodulate, Mealy.optional, mk]
      rw [hprocess]
      rfl
    refine StreamsAlike.andThen blocks (fun s => s.1.length < 2 ^ stages)
      (fun i s hs input hinput => ⟨HalfbandDecim.length_history_steps hs s.2 input, ?_⟩) mk
      (fun i s modem hs input hinput => accepted_eq (hcall i s modem input hs hinput))
      (r := ([], .create config.msresamp2)) (Nat.lt_of_lt_of_le (by decide : 0 < 2) htwo) hstreams
    exact (HalfbandDecim.length_steps_blockStep hs htwo s.2 input).trans hinput

variable {config : SdrModemRxConfig} {bufferSize : UInt32} {m : SdrModemRx}

theorem streams (h : create config bufferSize = some m) :
    Streams.{1, 1} (accepted demodulate) bufferSize.toNat m :=
  (streamsAlike fun _ : Unit => h).streams ()

/-- The soft bits of calls, if none of them is refused. -/
def demodulateCalls (m : SdrModemRx) (inputs : List (List Iq)) : Option (List Int8) :=
  calls (accepted demodulate) m inputs

end SdrModemRx

/-- **Demodulation does not depend on where the calls end.** -/
theorem demodulation_independent {config : SdrModemRxConfig} {bufferSize : UInt32} {m : SdrModemRx}
    (hm : SdrModemRx.create config bufferSize = some m) {inputs inputs' : List (List Iq)}
    (hinputs : ∀ input ∈ inputs, input.length ≤ bufferSize.toNat)
    (hinputs' : ∀ input ∈ inputs', input.length ≤ bufferSize.toNat)
    (hsame : inputs.flatten = inputs'.flatten) :
    ∃ bits, m.demodulateCalls inputs = some bits ∧ m.demodulateCalls inputs' = some bits :=
  (SdrModemRx.streams hm).calls_eq hinputs hinputs' hsame

/-- Every second sample is no more than a rate of one half allows. -/
theorem emit_half_length_le (state : Bool) (input : List Iq) :
    ((Object.mk ⟨Bool, false, fun odd sample => (!odd, if odd then [] else [sample])⟩
        state).emit input).2.length ≤
      ⌈(input.length : ℚ) * (1 / 2)⌉₊ + rxResamplerOutputMargin := by
  have hlength : ∀ (input : List Iq) (state : Bool),
      2 * ((Object.mk ⟨Bool, false, fun odd sample => (!odd, if odd then [] else [sample])⟩
        state).emit input).2.length ≤ input.length + (if state then 0 else 1) := by
    intro input
    induction input with
    | nil => exact fun _ => Nat.zero_le _
    | cons sample input ih =>
      intro state
      have hrest := ih (!state)
      simp only [Object.emit, Object.process, List.flatten_cons, List.length_append,
        List.length_cons] at hrest ⊢
      cases state <;> simp at hrest ⊢ <;> omega
  have hceil : (input.length : ℚ) / 2 ≤ ⌈(input.length : ℚ) * (1 / 2)⌉₊ := by
    rw [div_eq_mul_one_div]
    exact Nat.le_ceil _
  have hle : input.length ≤ 2 * ⌈(input.length : ℚ) * (1 / 2)⌉₊ := by
    have hcast : (input.length : ℚ) ≤ 2 * ⌈(input.length : ℚ) * (1 / 2)⌉₊ := by linarith
    exact_mod_cast hcast
  have hemitted := hlength input state
  unfold rxResamplerOutputMargin
  split at hemitted <;> omega

/-- A resampler that keeps every second sample. -/
def halfResampler : RxResampler where
  machine := ⟨Bool, false, fun odd sample => (!odd, if odd then [] else [sample])⟩
  rate := 1 / 2
  rate_nonneg := by norm_num
  rate_le_one := by norm_num
  fits := emit_half_length_le

/-- GFSK with a sync word of 8 bits behind a decimator and a resampler. -/
def syncwordRxConfig : SdrModemRxConfig where
  modem := .gfsk
    { resampler := some halfResampler
      lowpass := none
      freqdem := ⟨Iq, ⟨1, 0⟩, fun previous sample => (sample, (sample * previous.conj).im)⟩
      syncwordBits := 8
      template := ⟨0, 16, List.sum, id⟩
      matchedFilter := ⟨ℚ, 0, fun previous sample => (sample, (previous + sample) / 2)⟩
      useDcBlock := false
      symsync := ⟨⟨Bool, false, fun odd sample => (!odd, if odd then [sample] else [])⟩, id⟩ }
  sampleRate := 9600
  bandwidth := 2000
  msresamp2 := ⟨Unit, (), fun _ block => ((), block.headD ⟨0, 0⟩)⟩

/-- GFSK at two samples for a symbol: every second sample is a soft bit. -/
def directRxConfig : SdrModemRxConfig where
  modem := .gfsk
    { resampler := none
      lowpass := none
      freqdem := ⟨Iq, ⟨1, 0⟩, fun previous sample => (sample, (sample * previous.conj).im)⟩
      syncwordBits := 0
      template := ⟨0, 16, List.sum, id⟩
      matchedFilter := ⟨ℚ, 0, fun previous sample => (sample, (previous + sample) / 2)⟩
      useDcBlock := false
      symsync := ⟨⟨Bool, false, fun odd sample => (!odd, if odd then [sample] else [])⟩, id⟩ }
  sampleRate := 4800
  bandwidth := 2000
  msresamp2 := ⟨Unit, (), fun _ block => ((), block.headD ⟨0, 0⟩)⟩

/-- A carrier whose phase changes behind every second sample. -/
def keyedSignal (n : Nat) : List Iq :=
  (List.range n).map fun i => if i % 4 < 2 then ⟨1, 0⟩ else ⟨0, 1⟩

/-- Eight soft bits of 200 samples, in calls of 150, none and 50 samples, and sample by sample. -/
theorem syncword_calls_independent :
    ∃ m, SdrModemRx.create syncwordRxConfig 150 = some m ∧
      ∃ bits, bits.length = 8 ∧
        m.demodulateCalls [(keyedSignal 200).take 150, [], (keyedSignal 200).drop 150] =
          some bits ∧
        m.demodulateCalls ((keyedSignal 200).map fun sample => [sample]) = some bits := by
  obtain ⟨m, hm⟩ : ∃ m, SdrModemRx.create syncwordRxConfig 150 = some m := ⟨_, rfl⟩
  have hsame : [(keyedSignal 200).take 150, [], (keyedSignal 200).drop 150].flatten =
      ((keyedSignal 200).map fun sample => [sample]).flatten := by
    decide +kernel
  obtain ⟨bits, hcalls, hsamples⟩ :=
    demodulation_independent hm (by decide +kernel) (by decide +kernel) hsame
  have hlength : (some bits).map List.length = some 8 := by
    rw [← hcalls]
    cases hm
    decide +kernel
  exact ⟨m, hm, bits, Option.some.inj hlength, hcalls, hsamples⟩

end SdrModem
