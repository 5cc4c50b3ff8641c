import SdrModem.ModulatorReset

/-!
# The modems as streams

Without its buffers the chain of a modem is streaming: what it makes of bits does not
depend on how they are cut (`SdrModemTx.feed`), and a flush adds what is still in it
(`SdrModemTx.drain`).

The code has limits that can get in the way: the resampler takes and returns 32-bit
lengths, and the half-band interpolator is created with a buffer length that has been
cut to 32 bits.  `SdrModemConfig.Fits` says that a call stays within them, and then
the code is the stream.
-/
namespace SdrModem
open Mealy

/-! ## The chain without its buffers -/

/-- `tx_pending` behind two blocks of bits. -/
theorem pending_append (pending : Bool) (xs ys : List Bool) :
    (pending || !(xs ++ ys).isEmpty) = (pending || !xs.isEmpty || !ys.isEmpty) := by
  cases xs with
  | nil => simp
  | cons x xs => simp

namespace GfskModem

/-- The modem after these bits, and their samples. -/
def feed (m : GfskModem) (bits : List Bool) : GfskModem × List Sample :=
  let mod := m.mod.expand bits
  let output := optional Object.emit m.resamplerTx mod.2
  ({ m with
      mod := mod.1
      resamplerTx := output.1
      txLastBit := bits.getLastD m.txLastBit
      txPending := m.txPending || !bits.isEmpty },
    output.2)

/-- The samples of a flush. -/
def drain (m : GfskModem) : List Sample :=
  let samples := (m.mod.expand (List.replicate gfskModemTxTailSymbols m.txLastBit)).2
  (optional Object.emit m.resamplerTx (samples ++ flushZeros m.resamplerTx m.resamplerTxFlushLen)).2

theorem streaming_feed : Streaming feed where
  nil m := by
    simp [feed, Object.streaming_expand.nil, Object.streaming_emit.optional.nil]
  append m xs ys := by
    have hlast : (xs ++ ys).getLastD m.txLastBit = ys.getLastD (xs.getLastD m.txLastBit) := by
      simp [List.getLastD_eq_getLast?, List.getLast?_append, Option.getD_or]
    simp only [feed, Object.streaming_expand.append, Object.streaming_emit.optional.append, hlast,
      pending_append]

end GfskModem

namespace BpskModem

/-- The modem after these bits, and their samples. -/
def feed (m : BpskModem) (bits : List Bool) : BpskModem × List Sample :=
  let mod := m.mod.process bits
  let interp := m.interp.expand mod.2
  let output := optional Object.emit m.resamplerTx interp.2
  ({ m with
      mod := mod.1
      interp := interp.1
      resamplerTx := output.1
      txPending := m.txPending || !bits.isEmpty },
    output.2)

/-- The samples of a flush. -/
def drain (m : BpskModem) : List Sample :=
  let samples := (m.interp.expand (List.replicate m.txTailSymbols 0)).2
  (optional Object.emit m.resamplerTx (samples ++ flushZeros m.resamplerTx m.resamplerTxFlushLen)).2

theorem streaming_feed : Streaming feed where
  nil m := by
    simp [feed, Object.streaming_process.nil, Object.streaming_expand.nil,
      Object.streaming_emit.optional.nil]
  append m xs ys := by
    simp only [feed, Object.streaming_process.append, Object.streaming_expand.append,
      Object.streaming_emit.optional.append, pending_append]

end BpskModem

namespace PskPmModem

theorem streaming_carrier (phaseModulate : Sample → UInt32 → Sample) :
    Streaming (carrier phaseModulate) where
  nil _ := rfl
  append nco xs ys := by
    simp only [carrier, List.map_append, Object.streaming_process.append]
    rw [List.zipWith_append (by simp)]

/-- The modem after these bits, and their samples. -/
def feed (m : PskPmModem) (bits : List Bool) : PskPmModem × List Sample :=
  let subcarrier := m.subcarrierModem.feed bits
  let output := carrier m.phaseModulate m.subcarrierNco subcarrier.2
  ({ m with subcarrierModem := subcarrier.1, subcarrierNco := output.1 }, output.2)

/-- The samples of a flush. -/
def drain (m : PskPmModem) : List Sample :=
  (carrier m.phaseModulate m.subcarrierNco m.subcarrierModem.drain).2

theorem streaming_feed : Streaming feed where
  nil m := by
    simp [feed, BpskModem.streaming_feed.nil, (streaming_carrier m.phaseModulate).nil]
  append m xs ys := by
    simp only [feed, BpskModem.streaming_feed.append, (streaming_carrier m.phaseModulate).append]

end PskPmModem

namespace WrappedModem

def feed : WrappedModem → List Bool → WrappedModem × List Sample
  | .gfsk m, bits => (.gfsk (m.feed bits).1, (m.feed bits).2)
  | .bpsk m, bits => (.bpsk (m.feed bits).1, (m.feed bits).2)
  | .pskPm m, bits => (.pskPm (m.feed bits).1, (m.feed bits).2)

def drain : WrappedModem → List Sample
  | .gfsk m => m.drain
  | .bpsk m => m.drain
  | .pskPm m => m.drain

theorem streaming_feed : Streaming feed where
  nil m := by
    cases m with
    | gfsk m => rw [feed, GfskModem.streaming_feed.nil]
    | bpsk m => rw [feed, BpskModem.streaming_feed.nil]
    | pskPm m => rw [feed, PskPmModem.streaming_feed.nil]
  append m xs ys := by
    cases m with
    | gfsk m => simp only [feed, GfskModem.streaming_feed.append]
    | bpsk m => simp only [feed, BpskModem.streaming_feed.append]
    | pskPm m => simp only [feed, PskPmModem.streaming_feed.append]

end WrappedModem

namespace HalfbandInterp

/-- The filter after these samples, and what it makes of them. -/
def feed (f : HalfbandInterp) (input : List Sample) : HalfbandInterp × List Sample :=
  ({ f with resampler := (f.resampler.expand input).1 }, (f.resampler.expand input).2)

theorem streaming_feed : Streaming feed where
  nil _ := rfl
  append f xs ys := by simp only [feed, Object.streaming_expand.append]

/-- The samples of a flush. -/
def drain (f : HalfbandInterp) (input : List Sample) : List Sample :=
  (f.feed (input ++ List.replicate f.tailLength 0)).2

end HalfbandInterp

namespace SdrModemTx

/-- The modem after these bits, and their samples. -/
def feed (m : SdrModemTx) (bits : List Bool) : SdrModemTx × List Sample :=
  let modem := m.modem.feed bits
  let output := optional HalfbandInterp.feed m.halfbandTx modem.2
  ({ modem := modem.1, halfbandTx := output.1, txPending := m.txPending || !bits.isEmpty },
    output.2)

/-- The samples of a flush: none if nothing is pending. -/
def drain (m : SdrModemTx) : List Sample :=
  if m.txPending then m.halfbandTx.elim m.modem.drain fun f => f.drain m.modem.drain else []

theorem streaming_feed : Streaming feed where
  nil m := by
    simp [feed, WrappedModem.streaming_feed.nil, HalfbandInterp.streaming_feed.optional.nil]
  append m xs ys := by
    simp only [feed, WrappedModem.streaming_feed.append,
      HalfbandInterp.streaming_feed.optional.append, pending_append]

end SdrModemTx

/-! ## Calls within 32 bits -/

/-- A resampler that gets this many samples neither takes nor returns too many. -/
def ResamplerFits (resampler : Option ResamplerConfig) (samples : Nat) : Prop :=
  ∀ r, resampler = some r → samples < 2 ^ 32 ∧ r.outputLen samples < 2 ^ 32

/-- Then it is the streaming resampler, and its output is as long as expected. -/
theorem resampleTx_eq {resampler : Option ResamplerConfig}
    {resamplerTx : Option (Object Sample (List Sample))}
    (hcreated : resamplerTx.map Object.reset = resampler.map fun r => .create r.machine)
    {samples : List Sample} (hfits : ResamplerFits resampler samples.length) :
    resampleTx resamplerTx samples = optional Object.emit resamplerTx samples ∧
    (optional Object.emit resamplerTx samples).2.length ≤
      resampledLength resampler samples.length := by
  cases resampler with
  | none =>
    rw [Option.map_none, Option.map_eq_none_iff] at hcreated
    rw [hcreated]
    exact ⟨rfl, Nat.le_refl _⟩
  | some r =>
    rw [Option.map_some, Option.map_eq_some_iff] at hcreated
    obtain ⟨⟨machine, state⟩, hsome, hreset⟩ := hcreated
    obtain ⟨hin, hout⟩ := hfits r rfl
    obtain ⟨machine', flushLen, outputLen, fits⟩ := r
    -- the object is a state of the configured machine, so its output fits
    obtain rfl : machine = machine' := congrArg Object.machine hreset
    have hlength := fits state samples
    have hemit : msresampExecute ⟨machine, state⟩ samples =
        (Object.mk machine state).emit samples := by
      have htake : samples.take (samples.length % 2 ^ 32) = samples := by
        rw [Nat.mod_eq_of_lt hin, List.take_length]
      unfold msresampExecute
      rw [htake]
      dsimp only at hout ⊢
      rw [Nat.mod_eq_of_lt (by omega), List.take_length]
    rw [hsome, resampleTx, Mealy.optional, Mealy.optional, hemit]
    exact ⟨rfl, hlength⟩

@[simp] theorem length_inputBits (input : List UInt8) :
    (inputBits input).length = input.length * 8 := by
  rw [inputBits, List.length_flatMap]
  simp [byteBits]

theorem isEmpty_inputBits (input : List UInt8) :
    (!(inputBits input).isEmpty) = decide (input.length > 0) := by
  cases input with
  | nil => rfl
  | cons byte input => rfl

theorem flatten_inputBits (chunks : List (List UInt8)) :
    (chunks.map inputBits).flatten = inputBits chunks.flatten := by
  induction chunks with
  | nil => rfl
  | cons chunk chunks ih =>
    rw [List.map_cons, List.flatten_cons, ih, List.flatten_cons]
    exact List.flatMap_append.symm

theorem length_flushZeros {resampler : Option ResamplerConfig}
    {resamplerTx : Option (Object Sample (List Sample))}
    (hcreated : resamplerTx.map Object.reset = resampler.map fun r => .create r.machine) :
    (flushZeros resamplerTx (flushLength resampler)).length = flushLength resampler := by
  have hsome : resamplerTx.isSome = resampler.isSome := by
    simpa using congrArg Option.isSome hcreated
  rw [flushZeros, hsome]
  cases resampler with
  | none => rfl
  | some r => simp

namespace GfskModem
variable {config : GfskConfig} {bufferSize : UInt32} {m : GfskModem}

theorem modulate_eq_feed (h : m.reset = create config bufferSize) {input : List UInt8}
    (hshort : ¬ input.length * 8 > m.maxModulationInputBits)
    (hfits : ResamplerFits config.resampler (input.length * 8 * gfskModemSps)) :
    m.modulate input = ((m.feed (inputBits input)).1, some (m.feed (inputBits input)).2) ∧
    (m.feed (inputBits input)).2.length ≤
      resampledLength config.resampler (input.length * 8 * gfskModemSps) := by
  have hlength : (m.mod.expand (inputBits input)).2.length = input.length * 8 * gfskModemSps := by
    rw [Object.length_expand, length_inputBits]
  rw [← hlength] at hfits ⊢
  obtain ⟨heq, hle⟩ := resampleTx_eq (congrArg resamplerTx h) hfits
  refine ⟨?_, hle⟩
  rw [modulate, if_neg hshort]
  simp only [feed, heq, isEmpty_inputBits]

theorem modulateFlush_eq_drain (h : m.reset = create config bufferSize)
    (hpending : m.txPending = true)
    (hfits : ResamplerFits config.resampler
      (gfskModemTxTailSymbols * gfskModemSps + flushLength config.resampler)) :
    m.modulateFlush.2 = some m.drain ∧
    m.drain.length ≤ resampledLength config.resampler
      (gfskModemTxTailSymbols * gfskModemSps + flushLength config.resampler) := by
  have hflushLen : m.resamplerTxFlushLen = flushLength config.resampler :=
    congrArg resamplerTxFlushLen h
  have hlength : ((m.mod.expand (List.replicate gfskModemTxTailSymbols m.txLastBit)).2 ++
      flushZeros m.resamplerTx m.resamplerTxFlushLen).length =
        gfskModemTxTailSymbols * gfskModemSps + flushLength config.resampler := by
    rw [List.length_append, Object.length_expand, List.length_replicate, hflushLen,
      length_flushZeros (congrArg resamplerTx h)]
  rw [← hlength] at hfits ⊢
  obtain ⟨heq, hle⟩ := resampleTx_eq (congrArg resamplerTx h) hfits
  refine ⟨?_, hle⟩
  rw [modulateFlush, if_pos hpending]
  simp only [drain, heq]

end GfskModem

namespace BpskModem
variable {config : BpskConfig} {bufferSize : UInt32} {m : BpskModem}

theorem modulate_eq_feed (h : m.reset = create config bufferSize) {input : List UInt8}
    (hshort : ¬ input.length * 8 > m.maxModulationInputBits)
    (hfits : ResamplerFits config.resampler (input.length * 8 * config.samplesPerSymbol)) :
    m.modulate input = ((m.feed (inputBits input)).1, some (m.feed (inputBits input)).2) ∧
    (m.feed (inputBits input)).2.length ≤
      resampledLength config.resampler (input.length * 8 * config.samplesPerSymbol) := by
  have hsps : m.samplesPerSymbol = config.samplesPerSymbol := congrArg samplesPerSymbol h
  have hlength : (m.interp.expand (m.mod.process (inputBits input)).2).2.length =
      input.length * 8 * config.samplesPerSymbol := by
    rw [Object.length_expand, Object.length_process, length_inputBits, hsps]
  rw [← hlength] at hfits ⊢
  obtain ⟨heq, hle⟩ := resampleTx_eq (congrArg resamplerTx h) hfits
  refine ⟨?_, hle⟩
  rw [modulate, if_neg hshort]
  simp only [feed, heq, isEmpty_inputBits]

theorem modulateFlush_eq_drain (h : m.reset = create config bufferSize)
    (hpending : m.txPending = true)
    (hfits : ResamplerFits config.resampler
      (config.txTailSymbols * config.samplesPerSymbol + flushLength config.resampler)) :
    m.modulateFlush.2 = some m.drain ∧
    m.drain.length ≤ resampledLength config.resampler
      (config.txTailSymbols * config.samplesPerSymbol + flushLength config.resampler) := by
  have hsps : m.samplesPerSymbol = config.samplesPerSymbol := congrArg samplesPerSymbol h
  have htail : m.txTailSymbols = config.txTailSymbols := congrArg txTailSymbols h
  have hflushLen : m.resamplerTxFlushLen = flushLength config.resampler :=
    congrArg resamplerTxFlushLen h
  have hlength : ((m.interp.expand (List.replicate m.txTailSymbols 0)).2 ++
      flushZeros m.resamplerTx m.resamplerTxFlushLen).length =
        config.txTailSymbols * config.samplesPerSymbol + flushLength config.resampler := by
    rw [List.length_append, Object.length_expand, List.length_replicate, hflushLen,
      length_flushZeros (congrArg resamplerTx h), htail, hsps]
  rw [← hlength] at hfits ⊢
  obtain ⟨heq, hle⟩ := resampleTx_eq (congrArg resamplerTx h) hfits
  refine ⟨?_, hle⟩
  rw [modulateFlush, if_pos hpending]
  simp only [drain, heq]

end BpskModem

namespace PskPmModem
variable {config : PskPmConfig} {bufferSize : UInt32} {m : PskPmModem}

@[simp] theorem length_carrier (phaseModulate : Sample → UInt32 → Sample)
    (nco : Object Unit UInt32) (symbols : List Sample) :
    (carrier phaseModulate nco symbols).2.length = symbols.length := by
  simp [carrier]

theorem modulate_eq_feed (h : m.reset = create config bufferSize) {input : List UInt8}
    (hshort : ¬ input.length * 8 > m.subcarrierModem.maxModulationInputBits)
    (hfits : ResamplerFits config.subcarrier.resampler
      (input.length * 8 * config.subcarrier.samplesPerSymbol)) :
    m.modulate input = ((m.feed (inputBits input)).1, some (m.feed (inputBits input)).2) ∧
    (m.feed (inputBits input)).2.length ≤
      resampledLength config.subcarrier.resampler
        (input.length * 8 * config.subcarrier.samplesPerSymbol) := by
  obtain ⟨heq, hle⟩ :=
    BpskModem.modulate_eq_feed (congrArg subcarrierModem h) hshort hfits
  refine ⟨?_, ?_⟩
  · rw [modulate, heq]
    rfl
  · rw [feed, length_carrier]
    exact hle

theorem modulateFlush_eq_drain (h : m.reset = create config bufferSize)
    (hpending : m.subcarrierModem.txPending = true)
    (hfits : ResamplerFits config.subcarrier.resampler
      (config.subcarrier.txTailSymbols * config.subcarrier.samplesPerSymbol +
        flushLength config.subcarrier.resampler)) :
    m.modulateFlush.2 = some m.drain ∧
    m.drain.length ≤ resampledLength config.subcarrier.resampler
      (config.subcarrier.txTailSymbols * config.subcarrier.samplesPerSymbol +
        flushLength config.subcarrier.resampler) := by
  obtain ⟨heq, hle⟩ :=
    BpskModem.modulateFlush_eq_drain (congrArg subcarrierModem h) hpending hfits
  have hpair : m.subcarrierModem.modulateFlush =
      (m.subcarrierModem.modulateFlush.1, some m.subcarrierModem.drain) := Prod.ext rfl heq
  refine ⟨?_, ?_⟩
  · rw [modulateFlush, hpair]
    rfl
  · rw [drain, length_carrier]
    exact hle

end PskPmModem

namespace WrappedConfig

def resampler : WrappedConfig → Option ResamplerConfig
  | .gfsk config => config.resampler
  | .bpsk config => config.resampler
  | .pskPm config => config.subcarrier.resampler

def samplesPerSymbol : WrappedConfig → Nat
  | .gfsk _ => gfskModemSps
  | .bpsk config => config.samplesPerSymbol
  | .pskPm config => config.subcarrier.samplesPerSymbol

def tailSymbols : WrappedConfig → Nat
  | .gfsk _ => gfskModemTxTailSymbols
  | .bpsk config => config.txTailSymbols
  | .pskPm config => config.subcarrier.txTailSymbols

/-- The samples of that many bytes, before they are resampled. -/
def dataSamples (config : WrappedConfig) (bytes : Nat) : Nat :=
  bytes * 8 * config.samplesPerSymbol

/-- The samples of a flush, before they are resampled. -/
def flushSamples (config : WrappedConfig) : Nat :=
  config.tailSymbols * config.samplesPerSymbol + flushLength config.resampler

end WrappedConfig

namespace WrappedModem
variable {config : WrappedConfig} {bufferSize : UInt32} {m : WrappedModem}

theorem modulate_eq_feed (h : m.reset = create bufferSize config) {input : List UInt8}
    (hshort : ¬ input.length * 8 > m.maxModulationInputBits)
    (hfits : ResamplerFits config.resampler (config.dataSamples input.length)) :
    m.modulate input = ((m.feed (inputBits input)).1, some (m.feed (inputBits input)).2) ∧
    (m.feed (inputBits input)).2.length ≤
      resampledLength config.resampler (config.dataSamples input.length) := by
  cases config with
  | gfsk config =>
    cases m with
    | gfsk m =>
      obtain ⟨heq, hle⟩ := GfskModem.modulate_eq_feed (WrappedModem.gfsk.inj h) hshort hfits
      exact ⟨by rw [modulate, heq, feed], hle⟩
    | bpsk m => cases h
    | pskPm m => cases h
  | bpsk config =>
    cases m with
    | gfsk m => cases h
    | bpsk m =>
      obtain ⟨heq, hle⟩ := BpskModem.modulate_eq_feed (WrappedModem.bpsk.inj h) hshort hfits
      exact ⟨by rw [modulate, heq, feed], hle⟩
    | pskPm m => cases h
  | pskPm config =>
    cases m with
    | gfsk m => cases h
    | bpsk m => cases h
    | pskPm m =>
      obtain ⟨heq, hle⟩ := PskPmModem.modulate_eq_feed (WrappedModem.pskPm.inj h) hshort hfits
      exact ⟨by rw [modulate, heq, feed], hle⟩

theorem modulateFlush_eq_drain (h : m.reset = create bufferSize config)
    (hpending : m.txPending = true) (hfits : ResamplerFits config.resampler config.flushSamples) :
    m.modulateFlush.2 = some m.drain ∧
    m.drain.length ≤ resampledLength config.resampler config.flushSamples := by
  cases config with
  | gfsk config =>
    cases m with
    | gfsk m => exact GfskModem.modulateFlush_eq_drain (WrappedModem.gfsk.inj h) hpending hfits
    | bpsk m => cases h
    | pskPm m => cases h
  | bpsk config =>
    cases m with
    | gfsk m => cases h
    | bpsk m => exact BpskModem.modulateFlush_eq_drain (WrappedModem.bpsk.inj h) hpending hfits
    | pskPm m => cases h
  | pskPm config =>
    cases m with
    | gfsk m => cases h
    | bpsk m => cases h
    | pskPm m => exact PskPmModem.modulateFlush_eq_drain (WrappedModem.pskPm.inj h) hpending hfits

end WrappedModem

namespace HalfbandInterp

theorem process_eq_feed {f : HalfbandInterp} {input : List Sample}
    (h : input.length ≤ f.maxInputBufferLength) :
    f.process input = ((f.feed input).1, some (f.feed input).2) := by
  rw [process, if_neg (by omega)]
  rfl

theorem processFlush_eq_drain {f : HalfbandInterp} {input : List Sample}
    (h : input.length ≤ f.maxInputBufferLength) :
    (f.processFlush input).2 = some (f.drain input) := by
  rw [processFlush, process_eq_feed h, drain, streaming_feed.append]
  rfl

end HalfbandInterp

/-- **A call stays within 32 bits** if the wrapped modem makes that many samples before
its resampler: the resampler takes and returns no more, and what it returns is not
longer than the interpolator takes. -/
structure SdrModemConfig.Fits (config : SdrModemConfig) (bufferSize : UInt32) (samples : Nat) :
    Prop where
  resampler : ResamplerFits config.modem.resampler samples
  halfband : config.halfband.isSome = true →
    resampledLength config.modem.resampler samples ≤
      (WrappedModem.create bufferSize config.modem).maxModulationLength % 2 ^ 32

namespace SdrModemTx
variable {config : SdrModemConfig} {bufferSize : UInt32} {m : SdrModemTx}

/-- What the interpolator takes, if there is one. -/
theorem CreatedFrom.maxInputBufferLength (h : CreatedFrom config bufferSize m)
    {f : HalfbandInterp} (hf : m.halfbandTx = some f) :
    config.halfband.isSome = true ∧ f.maxInputBufferLength =
      (WrappedModem.create bufferSize config.modem).maxModulationLength % 2 ^ 32 := by
  have hcreated : m.halfbandTx.map HalfbandInterp.reset = config.halfband.map fun c =>
      .create c (WrappedModem.create bufferSize config.modem).maxModulationLength :=
    congrArg halfbandTx h.reset
  rw [hf, Option.map_some] at hcreated
  obtain ⟨c, hc, hreset⟩ := Option.map_eq_some_iff.mp hcreated.symm
  rw [hc]
  exact ⟨rfl, (congrArg HalfbandInterp.maxInputBufferLength hreset).symm⟩

theorem CreatedFrom.modulate_eq_feed (h : CreatedFrom config bufferSize m) {input : List UInt8}
    (hshort : input.length ≤ bufferSize.toNat)
    (hfits : input ≠ [] → config.Fits bufferSize (config.modem.dataSamples input.length)) :
    m.modulate input = ((m.feed (inputBits input)).1, some (m.feed (inputBits input)).2) := by
  by_cases hnil : input = []
  · rw [hnil, modulate_nil, inputBits_nil, streaming_feed.nil]
  · have hfits := hfits hnil
    have hlong : ¬ input.length * 8 > m.modem.maxModulationInputBits := by
      rw [h.maxModulationInputBits]
      omega
    obtain ⟨heq, hle⟩ :=
      WrappedModem.modulate_eq_feed (congrArg SdrModemTx.modem h.reset) hlong hfits.resampler
    rw [SdrModemTx.modulate, heq]
    dsimp only
    cases hhalfband : m.halfbandTx with
    | none => simp [feed, hhalfband, Mealy.optional, isEmpty_inputBits]
    | some f =>
      obtain ⟨hsome, hmax⟩ := h.maxInputBufferLength hhalfband
      have hprocess := HalfbandInterp.process_eq_feed (f := f)
        (hmax.symm ▸ hle.trans (hfits.halfband hsome))
      simp [feed, hhalfband, Mealy.optional, isEmpty_inputBits, hprocess]

theorem CreatedFrom.modulateFlush_eq_drain (h : CreatedFrom config bufferSize m)
    (hfits : m.txPending = true → config.Fits bufferSize config.modem.flushSamples) :
    m.modulateFlush.2.getD [] = m.drain := by
  by_cases hpending : m.txPending = true
  · have hfits := hfits hpending
    obtain ⟨heq, hle⟩ := WrappedModem.modulateFlush_eq_drain (congrArg SdrModemTx.modem h.reset)
      (h.tidy.pending.trans hpending) hfits.resampler
    have hpair : m.modem.modulateFlush = (m.modem.modulateFlush.1, some m.modem.drain) :=
      Prod.ext rfl heq
    rw [SdrModemTx.modulateFlush, if_pos hpending, hpair, drain, if_pos hpending]
    dsimp only
    cases hhalfband : m.halfbandTx with
    | none => rfl
    | some f =>
      obtain ⟨hsome, hmax⟩ := h.maxInputBufferLength hhalfband
      dsimp only
      rw [HalfbandInterp.processFlush_eq_drain (hmax.symm ▸ hle.trans (hfits.halfband hsome))]
      rfl
  · rw [SdrModemTx.modulateFlush, if_neg hpending, drain, if_neg hpending]
    rfl

end SdrModemTx
end SdrModem
