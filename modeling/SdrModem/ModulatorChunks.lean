import Mathlib.Order.Monotone.Defs
import SdrModem.ModulatorStream

/-!
# Modulation in chunks

What a modem makes of a transmission does not depend on how the bytes are cut into
chunks, nor on the transmissions before it, as long as no call gets into the limits of
the code.  A modem whose buffers are below `2 ^ 32` samples never does.
-/
namespace SdrModem
open Mealy

/-! ## Small buffers -/

/-- `max_modulation_buffer_length` of the modem: a full buffer and its flush, before
they are resampled. -/
def WrappedConfig.bufferSamples (config : WrappedConfig) (bufferSize : UInt32) : Nat :=
  (bufferSize.toNat * 8 + config.tailSymbols) * config.samplesPerSymbol +
    flushLength config.resampler

theorem maxModulationLength_create (config : WrappedConfig) (bufferSize : UInt32) :
    (WrappedModem.create bufferSize config).maxModulationLength =
      resampledLength config.resampler (config.bufferSamples bufferSize) := by
  cases config with
  | gfsk config =>
    obtain ⟨cpfskmod, resampler⟩ := config
    cases resampler <;> rfl
  | bpsk config =>
    obtain ⟨sps, tail, mapper, firinterp, resampler⟩ := config
    cases resampler <;> rfl
  | pskPm config =>
    obtain ⟨⟨sps, tail, mapper, firinterp, resampler⟩, nco, phaseModulate⟩ := config
    cases resampler <;> rfl

/-- **All that a modem allocates is below `2 ^ 32` samples**, and its resampler does not
make less of more. -/
structure SdrModemConfig.Small (config : SdrModemConfig) (bufferSize : UInt32) : Prop where
  samples : config.modem.bufferSamples bufferSize < 2 ^ 32
  resampled : resampledLength config.modem.resampler (config.modem.bufferSamples bufferSize) < 2 ^ 32
  mono : ∀ r, config.modem.resampler = some r → Monotone r.outputLen

/-- Then no call that fits the buffer gets into the limits. -/
theorem SdrModemConfig.Small.fits {config : SdrModemConfig} {bufferSize : UInt32}
    (h : config.Small bufferSize) {n : Nat} (hn : n ≤ config.modem.bufferSamples bufferSize) :
    config.Fits bufferSize n := by
  have hle : resampledLength config.modem.resampler n ≤
      resampledLength config.modem.resampler (config.modem.bufferSamples bufferSize) := by
    cases hr : config.modem.resampler with
    | none => exact hn
    | some r => exact h.mono r hr hn
  have hsmall := h.resampled
  constructor
  · intro r hr
    rw [hr] at hle hsmall
    exact ⟨Nat.lt_of_le_of_lt hn h.samples, Nat.lt_of_le_of_lt hle hsmall⟩
  · intro _
    rw [maxModulationLength_create, Nat.mod_eq_of_lt hsmall]
    exact hle

namespace SdrModemTx
variable {config : SdrModemConfig} {bufferSize : UInt32} {m : SdrModemTx}

/-! ## Transmissions -/

/-- The chunks of a transmission, with the samples of all of them.  There are none
where the output is `NULL`. -/
def modulateChunks (m : SdrModemTx) (input : List (List UInt8)) : SdrModemTx × List Sample :=
  chunks (fun m chunk => ((m.modulate chunk).1, (m.modulate chunk).2.getD [])) m input

/-- A transmission: its chunks, and a flush. -/
def transmit (m : SdrModemTx) (input : List (List UInt8)) : SdrModemTx × List Sample :=
  let data := m.modulateChunks input
  let tail := data.1.modulateFlush
  (tail.1, data.2 ++ tail.2.getD [])

/-- A transmission after the other, with the samples of each. -/
def transmissions : SdrModemTx → List (List (List UInt8)) → SdrModemTx × List (List Sample)
  | m, [] => (m, [])
  | m, input :: inputs =>
      ((transmissions (m.transmit input).1 inputs).1,
        (m.transmit input).2 :: (transmissions (m.transmit input).1 inputs).2)

/-- **No call of a transmission gets into the limits**: the chunks fit the buffer, and
where there is something to modulate or to flush, the call stays within 32 bits. -/
structure Sound (config : SdrModemConfig) (bufferSize : UInt32) (input : List (List UInt8)) :
    Prop where
  short : ∀ chunk ∈ input, chunk.length ≤ bufferSize.toNat
  data : ∀ chunk ∈ input, chunk ≠ [] →
    config.Fits bufferSize (config.modem.dataSamples chunk.length)
  flush : input.flatten ≠ [] → config.Fits bufferSize config.modem.flushSamples

theorem Sound.of_small (h : config.Small bufferSize) {input : List (List UInt8)}
    (hshort : ∀ chunk ∈ input, chunk.length ≤ bufferSize.toNat) :
    Sound config bufferSize input := by
  refine ⟨hshort, fun chunk hchunk _ => h.fits ?_, fun _ => h.fits ?_⟩
  · have hbits : chunk.length * 8 ≤ bufferSize.toNat * 8 + config.modem.tailSymbols := by
      have hlength := hshort chunk hchunk
      omega
    have hsamples := Nat.mul_le_mul_right config.modem.samplesPerSymbol hbits
    exact hsamples.trans (Nat.le_add_right _ _)
  · have htail := Nat.mul_le_mul_right config.modem.samplesPerSymbol
      (Nat.le_add_left config.modem.tailSymbols (bufferSize.toNat * 8))
    exact Nat.add_le_add_right htail _

theorem CreatedFrom.modulateChunks (h : CreatedFrom config bufferSize m)
    (input : List (List UInt8)) : CreatedFrom config bufferSize (m.modulateChunks input).1 := by
  induction input generalizing m with
  | nil => exact h
  | cons chunk input ih => exact ih (h.modulate chunk)

theorem CreatedFrom.transmit (h : CreatedFrom config bufferSize m) (input : List (List UInt8)) :
    (m.transmit input).1 = create config bufferSize :=
  (h.modulateChunks input).modulateFlush

/-- After any transmissions the modem is as it was created. -/
theorem transmissions_create (inputs : List (List (List UInt8))) :
    ((create config bufferSize).transmissions inputs).1 = create config bufferSize := by
  induction inputs with
  | nil => rfl
  | cons input inputs ih =>
    rw [transmissions, (createdFrom_create config bufferSize).transmit]
    exact ih

/-- Chunks of which nothing is modulated: empty ones, and those that are refused. -/
theorem CreatedFrom.modulateChunks_idle (h : CreatedFrom config bufferSize m)
    {idle : List (List UInt8)}
    (hidle : ∀ chunk ∈ idle, chunk = [] ∨ bufferSize.toNat < chunk.length) :
    m.modulateChunks idle = (m, []) := by
  induction idle with
  | nil => rfl
  | cons chunk idle ih =>
    have hrest := ih fun c hc => hidle c (List.mem_cons_of_mem _ hc)
    have hchunk : (m.modulate chunk).1 = m ∧ (m.modulate chunk).2.getD [] = [] := by
      rcases hidle chunk List.mem_cons_self with hnil | hlong
      · rw [hnil, modulate_nil]
        exact ⟨rfl, rfl⟩
      · rw [modulate_of_long (by rw [h.maxModulationInputBits]; omega)]
        exact ⟨rfl, rfl⟩
    rw [SdrModemTx.modulateChunks] at hrest ⊢
    rw [chunks, hchunk.1, hchunk.2, hrest]
    rfl

/-- The chunks of a transmission are as good as its bits in one block. -/
theorem CreatedFrom.modulateChunks_eq_feed (h : CreatedFrom config bufferSize m)
    {input : List (List UInt8)} (hshort : ∀ chunk ∈ input, chunk.length ≤ bufferSize.toNat)
    (hdata : ∀ chunk ∈ input, chunk ≠ [] →
      config.Fits bufferSize (config.modem.dataSamples chunk.length)) :
    m.modulateChunks input = m.feed (inputBits input.flatten) := by
  have hfeed : m.modulateChunks input = chunks feed m (input.map inputBits) := by
    induction input generalizing m with
    | nil => rfl
    | cons chunk input ih =>
      have hchunk := h.modulate_eq_feed (hshort chunk List.mem_cons_self)
        (hdata chunk List.mem_cons_self)
      have hnext := h.modulate chunk
      have hrest := ih hnext (fun c hc => hshort c (List.mem_cons_of_mem _ hc))
        (fun c hc => hdata c (List.mem_cons_of_mem _ hc))
      rw [SdrModemTx.modulateChunks] at hrest ⊢
      rw [List.map_cons, chunks, chunks, hrest, hchunk]
      rfl
  rw [hfeed, streaming_feed.chunks_eq, flatten_inputBits]

theorem txPending_feed (m : SdrModemTx) (input : List UInt8) :
    (m.feed (inputBits input)).1.txPending = (m.txPending || decide (input.length > 0)) := by
  rw [← isEmpty_inputBits]
  rfl

/-- **A transmission of a new modem** that stays out of the limits: the samples of its
bits, and of the flush behind them. -/
theorem transmit_eq_feed {input : List (List UInt8)} (hsound : Sound config bufferSize input) :
    ((create config bufferSize).transmit input).2 =
      ((create config bufferSize).feed (inputBits input.flatten)).2 ++
      ((create config bufferSize).feed (inputBits input.flatten)).1.drain := by
  have hcreated := createdFrom_create config bufferSize
  have hchunks := hcreated.modulateChunks_eq_feed hsound.short hsound.data
  have hafter := hcreated.modulateChunks input
  rw [hchunks] at hafter
  have hflush := hafter.modulateFlush_eq_drain fun hpending => by
    rw [txPending_feed] at hpending
    apply hsound.flush
    intro hnil
    rw [hnil] at hpending
    cases hpending
  rw [transmit, hchunks, hflush]

/-- These do not depend on how large the buffers are. -/
theorem feed_create_buffer (config : SdrModemConfig) (bufferSize bufferSize' : UInt32)
    (bits : List Bool) :
    ((create config bufferSize).feed bits).2 = ((create config bufferSize').feed bits).2 ∧
    ((create config bufferSize).feed bits).1.drain =
      ((create config bufferSize').feed bits).1.drain := by
  obtain ⟨modem, halfband⟩ := config
  cases modem with
  | gfsk config => cases halfband <;> exact ⟨rfl, rfl⟩
  | bpsk config => cases halfband <;> exact ⟨rfl, rfl⟩
  | pskPm config => cases halfband <;> exact ⟨rfl, rfl⟩

end SdrModemTx

/-- **Modulation depends neither on the chunks nor on what was sent before.**  For a
modem of any configuration and any transmissions, cut into chunks in any way: if no
call gets into the limits, neither of this modem nor of the one that gets the bytes
in one call, then every transmission is what a new modem makes of its bytes in one
call and a flush.  And whatever was sent before, if nothing was modulated since, a
flush has no output and changes nothing. -/
theorem transmissions_independent (config : SdrModemConfig) (bufferSize : UInt32)
    (inputs : List (List (List UInt8))) :
    (∀ whole : List (List UInt8) → UInt32,
      (∀ input ∈ inputs, SdrModemTx.Sound config bufferSize input ∧
        SdrModemTx.Sound config (whole input) [input.flatten]) →
      (SdrModemTx.transmissions (.create config bufferSize) inputs).2 =
        inputs.map fun input =>
          (SdrModemTx.transmit (.create config (whole input)) [input.flatten]).2) ∧
    ∀ idle : List (List UInt8), (∀ chunk ∈ idle, chunk = [] ∨ bufferSize.toNat < chunk.length) →
      let before := (SdrModemTx.transmissions (.create config bufferSize) inputs).1
      (before.modulateChunks idle).1.modulateFlush = ((before.modulateChunks idle).1, none) := by
  refine ⟨fun whole hsound => ?_, fun idle hidle => ?_⟩
  · induction inputs with
    | nil => rfl
    | cons input inputs ih =>
      obtain ⟨hinput, hwhole⟩ := hsound input List.mem_cons_self
      have hrest := ih fun i hi => hsound i (List.mem_cons_of_mem _ hi)
      -- the flush takes the modem back, so the rest starts from a new one
      rw [SdrModemTx.transmissions, (SdrModemTx.createdFrom_create config bufferSize).transmit,
        hrest, List.map_cons, SdrModemTx.transmit_eq_feed hinput,
        SdrModemTx.transmit_eq_feed hwhole, List.flatten_singleton]
      obtain ⟨hdata, htail⟩ := SdrModemTx.feed_create_buffer config bufferSize (whole input)
        (inputBits input.flatten)
      rw [hdata, htail]
  · have hcreated := SdrModemTx.createdFrom_create config bufferSize
    dsimp only
    rw [SdrModemTx.transmissions_create, hcreated.modulateChunks_idle hidle]
    rfl

/-! ## Chunks that make a difference -/

/-- Every sample twice is no more than the buffer takes. -/
theorem emit_repeat_length_le (state : Unit) (input : List Sample) :
    ((Object.mk ⟨Unit, (), fun _ sample => ((), [sample, sample])⟩ state).emit input).2.length ≤
      input.length * 2 + 32 := by
  have hlength : ((Object.mk ⟨Unit, (), fun _ sample => ((), [sample, sample])⟩ state).emit
      input).2.length = input.length * 2 := by
    induction input generalizing state with
    | nil => rfl
    | cons sample input ih =>
      have hrest := ih ()
      simp only [Object.emit] at hrest
      simp only [Object.emit, Object.process, List.flatten_cons, List.length_append, hrest,
        List.length_cons, List.length_nil]
      omega
  rw [hlength]
  omega

/-- A resampler that repeats every sample. -/
def repeatResampler : ResamplerConfig where
  machine := ⟨Unit, (), fun _ sample => ((), [sample, sample])⟩
  flushLen := 2
  outputLen n := n * 2 + 32
  fits := emit_repeat_length_le

/-- GFSK with two samples of the same value for a bit, and an interpolator that
repeats them. -/
def gfskConfig (resampler : Option ResamplerConfig) : SdrModemConfig :=
  { modem := .gfsk
      { cpfskmod := ⟨Unit, (), fun _ bit => ((), .replicate 2 (if bit then 1 else 2))⟩
        resampler := resampler }
    halfband := some ⟨2, 3, ⟨Unit, (), fun _ sample => ((), #v[sample, sample])⟩⟩ }

/-- The interpolator takes 28 samples here: enough for a byte, but not for two. -/
theorem cut_buffer_length_breaks_whole :
    (SdrModemTx.transmissions (.create (gfskConfig none) 268435457) [[[0x80], [0x80]]]).2 ≠
      [[[0x80], [0x80]]].map fun input =>
        (SdrModemTx.transmit (.create (gfskConfig none) 268435457) [input.flatten]).2 := by
  decide +kernel

/-- With small buffers there is no difference. -/
theorem small_buffers_independent :
    (SdrModemTx.transmissions (.create (gfskConfig (some repeatResampler)) 1)
        [[[0x80], [], [0x80]], []]).2 =
      [[[0x80], [], [0x80]], []].map fun input =>
        (SdrModemTx.transmit (.create (gfskConfig (some repeatResampler)) 2) [input.flatten]).2 := by
  have hmono : ∀ r, (gfskConfig (some repeatResampler)).modem.resampler = some r →
      Monotone r.outputLen := by
    rintro r hr a b hab
    cases hr
    exact Nat.add_le_add_right (Nat.mul_le_mul_right 2 hab) 32
  apply (transmissions_independent (gfskConfig (some repeatResampler)) 1 _).1 fun _ => 2
  intro input hinput
  constructor
  · apply SdrModemTx.Sound.of_small ⟨by decide, by decide, hmono⟩
    revert input
    decide
  · apply SdrModemTx.Sound.of_small ⟨by decide, by decide, hmono⟩
    revert input
    decide

end SdrModem
