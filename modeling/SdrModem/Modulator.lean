import SdrModem.Mealy
import SdrModem.Api
import SdrModem.ClientTxWorker

/-!
# The transmitting side of the modems

`gfsk_modem.c`, `bpsk_modem.c`, `psk_pm_modem.c` and `sdr_modem.c`, as far as a
transmission goes through them: bits become samples, an optional resampler and an
optional half-band interpolator bring them to the sample rate of the device.  The
objects of `liquid-dsp` are Mealy machines, and a configuration says which ones a
modem is made of.  Arithmetic on floats is a part of these machines.

`NULL` as an output is `none`.  Lengths that the C code keeps in an `unsigned int`
or a `uint32_t` are taken modulo `2 ^ 32`.
-/
namespace SdrModem
open Mealy

/-- The bits of a byte, the highest first. -/
def byteBits (byte : UInt8) : List Bool :=
  (List.range 8).map fun j => byte.toNat.testBit (7 - j)

/-- The bits of the input, in the order in which the loops of the modems go through
them. -/
def inputBits (input : List UInt8) : List Bool := input.flatMap byteBits

/-! ## The resampler -/

/-- A resampler: the zeros that flush it, and how long its output can get, which is
`ceil(n * rate)` and a margin.  `fits` says that the margin is enough, in whatever
state the resampler is. -/
structure ResamplerConfig where
  machine : Mealy Sample (List Sample)
  flushLen : Nat
  outputLen : Nat → Nat
  fits : ∀ (state : machine.State) (input : List Sample),
    ((Object.mk machine state).emit input).2.length ≤ outputLen input.length

/-- `msresamp_crcf_execute`, as the modems call it. -/
def msresampExecute (resampler : Object Sample (List Sample)) (input : List Sample) :
    Object Sample (List Sample) × List Sample :=
  let (resampler, output) := resampler.emit (input.take (input.length % 2 ^ 32))
  (resampler, output.take (output.length % 2 ^ 32))

/-- `gfsk_modem_resample_tx` and `bpsk_modem_resample_tx`. -/
def resampleTx (resamplerTx : Option (Object Sample (List Sample))) (samples : List Sample) :
    Option (Object Sample (List Sample)) × List Sample :=
  optional msresampExecute resamplerTx samples

/-- The zeros behind the tail: there is a filter to flush only in a resampler. -/
def flushZeros (resamplerTx : Option (Object Sample (List Sample))) (flushLen : Nat) :
    List Sample :=
  if resamplerTx.isSome then List.replicate flushLen 0 else []

/-- `max_modulation_buffer_length` of a modem with this resampler. -/
def resampledLength (resampler : Option ResamplerConfig) (samples : Nat) : Nat :=
  match resampler with
  | none => samples
  | some r => r.outputLen samples

/-- The zeros that flush the resampler, if there is one. -/
def flushLength (resampler : Option ResamplerConfig) : Nat :=
  resampler.elim 0 ResamplerConfig.flushLen

/-! ## GFSK -/

/-- `GFSK_MODEM_SPS`. -/
def gfskModemSps : Nat := 2

/-- `GFSK_MODEM_TX_TAIL_SYMBOLS`. -/
def gfskModemTxTailSymbols : Nat := 2 * 3

structure GfskConfig where
  cpfskmod : Mealy Bool (Vector Sample gfskModemSps)
  resampler : Option ResamplerConfig

/-- The part of `struct gfsk_modem_t` behind "TX chain". -/
structure GfskModem where
  maxModulationInputBits : Nat
  maxModulationBufferLength : Nat
  resamplerTxFlushLen : Nat
  txLastBit : Bool
  txPending : Bool
  mod : Object Bool (Vector Sample gfskModemSps)
  resamplerTx : Option (Object Sample (List Sample))
  resamplerTxOutputLen : Nat

namespace GfskModem

/-- The end of `gfsk_modem_create`. -/
def create (config : GfskConfig) (maxInputBufferLength : UInt32) : GfskModem :=
  let bits := maxInputBufferLength.toNat * 8
  let length := (bits + gfskModemTxTailSymbols) * gfskModemSps + flushLength config.resampler
  { maxModulationInputBits := bits
    maxModulationBufferLength := length
    resamplerTxFlushLen := flushLength config.resampler
    txLastBit := false
    txPending := false
    mod := .create config.cpfskmod
    resamplerTx := config.resampler.map fun r => .create r.machine
    resamplerTxOutputLen := resampledLength config.resampler length }

/-- `gfsk_modem_max_modulation_buffer_length`. -/
def maxModulationLength (m : GfskModem) : Nat :=
  if m.resamplerTx.isSome then m.resamplerTxOutputLen else m.maxModulationBufferLength

/-- `gfsk_modem_modulate`. -/
def modulate (m : GfskModem) (input : List UInt8) : GfskModem × Option (List Sample) :=
  if input.length * 8 > m.maxModulationInputBits then (m, none)
  else
    let (mod, samples) := m.mod.expand (inputBits input)
    let (resamplerTx, output) := resampleTx m.resamplerTx samples
    ({ m with
        mod := mod
        resamplerTx := resamplerTx
        txLastBit := (inputBits input).getLastD m.txLastBit
        txPending := m.txPending || decide (input.length > 0) },
      some output)

/-- `gfsk_modem_modulate_flush`. -/
def modulateFlush (m : GfskModem) : GfskModem × Option (List Sample) :=
  if m.txPending then
    -- keep the last frequency, so that the last bits get their full pulse
    let (mod, samples) := m.mod.expand (List.replicate gfskModemTxTailSymbols m.txLastBit)
    let (resamplerTx, output) :=
      resampleTx m.resamplerTx (samples ++ flushZeros m.resamplerTx m.resamplerTxFlushLen)
    -- ready for the next independent transmission
    ({ m with
        mod := mod.reset
        resamplerTx := resamplerTx.map Object.reset
        txLastBit := false
        txPending := false },
      some output)
  else (m, some [])

end GfskModem

/-! ## BPSK, DPSK and SDPSK -/

/-- How bits become symbols: by a `modemcf`, or for SDPSK by turning the previous
symbol by 90 degrees to one side or the other. -/
inductive SymbolMapper where
  | modemcf (machine : Mealy Bool Sample)
  | sdpsk (rotate : Bool → Sample → Sample)

/-- `1.0f + 0.0f * I`. -/
def sampleOne : Sample := 0x3f800000

/-- The mapper as a machine; the state of the SDPSK mapper is `tx_prev_symbol`. -/
def SymbolMapper.machine : SymbolMapper → Mealy Bool Sample
  | .modemcf machine => machine
  | .sdpsk rotate =>
      { State := Sample
        init := sampleOne
        step := fun txPrevSymbol bit => (rotate bit txPrevSymbol, rotate bit txPrevSymbol) }

structure BpskConfig where
  samplesPerSymbol : Nat
  /-- `2 * rrc_delay` -/
  txTailSymbols : Nat
  mapper : SymbolMapper
  firinterp : Mealy Sample (Vector Sample samplesPerSymbol)
  resampler : Option ResamplerConfig

/-- The part of `struct bpsk_modem_t` behind "TX chain". -/
structure BpskModem where
  samplesPerSymbol : Nat
  maxModulationInputBits : Nat
  maxModulationBufferLength : Nat
  /-- `mod`, or `tx_prev_symbol` for SDPSK -/
  mod : Object Bool Sample
  interp : Object Sample (Vector Sample samplesPerSymbol)
  resamplerTx : Option (Object Sample (List Sample))
  resamplerTxOutputLen : Nat
  resamplerTxFlushLen : Nat
  txTailSymbols : Nat
  txPending : Bool

namespace BpskModem

/-- The end of `bpsk_modem_create`. -/
def create (config : BpskConfig) (maxInputBufferLength : UInt32) : BpskModem :=
  let bits := maxInputBufferLength.toNat * 8
  let length :=
    (bits + config.txTailSymbols) * config.samplesPerSymbol + flushLength config.resampler
  { samplesPerSymbol := config.samplesPerSymbol
    maxModulationInputBits := bits
    maxModulationBufferLength := length
    mod := .create config.mapper.machine
    interp := .create config.firinterp
    resamplerTx := config.resampler.map fun r => .create r.machine
    resamplerTxOutputLen := resampledLength config.resampler length
    resamplerTxFlushLen := flushLength config.resampler
    txTailSymbols := config.txTailSymbols
    txPending := false }

/-- `bpsk_modem_max_modulation_buffer_length`. -/
def maxModulationLength (m : BpskModem) : Nat :=
  if m.resamplerTx.isSome then m.resamplerTxOutputLen else m.maxModulationBufferLength

/-- `bpsk_modem_modulate`. -/
def modulate (m : BpskModem) (input : List UInt8) : BpskModem × Option (List Sample) :=
  if input.length * 8 > m.maxModulationInputBits then (m, none)
  else
    let (mod, symbols) := m.mod.process (inputBits input)
    let (interp, samples) := m.interp.expand symbols
    let (resamplerTx, output) := resampleTx m.resamplerTx samples
    ({ m with
        mod := mod
        interp := interp
        resamplerTx := resamplerTx
        txPending := m.txPending || decide (input.length > 0) },
      some output)

/-- `bpsk_modem_modulate_flush`. -/
def modulateFlush (m : BpskModem) : BpskModem × Option (List Sample) :=
  if m.txPending then
    -- zero symbols push the tail of the rrc pulse out, the differential state is not touched
    let (interp, samples) := m.interp.expand (List.replicate m.txTailSymbols 0)
    let (resamplerTx, output) :=
      resampleTx m.resamplerTx (samples ++ flushZeros m.resamplerTx m.resamplerTxFlushLen)
    -- ready for the next independent transmission
    ({ m with
        mod := m.mod.reset
        interp := interp.reset
        resamplerTx := resamplerTx.map Object.reset
        txPending := false },
      some output)
  else (m, some [])

end BpskModem

/-! ## PSK-PM -/

structure PskPmConfig where
  subcarrier : BpskConfig
  /-- answers with the cosine of the phase before it goes on -/
  nco : Mealy Unit UInt32
  /-- the sample whose phase is the subcarrier, with the modulation index in it -/
  phaseModulate : Sample → UInt32 → Sample

/-- The part of `struct psk_pm_modem_t` that transmits. -/
structure PskPmModem where
  subcarrierNco : Object Unit UInt32
  subcarrierModem : BpskModem
  phaseModulate : Sample → UInt32 → Sample

namespace PskPmModem

/-- The part of `psk_pm_modem_create` for transmitting. -/
def create (config : PskPmConfig) (maxInputBufferLength : UInt32) : PskPmModem :=
  { subcarrierNco := .create config.nco
    subcarrierModem := .create config.subcarrier maxInputBufferLength
    phaseModulate := config.phaseModulate }

/-- `psk_pm_modem_max_modulation_buffer_length`. -/
def maxModulationLength (m : PskPmModem) : Nat := m.subcarrierModem.maxModulationLength

/-- `psk_pm_modem_phase_modulate`. -/
def carrier (phaseModulate : Sample → UInt32 → Sample) (nco : Object Unit UInt32)
    (symbols : List Sample) : Object Unit UInt32 × List Sample :=
  let (nco, cosines) := nco.process (symbols.map fun _ => ())
  (nco, List.zipWith phaseModulate symbols cosines)

/-- `psk_pm_modem_modulate`. -/
def modulate (m : PskPmModem) (input : List UInt8) : PskPmModem × Option (List Sample) :=
  match m.subcarrierModem.modulate input with
  | (subcarrier, none) => ({ m with subcarrierModem := subcarrier }, none)
  | (subcarrier, some symbols) =>
    let (nco, output) := carrier m.phaseModulate m.subcarrierNco symbols
    ({ m with subcarrierModem := subcarrier, subcarrierNco := nco }, some output)

/-- `psk_pm_modem_modulate_flush`. -/
def modulateFlush (m : PskPmModem) : PskPmModem × Option (List Sample) :=
  match m.subcarrierModem.modulateFlush with
  | (subcarrier, none) => ({ m with subcarrierModem := subcarrier }, none)
  | (subcarrier, some symbols) =>
    let (nco, output) := carrier m.phaseModulate m.subcarrierNco symbols
    -- restart the subcarrier tone from phase 0 as well
    ({ m with subcarrierModem := subcarrier, subcarrierNco := nco.reset }, some output)

end PskPmModem

/-! ## The half-band interpolator -/

structure HalfbandConfig where
  interpolation : Nat
  tailLength : Nat
  msresamp2 : Mealy Sample (Vector Sample interpolation)

/-- `struct halfband_interp_t`. -/
structure HalfbandInterp where
  interpolation : Nat
  maxInputBufferLength : Nat
  tailLength : Nat
  resampler : Object Sample (Vector Sample interpolation)

namespace HalfbandInterp

/-- `halfband_interp_create`: the length comes as a `uint32_t`. -/
def create (config : HalfbandConfig) (maxInputBufferLength : Nat) : HalfbandInterp :=
  ⟨config.interpolation, maxInputBufferLength % 2 ^ 32, config.tailLength, .create config.msresamp2⟩

/-- `halfband_interp_process`. -/
def process (f : HalfbandInterp) (input : List Sample) : HalfbandInterp × Option (List Sample) :=
  if input.length > f.maxInputBufferLength then (f, none)
  else
    let (resampler, output) := f.resampler.expand input
    ({ f with resampler := resampler }, some output)

/-- `halfband_interp_process_flush`. -/
def processFlush (f : HalfbandInterp) (input : List Sample) :
    HalfbandInterp × Option (List Sample) :=
  match f.process input with
  | (f, none) => (f, none)
  | (f, some output) =>
    let (resampler, tail) := f.resampler.expand (List.replicate f.tailLength 0)
    ({ f with resampler := resampler }, some (output ++ tail))

/-- `halfband_interp_reset`. -/
def reset (f : HalfbandInterp) : HalfbandInterp := { f with resampler := f.resampler.reset }

end HalfbandInterp

/-! ## The modem of the workers -/

/-- What a modem is made of. -/
inductive WrappedConfig where
  | gfsk (config : GfskConfig)
  | bpsk (config : BpskConfig)
  | pskPm (config : PskPmConfig)

/-- The modem behind `sdr_modem`. -/
inductive WrappedModem where
  | gfsk (m : GfskModem)
  | bpsk (m : BpskModem)
  | pskPm (m : PskPmModem)

namespace WrappedModem

/-- The switch over the modem type in `sdr_modem_create`. -/
def create (bufferSize : UInt32) : WrappedConfig → WrappedModem
  | .gfsk config => .gfsk (.create config bufferSize)
  | .bpsk config => .bpsk (.create config bufferSize)
  | .pskPm config => .pskPm (.create config bufferSize)

/-- `modem->max_modulation_buffer_length`. -/
def maxModulationLength : WrappedModem → Nat
  | .gfsk m => m.maxModulationLength
  | .bpsk m => m.maxModulationLength
  | .pskPm m => m.maxModulationLength

/-- `modem->modulate`. -/
def modulate (input : List UInt8) : WrappedModem → WrappedModem × Option (List Sample)
  | .gfsk m => (.gfsk (m.modulate input).1, (m.modulate input).2)
  | .bpsk m => (.bpsk (m.modulate input).1, (m.modulate input).2)
  | .pskPm m => (.pskPm (m.modulate input).1, (m.modulate input).2)

/-- `modem->modulate_flush`. -/
def modulateFlush : WrappedModem → WrappedModem × Option (List Sample)
  | .gfsk m => (.gfsk m.modulateFlush.1, m.modulateFlush.2)
  | .bpsk m => (.bpsk m.modulateFlush.1, m.modulateFlush.2)
  | .pskPm m => (.pskPm m.modulateFlush.1, m.modulateFlush.2)

end WrappedModem

structure SdrModemConfig where
  modem : WrappedConfig
  halfband : Option HalfbandConfig

/-- The part of `struct sdr_modem_t` that transmits, without a frequency offset. -/
structure SdrModemTx where
  modem : WrappedModem
  halfbandTx : Option HalfbandInterp
  txPending : Bool

namespace SdrModemTx

/-- The part of `sdr_modem_create` for transmitting. -/
def create (config : SdrModemConfig) (bufferSize : UInt32) : SdrModemTx :=
  let modem := WrappedModem.create bufferSize config.modem
  { modem := modem
    halfbandTx := config.halfband.map fun h => .create h modem.maxModulationLength
    txPending := false }

/-- `sdr_modem_modulate`. -/
def modulate (m : SdrModemTx) (input : List UInt8) : SdrModemTx × Option (List Sample) :=
  match m.modem.modulate input with
  | (modem, none) => ({ m with modem := modem }, none)
  | (modem, some output) =>
    let m := { m with modem := modem, txPending := m.txPending || decide (input.length > 0) }
    match m.halfbandTx with
    | none => (m, some output)
    -- streaming: the filter keeps its history for the next call
    | some f => ({ m with halfbandTx := some (f.process output).1 }, (f.process output).2)

/-- `sdr_modem_modulate_flush`. -/
def modulateFlush (m : SdrModemTx) : SdrModemTx × Option (List Sample) :=
  if m.txPending then
    match m.modem.modulateFlush with
    | (modem, none) => ({ m with modem := modem }, none)
    | (modem, some output) =>
      let m := { m with modem := modem, txPending := false }
      match m.halfbandTx with
      | none => (m, some output)
      | some f =>
        ({ m with halfbandTx := some (f.processFlush output).1.reset }, (f.processFlush output).2)
  else (m, none)

end SdrModemTx
end SdrModem
