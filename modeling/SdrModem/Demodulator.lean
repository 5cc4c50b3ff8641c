import SdrModem.GfskCorrelator
import SdrModem.HalfbandDecim

/-!
# The receiving side of the modems

`gfsk_modem.c`, `bpsk_modem.c`, `psk_pm_modem.c`, `dc_blocker.c` and `sdr_modem.c`, as far
as a received signal goes through them: an optional half-band decimator and an optional
resampler bring the samples to the rate of the modem, and what comes out are soft bits.

The objects of `liquid-dsp` are machines, and a configuration says which ones a modem is made
of.  Arithmetic is exact: samples are rational numbers, and lengths are natural numbers.
`NULL` as an output is `none`; a modem with a sync word has the checks of the correlator
around it.
-/
namespace SdrModem
open Mealy

/-- A complex sample. -/
structure Iq where
  re : ℚ
  im : ℚ
deriving DecidableEq, Repr

namespace Iq

instance : Mul Iq := ⟨fun a b => ⟨a.re * b.re - a.im * b.im, a.re * b.im + a.im * b.re⟩⟩

/-- `conjf`. -/
def conj (a : Iq) : Iq := ⟨a.re, -a.im⟩

/-- `cargf`, as the C standard has it. -/
def cargf (atan2f : ℚ → ℚ → ℚ) (a : Iq) : ℚ := atan2f a.im a.re

end Iq

/-! ## The resampler -/

/-- `GFSK_MODEM_RESAMPLER_OUTPUT_MARGIN` and `BPSK_MODEM_RESAMPLER_OUTPUT_MARGIN`. -/
def rxResamplerOutputMargin : Nat := 16

/-- A resampler, and how long its output can get.  `fits` says that the margin is enough, in
whatever state the resampler is.  The modems resample downwards only: they refuse an input
below their internal rate. -/
structure RxResampler where
  machine : Mealy Iq (List Iq)
  rate : ℚ
  rate_nonneg : 0 ≤ rate
  rate_le_one : rate ≤ 1
  fits : ∀ (state : machine.State) (input : List Iq),
    ((Object.mk machine state).emit input).2.length ≤
      ⌈(input.length : ℚ) * rate⌉₊ + rxResamplerOutputMargin

/-- `rx_max_input_buffer_length`: the length of `resampler_rx_output`, if there is one. -/
def rxMaxInputBufferLength (resampler : Option RxResampler) (maxInputBufferLength : Nat) : Nat :=
  match resampler with
  | none => maxInputBufferLength
  | some r => ⌈(maxInputBufferLength : ℚ) * r.rate⌉₊ + rxResamplerOutputMargin

/-! ## The DC blocker -/

/-- A ring of samples: the oldest one is at the index. -/
structure Ring (n : Nat) where
  samples : Vector ℚ n
  index : Fin n

namespace Ring
variable {n : Nat}

/-- `calloc`. -/
def create (h : 0 < n) : Ring n := ⟨.replicate n 0, ⟨0, h⟩⟩

/-- A sample takes the place of the oldest one, which is returned. -/
def push (r : Ring n) (input : ℚ) : Ring n × ℚ :=
  ({ samples := r.samples.set r.index input
     index := ⟨if r.index.val + 1 = n then 0 else r.index.val + 1, by
       have hlt := r.index.isLt
       split <;> omega⟩ },
    r.samples[r.index])

end Ring

/-- `struct boxcar`. -/
structure Boxcar (length : Nat) where
  ring : Ring length
  sum : ℚ

/-- `boxcar_process`. -/
def Boxcar.process {length : Nat} (stage : Boxcar length) (input : ℚ) : Boxcar length × ℚ :=
  let (ring, oldest) := stage.ring.push input
  let sum := stage.sum + (input - oldest)
  (⟨ring, sum⟩, sum / length)

/-- `DC_BLOCKER_STAGES`. -/
def dcBlockerStages : Nat := 4

/-- `struct dc_blocker_t`. -/
structure DcBlocker (length : Nat) where
  stages : List (Boxcar length)
  delayed : Ring (dcBlockerStages * (length - 1) / 2)

namespace DcBlocker
variable {length : Nat}

/-- `dc_blocker_create`. -/
def create (length : Nat) : Option (DcBlocker length) :=
  if h : length < 2 then none
  else some
    { stages := List.replicate dcBlockerStages ⟨.create (by omega), 0⟩
      delayed := .create (by unfold dcBlockerStages; omega) }

/-- The loop over the stages. -/
def cascade : List (Boxcar length) → ℚ → List (Boxcar length) × ℚ
  | [], dc => ([], dc)
  | stage :: stages, dc =>
    let (stage, dc) := stage.process dc
    let (stages, dc) := cascade stages dc
    (stage :: stages, dc)

/-- The body of the loop over the samples. -/
def step (blocker : DcBlocker length) (input : ℚ) : DcBlocker length × List ℚ :=
  let (stages, dc) := cascade blocker.stages input
  let (ring, delayed) := blocker.delayed.push input
  (⟨stages, ring⟩, [delayed - dc])

/-- `dc_blocker_process`. -/
def process : DcBlocker length → List ℚ → DcBlocker length × List ℚ := steps step

end DcBlocker

/-! ## GFSK -/

/-- `symsync_rrrf`: its rate can be set. -/
structure Symsync where
  machine : Mealy ℚ (List ℚ)
  setOutputRate : machine.State → machine.State

/-- A symbol synchronizer in one of its states. -/
structure SymsyncObject where
  symsync : Symsync
  state : symsync.machine.State

/-- The body of the loop over the samples: the rate is reset after every sample. -/
def SymsyncObject.step (o : SymsyncObject) (sample : ℚ) : SymsyncObject × List ℚ :=
  let next := o.symsync.machine.step o.state sample
  (⟨o.symsync, o.symsync.setOutputRate next.1⟩, next.2)

/-- A soft bit without a sync word: full scale is the configured deviation. -/
def gfskSoftBit (symbol : ℚ) : Int8 :=
  let r := symbol * 127
  if r > 127 then 127
  else if r < -127 then -127
  else Int8.ofInt (rint r)

/-- `GFSK_MODEM_SPS * GFSK_MODEM_DC_BLOCK_SYMBOLS`. -/
def gfskModemDcBlockLength : Nat := 2 * 32

/-- What `gfsk_correlator_create_template` makes of the sync word. -/
structure SyncwordTemplate where
  mean : ℚ
  energy : ℚ
  dotprod : List ℚ → ℚ
  sqrtf : ℚ → ℚ

structure GfskRxConfig where
  resampler : Option RxResampler
  lowpass : Option (Mealy Iq Iq)
  freqdem : Mealy Iq ℚ
  syncwordBits : Nat
  template : SyncwordTemplate
  matchedFilter : Mealy ℚ ℚ
  useDcBlock : Bool
  symsync : Symsync

/-- What comes after the discriminator: with a sync word, or without one. -/
inductive GfskTiming where
  | syncword (matchedFilter : Object ℚ ℚ) (correlator : GfskCorrelator)
  | recovery (dc : Option (DcBlocker gfskModemDcBlockLength)) (symbolSync : SymsyncObject)

/-- The parameters of `gfsk_correlator_create` in `gfsk_modem_create_correlator`. -/
def GfskRxConfig.correlator (config : GfskRxConfig) (maxInputBufferLength : Nat) :
    CorrelatorConfig where
  sps := 2
  syncwordBits := config.syncwordBits
  threshold := 7 / 10
  burstSymbols := 2048
  maxInputBufferLength := maxInputBufferLength
  templateMean := config.template.mean
  templateEnergy := config.template.energy
  correlate :=
    gfskCorrelatorCorrelate config.template.dotprod config.template.sqrtf config.template.energy

namespace GfskTiming

/-- `gfsk_modem_create_correlator` or `gfsk_modem_create_symbol_timing`. -/
def create (config : GfskRxConfig) (maxInputBufferLength : Nat) : Option GfskTiming :=
  if config.syncwordBits ≠ 0 then
    (GfskCorrelator.create (config.correlator maxInputBufferLength)).map fun correlator =>
      .syncword (.create config.matchedFilter) correlator
  else
    let symbolSync : SymsyncObject := ⟨config.symsync, config.symsync.machine.init⟩
    if config.useDcBlock then
      (DcBlocker.create gfskModemDcBlockLength).map fun dc => .recovery (some dc) symbolSync
    else some (.recovery none symbolSync)

/-- The end of `gfsk_modem_demodulate`. -/
def demodulate : GfskTiming → List ℚ → Option (GfskTiming × Option (List Int8))
  | .syncword matchedFilter correlator, samples =>
    let (matchedFilter, filtered) := matchedFilter.process samples
    (correlator.process filtered).map fun (correlator, output) =>
      (.syncword matchedFilter correlator, output.map fun symbols => symbols.map SoftSymbol.value)
  | .recovery dc symbolSync, samples =>
    let (dc, samples) := optional DcBlocker.process dc samples
    let (symbolSync, symbols) := steps SymsyncObject.step symbolSync samples
    some (.recovery dc symbolSync, some (symbols.map gfskSoftBit))

end GfskTiming

/-- The part of `struct gfsk_modem_t` behind "RX chain". -/
structure GfskRx where
  maxInputBufferLength : Nat
  resamplerRx : Option (Object Iq (List Iq))
  lowpass : Option (Object Iq Iq)
  discriminator : Object Iq ℚ
  timing : GfskTiming

namespace GfskRx

/-- The part of `gfsk_modem_create` for receiving. -/
def create (config : GfskRxConfig) (maxInputBufferLength : UInt32) : Option GfskRx :=
  if config.syncwordBits > 64 then none
  else
    (GfskTiming.create config
      (rxMaxInputBufferLength config.resampler maxInputBufferLength.toNat)).map fun timing =>
      { maxInputBufferLength := maxInputBufferLength.toNat
        resamplerRx := config.resampler.map fun r => .create r.machine
        lowpass := config.lowpass.map .create
        discriminator := .create config.freqdem
        timing := timing }

/-- `gfsk_modem_demodulate`. -/
def demodulate (m : GfskRx) (input : List Iq) : Option (GfskRx × Option (List Int8)) :=
  if input.length > m.maxInputBufferLength then some (m, none)
  else
    let (resamplerRx, input) := optional Object.emit m.resamplerRx input
    let (lowpass, input) := optional Object.process m.lowpass input
    let (discriminator, samples) := m.discriminator.process input
    (m.timing.demodulate samples).map fun (timing, output) =>
      ({ m with
          resamplerRx := resamplerRx
          lowpass := lowpass
          discriminator := discriminator
          timing := timing },
        output)

end GfskRx

/-! ## Oscillators -/

/-- `nco_crcf`. -/
structure Nco where
  State : Type
  init : State
  mixDown : State → Iq → Iq
  pllStep : State → ℚ → State
  step : State → State

/-- An oscillator in one of its states. -/
structure NcoObject where
  nco : Nco
  state : nco.State

namespace NcoObject

def create (nco : Nco) : NcoObject := ⟨nco, nco.init⟩

/-- `nco_crcf_mix_down`. -/
def mixDown (o : NcoObject) (sample : Iq) : Iq := o.nco.mixDown o.state sample

/-- `nco_crcf_pll_step`. -/
def pllStep (o : NcoObject) (phaseError : ℚ) : NcoObject :=
  ⟨o.nco, o.nco.pllStep o.state phaseError⟩

/-- `nco_crcf_step`. -/
def step (o : NcoObject) : NcoObject := ⟨o.nco, o.nco.step o.state⟩

end NcoObject

/-! ## BPSK, DPSK and SDPSK -/

/-- How symbols become soft bits: by a `modemcf`, or for SDPSK by the previous symbol. -/
inductive PskDetector where
  | modemcf (mod : Object Iq UInt8)
  | sdpsk (rxPrevSymbol : Iq)

/-- `(int8_t) r`: towards 0. -/
def truncate (r : ℚ) : Int := if r < 0 then ⌈r⌉ else ⌊r⌋

namespace PskDetector

/-- The phase error: the data is removed by a power of the symbol. -/
def phaseError (atan2f : ℚ → ℚ → ℚ) (mixed : Iq) : PskDetector → ℚ
  | .modemcf _ => (mixed * mixed).cargf atan2f / 2
  | .sdpsk _ => (mixed * mixed * (mixed * mixed)).cargf atan2f / 4

/-- The soft bit of a symbol. -/
def detect (mixed : Iq) : PskDetector → PskDetector × Int8
  | .modemcf mod =>
    let next := mod.machine.step mod.state mixed
    (.modemcf ⟨mod.machine, next.1⟩, Int8.ofInt ((next.2.toNat : Int) - 128))
  | .sdpsk rxPrevSymbol =>
    let soft := (mixed * rxPrevSymbol.conj).im * 127
    let soft := if soft > 127 then 127 else if soft < -127 then -127 else soft
    (.sdpsk mixed, Int8.ofInt (truncate soft))

end PskDetector

/-- `type` and `mod`. -/
inductive PskDetectorConfig where
  | modemcf (machine : Mealy Iq UInt8)
  | sdpsk

/-- The detector of `bpsk_modem_create`. -/
def PskDetectorConfig.create : PskDetectorConfig → PskDetector
  | .modemcf machine => .modemcf (.create machine)
  | .sdpsk => .sdpsk ⟨1, 0⟩

structure BpskRxConfig where
  resampler : Option RxResampler
  lowpass : Option (Mealy Iq Iq)
  agc : Mealy Iq Iq
  symsync : Mealy Iq (List Iq)
  costas : Nco
  detector : PskDetectorConfig
  atan2f : ℚ → ℚ → ℚ

/-- The part of `struct bpsk_modem_t` behind "RX chain". -/
structure BpskRx where
  maxInputBufferLength : Nat
  resamplerRx : Option (Object Iq (List Iq))
  lowpassFilter : Option (Object Iq Iq)
  rxAgc : Object Iq Iq
  symbolSync : Object Iq (List Iq)
  costas : NcoObject
  detector : PskDetector
  atan2f : ℚ → ℚ → ℚ

namespace BpskRx

/-- The part of `bpsk_modem_create` for receiving. -/
def create (config : BpskRxConfig) (maxInputBufferLength : UInt32) : BpskRx where
  maxInputBufferLength := maxInputBufferLength.toNat
  resamplerRx := config.resampler.map fun r => .create r.machine
  lowpassFilter := config.lowpass.map .create
  rxAgc := .create config.agc
  symbolSync := .create config.symsync
  costas := .create config.costas
  detector := config.detector.create
  atan2f := config.atan2f

/-- The body of the loop over the symbols. -/
def symbolStep (atan2f : ℚ → ℚ → ℚ) (s : NcoObject × PskDetector) (symbol : Iq) :
    (NcoObject × PskDetector) × List Int8 :=
  let mixed := s.1.mixDown symbol
  let costas := (s.1.pllStep (s.2.phaseError atan2f mixed)).step
  let (detector, bit) := s.2.detect mixed
  ((costas, detector), [bit])

/-- `bpsk_modem_demodulate`. -/
def demodulate (m : BpskRx) (input : List Iq) : BpskRx × Option (List Int8) :=
  if input.length > m.maxInputBufferLength then (m, none)
  else
    let (resamplerRx, input) := optional Object.emit m.resamplerRx input
    let (lowpassFilter, input) := optional Object.process m.lowpassFilter input
    let (rxAgc, input) := m.rxAgc.process input
    let (symbolSync, symbols) := m.symbolSync.emit input
    let ((costas, detector), output) := steps (symbolStep m.atan2f) (m.costas, m.detector) symbols
    ({ m with
        resamplerRx := resamplerRx
        lowpassFilter := lowpassFilter
        rxAgc := rxAgc
        symbolSync := symbolSync
        costas := costas
        detector := detector },
      some output)

end BpskRx

/-! ## PSK-PM -/

structure PskPmRxConfig where
  carrierPll : Nco
  subcarrierNco : Nco
  subcarrier : BpskRxConfig
  atan2f : ℚ → ℚ → ℚ

/-- The part of `struct psk_pm_modem_t` that receives. -/
structure PskPmRx where
  maxInputBufferLength : Nat
  carrierPll : NcoObject
  subcarrierNco : NcoObject
  subcarrierModem : BpskRx
  atan2f : ℚ → ℚ → ℚ

namespace PskPmRx

/-- The part of `psk_pm_modem_create` for receiving. -/
def create (config : PskPmRxConfig) (maxInputBufferLength : UInt32) : PskPmRx where
  maxInputBufferLength := maxInputBufferLength.toNat
  carrierPll := .create config.carrierPll
  subcarrierNco := .create config.subcarrierNco
  subcarrierModem := .create config.subcarrier maxInputBufferLength
  atan2f := config.atan2f

/-- The body of the loop over the samples. -/
def carrierStep (atan2f : ℚ → ℚ → ℚ) (s : NcoObject × NcoObject) (sample : Iq) :
    (NcoObject × NcoObject) × List Iq :=
  let derotated := s.1.mixDown sample
  let discriminator := atan2f derotated.im derotated.re
  let carrierPll := (s.1.pllStep discriminator).step
  let baseband := s.2.mixDown ⟨discriminator, 0⟩
  ((carrierPll, s.2.step), [baseband])

/-- `psk_pm_modem_demodulate`. -/
def demodulate (m : PskPmRx) (input : List Iq) : PskPmRx × Option (List Int8) :=
  if input.length > m.maxInputBufferLength then (m, none)
  else
    let ((carrierPll, subcarrierNco), baseband) :=
      steps (carrierStep m.atan2f) (m.carrierPll, m.subcarrierNco) input
    let (subcarrierModem, output) := m.subcarrierModem.demodulate baseband
    ({ m with
        carrierPll := carrierPll
        subcarrierNco := subcarrierNco
        subcarrierModem := subcarrierModem },
      output)

end PskPmRx

/-! ## The modem of the workers -/

/-- What a modem is made of. -/
inductive WrappedRxConfig where
  | gfsk (config : GfskRxConfig)
  | bpsk (config : BpskRxConfig)
  | pskPm (config : PskPmRxConfig)

/-- The modem behind `sdr_modem`. -/
inductive WrappedRx where
  | gfsk (m : GfskRx)
  | bpsk (m : BpskRx)
  | pskPm (m : PskPmRx)

namespace WrappedRx

/-- The switch over the modem type in `sdr_modem_create`. -/
def create (bufferSize : UInt32) : WrappedRxConfig → Option WrappedRx
  | .gfsk config => (GfskRx.create config bufferSize).map .gfsk
  | .bpsk config => some (.bpsk (.create config bufferSize))
  | .pskPm config => some (.pskPm (.create config bufferSize))

/-- `modem->demodulate`. -/
def demodulate : WrappedRx → List Iq → Option (WrappedRx × Option (List Int8))
  | .gfsk m, input => (m.demodulate input).map fun (m, output) => (.gfsk m, output)
  | .bpsk m, input => some (.bpsk (m.demodulate input).1, (m.demodulate input).2)
  | .pskPm m, input => some (.pskPm (m.demodulate input).1, (m.demodulate input).2)

end WrappedRx

structure SdrModemRxConfig where
  modem : WrappedRxConfig
  sampleRate : UInt64
  bandwidth : UInt32
  msresamp2 : Mealy (List Iq) Iq

/-- The part of `struct sdr_modem_t` that receives, without a frequency offset. -/
structure SdrModemRx where
  modem : WrappedRx
  halfband : Option (HalfbandDecim Iq)

namespace SdrModemRx

/-- The part of `sdr_modem_create` for receiving. -/
def create (config : SdrModemRxConfig) (bufferSize : UInt32) : Option SdrModemRx :=
  (WrappedRx.create bufferSize config.modem).map fun modem =>
    ⟨modem, HalfbandDecim.forRate config.msresamp2 config.sampleRate config.bandwidth bufferSize⟩

/-- `sdr_modem_demodulate`.  If the decimator refuses a call, the modem gets nothing. -/
def demodulate (m : SdrModemRx) (input : List Iq) : Option (SdrModemRx × Option (List Int8)) :=
  let (halfband, input) :=
    optional (fun f input => ((f.process input).1, (f.process input).2.getD [])) m.halfband input
  (m.modem.demodulate input).map fun (modem, output) => (⟨modem, halfband⟩, output)

end SdrModemRx
end SdrModem
