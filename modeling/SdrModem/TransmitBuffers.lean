import SdrModem.ModemAdmission
import SdrModem.ModulatorChunks

/-!
# The buffers of a transmission

Every stage of a transmission writes into a buffer of its own, which its creation has sized: the
modulator by the bits and the tail of its pulse, the resampler by its rate, the half-band
interpolator by its factor, and the frequency offset by what comes before it.  A call writes into
all of them, and `TxBuffers` says how much.

Rates are computed with `double`, and the resampler is created with a `float`.
-/
namespace SdrModem
open Mealy

/-! ## Creation -/

/-- `double`. -/
def FloatArith.binary64 : FloatArith :=
  ⟨fun n => Ieee754.binary64.roundNat n, Ieee754.binary64.round⟩

/-- The arithmetic of `double` and the one of `float`. -/
structure RateArith where
  double : FloatArith
  float : FloatArith

/-- `double` and `float`. -/
def RateArith.binary : RateArith := ⟨.binary64, .binary32⟩

/-- Rational numbers for both. -/
def RateArith.exact : RateArith := ⟨.exact, .exact⟩

/-- `msresamp_crcf_get_delay` and `msresamp2_crcf_get_delay`, by what the object was created
with. -/
structure Delays where
  msresamp : ℚ → ℚ
  msresamp2 : Nat → ℚ → ℚ

/-- The objects of `liquid-dsp` that transmit, by what they are created with. -/
structure TxObjects where
  cpfskmod : GfskModemSettings → Mealy Bool (Vector Sample gfskModemSps)
  mapper : PskModemType → SymbolMapper
  firinterp : BpskModemSettings → (samplesPerSymbol : Nat) →
    Mealy Sample (Vector Sample samplesPerSymbol)
  nco : PskPmModemSettings → Mealy Unit UInt32
  phaseModulate : PskPmModemSettings → Sample → UInt32 → Sample
  msresamp : ℚ → Mealy Sample (List Sample)
  msresamp2 : (numStages : Nat) → ℚ → Mealy Sample (Vector Sample (2 ^ numStages))

/-- `GFSK_MODEM_RESAMPLER_OUTPUT_MARGIN` and `BPSK_MODEM_RESAMPLER_OUTPUT_MARGIN`. -/
def resamplerOutputMargin : Nat := 16

/-- What a transmission depends on of the rates of a modem. -/
structure TxRates where
  sampleRate : UInt64
  internalSampleRate : UInt64
  needsResampling : Bool
  samplesPerSymbol : Nat
  tailSymbols : Nat

/-- The rates of `gfsk_modem_create`. -/
def gfskTxRates (settings : GfskModemSettings) : TxRates :=
  let internalSampleRate : UInt64 := 2 * settings.baudRate.toUInt64
  ⟨settings.sampleRate, internalSampleRate, settings.sampleRate != internalSampleRate,
    gfskModemSps, gfskModemTxTailSymbols⟩

/-- The rates of `bpsk_modem_create`. -/
def bpskTxRates (settings : BpskModemSettings) : Option TxRates :=
  (bpskRatePlan settings.sampleRate settings.baudRate).map fun plan =>
    ⟨settings.sampleRate, plan.internalSampleRate, plan.resamplerTx.isSome,
      plan.samplesPerSymbol.toNat, 2 * settings.rrcDelay.toNat⟩

/-- `resample_rate` and `resample_rate_tx`. -/
def resampleRate (a : RateArith) (rates : TxRates) : Option ℚ :=
  a.double.round
    (a.double.ofNat rates.sampleRate.toNat / a.double.ofNat rates.internalSampleRate.toNat)

/-- `resampler_tx_flush_len`. -/
def resamplerTxFlushLen (delays : Delays) (rate : ℚ) : Nat := ⌈2 * delays.msresamp rate⌉₊ + 1

/-- A resampler as it is created: its rate, and the lengths that go with it. -/
structure ResamplerPlan where
  rate : ℚ
  flushLen : Nat
  outputLen : Nat
deriving DecidableEq

/-- The resampler behind a buffer of so many samples; `none` is a rate that is not finite. -/
def resamplerPlan (a : RateArith) (delays : Delays) (rates : TxRates) (samples : Nat) :
    Option ResamplerPlan := do
  let resampleRate ← resampleRate a rates
  let rate ← a.float.round resampleRate
  let flushLen := resamplerTxFlushLen delays rate
  let length ← a.double.round (a.double.ofNat (samples + flushLen) * resampleRate)
  some ⟨rate, flushLen, ⌈length⌉₊ + resamplerOutputMargin⟩

/-- What "TX chain" creates for a buffer of so many samples: a resampler if one is needed. -/
def resamplerTxPlan (a : RateArith) (delays : Delays) (rates : TxRates) (samples : Nat) :
    Option (Option ResamplerPlan) :=
  if rates.needsResampling then (resamplerPlan a delays rates samples).map some else some none

/-- The samples of the data of a full buffer. -/
def TxRates.dataSamples (rates : TxRates) (bufferSize : UInt32) : Nat :=
  bufferSize.toNat * 8 * rates.samplesPerSymbol

/-- The samples of the tail. -/
def TxRates.tailSamples (rates : TxRates) : Nat := rates.tailSymbols * rates.samplesPerSymbol

/-- `max_modulation_buffer_length`, before a resampler is flushed. -/
def TxRates.bufferSamples (rates : TxRates) (bufferSize : UInt32) : Nat :=
  (bufferSize.toNat * 8 + rates.tailSymbols) * rates.samplesPerSymbol

/-- `subcarrier_settings` of `psk_pm_modem_create`. -/
def PskPmModemSettings.subcarrierSettings (settings : PskPmModemSettings) : BpskModemSettings where
  sampleRate := settings.sampleRate
  baudRate := settings.baudRate
  rrcBeta := settings.rrcBeta
  rrcDelay := settings.rrcDelay
  costasBandwidth := settings.costasBandwidth
  symsyncFilterBankSize := settings.symsyncFilterBankSize
  bandwidth := settings.subcarrierBandwidth
  type := .bpsk

/-- The rates of the modem behind `sdr_modem`. -/
def SdrModemSettings.txRates : SdrModemSettings → Option TxRates
  | .gfsk settings => some (gfskTxRates settings)
  | .psk _ settings => bpskTxRates settings
  | .pskPm settings => bpskTxRates settings.subcarrierSettings

/-- `gfsk_modem_create`, as far as it transmits. -/
def GfskModem.forSettings (a : RateArith) (delays : Delays) (objects : TxObjects)
    (settings : GfskModemSettings) (bufferSize : UInt32) : Option GfskModem :=
  let rates := gfskTxRates settings
  let length := rates.bufferSamples bufferSize
  (resamplerTxPlan a delays rates length).map fun plan =>
    { maxModulationInputBits := bufferSize.toNat * 8
      maxModulationBufferLength := length + plan.elim 0 ResamplerPlan.flushLen
      resamplerTxFlushLen := plan.elim 0 ResamplerPlan.flushLen
      txLastBit := false
      txPending := false
      mod := .create (objects.cpfskmod settings)
      resamplerTx := plan.map fun r => .create (objects.msresamp r.rate)
      resamplerTxOutputLen := plan.elim 0 ResamplerPlan.outputLen }

/-- `bpsk_modem_create`, as far as it transmits. -/
def BpskModem.forSettings (a : RateArith) (delays : Delays) (objects : TxObjects)
    (settings : BpskModemSettings) (bufferSize : UInt32) : Option BpskModem :=
  (bpskTxRates settings).bind fun rates =>
  let length := rates.bufferSamples bufferSize
  (resamplerTxPlan a delays rates length).map fun plan =>
    { samplesPerSymbol := rates.samplesPerSymbol
      maxModulationInputBits := bufferSize.toNat * 8
      maxModulationBufferLength := length + plan.elim 0 ResamplerPlan.flushLen
      mod := .create (objects.mapper settings.type).machine
      interp := .create (objects.firinterp settings rates.samplesPerSymbol)
      resamplerTx := plan.map fun r => .create (objects.msresamp r.rate)
      resamplerTxOutputLen := plan.elim 0 ResamplerPlan.outputLen
      resamplerTxFlushLen := plan.elim 0 ResamplerPlan.flushLen
      txTailSymbols := rates.tailSymbols
      txPending := false }

/-- `psk_pm_modem_create`, as far as it transmits. -/
def PskPmModem.forSettings (a : RateArith) (delays : Delays) (objects : TxObjects)
    (settings : PskPmModemSettings) (bufferSize : UInt32) : Option PskPmModem :=
  (BpskModem.forSettings a delays objects settings.subcarrierSettings bufferSize).map
    fun subcarrierModem =>
      { subcarrierNco := .create (objects.nco settings)
        subcarrierModem := subcarrierModem
        phaseModulate := objects.phaseModulate settings }

/-- The switch over the modem type in `sdr_modem_create`. -/
def WrappedModem.forSettings (a : RateArith) (delays : Delays) (objects : TxObjects)
    (bufferSize : UInt32) : SdrModemSettings → Option WrappedModem
  | .gfsk settings => (GfskModem.forSettings a delays objects settings bufferSize).map .gfsk
  | .psk _ settings => (BpskModem.forSettings a delays objects settings bufferSize).map .bpsk
  | .pskPm settings => (PskPmModem.forSettings a delays objects settings bufferSize).map .pskPm

/-! ## What is accepted -/

/-- The checks of `gfsk_modem_create`, before it creates anything. -/
def gfskModemValid (a : RateArith) (settings : GfskModemSettings) : Bool :=
  let bt := Ieee754.binary32.value settings.bt.toNat
  !(settings.baudRate == 0 || settings.deviation == 0) &&
    !(Ieee754.le bt (Ieee754.exact 0) || Ieee754.lt (Ieee754.exact 1) bt) &&
    !(settings.syncwordBits > 64) &&
    !(a.double.round
      (a.double.ofNat settings.sampleRate.toNat / a.double.ofNat settings.baudRate.toNat)).any
        fun samplesPerSymbol => samplesPerSymbol < 2

/-- `psk_pm_modem_validate_settings`. -/
def pskPmModemValidateSettings (settings : PskPmModemSettings) : Bool :=
  let positive (bits : UInt32) : Bool :=
    !Ieee754.le (Ieee754.binary32.value bits.toNat) (Ieee754.exact 0)
  settings.subcarrierFrequency != 0 &&
    !(settings.subcarrierFrequency.toUInt64 * 2 ≥ settings.sampleRate) &&
    positive settings.modulationIndex && positive settings.carrierPllBandwidth

/-- `*_modem_create`: whether it returns 0.  Of GFSK the objects behind the checks are a
parameter. -/
def modemAccepts (liquid : Liquid) (a : RateArith) (gfskObjects : GfskModemSettings → Bool) :
    SdrModemSettings → Bool :=
  wrappedCreate liquid a.float
    (fun settings => gfskModemValid a settings && gfskObjects settings)
    (fun settings => pskPmModemValidateSettings settings &&
      bpskModemCreate liquid a.float settings.subcarrierSettings)

/-! ## `sdr_modem_create` -/

/-- `struct sdr_modem_t` as far as it transmits; of the frequency offset it is the `output_len`. -/
structure TransmitModem where
  tx : SdrModemTx
  freqOffsetLen : Option Nat

/-- `halfband_interp_create`, by the number of stages and the cutoff. -/
def halfbandTxConfig (delays : Delays) (objects : TxObjects) (numStages : Nat) (fc : ℚ) :
    HalfbandConfig where
  interpolation := 2 ^ numStages
  tailLength := ⌈2 * delays.msresamp2 numStages fc⌉₊ + 1
  msresamp2 := objects.msresamp2 numStages fc

/-- `output_len` of the interpolator. -/
def HalfbandInterp.outputLen (f : HalfbandInterp) : Nat :=
  (f.maxInputBufferLength + f.tailLength) * f.interpolation

/-- `sdr_modem_max_modulation_buffer_length`. -/
def SdrModemTx.maxModulationBufferLength (m : SdrModemTx) : Nat :=
  m.halfbandTx.elim m.modem.maxModulationLength HalfbandInterp.outputLen

/-- What `sdr_modem_create` makes of a modem: the interpolator that mirrors the decimator, if
there is one. -/
def SdrModemTx.forModem (a : RateArith) (delays : Delays) (objects : TxObjects)
    (sampleRate : UInt64) (bandwidth : UInt32) (modem : WrappedModem) : Option SdrModemTx :=
  let halfbandStages := estimateHalfbandStages a.float sampleRate bandwidth
  if halfbandStages = 0 then some ⟨modem, none, false⟩
  else
    (sdrModemHalfbandCutoff a.float bandwidth
      (basebandSampleRate a.float sampleRate bandwidth)).map fun fc =>
        ⟨modem, some (.create (halfbandTxConfig delays objects halfbandStages fc)
          modem.maxModulationLength), false⟩

/-- `sdr_modem_create`, as far as it transmits, with or without a file of frequency offsets. -/
def TransmitModem.create (liquid : Liquid) (a : RateArith)
    (gfskObjects : GfskModemSettings → Bool) (delays : Delays) (objects : TxObjects)
    (settings : SdrModemSettings) (bufferSize : UInt32) (freqOffsetFile : Bool) :
    Option TransmitModem :=
  if sdrModemCreate liquid a.float (modemAccepts liquid a gfskObjects) settings = some true then
    (sdrModemGetBandwidth a.float settings).bind fun bandwidth =>
    (WrappedModem.forSettings a delays objects bufferSize
      (settings.decimated a.float bandwidth)).bind fun modem =>
    (SdrModemTx.forModem a delays objects settings.sampleRate bandwidth modem).map fun tx =>
      ⟨tx, if freqOffsetFile then some (max bufferSize.toNat tx.maxModulationBufferLength)
        else none⟩
  else none

/-! ## What the calls write -/

/-- A number of samples for each buffer: how many it has, or how many are written into it.  One
that is not there has none. -/
structure TxBuffers where
  modulationOutput : Nat
  resamplerTxOutput : Nat
  phaseOutput : Nat
  halfbandOutput : Nat
  freqOffsetOutput : Nat
deriving DecidableEq

namespace TxBuffers

def none : TxBuffers := ⟨0, 0, 0, 0, 0⟩

/-- No buffer gets more than it has. -/
structure Within (written allocated : TxBuffers) : Prop where
  modulationOutput : written.modulationOutput ≤ allocated.modulationOutput
  resamplerTxOutput : written.resamplerTxOutput ≤ allocated.resamplerTxOutput
  phaseOutput : written.phaseOutput ≤ allocated.phaseOutput
  halfbandOutput : written.halfbandOutput ≤ allocated.halfbandOutput
  freqOffsetOutput : written.freqOffsetOutput ≤ allocated.freqOffsetOutput

end TxBuffers

/-- What `msresamp_crcf_execute` makes of samples; the caller is told the number in 32 bits. -/
def resamplerWrites (resamplerTx : Option (Object Sample (List Sample))) (samples : List Sample) :
    Nat :=
  resamplerTx.elim 0 fun resampler =>
    (resampler.emit (samples.take (samples.length % 2 ^ 32))).2.length

/-- Samples go to `modulation_output`, and from there through the resampler. -/
def chainWrites (resamplerTx : Option (Object Sample (List Sample))) (samples : List Sample) :
    TxBuffers :=
  { TxBuffers.none with
    modulationOutput := samples.length
    resamplerTxOutput := resamplerWrites resamplerTx samples }

/-- `input_len * 8 > max_modulation_input_bits`; a `size_t` has 64 bits. -/
def tooManyBits (inputLen maxModulationInputBits : Nat) : Bool :=
  inputLen * 8 % 2 ^ 64 > maxModulationInputBits

/-- What `gfsk_modem_modulate` writes.  An input whose bits are more than a `size_t` counts can
pass the check, and is written beyond the buffer then. -/
def GfskModem.modulateWrites (m : GfskModem) (input : List UInt8) : TxBuffers :=
  if tooManyBits input.length m.maxModulationInputBits then .none
  else chainWrites m.resamplerTx (m.mod.expand (inputBits input)).2

/-- What `gfsk_modem_modulate_flush` writes. -/
def GfskModem.flushWrites (m : GfskModem) : TxBuffers :=
  if m.txPending then
    chainWrites m.resamplerTx
      ((m.mod.expand (List.replicate gfskModemTxTailSymbols m.txLastBit)).2 ++
        flushZeros m.resamplerTx m.resamplerTxFlushLen)
  else .none

/-- What `bpsk_modem_modulate` writes. -/
def BpskModem.modulateWrites (m : BpskModem) (input : List UInt8) : TxBuffers :=
  if tooManyBits input.length m.maxModulationInputBits then .none
  else chainWrites m.resamplerTx (m.interp.expand (m.mod.process (inputBits input)).2).2

/-- What `bpsk_modem_modulate_flush` writes. -/
def BpskModem.flushWrites (m : BpskModem) : TxBuffers :=
  if m.txPending then
    chainWrites m.resamplerTx
      ((m.interp.expand (List.replicate m.txTailSymbols 0)).2 ++
        flushZeros m.resamplerTx m.resamplerTxFlushLen)
  else .none

namespace WrappedModem

/-- What `modem->modulate` writes: PSK-PM has a buffer of its own for as many samples as it gets
from the subcarrier. -/
def modulateWrites (m : WrappedModem) (input : List UInt8) : TxBuffers :=
  match m with
  | .gfsk m => m.modulateWrites input
  | .bpsk m => m.modulateWrites input
  | .pskPm m => { m.subcarrierModem.modulateWrites input with
      phaseOutput := (m.subcarrierModem.modulate input).2.elim 0 List.length }

/-- What `modem->modulate_flush` writes. -/
def flushWrites (m : WrappedModem) : TxBuffers :=
  match m with
  | .gfsk m => m.flushWrites
  | .bpsk m => m.flushWrites
  | .pskPm m => { m.subcarrierModem.flushWrites with
      phaseOutput := m.subcarrierModem.modulateFlush.2.elim 0 List.length }

/-- What the modem has allocated. -/
def allocated : WrappedModem → TxBuffers
  | .gfsk m => ⟨m.maxModulationBufferLength, m.resamplerTxOutputLen, 0, 0, 0⟩
  | .bpsk m => ⟨m.maxModulationBufferLength, m.resamplerTxOutputLen, 0, 0, 0⟩
  | .pskPm m => ⟨m.subcarrierModem.maxModulationBufferLength,
      m.subcarrierModem.resamplerTxOutputLen, m.maxModulationLength, 0, 0⟩

end WrappedModem

namespace TransmitModem

/-- The calls of a transmission. -/
inductive Call where
  | modulate (input : List UInt8)
  | flush

/-- `sdr_modem_modulate` and `sdr_modem_modulate_flush` up to the frequency offset. -/
def callTx (m : TransmitModem) : Call → SdrModemTx × Option (List Sample)
  | .modulate input => m.tx.modulate input
  | .flush => m.tx.modulateFlush

/-- `freq_offset_process` keeps the length of its input, or returns `NULL`. -/
def freqOffsetProcess (freqOffsetLen : Option Nat) (output : List Sample) : Option Nat :=
  match freqOffsetLen with
  | none => some output.length
  | some length => if output.length > length then none else some output.length

/-- `output_len` of a call; `none` is a `NULL` output. -/
def outputLen (m : TransmitModem) (c : Call) : Option Nat :=
  (m.callTx c).2.bind (freqOffsetProcess m.freqOffsetLen)

/-- The modem after a call. -/
def after (m : TransmitModem) (c : Call) : TransmitModem := { m with tx := (m.callTx c).1 }

/-- The modem after a sequence of calls. -/
def afterCalls (m : TransmitModem) (calls : List Call) : TransmitModem := calls.foldl after m

/-- What the modem behind gives to the interpolator, if it is called at all. -/
def modemOutput (m : TransmitModem) : Call → Option (List Sample)
  | .modulate input => (m.tx.modem.modulate input).2
  | .flush => if m.tx.txPending then m.tx.modem.modulateFlush.2 else none

/-- What the modem behind writes. -/
def modemWrites (m : TransmitModem) : Call → TxBuffers
  | .modulate input => m.tx.modem.modulateWrites input
  | .flush => if m.tx.txPending then m.tx.modem.flushWrites else .none

/-- `halfband_interp_process` or `halfband_interp_process_flush` of the interpolator. -/
def halfbandOutput (f : HalfbandInterp) (output : List Sample) : Call → Option (List Sample)
  | .modulate _ => (f.process output).2
  | .flush => (f.processFlush output).2

/-- What a call writes. -/
def writes (m : TransmitModem) (c : Call) : TxBuffers :=
  { m.modemWrites c with
    halfbandOutput := m.tx.halfbandTx.elim 0 fun f =>
      (m.modemOutput c).elim 0 fun output => (halfbandOutput f output c).elim 0 List.length
    freqOffsetOutput := m.freqOffsetLen.elim 0 fun _ => (m.outputLen c).getD 0 }

/-- What there is to write into. -/
def allocated (m : TransmitModem) : TxBuffers :=
  { m.tx.modem.allocated with
    halfbandOutput := m.tx.halfbandTx.elim 0 HalfbandInterp.outputLen
    freqOffsetOutput := m.freqOffsetLen.getD 0 }

/-- All lengths have 32 bits. -/
structure Below32 (m : TransmitModem) : Prop where
  modulationOutput : m.allocated.modulationOutput < 2 ^ 32
  resamplerTxOutput : m.allocated.resamplerTxOutput < 2 ^ 32
  phaseOutput : m.allocated.phaseOutput < 2 ^ 32
  halfbandOutput : m.allocated.halfbandOutput < 2 ^ 32

/-- The bits of the input are counted right. -/
def Call.Countable : Call → Prop
  | .modulate input => input.length * 8 < 2 ^ 64
  | .flush => True

end TransmitModem
end SdrModem
