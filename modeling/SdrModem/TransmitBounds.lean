import SdrModem.TransmitBuffers

/-!
# Bounds of a transmission

The samples that a call gives to a stage are as many as its input has, and the buffers are sized
for the longest data and for the tail.  Only the resampler is sized by another number than it is
created with: its rate is rounded once more on the way.
-/
namespace SdrModem
open Mealy

/-- **The resampler makes no more of a block than its rate and the margin say**, in whatever
state it is. -/
def TxObjects.Bounded (objects : TxObjects) : Prop :=
  ∀ (rate : ℚ) (state : (objects.msresamp rate).State) (input : List Sample),
    ((Object.mk (objects.msresamp rate) state).emit input).2.length ≤
      ⌈input.length * rate⌉₊ + resamplerOutputMargin

/-! ## The modem behind -/

/-- The lengths that are fixed when a modem is created. -/
structure ChainLengths where
  inputBits : Nat
  bufferLength : Nat
  flushLen : Nat
  outputLen : Nat
  samplesPerSymbol : Nat
  tailSymbols : Nat

def GfskModem.lengths (m : GfskModem) : ChainLengths :=
  ⟨m.maxModulationInputBits, m.maxModulationBufferLength, m.resamplerTxFlushLen,
    m.resamplerTxOutputLen, gfskModemSps, gfskModemTxTailSymbols⟩

def BpskModem.lengths (m : BpskModem) : ChainLengths :=
  ⟨m.maxModulationInputBits, m.maxModulationBufferLength, m.resamplerTxFlushLen,
    m.resamplerTxOutputLen, m.samplesPerSymbol, m.txTailSymbols⟩

namespace WrappedModem

def lengths : WrappedModem → ChainLengths
  | .gfsk m => m.lengths
  | .bpsk m => m.lengths
  | .pskPm m => m.subcarrierModem.lengths

def resamplerTx : WrappedModem → Option (Object Sample (List Sample))
  | .gfsk m => m.resamplerTx
  | .bpsk m => m.resamplerTx
  | .pskPm m => m.subcarrierModem.resamplerTx

/-- Whether there is a buffer for the phases. -/
def hasPhase : WrappedModem → Bool
  | .pskPm _ => true
  | _ => false

@[simp] theorem lengths_reset (m : WrappedModem) : m.reset.lengths = m.lengths := by
  cases m <;> rfl

@[simp] theorem resamplerTx_reset (m : WrappedModem) :
    m.reset.resamplerTx = m.resamplerTx.map Object.reset := by
  cases m <;> rfl

@[simp] theorem hasPhase_reset (m : WrappedModem) : m.reset.hasPhase = m.hasPhase := by
  cases m <;> rfl

theorem maxModulationLength_eq (m : WrappedModem) : m.maxModulationLength =
    if m.resamplerTx.isSome then m.lengths.outputLen else m.lengths.bufferLength := by
  cases m <;> rfl

theorem maxModulationInputBits_eq (m : WrappedModem) :
    m.maxModulationInputBits = m.lengths.inputBits := by
  cases m <;> rfl

theorem allocated_eq (m : WrappedModem) : m.allocated =
    ⟨m.lengths.bufferLength, m.lengths.outputLen,
      if m.hasPhase then m.maxModulationLength else 0, 0, 0⟩ := by
  cases m <;> rfl

end WrappedModem

theorem tooManyBits_of_lt {inputLen bits : Nat} (h : inputLen * 8 < 2 ^ 64) :
    tooManyBits inputLen bits = decide (inputLen * 8 > bits) := by
  rw [tooManyBits, Nat.mod_eq_of_lt h]

/-! ## What a call moves -/

/-- Samples of a modem that end in its own buffers. -/
structure ChainMoves (resamplerTx : Option (Object Sample (List Sample))) (samples : List Sample)
    (written : TxBuffers) (output : Option (List Sample)) : Prop where
  written : written = chainWrites resamplerTx samples
  output : output = some (resampleTx resamplerTx samples).2

/-- As many samples as the bits make. -/
theorem GfskModem.modulate_moves (m : GfskModem) {input : List UInt8}
    (hcount : input.length * 8 < 2 ^ 64) (hshort : ¬ input.length * 8 > m.maxModulationInputBits) :
    ∃ samples, samples.length = input.length * 8 * gfskModemSps ∧
      ChainMoves m.resamplerTx samples (m.modulateWrites input) (m.modulate input).2 ∧
      (m.modulate input).1.resamplerTx = (resampleTx m.resamplerTx samples).1 := by
  refine ⟨(m.mod.expand (inputBits input)).2, ?_, ⟨?_, ?_⟩, ?_⟩
  · rw [Object.length_expand, length_inputBits]
  · rw [modulateWrites, tooManyBits_of_lt hcount, decide_eq_false hshort]
    rfl
  · rw [modulate, if_neg hshort]
  · rw [modulate, if_neg hshort]

theorem GfskModem.modulationOutput_of_passes (m : GfskModem) {input : List UInt8}
    (h : tooManyBits input.length m.maxModulationInputBits = false) :
    (m.modulateWrites input).modulationOutput = input.length * 8 * gfskModemSps := by
  rw [modulateWrites, if_neg (Bool.eq_false_iff.mp h)]
  change (m.mod.expand _).2.length = _
  rw [Object.length_expand, length_inputBits]

theorem GfskModem.flush_moves {m : GfskModem} (hpending : m.txPending = true) :
    ∃ samples, samples.length = gfskModemTxTailSymbols * gfskModemSps +
        (flushZeros m.resamplerTx m.resamplerTxFlushLen).length ∧
      ChainMoves m.resamplerTx samples m.flushWrites m.modulateFlush.2 := by
  refine ⟨_, ?_, if_pos hpending, ?_⟩
  · rw [List.length_append, Object.length_expand, List.length_replicate]
  · rw [modulateFlush, if_pos hpending]

theorem BpskModem.modulate_moves (m : BpskModem) {input : List UInt8}
    (hcount : input.length * 8 < 2 ^ 64) (hshort : ¬ input.length * 8 > m.maxModulationInputBits) :
    ∃ samples, samples.length = input.length * 8 * m.samplesPerSymbol ∧
      ChainMoves m.resamplerTx samples (m.modulateWrites input) (m.modulate input).2 ∧
      (m.modulate input).1.resamplerTx = (resampleTx m.resamplerTx samples).1 := by
  refine ⟨(m.interp.expand (m.mod.process (inputBits input)).2).2, ?_, ⟨?_, ?_⟩, ?_⟩
  · rw [Object.length_expand, Object.length_process, length_inputBits]
  · rw [modulateWrites, tooManyBits_of_lt hcount, decide_eq_false hshort]
    rfl
  · rw [modulate, if_neg hshort]
  · rw [modulate, if_neg hshort]

theorem BpskModem.modulationOutput_of_passes (m : BpskModem) {input : List UInt8}
    (h : tooManyBits input.length m.maxModulationInputBits = false) :
    (m.modulateWrites input).modulationOutput = input.length * 8 * m.samplesPerSymbol := by
  rw [modulateWrites, if_neg (Bool.eq_false_iff.mp h)]
  change (m.interp.expand _).2.length = _
  rw [Object.length_expand, Object.length_process, length_inputBits]

theorem BpskModem.flush_moves {m : BpskModem} (hpending : m.txPending = true) :
    ∃ samples, samples.length = m.txTailSymbols * m.samplesPerSymbol +
        (flushZeros m.resamplerTx m.resamplerTxFlushLen).length ∧
      ChainMoves m.resamplerTx samples m.flushWrites m.modulateFlush.2 := by
  refine ⟨_, ?_, if_pos hpending, ?_⟩
  · rw [List.length_append, Object.length_expand, List.length_replicate]
  · rw [modulateFlush, if_pos hpending]

namespace WrappedModem

/-- **What a call does with samples**: they go to `modulation_output`, through the resampler and
out, and the phases are as many. -/
structure Moves (m : WrappedModem) (samples : List Sample) (written : TxBuffers)
    (output : Option (List Sample)) : Prop where
  written : written = { chainWrites m.resamplerTx samples with
    phaseOutput := if m.hasPhase then (resampleTx m.resamplerTx samples).2.length else 0 }
  output : ∃ out, output = some out ∧ out.length = (resampleTx m.resamplerTx samples).2.length

theorem moves_pskPm {m : PskPmModem} {samples : List Sample} {written : TxBuffers}
    {symbols output : Option (List Sample)}
    (h : ChainMoves m.subcarrierModem.resamplerTx samples written symbols)
    (hlength : output.map List.length = symbols.map List.length) :
    (pskPm m).Moves samples { written with phaseOutput := symbols.elim 0 List.length } output := by
  obtain ⟨rfl, rfl⟩ := h
  rw [Option.map_some, Option.map_eq_some_iff] at hlength
  exact ⟨rfl, hlength⟩

/-- Data: as many samples as the bits make. -/
theorem modulate_moves (m : WrappedModem) {input : List UInt8}
    (hcount : input.length * 8 < 2 ^ 64) (hshort : ¬ input.length * 8 > m.lengths.inputBits) :
    ∃ samples, samples.length = input.length * 8 * m.lengths.samplesPerSymbol ∧
      m.Moves samples (m.modulateWrites input) (m.modulate input).2 ∧
      (m.modulate input).1.resamplerTx = (resampleTx m.resamplerTx samples).1 := by
  cases m with
  | gfsk m =>
    obtain ⟨samples, hlength, ⟨hwritten, houtput⟩, hstate⟩ := m.modulate_moves hcount hshort
    exact ⟨samples, hlength, ⟨hwritten, _, houtput, rfl⟩, hstate⟩
  | bpsk m =>
    obtain ⟨samples, hlength, ⟨hwritten, houtput⟩, hstate⟩ := m.modulate_moves hcount hshort
    exact ⟨samples, hlength, ⟨hwritten, _, houtput, rfl⟩, hstate⟩
  | pskPm m =>
    obtain ⟨samples, hlength, hmoves, hstate⟩ := m.subcarrierModem.modulate_moves hcount hshort
    have hsymbols := hmoves.output
    refine ⟨samples, hlength, moves_pskPm hmoves ?_, ?_⟩
    · rw [modulate, PskPmModem.modulate_of_some hsymbols, hsymbols]
      exact congrArg some (PskPmModem.length_carrier _ _ _)
    · rw [modulate, PskPmModem.modulate_of_some hsymbols]
      exact hstate

/-- Data that is refused goes nowhere. -/
theorem modulateWrites_of_long {m : WrappedModem} {input : List UInt8}
    (hcount : input.length * 8 < 2 ^ 64) (hlong : input.length * 8 > m.lengths.inputBits) :
    m.modulateWrites input = .none := by
  have htoo : tooManyBits input.length m.lengths.inputBits = true := by
    rw [tooManyBits_of_lt hcount]
    exact decide_eq_true hlong
  cases m with
  | gfsk m => exact if_pos htoo
  | bpsk m => exact if_pos htoo
  | pskPm m =>
    have hwrites : m.subcarrierModem.modulateWrites input = .none := if_pos htoo
    rw [modulateWrites, hwrites, BpskModem.modulate_of_long hlong]
    rfl

/-- Data that passes the check is written, however long it is. -/
theorem modulationOutput_of_passes {m : WrappedModem} {input : List UInt8}
    (h : tooManyBits input.length m.lengths.inputBits = false) :
    (m.modulateWrites input).modulationOutput =
      input.length * 8 * m.lengths.samplesPerSymbol := by
  cases m with
  | gfsk m => exact m.modulationOutput_of_passes h
  | bpsk m => exact m.modulationOutput_of_passes h
  | pskPm m => exact m.subcarrierModem.modulationOutput_of_passes h

/-- A tail, and the zeros behind it. -/
theorem flush_moves {m : WrappedModem} (hpending : m.txPending = true) :
    ∃ samples, samples.length = m.lengths.tailSymbols * m.lengths.samplesPerSymbol +
        (flushZeros m.resamplerTx m.lengths.flushLen).length ∧
      m.Moves samples m.flushWrites m.modulateFlush.2 := by
  cases m with
  | gfsk m =>
    obtain ⟨samples, hlength, hwritten, houtput⟩ := GfskModem.flush_moves hpending
    exact ⟨samples, hlength, hwritten, _, houtput, rfl⟩
  | bpsk m =>
    obtain ⟨samples, hlength, hwritten, houtput⟩ := BpskModem.flush_moves hpending
    exact ⟨samples, hlength, hwritten, _, houtput, rfl⟩
  | pskPm m =>
    obtain ⟨samples, hlength, hmoves⟩ := BpskModem.flush_moves (m := m.subcarrierModem) hpending
    refine ⟨samples, hlength, moves_pskPm hmoves ?_⟩
    have hsymbols := hmoves.output
    have hpair : m.subcarrierModem.modulateFlush = (m.subcarrierModem.modulateFlush.1, some _) :=
      Prod.ext rfl hsymbols
    rw [modulateFlush, PskPmModem.modulateFlush, hpair]
    exact congrArg some (PskPmModem.length_carrier _ _ _)

end WrappedModem

/-! ## Creation -/

/-- **A modem as it is created** for these rates, with this resampler. -/
structure WrappedModem.Built (m : WrappedModem) (objects : TxObjects) (rates : TxRates)
    (bufferSize : UInt32) (plan : Option ResamplerPlan) : Prop where
  lengths : m.lengths =
    { inputBits := bufferSize.toNat * 8
      bufferLength := rates.bufferSamples bufferSize + plan.elim 0 ResamplerPlan.flushLen
      flushLen := plan.elim 0 ResamplerPlan.flushLen
      outputLen := plan.elim 0 ResamplerPlan.outputLen
      samplesPerSymbol := rates.samplesPerSymbol
      tailSymbols := rates.tailSymbols }
  resamplerTx : m.resamplerTx = plan.map fun r => .create (objects.msresamp r.rate)
  reset : m.reset = m
  txPending : m.txPending = false

section Creation
variable {a : RateArith} {delays : Delays} {objects : TxObjects} {bufferSize : UInt32}

theorem map_reset_create (plan : Option ResamplerPlan) :
    (plan.map fun r => Object.create (objects.msresamp r.rate)).map Object.reset =
      plan.map fun r => .create (objects.msresamp r.rate) := by
  cases plan <;> rfl

theorem GfskModem.built_forSettings {settings : GfskModemSettings} {m : GfskModem}
    (h : forSettings a delays objects settings bufferSize = some m) :
    ∃ plan, resamplerTxPlan a delays (gfskTxRates settings)
        ((gfskTxRates settings).bufferSamples bufferSize) = some plan ∧
      (WrappedModem.gfsk m).Built objects (gfskTxRates settings) bufferSize plan := by
  obtain ⟨plan, hplan, rfl⟩ := Option.map_eq_some_iff.mp h
  refine ⟨plan, hplan, rfl, rfl, congrArg WrappedModem.gfsk ?_, rfl⟩
  rw [reset]
  dsimp only
  rw [map_reset_create]
  rfl

theorem BpskModem.built_forSettings {settings : BpskModemSettings} {m : BpskModem}
    (h : forSettings a delays objects settings bufferSize = some m) :
    ∃ rates plan, bpskTxRates settings = some rates ∧
      resamplerTxPlan a delays rates (rates.bufferSamples bufferSize) = some plan ∧
      (WrappedModem.bpsk m).Built objects rates bufferSize plan := by
  obtain ⟨rates, hrates, h⟩ := Option.bind_eq_some_iff.mp h
  obtain ⟨plan, hplan, rfl⟩ := Option.map_eq_some_iff.mp h
  refine ⟨rates, plan, hrates, hplan, rfl, rfl, congrArg WrappedModem.bpsk ?_, rfl⟩
  rw [reset]
  dsimp only
  rw [map_reset_create]
  rfl

theorem WrappedModem.built_forSettings {settings : SdrModemSettings} {m : WrappedModem}
    (h : forSettings a delays objects bufferSize settings = some m) :
    ∃ rates plan, settings.txRates = some rates ∧
      resamplerTxPlan a delays rates (rates.bufferSamples bufferSize) = some plan ∧
      m.Built objects rates bufferSize plan := by
  cases settings with
  | gfsk settings =>
    obtain ⟨modem, hmodem, rfl⟩ := Option.map_eq_some_iff.mp h
    obtain ⟨plan, hplan, hbuilt⟩ := GfskModem.built_forSettings hmodem
    exact ⟨_, plan, rfl, hplan, hbuilt⟩
  | psk modemType settings =>
    obtain ⟨modem, hmodem, rfl⟩ := Option.map_eq_some_iff.mp h
    exact BpskModem.built_forSettings hmodem
  | pskPm settings =>
    obtain ⟨modem, hmodem, rfl⟩ := Option.map_eq_some_iff.mp h
    obtain ⟨subcarrier, hsubcarrier, rfl⟩ := Option.map_eq_some_iff.mp hmodem
    obtain ⟨rates, plan, hrates, hplan, hbuilt⟩ := BpskModem.built_forSettings hsubcarrier
    obtain ⟨hlengths, hresampler, hreset, hpending⟩ := hbuilt
    refine ⟨rates, plan, hrates, hplan, hlengths, hresampler, ?_, hpending⟩
    have hsubcarrier := WrappedModem.bpsk.inj hreset
    exact congrArg WrappedModem.pskPm (congrArg (PskPmModem.mk _ · _) hsubcarrier)

/-- **The whole chain as it is created**: the interpolator takes what the modem gives, as far as
32 bits can tell, and the frequency offset takes what comes out. -/
structure TransmitModem.Built (m : TransmitModem) (objects : TxObjects) (rates : TxRates)
    (bufferSize : UInt32) (plan : Option ResamplerPlan) : Prop where
  modem : m.tx.modem.Built objects rates bufferSize plan
  halfband : ∀ f ∈ m.tx.halfbandTx,
    f.maxInputBufferLength = m.tx.modem.maxModulationLength % 2 ^ 32
  reset : m.tx.reset = m.tx
  txPending : m.tx.txPending = false
  freqOffset : ∀ length ∈ m.freqOffsetLen, m.tx.maxModulationBufferLength ≤ length

theorem SdrModemTx.forModem_cases {sampleRate : UInt64} {bandwidth : UInt32}
    {modem : WrappedModem} {tx : SdrModemTx}
    (h : forModem a delays objects sampleRate bandwidth modem = some tx) :
    tx = ⟨modem, none, false⟩ ∨ ∃ config : HalfbandConfig,
      tx = ⟨modem, some (.create config modem.maxModulationLength), false⟩ := by
  unfold forModem at h
  dsimp only at h
  split at h
  · exact Or.inl (Option.some.inj h).symm
  · obtain ⟨fc, -, rfl⟩ := Option.map_eq_some_iff.mp h
    exact Or.inr ⟨_, rfl⟩

/-- The rates that the settings end up with: those of the decimated signal. -/
def SdrModemSettings.basebandTxRates (a : RateArith) (settings : SdrModemSettings) :
    Option TxRates :=
  (sdrModemGetBandwidth a.float settings).bind fun bandwidth =>
    (settings.decimated a.float bandwidth).txRates

theorem TransmitModem.built_create {liquid : Liquid} {gfskObjects : GfskModemSettings → Bool}
    {settings : SdrModemSettings} {freqOffsetFile : Bool} {m : TransmitModem}
    (h : create liquid a gfskObjects delays objects settings bufferSize freqOffsetFile = some m) :
    ∃ rates plan, settings.basebandTxRates a = some rates ∧
      resamplerTxPlan a delays rates (rates.bufferSamples bufferSize) = some plan ∧
      m.Built objects rates bufferSize plan := by
  unfold create at h
  split at h
  · obtain ⟨bandwidth, hbandwidth, h⟩ := Option.bind_eq_some_iff.mp h
    obtain ⟨modem, hmodem, h⟩ := Option.bind_eq_some_iff.mp h
    obtain ⟨tx, htx, rfl⟩ := Option.map_eq_some_iff.mp h
    obtain ⟨rates, plan, hrates, hplan, hbuilt⟩ := WrappedModem.built_forSettings hmodem
    have hfreqOffset : ∀ length ∈ (if freqOffsetFile then
        some (max bufferSize.toNat tx.maxModulationBufferLength) else none),
        tx.maxModulationBufferLength ≤ length := by
      intro length hlength
      split at hlength
      · cases hlength
        exact Nat.le_max_right _ _
      · cases hlength
    refine ⟨rates, plan, Option.bind_eq_some_iff.mpr ⟨bandwidth, hbandwidth, hrates⟩, hplan, ?_⟩
    rcases SdrModemTx.forModem_cases htx with rfl | ⟨config, rfl⟩
    · refine ⟨hbuilt, by rintro _ ⟨⟩, ?_, rfl, hfreqOffset⟩
      rw [SdrModemTx.reset, hbuilt.reset]
      rfl
    · refine ⟨hbuilt, ?_, ?_, rfl, hfreqOffset⟩
      · rintro _ ⟨⟩
        rfl
      · rw [SdrModemTx.reset, hbuilt.reset]
        rfl
  · cases h

end Creation

/-! ## One block -/

/-- The resampler has room for what it makes of so many samples. -/
def RoomFor (plan : Option ResamplerPlan) (samples : Nat) : Prop :=
  ∀ r ∈ plan, ⌈(samples : ℚ) * r.rate⌉₊ + resamplerOutputMargin ≤ r.outputLen

theorem ceil_mul_le {m n : Nat} (h : m ≤ n) (rate : ℚ) :
    ⌈(m : ℚ) * rate⌉₊ ≤ ⌈(n : ℚ) * rate⌉₊ := by
  rcases le_total 0 rate with hrate | hrate
  · exact Nat.ceil_mono (mul_le_mul_of_nonneg_right (Nat.cast_le.mpr h) hrate)
  · -- a negative rate makes nothing
    rw [Nat.ceil_eq_zero.mpr (mul_nonpos_of_nonneg_of_nonpos (Nat.cast_nonneg m) hrate)]
    exact Nat.zero_le _

theorem RoomFor.mono {plan : Option ResamplerPlan} {m n : Nat} (h : RoomFor plan n) (hmn : m ≤ n) :
    RoomFor plan m := fun r hr =>
  (Nat.add_le_add_right (ceil_mul_le hmn r.rate) _).trans (h r hr)

theorem resamplerWrites_le {objects : TxObjects} (hbounded : objects.Bounded)
    {plan : Option ResamplerPlan} {resamplerTx : Option (Object Sample (List Sample))}
    (hcreated : resamplerTx.map Object.reset =
      plan.map fun r => .create (objects.msresamp r.rate))
    {samples : List Sample} (hsmall : samples.length < 2 ^ 32)
    (hroom : RoomFor plan samples.length) :
    resamplerWrites resamplerTx samples ≤ plan.elim 0 ResamplerPlan.outputLen := by
  cases plan with
  | none =>
    rw [Option.map_none, Option.map_eq_none_iff] at hcreated
    rw [hcreated]
    exact Nat.le_refl _
  | some r =>
    rw [Option.map_some, Option.map_eq_some_iff] at hcreated
    obtain ⟨⟨machine, state⟩, rfl, hreset⟩ := hcreated
    obtain rfl : machine = objects.msresamp r.rate := congrArg Object.machine hreset
    have htake : samples.take (samples.length % 2 ^ 32) = samples := by
      rw [Nat.mod_eq_of_lt hsmall, List.take_length]
    change ((Object.mk _ state).emit (samples.take (samples.length % 2 ^ 32))).2.length ≤ _
    rw [htake]
    exact (hbounded r.rate state samples).trans (hroom r rfl)

/-- What leaves the resampler has been written before. -/
theorem length_resampleTx_le (resamplerTx : Option (Object Sample (List Sample)))
    (samples : List Sample) : (resampleTx resamplerTx samples).2.length ≤
      if resamplerTx.isSome then resamplerWrites resamplerTx samples else samples.length := by
  cases resamplerTx with
  | none => exact Nat.le_refl _
  | some resampler =>
    change (List.take _ _).length ≤ (resampler.emit _).2.length
    exact List.length_take_le' _ _

namespace WrappedModem
variable {m m₀ : WrappedModem} {objects : TxObjects} {rates : TxRates} {bufferSize : UInt32}
  {plan : Option ResamplerPlan}

/-- **A block for which there is room stays within the buffers of the modem.** -/
theorem Moves.within (hbuilt : m₀.Built objects rates bufferSize plan) (hreset : m.reset = m₀)
    (hbounded : objects.Bounded) (hsmall : m₀.lengths.bufferLength < 2 ^ 32)
    {samples : List Sample} {written : TxBuffers} {output : Option (List Sample)}
    (h : m.Moves samples written output) (hlength : samples.length ≤ m₀.lengths.bufferLength)
    (hroom : RoomFor plan samples.length) :
    written.modulationOutput ≤ m₀.allocated.modulationOutput ∧
    written.resamplerTxOutput ≤ m₀.allocated.resamplerTxOutput ∧
    written.phaseOutput ≤ m₀.allocated.phaseOutput ∧
    ∃ out, output = some out ∧ out.length ≤ m₀.maxModulationLength := by
  have hresampler : m.resamplerTx.map Object.reset =
      plan.map fun r => .create (objects.msresamp r.rate) := by
    rw [← resamplerTx_reset, hreset, hbuilt.resamplerTx]
  have hwrites := resamplerWrites_le hbounded hresampler (by omega) hroom
  have hout : m₀.lengths.outputLen = plan.elim 0 ResamplerPlan.outputLen := by
    rw [hbuilt.lengths]
  have hsome : m.resamplerTx.isSome = m₀.resamplerTx.isSome := by
    rw [← hreset, resamplerTx_reset, Option.isSome_map]
  have hmax : (resampleTx m.resamplerTx samples).2.length ≤ m₀.maxModulationLength := by
    refine (length_resampleTx_le _ _).trans ?_
    rw [maxModulationLength_eq, ← hsome]
    split
    · rwa [hout]
    · exact hlength
  obtain ⟨rfl, out, rfl, hsamples⟩ := h
  rw [allocated_eq, ← hreset, hasPhase_reset, hreset]
  refine ⟨hlength, hout ▸ hwrites, ?_, out, rfl, hsamples ▸ hmax⟩
  change (if m.hasPhase then _ else 0) ≤ if m.hasPhase then _ else 0
  split
  · exact hmax
  · exact Nat.le_refl _

end WrappedModem

/-! ## One call -/

/-- With room for its input the interpolator refuses nothing, and its buffer takes the tail as
well. -/
theorem TransmitModem.halfbandOutput_fits {f : HalfbandInterp} {output : List Sample}
    (h : output.length ≤ f.maxInputBufferLength) (c : Call) :
    ∃ out, halfbandOutput f output c = some out ∧ out.length ≤ f.outputLen := by
  have hfit := Nat.not_lt.mpr h
  have hle : output.length * f.interpolation ≤ f.outputLen :=
    Nat.mul_le_mul_right _ (h.trans (Nat.le_add_right _ _))
  have hprocess : f.process output =
      ({ f with resampler := (f.resampler.expand output).1 },
        some (f.resampler.expand output).2) := by
    rw [HalfbandInterp.process, if_neg hfit]
  cases c with
  | modulate input =>
    refine ⟨(f.resampler.expand output).2, congrArg Prod.snd hprocess, ?_⟩
    rwa [Object.length_expand]
  | flush =>
    refine ⟨(f.resampler.expand output).2 ++
      ((f.resampler.expand output).1.expand (List.replicate f.tailLength 0)).2, ?_, ?_⟩
    · rw [halfbandOutput, HalfbandInterp.processFlush, hprocess]
    · rw [List.length_append, Object.length_expand, Object.length_expand, List.length_replicate,
        ← Nat.add_mul]
      exact Nat.mul_le_mul_right _ (Nat.add_le_add_right h _)

namespace TransmitModem

/-- The interpolator works on what the modem behind gives. -/
theorem callTx_eq (m : TransmitModem) (c : Call) : (m.callTx c).2 =
    (m.modemOutput c).bind fun output =>
      m.tx.halfbandTx.elim (some output) fun f => halfbandOutput f output c := by
  cases c with
  | modulate input =>
    rw [callTx, modemOutput, SdrModemTx.modulate]
    rcases m.tx.modem.modulate input with ⟨modem, _ | output⟩
    · rfl
    · dsimp only
      cases m.tx.halfbandTx <;> rfl
  | flush =>
    rw [callTx, modemOutput, SdrModemTx.modulateFlush]
    split
    · rcases m.tx.modem.modulateFlush with ⟨modem, _ | output⟩
      · rfl
      · dsimp only
        cases m.tx.halfbandTx <;> rfl
    · rfl

/-- **A call stays within the buffers** of the modem as it was created: nothing is written beyond
them, the stages take what they are given, an input that is too long is refused, and the output is
as long as the caller was told. -/
structure CallFits (bufferSize : UInt32) (m₀ m : TransmitModem) (c : Call) : Prop where
  written : (m.writes c).Within m₀.allocated
  halfband : ∀ f ∈ m.tx.halfbandTx, ∀ output ∈ m.modemOutput c,
    (halfbandOutput f output c).isSome = true
  freqOffset : ∀ output ∈ (m.callTx c).2, (freqOffsetProcess m.freqOffsetLen output).isSome = true
  refused : ∀ input, c = .modulate input → bufferSize.toNat < input.length → m.outputLen c = none
  outputLen : ∀ length ∈ m.outputLen c, length ≤ m₀.tx.maxModulationBufferLength

/-- A modem that was created so, after some calls. -/
structure Reached (bufferSize : UInt32) (m₀ m : TransmitModem) : Prop where
  tidy : m.tx.Tidy
  reset : m.tx.reset = m₀.tx
  freqOffsetLen : m.freqOffsetLen = m₀.freqOffsetLen
  pending : m.tx.txPending = true → bufferSize ≠ 0

variable {m m₀ : TransmitModem} {objects : TxObjects} {rates : TxRates} {bufferSize : UInt32}
  {plan : Option ResamplerPlan} {c : Call}

/-- What is left to show of a call: the modem behind stays within its buffers. -/
structure ModemFits (m₀ m : TransmitModem) (c : Call) : Prop where
  modulationOutput : (m.modemWrites c).modulationOutput ≤ m₀.tx.modem.allocated.modulationOutput
  resamplerTxOutput : (m.modemWrites c).resamplerTxOutput ≤ m₀.tx.modem.allocated.resamplerTxOutput
  phaseOutput : (m.modemWrites c).phaseOutput ≤ m₀.tx.modem.allocated.phaseOutput
  output : ∀ out ∈ m.modemOutput c, out.length ≤ m₀.tx.modem.maxModulationLength

section
variable (hbuilt : m₀.Built objects rates bufferSize plan) (hreached : Reached bufferSize m₀ m)
  (hsmall : m₀.tx.modem.maxModulationLength < 2 ^ 32) (h : ModemFits m₀ m c)
include hbuilt hreached hsmall h

/-- The interpolator has room for all that the modem may give. -/
theorem ModemFits.halfband {f : HalfbandInterp} (hf : m.tx.halfbandTx = some f) :
    f.outputLen = m₀.tx.maxModulationBufferLength ∧ m₀.allocated.halfbandOutput = f.outputLen ∧
    ∀ output ∈ m.modemOutput c, ∃ out, halfbandOutput f output c = some out ∧
      out.length ≤ f.outputLen := by
  have hreset : some f.reset = m₀.tx.halfbandTx := by
    rw [← hreached.reset, SdrModemTx.reset, hf]
    rfl
  refine ⟨?_, ?_, fun output houtput => halfbandOutput_fits ?_ c⟩
  · rw [SdrModemTx.maxModulationBufferLength, ← hreset]
    rfl
  · rw [allocated, ← hreset]
    rfl
  · have hmax : f.maxInputBufferLength = m₀.tx.modem.maxModulationLength := by
      rw [← Nat.mod_eq_of_lt hsmall]
      exact hbuilt.halfband f.reset hreset.symm
    rw [hmax]
    exact h.output output houtput

theorem ModemFits.length_callTx {out : List Sample} (hout : (m.callTx c).2 = some out) :
    out.length ≤ m₀.tx.maxModulationBufferLength := by
  rw [callTx_eq] at hout
  obtain ⟨output, houtput, hout⟩ := Option.bind_eq_some_iff.mp hout
  cases hf : m.tx.halfbandTx with
  | none =>
    rw [hf] at hout
    obtain rfl : output = out := Option.some.inj hout
    have hnone : m₀.tx.halfbandTx = none := by
      rw [← hreached.reset, SdrModemTx.reset, hf]
      rfl
    rw [SdrModemTx.maxModulationBufferLength, hnone]
    exact h.output output houtput
  | some f =>
    rw [hf] at hout
    obtain ⟨hmax, -, hfits⟩ := h.halfband hbuilt hreached hsmall hf
    obtain ⟨out', hout', hle⟩ := hfits output houtput
    obtain rfl : out' = out := Option.some.inj (hout'.symm.trans hout)
    exact hmax ▸ hle

theorem ModemFits.freqOffsetProcess_eq {out : List Sample} (hout : (m.callTx c).2 = some out) :
    freqOffsetProcess m.freqOffsetLen out = some out.length := by
  rw [hreached.freqOffsetLen]
  cases hlength : m₀.freqOffsetLen with
  | none => rfl
  | some length =>
    have hle := h.length_callTx hbuilt hreached hsmall hout
    exact if_neg (Nat.not_lt.mpr (hle.trans (hbuilt.freqOffset length hlength)))

theorem ModemFits.outputLen_le {length : Nat} (hlength : m.outputLen c = some length) :
    length ≤ m₀.tx.maxModulationBufferLength := by
  obtain ⟨out, hout, hlength⟩ := Option.bind_eq_some_iff.mp hlength
  rw [h.freqOffsetProcess_eq hbuilt hreached hsmall hout] at hlength
  exact Option.some.inj hlength ▸ h.length_callTx hbuilt hreached hsmall hout

/-- **What the modem behind may give, the stages after it take.** -/
theorem ModemFits.callFits
    (hrefused : ∀ input, c = .modulate input → bufferSize.toNat < input.length →
      m.modemOutput c = none) : CallFits bufferSize m₀ m c := by
  have hlen : ∀ {length}, m.outputLen c = some length →
      length ≤ m₀.tx.maxModulationBufferLength := h.outputLen_le hbuilt hreached hsmall
  refine ⟨⟨h.modulationOutput, h.resamplerTxOutput, h.phaseOutput, ?_, ?_⟩, ?_, ?_, ?_,
    fun length => hlen⟩
  · change m.tx.halfbandTx.elim 0 _ ≤ _
    cases hf : m.tx.halfbandTx with
    | none => exact Nat.zero_le _
    | some f =>
      obtain ⟨-, hallocated, hfits⟩ := h.halfband hbuilt hreached hsmall hf
      rw [hallocated, Option.elim_some]
      cases houtput : m.modemOutput c with
      | none => exact Nat.zero_le _
      | some output =>
        obtain ⟨out, hout, hle⟩ := hfits output houtput
        rw [Option.elim_some, hout]
        exact hle
  · change m.freqOffsetLen.elim 0 _ ≤ m₀.freqOffsetLen.getD 0
    rw [hreached.freqOffsetLen]
    cases hlength : m₀.freqOffsetLen with
    | none => exact Nat.zero_le _
    | some length =>
      rw [Option.elim_some, Option.getD_some]
      cases hout : m.outputLen c with
      | none => exact Nat.zero_le _
      | some n => exact (hlen hout).trans (hbuilt.freqOffset length hlength)
  · intro f hf output houtput
    obtain ⟨out, hout, -⟩ := (h.halfband hbuilt hreached hsmall hf).2.2 output houtput
    rw [hout]
    rfl
  · intro out hout
    rw [h.freqOffsetProcess_eq hbuilt hreached hsmall hout]
    rfl
  · intro input hc hlong
    rw [TransmitModem.outputLen, callTx_eq, hrefused input hc hlong]
    rfl

end

/-! ## Any sequence of calls -/

/-- **Every call stays within the buffers**, whatever calls there were before. -/
def Safe (bufferSize : UInt32) (m : TransmitModem) : Prop :=
  ∀ calls : List Call, (∀ c ∈ calls, c.Countable) → ∀ c : Call, c.Countable →
    CallFits bufferSize m (m.afterCalls calls) c

theorem Built.reached (hbuilt : m₀.Built objects rates bufferSize plan) :
    Reached bufferSize m₀ m₀ := by
  refine ⟨⟨?_, fun _ => hbuilt.reset⟩, hbuilt.reset, rfl, fun h => ?_⟩
  · rw [hbuilt.txPending]
    exact hbuilt.modem.txPending
  · rw [hbuilt.txPending] at h
    cases h

theorem Reached.lengths (h : Reached bufferSize m₀ m) :
    m.tx.modem.lengths = m₀.tx.modem.lengths := by
  rw [← WrappedModem.lengths_reset, ← h.reset]
  rfl

theorem Reached.inputBits (hbuilt : m₀.Built objects rates bufferSize plan)
    (h : Reached bufferSize m₀ m) : m.tx.modem.lengths.inputBits = bufferSize.toNat * 8 := by
  rw [h.lengths, hbuilt.modem.lengths]

/-- Nothing becomes pending but what the buffer takes. -/
theorem Reached.after (hbuilt : m₀.Built objects rates bufferSize plan)
    (h : Reached bufferSize m₀ m) (c : Call) : Reached bufferSize m₀ (m.after c) := by
  cases c with
  | modulate input =>
    refine ⟨h.tidy.modulate input, (m.tx.reset_modulate input).trans h.reset, h.freqOffsetLen, ?_⟩
    intro hpending
    change (m.tx.modulate input).1.txPending = true at hpending
    by_cases hlong : input.length * 8 > m.tx.modem.maxModulationInputBits
    · rw [SdrModemTx.modulate_of_long hlong] at hpending
      exact h.pending hpending
    · rw [(SdrModemTx.modulate_of_short hlong).2.1, Bool.or_eq_true, decide_eq_true_eq] at hpending
      rcases hpending with hpending | hinput
      · exact h.pending hpending
      · rw [WrappedModem.maxModulationInputBits_eq, h.inputBits hbuilt] at hlong
        rintro rfl
        exact hlong (by simpa using hinput)
  | flush =>
    have hflush : m.tx.modulateFlush.1 = m₀.tx := h.tidy.modulateFlush.trans h.reset
    have hafter : m.after .flush = m₀ := by
      rw [TransmitModem.after, callTx, hflush, h.freqOffsetLen]
    rw [hafter]
    exact hbuilt.reached

theorem Built.reached_afterCalls (hbuilt : m₀.Built objects rates bufferSize plan)
    (calls : List Call) : Reached bufferSize m₀ (m₀.afterCalls calls) := by
  have hrun : ∀ m, Reached bufferSize m₀ m → Reached bufferSize m₀ (m.afterCalls calls) := by
    induction calls with
    | nil => exact fun _ h => h
    | cons c calls ih => exact fun m h => ih _ (h.after hbuilt c)
  exact hrun m₀ hbuilt.reached

/-- There is room for the data of a full buffer, and for the tail of a signal. -/
structure RoomForAll (rates : TxRates) (bufferSize : UInt32) (plan : Option ResamplerPlan) :
    Prop where
  data : RoomFor plan (rates.dataSamples bufferSize)
  tail : bufferSize ≠ 0 →
    RoomFor plan (rates.tailSamples + plan.elim 0 ResamplerPlan.flushLen)

theorem length_flushZeros_le (resamplerTx : Option (Object Sample (List Sample))) (n : Nat) :
    (flushZeros resamplerTx n).length ≤ n := by
  unfold flushZeros
  split
  · rw [List.length_replicate]
  · exact Nat.zero_le n

theorem Built.bufferLength (hbuilt : m₀.Built objects rates bufferSize plan) :
    m₀.tx.modem.lengths.bufferLength =
      rates.dataSamples bufferSize + (rates.tailSamples + plan.elim 0 ResamplerPlan.flushLen) := by
  rw [hbuilt.modem.lengths, TxRates.dataSamples, TxRates.tailSamples, ← Nat.add_assoc,
    ← Nat.add_mul]
  rfl

theorem Below32.bufferLength (h : m₀.Below32) : m₀.tx.modem.lengths.bufferLength < 2 ^ 32 := by
  have hmodulation := h.modulationOutput
  rwa [allocated, WrappedModem.allocated_eq] at hmodulation

theorem Below32.maxModulationLength (h : m₀.Below32) :
    m₀.tx.modem.maxModulationLength < 2 ^ 32 := by
  have hresampled := h.resamplerTxOutput
  rw [allocated, WrappedModem.allocated_eq] at hresampled
  rw [WrappedModem.maxModulationLength_eq]
  split
  · exact hresampled
  · exact h.bufferLength

/-- A call that does nothing. -/
theorem ModemFits.of_nothing (hwrites : m.modemWrites c = .none)
    (houtput : m.modemOutput c = none) :
    ModemFits m₀ m c := by
  refine ⟨?_, ?_, ?_, fun out hout => ?_⟩
  · rw [hwrites]
    exact Nat.zero_le _
  · rw [hwrites]
    exact Nat.zero_le _
  · rw [hwrites]
    exact Nat.zero_le _
  · rw [houtput] at hout
    cases hout

/-- A call that moves a block for which there is room. -/
theorem ModemFits.of_moves (hbuilt : m₀.Built objects rates bufferSize plan)
    (hbounded : objects.Bounded) (hbelow : m₀.Below32) (h : Reached bufferSize m₀ m)
    {samples : List Sample} (hmoves : m.tx.modem.Moves samples (m.modemWrites c) (m.modemOutput c))
    (hlength : samples.length ≤ m₀.tx.modem.lengths.bufferLength)
    (hroom : RoomFor plan samples.length) : ModemFits m₀ m c := by
  obtain ⟨hmodulation, hresampled, hphase, out, hout, hle⟩ :=
    hmoves.within hbuilt.modem (congrArg SdrModemTx.modem h.reset) hbounded hbelow.bufferLength
      hlength hroom
  refine ⟨hmodulation, hresampled, hphase, fun out' hout' => ?_⟩
  obtain rfl : out = out' := Option.some.inj (hout.symm.trans hout')
  exact hle

/-- **With room for both every call fits.** -/
theorem Reached.callFits (hbuilt : m₀.Built objects rates bufferSize plan)
    (hbounded : objects.Bounded) (hbelow : m₀.Below32) (hroom : RoomForAll rates bufferSize plan)
    (h : Reached bufferSize m₀ m) (hcount : c.Countable) : CallFits bufferSize m₀ m c := by
  have hbits := h.inputBits hbuilt
  have hsps : m.tx.modem.lengths.samplesPerSymbol = rates.samplesPerSymbol := by
    rw [h.lengths, hbuilt.modem.lengths]
  cases c with
  | modulate input =>
    by_cases hlong : input.length * 8 > m.tx.modem.lengths.inputBits
    · have houtput : m.modemOutput (.modulate input) = none := by
        rw [modemOutput, WrappedModem.modulate_of_long
          (by rwa [WrappedModem.maxModulationInputBits_eq])]
      refine ModemFits.callFits hbuilt h hbelow.maxModulationLength ?_ fun _ _ _ => houtput
      exact .of_nothing (WrappedModem.modulateWrites_of_long hcount hlong) houtput
    · obtain ⟨samples, hlength, hmoves, -⟩ := m.tx.modem.modulate_moves hcount hlong
      rw [hbits] at hlong
      have hle : samples.length ≤ rates.dataSamples bufferSize := by
        rw [hlength, hsps]
        exact Nat.mul_le_mul_right _ (Nat.not_lt.mp hlong)
      refine ModemFits.callFits hbuilt h hbelow.maxModulationLength ?_ ?_
      · refine .of_moves hbuilt hbounded hbelow h hmoves ?_ (hroom.data.mono hle)
        rw [hbuilt.bufferLength]
        exact hle.trans (Nat.le_add_right _ _)
      · intro input' hc htoo
        cases hc
        omega
  | flush =>
    refine ModemFits.callFits hbuilt h hbelow.maxModulationLength ?_ (by rintro _ ⟨⟩)
    by_cases hpending : m.tx.txPending = true
    · obtain ⟨samples, hlength, hmoves⟩ :=
        WrappedModem.flush_moves (h.tidy.pending.trans hpending)
      have hle : samples.length ≤ rates.tailSamples + plan.elim 0 ResamplerPlan.flushLen := by
        rw [hlength, h.lengths, hbuilt.modem.lengths]
        exact Nat.add_le_add_left (length_flushZeros_le _ _) _
      have hmoves : m.tx.modem.Moves samples (m.modemWrites .flush) (m.modemOutput .flush) := by
        rwa [modemWrites, modemOutput, if_pos hpending, if_pos hpending]
      refine .of_moves hbuilt hbounded hbelow h hmoves ?_
        ((hroom.tail (h.pending hpending)).mono hle)
      rw [hbuilt.bufferLength]
      exact hle.trans (Nat.le_add_left _ _)
    · exact .of_nothing (if_neg hpending) (if_neg hpending)

/-- **And so does every call after any others.** -/
theorem Built.safe (hbuilt : m₀.Built objects rates bufferSize plan) (hbounded : objects.Bounded)
    (hbelow : m₀.Below32) (hroom : RoomForAll rates bufferSize plan) : Safe bufferSize m₀ :=
  fun calls _ _ hcount =>
    (hbuilt.reached_afterCalls calls).callFits hbuilt hbounded hbelow hroom hcount

/-- **An input whose bits a `size_t` does not count does not fit**, if it passes the check: all of
it is written, and that is `2 ^ 64` samples at least. -/
theorem Reached.not_callFits_of_wrapped (hbuilt : m₀.Built objects rates bufferSize plan)
    (hbelow : m₀.Below32) (hsps : 0 < rates.samplesPerSymbol) (h : Reached bufferSize m₀ m)
    {input : List UInt8} (hlong : bufferSize.toNat < input.length)
    (hpasses : tooManyBits input.length (bufferSize.toNat * 8) = false) :
    ¬ CallFits bufferSize m₀ m (.modulate input) := by
  intro hfits
  have hwritten : (m.tx.modem.modulateWrites input).modulationOutput =
      input.length * 8 * m.tx.modem.lengths.samplesPerSymbol := by
    rw [← h.inputBits hbuilt] at hpasses
    exact WrappedModem.modulationOutput_of_passes hpasses
  have hle := hfits.written.modulationOutput
  have hsmall := hbelow.modulationOutput
  rw [tooManyBits, decide_eq_false_iff_not] at hpasses
  have hwrap : 2 ^ 64 ≤ input.length * 8 := by omega
  rw [h.lengths, hbuilt.modem.lengths] at hwritten
  have hmany : input.length * 8 ≤ input.length * 8 * rates.samplesPerSymbol :=
    Nat.le_mul_of_pos_right _ hsps
  change (m.tx.modem.modulateWrites input).modulationOutput ≤ _ at hle
  rw [hwritten] at hle
  dsimp only at hle
  omega

end TransmitModem
end SdrModem
