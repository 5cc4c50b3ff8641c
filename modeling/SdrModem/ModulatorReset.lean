import SdrModem.Modulator

/-!
# What a flush leaves behind

Every modem has a reset state: all its objects as they were created, the
differential reference and the last bit as well.  Modulating does not change which
state that is, and a flush with something pending ends in it.  A modem with
nothing pending is in it already (`SdrModemTx.Tidy`): nothing but bits takes it out,
and bits leave `tx_pending` behind.
-/
namespace SdrModem
open Mealy

/-! ## The wrapped modems -/

@[simp] theorem map_reset_resampleTx (resamplerTx : Option (Object Sample (List Sample)))
    (samples : List Sample) :
    (resampleTx resamplerTx samples).1.map Object.reset = resamplerTx.map Object.reset := by
  cases resamplerTx with
  | none => rfl
  | some r => exact congrArg some (Object.reset_emit r _)

theorem resampleTx_nil (resamplerTx : Option (Object Sample (List Sample))) :
    resampleTx resamplerTx [] = (resamplerTx, []) := by
  cases resamplerTx <;> rfl

@[simp] theorem inputBits_nil : inputBits [] = [] := rfl

namespace GfskModem

/-- The modem as it was created. -/
def reset (m : GfskModem) : GfskModem :=
  { m with
    mod := m.mod.reset
    resamplerTx := m.resamplerTx.map Object.reset
    txLastBit := false
    txPending := false }

theorem reset_create (config : GfskConfig) (length : UInt32) :
    (create config length).reset = create config length := by
  obtain ⟨cpfskmod, resampler⟩ := config
  cases resampler <;> rfl

theorem modulate_of_long {m : GfskModem} {input : List UInt8}
    (h : input.length * 8 > m.maxModulationInputBits) : m.modulate input = (m, none) := if_pos h

theorem modulate_nil (m : GfskModem) : m.modulate [] = (m, some []) := by
  rw [modulate, if_neg (by simp)]
  simp [Object.streaming_expand.nil, resampleTx_nil]

theorem reset_modulate (m : GfskModem) (input : List UInt8) :
    (m.modulate input).1.reset = m.reset := by
  unfold modulate
  split
  · rfl
  · simp [reset]

theorem txPending_modulate {m : GfskModem} {input : List UInt8}
    (h : ¬ input.length * 8 > m.maxModulationInputBits) :
    (m.modulate input).1.txPending = (m.txPending || decide (input.length > 0)) ∧
    (m.modulate input).2.isSome = true := by
  rw [modulate, if_neg h]
  exact ⟨rfl, rfl⟩

theorem modulateFlush_pending {m : GfskModem} (h : m.txPending = true) :
    m.modulateFlush.1 = m.reset ∧ m.modulateFlush.2.isSome = true := by
  rw [modulateFlush, if_pos h]
  simp [reset]

end GfskModem

namespace BpskModem

/-- The modem as it was created. -/
def reset (m : BpskModem) : BpskModem :=
  { m with
    mod := m.mod.reset
    interp := m.interp.reset
    resamplerTx := m.resamplerTx.map Object.reset
    txPending := false }

theorem reset_create (config : BpskConfig) (length : UInt32) :
    (create config length).reset = create config length := by
  obtain ⟨sps, tail, mapper, firinterp, resampler⟩ := config
  cases resampler <;> rfl

theorem modulate_of_long {m : BpskModem} {input : List UInt8}
    (h : input.length * 8 > m.maxModulationInputBits) : m.modulate input = (m, none) := if_pos h

theorem modulate_nil (m : BpskModem) : m.modulate [] = (m, some []) := by
  rw [modulate, if_neg (by simp)]
  simp [Object.streaming_expand.nil, Object.process, resampleTx_nil]

theorem reset_modulate (m : BpskModem) (input : List UInt8) :
    (m.modulate input).1.reset = m.reset := by
  unfold modulate
  split
  · rfl
  · simp [reset]

theorem txPending_modulate {m : BpskModem} {input : List UInt8}
    (h : ¬ input.length * 8 > m.maxModulationInputBits) :
    (m.modulate input).1.txPending = (m.txPending || decide (input.length > 0)) ∧
    (m.modulate input).2.isSome = true := by
  rw [modulate, if_neg h]
  exact ⟨rfl, rfl⟩

theorem modulateFlush_pending {m : BpskModem} (h : m.txPending = true) :
    m.modulateFlush.1 = m.reset ∧ m.modulateFlush.2.isSome = true := by
  rw [modulateFlush, if_pos h]
  simp [reset]

end BpskModem

namespace PskPmModem

/-- The modem as it was created. -/
def reset (m : PskPmModem) : PskPmModem :=
  { m with subcarrierNco := m.subcarrierNco.reset, subcarrierModem := m.subcarrierModem.reset }

@[simp] theorem reset_carrier (phaseModulate : Sample → UInt32 → Sample)
    (nco : Object Unit UInt32) (symbols : List Sample) :
    (carrier phaseModulate nco symbols).1.reset = nco.reset := Object.reset_process nco _

theorem reset_create (config : PskPmConfig) (length : UInt32) :
    (create config length).reset = create config length := by
  rw [reset, create, BpskModem.reset_create]
  rfl

theorem modulate_of_long {m : PskPmModem} {input : List UInt8}
    (h : input.length * 8 > m.subcarrierModem.maxModulationInputBits) :
    m.modulate input = (m, none) := by
  rw [modulate, BpskModem.modulate_of_long h]

/-- The subcarrier modem takes the input, and the carrier is made of its symbols. -/
theorem modulate_of_some {m : PskPmModem} {input : List UInt8} {symbols : List Sample}
    (h : (m.subcarrierModem.modulate input).2 = some symbols) :
    m.modulate input =
      ({ m with
          subcarrierModem := (m.subcarrierModem.modulate input).1
          subcarrierNco := (carrier m.phaseModulate m.subcarrierNco symbols).1 },
        some (carrier m.phaseModulate m.subcarrierNco symbols).2) := by
  have hpair : m.subcarrierModem.modulate input =
      ((m.subcarrierModem.modulate input).1, some symbols) := Prod.ext rfl h
  rw [modulate, hpair]

theorem modulate_nil (m : PskPmModem) : m.modulate [] = (m, some []) := by
  rw [modulate, BpskModem.modulate_nil]
  rfl

theorem reset_modulate (m : PskPmModem) (input : List UInt8) :
    (m.modulate input).1.reset = m.reset := by
  cases hsymbols : (m.subcarrierModem.modulate input).2 with
  | none =>
    have hpair : m.subcarrierModem.modulate input =
        ((m.subcarrierModem.modulate input).1, none) := Prod.ext rfl hsymbols
    rw [modulate, hpair, reset, BpskModem.reset_modulate]
    rfl
  | some symbols =>
    rw [modulate_of_some hsymbols, reset, BpskModem.reset_modulate, reset_carrier]
    rfl

theorem txPending_modulate {m : PskPmModem} {input : List UInt8}
    (h : ¬ input.length * 8 > m.subcarrierModem.maxModulationInputBits) :
    (m.modulate input).1.subcarrierModem.txPending =
      (m.subcarrierModem.txPending || decide (input.length > 0)) ∧
    (m.modulate input).2.isSome = true := by
  obtain ⟨hpending, hsome⟩ := BpskModem.txPending_modulate h
  obtain ⟨symbols, hsymbols⟩ := Option.isSome_iff_exists.mp hsome
  rw [modulate_of_some hsymbols]
  exact ⟨hpending, rfl⟩

theorem modulateFlush_pending {m : PskPmModem} (h : m.subcarrierModem.txPending = true) :
    m.modulateFlush.1 = m.reset ∧ m.modulateFlush.2.isSome = true := by
  obtain ⟨hreset, hsome⟩ := BpskModem.modulateFlush_pending h
  obtain ⟨symbols, hsymbols⟩ := Option.isSome_iff_exists.mp hsome
  have hpair : m.subcarrierModem.modulateFlush = (m.subcarrierModem.reset, some symbols) :=
    Prod.ext hreset hsymbols
  rw [modulateFlush, hpair]
  dsimp only
  exact ⟨by rw [reset_carrier, reset], rfl⟩

end PskPmModem

/-! ## The modem behind `sdr_modem` -/

namespace WrappedModem

def reset : WrappedModem → WrappedModem
  | .gfsk m => .gfsk m.reset
  | .bpsk m => .bpsk m.reset
  | .pskPm m => .pskPm m.reset

/-- `tx_pending` of the modem. -/
def txPending : WrappedModem → Bool
  | .gfsk m => m.txPending
  | .bpsk m => m.txPending
  | .pskPm m => m.subcarrierModem.txPending

/-- `max_modulation_input_bits` of the modem. -/
def maxModulationInputBits : WrappedModem → Nat
  | .gfsk m => m.maxModulationInputBits
  | .bpsk m => m.maxModulationInputBits
  | .pskPm m => m.subcarrierModem.maxModulationInputBits

theorem reset_create (bufferSize : UInt32) (config : WrappedConfig) :
    (create bufferSize config).reset = create bufferSize config := by
  cases config with
  | gfsk config => exact congrArg WrappedModem.gfsk (GfskModem.reset_create config bufferSize)
  | bpsk config => exact congrArg WrappedModem.bpsk (BpskModem.reset_create config bufferSize)
  | pskPm config => exact congrArg WrappedModem.pskPm (PskPmModem.reset_create config bufferSize)

theorem modulate_of_long {m : WrappedModem} {input : List UInt8}
    (h : input.length * 8 > m.maxModulationInputBits) : m.modulate input = (m, none) := by
  cases m with
  | gfsk m => rw [modulate, GfskModem.modulate_of_long h]
  | bpsk m => rw [modulate, BpskModem.modulate_of_long h]
  | pskPm m => rw [modulate, PskPmModem.modulate_of_long h]

theorem modulate_nil (m : WrappedModem) : m.modulate [] = (m, some []) := by
  cases m with
  | gfsk m => rw [modulate, GfskModem.modulate_nil]
  | bpsk m => rw [modulate, BpskModem.modulate_nil]
  | pskPm m => rw [modulate, PskPmModem.modulate_nil]

theorem reset_modulate (m : WrappedModem) (input : List UInt8) :
    (m.modulate input).1.reset = m.reset := by
  cases m with
  | gfsk m => exact congrArg WrappedModem.gfsk (m.reset_modulate input)
  | bpsk m => exact congrArg WrappedModem.bpsk (m.reset_modulate input)
  | pskPm m => exact congrArg WrappedModem.pskPm (m.reset_modulate input)

theorem txPending_modulate {m : WrappedModem} {input : List UInt8}
    (h : ¬ input.length * 8 > m.maxModulationInputBits) :
    (m.modulate input).1.txPending = (m.txPending || decide (input.length > 0)) ∧
    (m.modulate input).2.isSome = true := by
  cases m with
  | gfsk m => exact GfskModem.txPending_modulate h
  | bpsk m => exact BpskModem.txPending_modulate h
  | pskPm m => exact PskPmModem.txPending_modulate h

/-- A flush that has something to flush ends in the reset state. -/
theorem modulateFlush_pending {m : WrappedModem} (h : m.txPending = true) :
    m.modulateFlush.1 = m.reset ∧ m.modulateFlush.2.isSome = true := by
  cases m with
  | gfsk m =>
    obtain ⟨hreset, hsome⟩ := GfskModem.modulateFlush_pending h
    exact ⟨congrArg WrappedModem.gfsk hreset, hsome⟩
  | bpsk m =>
    obtain ⟨hreset, hsome⟩ := BpskModem.modulateFlush_pending h
    exact ⟨congrArg WrappedModem.bpsk hreset, hsome⟩
  | pskPm m =>
    obtain ⟨hreset, hsome⟩ := PskPmModem.modulateFlush_pending h
    exact ⟨congrArg WrappedModem.pskPm hreset, hsome⟩

end WrappedModem

/-! ## `sdr_modem` -/

namespace HalfbandInterp

theorem process_nil (f : HalfbandInterp) : f.process [] = (f, some []) := by
  rw [process, if_neg (by simp)]
  rfl

@[simp] theorem reset_process (f : HalfbandInterp) (input : List Sample) :
    (f.process input).1.reset = f.reset := by
  unfold process
  split
  · rfl
  · simp [reset]

@[simp] theorem reset_processFlush (f : HalfbandInterp) (input : List Sample) :
    (f.processFlush input).1.reset = f.reset := by
  have hprocess := f.reset_process input
  unfold processFlush
  split
  · rename_i f' hpair
    rwa [hpair] at hprocess
  · rename_i f' output hpair
    rw [hpair] at hprocess
    rw [← hprocess, reset, reset, Object.reset_expand]

end HalfbandInterp

namespace SdrModemTx

/-- The modem as it was created. -/
def reset (m : SdrModemTx) : SdrModemTx :=
  { modem := m.modem.reset
    halfbandTx := m.halfbandTx.map HalfbandInterp.reset
    txPending := false }

/-- **The flags are right**: both modems agree on whether something is pending, and
if nothing is, then all is as it was created. -/
structure Tidy (m : SdrModemTx) : Prop where
  pending : m.modem.txPending = m.txPending
  idle : m.txPending = false → m.reset = m

theorem reset_create (config : SdrModemConfig) (bufferSize : UInt32) :
    (create config bufferSize).reset = create config bufferSize := by
  rw [reset, create, WrappedModem.reset_create]
  cases config.halfband <;> rfl

theorem tidy_create (config : SdrModemConfig) (bufferSize : UInt32) :
    (create config bufferSize).Tidy := by
  refine ⟨?_, fun _ => reset_create config bufferSize⟩
  obtain ⟨modem, halfband⟩ := config
  cases modem <;> rfl

theorem modulate_of_long {m : SdrModemTx} {input : List UInt8}
    (h : input.length * 8 > m.modem.maxModulationInputBits) : m.modulate input = (m, none) := by
  rw [modulate, WrappedModem.modulate_of_long h]

/-- The modem behind an input that is not too long. -/
theorem modulate_of_short {m : SdrModemTx} {input : List UInt8}
    (h : ¬ input.length * 8 > m.modem.maxModulationInputBits) :
    (m.modulate input).1.modem = (m.modem.modulate input).1 ∧
    (m.modulate input).1.txPending = (m.txPending || decide (input.length > 0)) ∧
    (m.modulate input).1.halfbandTx.map HalfbandInterp.reset =
      m.halfbandTx.map HalfbandInterp.reset := by
  obtain ⟨output, houtput⟩ := Option.isSome_iff_exists.mp (WrappedModem.txPending_modulate h).2
  have hpair : m.modem.modulate input = ((m.modem.modulate input).1, some output) :=
    Prod.ext rfl houtput
  rw [modulate, hpair]
  dsimp only
  split
  · rename_i hnone
    exact ⟨rfl, rfl, rfl⟩
  · rename_i f hsome
    refine ⟨rfl, rfl, ?_⟩
    rw [hsome]
    exact congrArg some (f.reset_process output)

theorem modulate_nil (m : SdrModemTx) : m.modulate [] = (m, some []) := by
  obtain ⟨modem, halfbandTx, txPending⟩ := m
  rw [modulate, WrappedModem.modulate_nil]
  cases halfbandTx with
  | none => simp
  | some f => simp [HalfbandInterp.process_nil]

/-- Modulating keeps the reset state. -/
theorem reset_modulate (m : SdrModemTx) (input : List UInt8) :
    (m.modulate input).1.reset = m.reset := by
  by_cases h : input.length * 8 > m.modem.maxModulationInputBits
  · rw [modulate_of_long h]
  · obtain ⟨hmodem, -, hhalfband⟩ := modulate_of_short h
    rw [reset, hmodem, WrappedModem.reset_modulate, hhalfband, reset]

/-- And the flags. -/
theorem Tidy.modulate {m : SdrModemTx} (h : m.Tidy) (input : List UInt8) :
    (m.modulate input).1.Tidy := by
  by_cases hlong : input.length * 8 > m.modem.maxModulationInputBits
  · rw [modulate_of_long hlong]
    exact h
  · obtain ⟨hmodem, hpending, -⟩ := modulate_of_short hlong
    refine ⟨?_, fun hidle => ?_⟩
    · rw [hmodem, hpending, (WrappedModem.txPending_modulate hlong).1, h.pending]
    · -- nothing is pending, so there was no input
      rw [hpending, Bool.or_eq_false_iff, decide_eq_false_iff_not] at hidle
      have hnil : input = [] := List.length_eq_zero_iff.mp (by omega)
      rw [hnil, modulate_nil]
      exact h.idle hidle.1

/-- **A flush ends in the reset state.** -/
theorem Tidy.modulateFlush {m : SdrModemTx} (h : m.Tidy) : m.modulateFlush.1 = m.reset := by
  unfold SdrModemTx.modulateFlush
  split
  · rename_i hpending
    obtain ⟨hreset, hsome⟩ := WrappedModem.modulateFlush_pending (h.pending.trans hpending)
    obtain ⟨output, houtput⟩ := Option.isSome_iff_exists.mp hsome
    have hpair : m.modem.modulateFlush = (m.modem.reset, some output) := Prod.ext hreset houtput
    rw [hpair]
    dsimp only
    split
    · rename_i hnone
      rw [reset, hnone]
      rfl
    · rename_i f hsome
      rw [reset, hsome, HalfbandInterp.reset_processFlush]
      rfl
  · rename_i hidle
    exact (h.idle (Bool.eq_false_iff.mpr hidle)).symm

/-- **A modem that was created so**, and used since. -/
structure CreatedFrom (config : SdrModemConfig) (bufferSize : UInt32) (m : SdrModemTx) : Prop where
  tidy : m.Tidy
  reset : m.reset = create config bufferSize

theorem createdFrom_create (config : SdrModemConfig) (bufferSize : UInt32) :
    CreatedFrom config bufferSize (create config bufferSize) :=
  ⟨tidy_create config bufferSize, reset_create config bufferSize⟩

variable {config : SdrModemConfig} {bufferSize : UInt32} {m : SdrModemTx}

theorem CreatedFrom.modulate (h : CreatedFrom config bufferSize m) (input : List UInt8) :
    CreatedFrom config bufferSize (m.modulate input).1 :=
  ⟨h.tidy.modulate input, (m.reset_modulate input).trans h.reset⟩

/-- After a flush the modem is as it was created. -/
theorem CreatedFrom.modulateFlush (h : CreatedFrom config bufferSize m) :
    m.modulateFlush.1 = create config bufferSize := h.tidy.modulateFlush.trans h.reset

/-- It is so exactly if nothing is pending. -/
theorem CreatedFrom.eq_create_iff (h : CreatedFrom config bufferSize m) :
    m = create config bufferSize ↔ m.txPending = false := by
  constructor
  · rintro rfl
    rfl
  · intro hidle
    rw [← h.reset, h.tidy.idle hidle]

theorem maxModulationInputBits_reset (m : WrappedModem) :
    m.reset.maxModulationInputBits = m.maxModulationInputBits := by
  cases m <;> rfl

/-- An input is too long if it is longer than the buffer. -/
theorem CreatedFrom.maxModulationInputBits (h : CreatedFrom config bufferSize m) :
    m.modem.maxModulationInputBits = bufferSize.toNat * 8 := by
  rw [← maxModulationInputBits_reset]
  have hmodem : m.modem.reset = WrappedModem.create bufferSize config.modem :=
    congrArg SdrModemTx.modem h.reset
  rw [hmodem]
  cases config.modem <;> rfl

/-- An input leaves something pending if it is not empty and fits the buffer. -/
theorem CreatedFrom.txPending_modulate (h : CreatedFrom config bufferSize m)
    (input : List UInt8) :
    (m.modulate input).1.txPending =
      (m.txPending || decide (0 < input.length ∧ input.length ≤ bufferSize.toNat)) := by
  by_cases hlong : input.length * 8 > m.modem.maxModulationInputBits
  · rw [modulate_of_long hlong]
    rw [h.maxModulationInputBits] at hlong
    simp [show ¬ input.length ≤ bufferSize.toNat by omega]
  · rw [(modulate_of_short hlong).2.1]
    rw [h.maxModulationInputBits] at hlong
    simp [show input.length ≤ bufferSize.toNat by omega]

end SdrModemTx
end SdrModem
