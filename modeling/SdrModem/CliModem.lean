import SdrModem.FreqOffset
import SdrModem.Modulator
import SdrModem.DemodulatorStream

/-!
# The modem of the command line

Only the command line passes a `freq_offset_file` to `sdr_modem_create`, and then every buffer
goes through `freq_offset_process`: before it is demodulated, or after it was modulated.  Without
a file the modem is that of the workers.
-/
namespace SdrModem
open Mealy

namespace Cli

/-- The entries of `freq_offset_file`, and the time at which it is read. -/
structure OffsetFile where
  entries : List OffsetEntry
  now : ℚ

/-- The end of `sdr_modem_create`: the buffer has room for either direction, whatever
`sdr_modem_max_modulation_buffer_length` is. -/
def createFreqOffset (nco : MixNco) (file : Option OffsetFile) (sampleRate : UInt64)
    (bufferSize : UInt32) (maxModulationBufferLength : Nat) :
    Except Int (Option (FreqOffset nco)) :=
  match file with
  | none => .ok none
  | some file =>
    (FreqOffset.create nco file.entries file.now sampleRate
      (max bufferSize.toNat maxModulationBufferLength)).map some

/-! ## Receiving -/

/-- The part of `struct sdr_modem_t` that receives. -/
structure ModemRx (nco : MixNco) where
  freqOffset : Option (FreqOffset nco)
  modem : SdrModemRx

namespace ModemRx
variable {nco : MixNco}

/-- `sdr_modem_create` for receiving, with `max_modulation_buffer_length`. -/
def create (nco : MixNco) (config : SdrModemRxConfig) (offsetFile : Option OffsetFile)
    (maxModulationBufferLength : Nat) (bufferSize : UInt32) : Option (ModemRx nco) :=
  (SdrModemRx.create config bufferSize).bind fun modem =>
  (createFreqOffset nco offsetFile config.sampleRate bufferSize
    maxModulationBufferLength).toOption.map fun freqOffset => ⟨freqOffset, modem⟩

/-- `sdr_modem_demodulate`.  A buffer that `freq_offset_process` refuses is demodulated as an
empty one. -/
def demodulate (m : ModemRx nco) (input : List Iq) :
    Option (ModemRx nco × Option (List Int8)) :=
  match m.freqOffset with
  | none => (m.modem.demodulate input).map fun (modem, output) => (⟨none, modem⟩, output)
  | some fo =>
    (fo.process input).bind fun (fo, corrected, _) =>
    (m.modem.demodulate (corrected.getD [])).map fun (modem, output) => (⟨some fo, modem⟩, output)

theorem create_none {config : SdrModemRxConfig} {n : Nat} {bufferSize : UInt32} {m : ModemRx nco}
    (h : create nco config none n bufferSize = some m) :
    ∃ modem, SdrModemRx.create config bufferSize = some modem ∧ m = ⟨none, modem⟩ := by
  obtain ⟨modem, hmodem, h⟩ := Option.bind_eq_some_iff.mp h
  exact ⟨modem, hmodem, (Option.some.inj h).symm⟩

/-- **Without a file the modem is that of the workers.** -/
theorem refines {stage : Stage.{1} Iq Int8} {R : SdrModemRx → stage.State → Prop} {limit : Nat}
    (h : Refines (accepted SdrModemRx.demodulate) limit stage R) :
    Refines (accepted (@demodulate nco)) limit stage
      fun m t => m.freqOffset = none ∧ R m.modem t := by
  rintro ⟨_, modem⟩ t ⟨rfl, hmt⟩ input hinput
  obtain ⟨modem', hcall, hmt'⟩ := h modem t hmt input hinput
  obtain ⟨⟨next, output⟩, hdemodulate, houtput⟩ := Option.bind_eq_some_iff.mp hcall
  obtain ⟨bits, rfl, hbits⟩ := Option.map_eq_some_iff.mp houtput
  obtain ⟨rfl, rfl⟩ := Prod.mk.inj hbits
  refine ⟨⟨none, next⟩, ?_, rfl, hmt'⟩
  rw [accepted, demodulate]
  dsimp only
  rw [hdemodulate]
  rfl

end ModemRx

/-! ## Transmitting -/

/-- What the bits of a `float complex` stand for. -/
structure SampleCodec where
  toIq : Sample → Iq
  ofIq : Iq → Sample

/-- The part of `struct sdr_modem_t` that transmits. -/
structure ModemTx (nco : MixNco) where
  codec : SampleCodec
  freqOffset : Option (FreqOffset nco)
  modem : SdrModemTx

namespace ModemTx
variable {nco : MixNco}

/-- `sdr_modem_create` for transmitting at a sample rate. -/
def create (nco : MixNco) (codec : SampleCodec) (config : SdrModemConfig) (sampleRate : UInt64)
    (offsetFile : Option OffsetFile) (maxModulationBufferLength : Nat) (bufferSize : UInt32) :
    Option (ModemTx nco) :=
  (createFreqOffset nco offsetFile sampleRate bufferSize
    maxModulationBufferLength).toOption.map fun freqOffset =>
      ⟨codec, freqOffset, .create config bufferSize⟩

/-- `sdr_modem_tx_postprocess` behind a modem that has made samples, or none. -/
def txPostprocess (m : ModemTx nco) (modulated : SdrModemTx × Option (List Sample)) :
    Option (ModemTx nco × Option (List Sample)) :=
  let m := { m with modem := modulated.1 }
  match modulated.2, m.freqOffset with
  | none, _ => some (m, none)
  | some output, none => some (m, some output)
  | some output, some fo =>
    (fo.process (output.map m.codec.toIq)).map fun (fo, corrected, _) =>
      ({ m with freqOffset := some fo }, corrected.map (List.map m.codec.ofIq))

/-- `sdr_modem_modulate`. -/
def modulate (m : ModemTx nco) (input : List UInt8) : Option (ModemTx nco × Option (List Sample)) :=
  m.txPostprocess (m.modem.modulate input)

/-- `sdr_modem_modulate_flush`. -/
def modulateFlush (m : ModemTx nco) : Option (ModemTx nco × Option (List Sample)) :=
  m.txPostprocess m.modem.modulateFlush

/-- **Without a file the samples are those of the modem.** -/
theorem txPostprocess_none {m : ModemTx nco} (h : m.freqOffset = none)
    (modulated : SdrModemTx × Option (List Sample)) :
    m.txPostprocess modulated = some ({ m with modem := modulated.1 }, modulated.2) := by
  obtain ⟨codec, _, modem⟩ := m
  obtain ⟨next, output⟩ := modulated
  obtain rfl := h
  cases output with
  | none => rfl
  | some output => rfl

theorem create_none (nco : MixNco) (codec : SampleCodec) (config : SdrModemConfig)
    (sampleRate : UInt64) (n : Nat) (bufferSize : UInt32) :
    create nco codec config sampleRate none n bufferSize =
      some ⟨codec, none, .create config bufferSize⟩ := rfl

end ModemTx
end Cli
end SdrModem
