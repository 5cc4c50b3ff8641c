import SdrModem.Cli
import SdrModem.DemodulatorStream
import SdrModem.SdrFile

/-!
# Receiving from a recording

A recording is read in blocks of `sdr_buffer_len` samples, and every block is a call of the
modem.  `sdr_buffer_len` is also what the modem is created with, so with another one the run
has another modem and gives it other blocks; but the same stage is behind all of these modems.
-/
namespace SdrModem
open Mealy

/-! ## A recording -/

namespace SdrFile

/-- **What a reader asks for can be read**: it is something, and `gzread` can return it. -/
def Readable (kind : FileKind) (format : SdrFileFormat) (sdrBufferLen : UInt32)
    (file : List UInt8) : Prop :=
  0 < asked (bytesPerSample format) sdrBufferLen.toNat kind ∧
    Returns (min (asked (bytesPerSample format) sdrBufferLen.toNat kind) file.length) kind

theorem Readable.drop {kind : FileKind} {format : SdrFileFormat} {sdrBufferLen : UInt32}
    {file : List UInt8} (h : Readable kind format sdrBufferLen file) (count : Nat) :
    Readable kind format sdrBufferLen (file.drop count) := by
  refine ⟨h.1, h.2.mono ?_⟩
  rw [List.length_drop]
  omega

end SdrFile

/-! ## The run -/

namespace Cli
open SdrFile

/-- The file backend for a modem: `toIq` is the number that a `float complex` stands for. -/
def readFile (toIq : Cf32 → Iq) (device : Device) : Option (List Iq) × Device :=
  ((processRx device).1.map (List.map toIq), (processRx device).2)

/-- **Nothing stops a run**: no signal comes, and `fwrite` can write all of these. -/
def Undisturbed (turns : List ReceiveTurn) (bits : List Int8) : Prop :=
  ∀ turn ∈ turns, turn.doExit = false ∧ bits.length ≤ turn.room

section Turn
variable {nco : MixNco} {D : Type} {sdrProcessRx : D → Option (List Iq) × D}
variable {turn : ReceiveTurn} {turns : List ReceiveTurn} {r : Receiver nco D} {output : List Iq}
variable {device : D} {modem : ModemRx nco} {bits : List Int8}
variable (hexit : ¬ turn.doExit = true) (hblock : sdrProcessRx r.device = (some output, device))
variable (hdemodulate : r.modem.demodulate output = some (modem, some bits))
include hexit hblock hdemodulate

end Turn

end Cli
end SdrModem
