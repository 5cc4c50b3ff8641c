import Mathlib.Data.UInt
import SdrModem.Machine
import SdrModem.ModulatorReset
import SdrModem.TxWorker

/-!
# Frames and the modem

"Packet mode: every frame is a separate transmission, so push its tail out": the
flush behind a frame is also what takes the modem back to its reset state.  But the
tx worker flushes only if the device has taken the frame.  After a frame that the
device refused, the filters and the differential reference are still those of that
frame, and the next frame is modulated on top of them.
-/
namespace SdrModem
open Machine

/-- A TX_FRAME, and what `sdr_process_tx` returns for the frame and for its tail. -/
structure TxFrame where
  buffer : List UInt8
  frameCode : Int
  tailCode : Int
deriving DecidableEq, Repr

/-- What comes of a frame: the samples handed to `sdr_process_tx` by the first and by
the second call, and the status that is reported. -/
structure TxFrameResult where
  frame : Option (List Sample)
  tail : Option (List Sample)
  status : ResponseStatus
deriving DecidableEq, Repr

namespace TxFrame

/-- The branch `SDR_TX_FRAME` of `sdr_tx_worker_callback`, with a modem. -/
def handle (modem : SdrModemTx) (f : TxFrame) : SdrModemTx × TxFrameResult :=
  let modulated := modem.modulate f.buffer
  if f.frameCode = 0 then
    -- packet mode: every frame is a separate transmission, so push its tail out
    let flushed := modulated.1.modulateFlush
    let code := if flushed.2.isSome then f.tailCode else f.frameCode
    (flushed.1, ⟨modulated.2, flushed.2, if code = 0 then .success else .failure⟩)
  else (modulated.1, ⟨modulated.2, none, .failure⟩)

/-- The modem behind a sequence of frames. -/
def modemAfter : SdrModemTx → List TxFrame → SdrModemTx
  | modem, [] => modem
  | modem, f :: fs => modemAfter (handle modem f).1 fs

/-- **Whether frames have left their tail in a modem with this buffer**: the last one
that could be modulated was refused by the device. -/
def tailLeft (bufferSize : UInt32) : Bool → List TxFrame → Bool
  | left, [] => left
  | left, f :: fs =>
      tailLeft bufferSize
        (decide (f.frameCode ≠ 0) &&
          (left || decide (0 < f.buffer.length ∧ f.buffer.length ≤ bufferSize.toNat))) fs

variable {config : SdrModemConfig} {bufferSize : UInt32} {m : SdrModemTx}

/-- One frame: where the modem was created from, and whether it leaves a tail. -/
theorem handle_createdFrom (h : SdrModemTx.CreatedFrom config bufferSize m) (f : TxFrame) :
    SdrModemTx.CreatedFrom config bufferSize (handle m f).1 ∧
    (handle m f).1.txPending = (decide (f.frameCode ≠ 0) &&
      (m.txPending || decide (0 < f.buffer.length ∧ f.buffer.length ≤ bufferSize.toNat))) := by
  have hmodulate := h.modulate f.buffer
  by_cases hcode : f.frameCode = 0
  · have hmodem : (handle m f).1 = (m.modulate f.buffer).1.modulateFlush.1 := by
      unfold handle
      dsimp only
      rw [if_pos hcode]
    rw [hmodem, hmodulate.modulateFlush, hcode]
    exact ⟨SdrModemTx.createdFrom_create config bufferSize, rfl⟩
  · have hmodem : (handle m f).1 = (m.modulate f.buffer).1 := by
      unfold handle
      dsimp only
      rw [if_neg hcode]
    rw [hmodem, h.txPending_modulate, decide_eq_true hcode, Bool.true_and]
    exact ⟨hmodulate, rfl⟩

/-- A sequence of frames. -/
theorem modemAfter_createdFrom (h : SdrModemTx.CreatedFrom config bufferSize m)
    (fs : List TxFrame) :
    SdrModemTx.CreatedFrom config bufferSize (modemAfter m fs) ∧
    (modemAfter m fs).txPending = tailLeft bufferSize m.txPending fs := by
  induction fs generalizing m with
  | nil => exact ⟨h, rfl⟩
  | cons f fs ih =>
    obtain ⟨hcreated, hpending⟩ := handle_createdFrom h f
    rw [modemAfter, tailLeft, ← hpending]
    exact ih hcreated

end TxFrame

/-- **Every frame is a separate transmission, unless one before it has left its tail.**
For a modem of any configuration and any frames, with any results of
`sdr_process_tx`: the modem is as it was created exactly if no tail is left, and
then the samples that the next frame hands over first are those of a new modem. -/
theorem frames_independent (config : SdrModemConfig) (bufferSize : UInt32) (before : List TxFrame)
    (f : TxFrame) :
    (TxFrame.modemAfter (.create config bufferSize) before = .create config bufferSize ↔
      TxFrame.tailLeft bufferSize false before = false) ∧
    (TxFrame.tailLeft bufferSize false before = false →
      (TxFrame.handle (TxFrame.modemAfter (.create config bufferSize) before) f).2.frame =
        (SdrModemTx.modulate (.create config bufferSize) f.buffer).2) := by
  obtain ⟨hcreated, hpending⟩ :=
    TxFrame.modemAfter_createdFrom (SdrModemTx.createdFrom_create config bufferSize) before
  have hiff := hcreated.eq_create_iff
  rw [hpending] at hiff
  refine ⟨hiff, fun hleft => ?_⟩
  rw [hiff.mpr hleft]
  unfold TxFrame.handle
  split
  · rfl
  · rfl

/-! ## A frame on top of another -/

/-- A quarter turn of `1`, `I`, `-1` or `-I`: to the left for a 1, to the right for
a 0. -/
def quarterTurn (bit : Bool) (symbol : Sample) : Sample :=
  let re := symbol % 2 ^ 32
  let im := symbol / 2 ^ 32
  let negate (x : Sample) := if x = 0 then 0 else x ^^^ 0x80000000
  if bit then negate im + re * 2 ^ 32 else im + negate re * 2 ^ 32

/-- SDPSK with two samples per symbol and a filter of one tap. -/
def sdpskConfig : SdrModemConfig :=
  { modem := .bpsk
      { samplesPerSymbol := 2
        txTailSymbols := 0
        mapper := .sdpsk quarterTurn
        firinterp := ⟨Unit, (), fun _ symbol => ((), #v[symbol, 0])⟩
        resampler := none }
    halfband := none }

/-- The same frame twice; the device refuses it the first time. -/
def refusedFrame : TxFrame := ⟨[0x80], -1, 0⟩

def acceptedFrame : TxFrame := ⟨[0x80], 0, 0⟩

/-- After a frame that the device refused, another is not what it should be. -/
theorem refused_frame_leaks :
    (TxFrame.handle (TxFrame.modemAfter (.create sdpskConfig 64) [refusedFrame])
      acceptedFrame).2.frame ≠
        (SdrModemTx.modulate (.create sdpskConfig 64) acceptedFrame.buffer).2 := by
  decide +kernel

/-- After one that was taken, and one that was empty and refused, it is. -/
theorem accepted_frame_alone :
    (TxFrame.handle (TxFrame.modemAfter (.create sdpskConfig 64)
      [refusedFrame, acceptedFrame, ⟨[], -1, 0⟩]) acceptedFrame).2.frame =
        (SdrModemTx.modulate (.create sdpskConfig 64) acceptedFrame.buffer).2 :=
  (frames_independent sdpskConfig 64 [refusedFrame, acceptedFrame, ⟨[], -1, 0⟩] acceptedFrame).2
    (by decide)

/-! ## The branch in the worker -/

/-- What the worker knows of its modem, and what it gets from it, when a frame is
modulated. -/
theorem sdrModemModulate_eq (m : SdrModemTx) (input : List UInt8) :
    sdrModemModulate input.length (m.modem.modulate input).2 (m.modulate input).2 ⟨m.txPending⟩ =
      (⟨(m.modulate input).1.txPending⟩, (m.modulate input).2) := by
  cases hmodem : m.modem.modulate input with
  | mk modem output =>
    cases output with
    | none =>
      rw [SdrModemTx.modulate, hmodem]
      rfl
    | some output =>
      rw [SdrModemTx.modulate, hmodem]
      dsimp only
      cases m.halfbandTx with
      | none => rfl
      | some f => rfl

/-- And when it is flushed. -/
theorem sdrModemModulateFlush_eq (m : SdrModemTx) :
    sdrModemModulateFlush m.modem.modulateFlush.2 m.modulateFlush.2 ⟨m.txPending⟩ =
      (⟨m.modulateFlush.1.txPending⟩, m.modulateFlush.2) := by
  cases hpending : m.txPending with
  | false => simp [sdrModemModulateFlush, SdrModemTx.modulateFlush, hpending]
  | true =>
    cases hmodem : m.modem.modulateFlush with
    | mk modem output =>
      cases output with
      | none =>
        rw [SdrModemTx.modulateFlush, if_pos hpending, hmodem]
        dsimp only
        rw [hpending]
        rfl
      | some output =>
        rw [SdrModemTx.modulateFlush, if_pos hpending, hmodem]
        dsimp only
        cases m.halfbandTx with
        | none => rfl
        | some f => rfl

/-- One step of the thread, without what it sends. -/
def TxWorker.next (w : TxWorker) (r : TxResult) : Option TxWorker := (w.step r).map Prod.fst

namespace TxWorker
variable {w : TxWorker} {c : Item TxCommand} {t : Transmission} {m m' : TxModem}
  {a b output : Option (List Sample)}

/-- The frame is modulated. -/
theorem next_handle {id : UInt32} {buffer : List UInt8} (hpc : w.pc = .handle c)
    (hval : c.val = .frame id buffer) (hmodem : w.modem = some m)
    (hmodulate : sdrModemModulate buffer.length a b m = (m', output)) :
    w.next (.modulate a b) =
      some { w with modem := some m', pc := .processFrame c ⟨output, false, none, []⟩ } := by
  simp only [next, step, hpc, handleStep, hval, hmodem, Option.map_some, hmodulate]

/-- It is handed to the device. -/
theorem next_processFrame (hpc : w.pc = .processFrame c t) (code : Int) :
    w.next (.processTx code) =
      some { w with
        pc := if code = 0 then .flush c { t with handed := t.handed ++ [t.modulated.getD []] }
          else .report c .failure .invalidRequest t } := by
  simp only [next, step, hpc]
  split
  · rfl
  · rfl

/-- Its tail is modulated. -/
theorem next_flush (hpc : w.pc = .flush c t) (hmodem : w.modem = some m)
    (hflush : sdrModemModulateFlush a b m = (m', output)) :
    w.next (.modulate a b) =
      some { w with
        modem := some m'
        pc := match output with
          | some tail => .processTail c { t with tailDue := m.txPending, tail := output } tail
          | none =>
            .report c .success .noDetails { t with tailDue := m.txPending, tail := output } } := by
  simp only [next, step, hpc, flushStep, hmodem, Option.map_some, hflush]
  cases output with
  | none => rfl
  | some tail => rfl

/-- The tail is handed to the device. -/
theorem next_processTail {tail : List Sample} (hpc : w.pc = .processTail c t tail) (code : Int) :
    w.next (.processTx code) =
      some { w with
        pc := if code = 0 then .report c .success .noDetails { t with handed := t.handed ++ [tail] }
          else .report c .failure .invalidRequest t } := by
  simp only [next, step, hpc]
  split
  · rfl
  · rfl

end TxWorker

/-- The tx worker handles a frame as `TxFrame.handle` says. -/
theorem txWorker_frame (m : SdrModemTx) (f : TxFrame) {w : TxWorker} {c : Item TxCommand}
    {id : UInt32} (hpc : w.pc = .handle c) (hval : c.val = .frame id f.buffer)
    (hmodem : w.modem = some ⟨m.txPending⟩) :
    ∃ results w' details t, exec TxWorker.next w results = some w' ∧
      w'.pc = .report c (TxFrame.handle m f).2.status details t ∧
      w'.modem = some ⟨(TxFrame.handle m f).1.txPending⟩ ∧
      t.modulated = (TxFrame.handle m f).2.frame := by
  have hmodulate := sdrModemModulate_eq m f.buffer
  have hflush := sdrModemModulateFlush_eq (m.modulate f.buffer).1
  unfold TxFrame.handle
  dsimp only
  generalize m.modulate f.buffer = modulated at hmodulate hflush ⊢
  obtain ⟨m', output⟩ := modulated
  dsimp only at hmodulate hflush ⊢
  have hframe := TxWorker.next_handle hpc hval hmodem hmodulate
  have hdevice := TxWorker.next_processFrame (w := { w with
    modem := some ⟨m'.txPending⟩, pc := .processFrame c ⟨output, false, none, []⟩ }) rfl f.frameCode
  by_cases hcode : f.frameCode = 0
  · rw [if_pos hcode] at hdevice ⊢
    generalize m'.modulateFlush = flushed at hflush ⊢
    obtain ⟨m'', tail⟩ := flushed
    dsimp only at hflush ⊢
    have htail := TxWorker.next_flush (w := { w with
      modem := some ⟨m'.txPending⟩, pc := .flush c ⟨output, false, none, [output.getD []]⟩ })
      rfl rfl hflush
    cases tail with
    | none =>
      rw [Option.isSome_none, if_neg Bool.false_ne_true, if_pos hcode]
      have hexec := exec_of_step hframe (exec_of_step hdevice (exec_of_last htail))
      exact ⟨_, _, _, _, hexec, rfl, rfl, rfl⟩
    | some tail =>
      have hlast := TxWorker.next_processTail (w := { w with
        modem := some ⟨m''.txPending⟩
        pc := .processTail c ⟨output, m'.txPending, some tail, [output.getD []]⟩ tail }) rfl
        f.tailCode
      have hexec := exec_of_step hframe
        (exec_of_step hdevice (exec_of_step htail (exec_of_last hlast)))
      rw [Option.isSome_some, if_pos rfl]
      by_cases hok : f.tailCode = 0
      · rw [if_pos hok] at hexec ⊢
        exact ⟨_, _, _, _, hexec, rfl, rfl, rfl⟩
      · rw [if_neg hok] at hexec ⊢
        exact ⟨_, _, _, _, hexec, rfl, rfl, rfl⟩
  · rw [if_neg hcode] at hdevice ⊢
    have hexec := exec_of_step hframe (exec_of_last hdevice)
    exact ⟨_, _, _, _, hexec, rfl, rfl, rfl⟩

end SdrModem
