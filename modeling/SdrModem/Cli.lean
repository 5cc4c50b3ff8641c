import SdrModem.CliModem

/-!
# The command line mode: `cli.c`

Without a bind address `sdr-modem` is a single run of one modem over one device: soft bits go
from the device to `output_file`, or the bytes of `input_file` go to the device.

The loops of `cli_process` take turns.  What a turn meets comes with it: whether `do_exit` is
set when the head of the loop reads it, since a signal may come at any time, and what `fwrite`
or `fread` do.  A device that is asked for samples, or given some, is a function on its own
state.

A device that calls back is a thread beside the main thread and the signal handlers, and they
take steps in any order.  `cli_stop` sets `do_exit` and then writes a byte into a pipe, which
are two steps; the main thread sleeps in `read` on that pipe.
-/
namespace SdrModem
namespace Cli

/-! ## A device that is asked for samples -/

/-- `doExit` is `do_exit` at the head of the loop, and `room` how many bytes `fwrite` gets rid
of. -/
structure ReceiveTurn where
  doExit : Bool
  room : Nat
deriving DecidableEq, Repr

/-- The part of `struct cli_t` that receives, with the bytes of `output_file`. -/
structure Receiver (nco : MixNco) (D : Type) where
  device : D
  modem : ModemRx nco
  outputFile : List Int8

/-- The part of `cli_create` for receiving: the file is empty. -/
def Receiver.create {D : Type} (nco : MixNco) (config : SdrModemRxConfig)
    (offsetFile : Option OffsetFile) (maxModulationBufferLength : Nat) (sdrBufferLen : UInt32)
    (device : D) : Option (Receiver nco D) :=
  (ModemRx.create nco config offsetFile maxModulationBufferLength sdrBufferLen).map fun modem =>
    ⟨device, modem, []⟩

/-- The loop of `cli_process` over `sdr_process_rx`, which is `none` for a code other than 0.
The loop is `none` if it has not ended with the last turn. -/
def receive {nco : MixNco} {D : Type} (sdrProcessRx : D → Option (List Iq) × D) :
    List ReceiveTurn → Receiver nco D → Option (Receiver nco D)
  | [], _ => none
  | turn :: turns, r =>
      if turn.doExit then some r
      else
        match sdrProcessRx r.device with
        | (none, device) => some { r with device := device }
        | (some output, device) =>
            (r.modem.demodulate output).bind fun (modem, demodOutput) =>
              let demodOutput := demodOutput.getD []
              let actuallyWritten := demodOutput.take turn.room
              let r : Receiver nco D := ⟨device, modem, r.outputFile ++ actuallyWritten⟩
              if actuallyWritten.length ≠ demodOutput.length then some r
              else receive sdrProcessRx turns r

/-! ## A device that is given samples -/

/-- `available` is how many bytes `fread` gets before the end of the file or an error. -/
structure TransmitTurn where
  doExit : Bool
  available : Nat
deriving DecidableEq, Repr

/-- The part of `struct cli_t` that transmits, with what is left of `input_file`.  `taken` and
`handed` record the bytes that were read and the buffers the device was given. -/
structure Transmitter (nco : MixNco) (D : Type) where
  device : D
  modem : ModemTx nco
  inputFile : List UInt8
  taken : List (List UInt8)
  handed : List (List Sample)

/-- The part of `cli_create` for transmitting. -/
def Transmitter.create {nco : MixNco} {D : Type} (modem : ModemTx nco) (device : D)
    (inputFile : List UInt8) : Transmitter nco D :=
  ⟨device, modem, inputFile, [], []⟩

/-- What a loop ends with: its return value if it returns from `cli_process`, and the state. -/
structure Ended (nco : MixNco) (D : Type) where
  returned : Option Int
  state : Transmitter nco D

section Transmit
variable {nco : MixNco} {D : Type} (sdrProcessTx : D → List Sample → Option (Int × D))

/-- A call of `sdr_process_tx`, which is `none` if it does not return. -/
def Transmitter.handOver (t : Transmitter nco D) (samples : List Sample) :
    Option (Int × Transmitter nco D) :=
  (sdrProcessTx t.device samples).map fun (code, device) =>
    (code, { t with device := device, handed := t.handed ++ [samples] })

/-- The loop of `cli_process` over `input_file`, which is `none` if it has not ended with the
last turn. -/
def transmitLoop (maxFrameSize : UInt32) :
    List TransmitTurn → Transmitter nco D → Option (Ended nco D)
  | [], _ => none
  | turn :: turns, t =>
      if turn.doExit then some ⟨none, t⟩
      else
        let inputTemp := t.inputFile.take (min turn.available maxFrameSize.toNat)
        if inputTemp.length = 0 then some ⟨none, t⟩
        else
          (t.modem.modulate inputTemp).bind fun (modem, output) =>
          let t := { t with
            modem := modem
            inputFile := t.inputFile.drop inputTemp.length
            taken := t.taken ++ [inputTemp] }
          (t.handOver sdrProcessTx (output.getD [])).bind fun (code, t) =>
            if code ≠ 0 then some ⟨some (-1), t⟩ else transmitLoop maxFrameSize turns t

/-- `cli_process` for transmitting: `sdr_flush_tx` may be `NULL`. -/
def transmit (sdrFlushTx : Option (D → D)) (maxFrameSize : UInt32) (turns : List TransmitTurn)
    (t : Transmitter nco D) : Option (Int × Transmitter nco D) :=
  (transmitLoop sdrProcessTx maxFrameSize turns t).bind fun
    | ⟨some code, t⟩ => some (code, t)
    | ⟨none, t⟩ =>
        -- the whole file is one transmission: push the tail of the last frame out
        t.modem.modulateFlush.bind fun (modem, tail) =>
        let t := { t with modem := modem }
        let flushed (t : Transmitter nco D) : Transmitter nco D :=
          { t with device := sdrFlushTx.elim t.device fun flush => flush t.device }
        match tail with
        | none => some (0, flushed t)
        | some tail =>
            (t.handOver sdrProcessTx tail).map fun (code, t) =>
              if code ≠ 0 then (-1, t) else (0, flushed t)

end Transmit

/-! ## A device that calls back -/

/-- Where the main thread is after `start_rx`. -/
inductive MainPc where
  /-- the head of the loop of `cli_wait_for_stop` -/
  | check
  /-- inside `read` -/
  | reading
  /-- inside `stop_rx` -/
  | stopping
  | finished
deriving DecidableEq, Repr

/-- How `read` comes back: with a byte, with `EINTR`, or in another way. -/
inductive WakeRead where
  | byte
  | interrupted
  | failed
deriving DecidableEq, Repr

/-- `struct cli_t` and its threads.  `wakePipe` is how many bytes are in the pipe; `handlers` is
how many signal handlers are inside `cli_stop`, behind the assignment to `do_exit`, and
`callbackStop` says that of the callback.  `delivered` records the blocks that were demodulated,
and `short` whether `fwrite` ever failed. -/
structure Push (nco : MixNco) where
  main : MainPc
  doExit : Bool
  wakePipe : Nat
  handlers : Nat
  callbackStop : Bool
  modem : ModemRx nco
  outputFile : List Int8
  delivered : List (List Iq)
  short : Bool

/-- What happens next. -/
inductive PushLabel where
  /-- a signal: `cli_stop` sets `do_exit` -/
  | signal
  /-- a signal handler writes its byte -/
  | handlerWrite
  /-- the device calls `cli_rx_callback` -/
  | callback (input : List Iq) (room : Nat)
  /-- the callback writes its byte -/
  | callbackWrite
  | main (r : WakeRead)
deriving DecidableEq, Repr

namespace Push
variable {nco : MixNco}

/-- Behind `start_rx`. -/
def start (modem : ModemRx nco) : Push nco :=
  ⟨.check, false, 0, 0, false, modem, [], [], false⟩

/-- `cli_rx_callback`, up to the byte of `cli_stop`. -/
def rxCallback (s : Push nco) (input : List Iq) (room : Nat) : Option (Push nco) :=
  if s.doExit then some s
  else
    (s.modem.demodulate input).map fun (modem, demodOutput) =>
      let demodOutput := demodOutput.getD []
      let actuallyWritten := demodOutput.take room
      let short := decide (actuallyWritten.length ≠ demodOutput.length)
      { s with
        modem := modem
        outputFile := s.outputFile ++ actuallyWritten
        delivered := s.delivered ++ [input]
        doExit := s.doExit || short
        callbackStop := short
        short := s.short || short }

/-- `cli_wait_for_stop` and `stop_rx`, which does not return before the callback does. -/
def mainStep (s : Push nco) (r : WakeRead) : Option (Push nco) :=
  match s.main with
  | .check => some { s with main := if s.doExit then .stopping else .reading }
  | .reading =>
      match r with
      | .byte =>
          if s.wakePipe = 0 then none
          else some { s with main := .check, wakePipe := s.wakePipe - 1 }
      | .interrupted => some { s with main := .check }
      | .failed => some { s with main := .stopping }
  | .stopping => if s.callbackStop then none else some { s with main := .finished }
  | .finished => none

/-- One step of one thread.  A byte waits until there is room for it in the pipe, and a device
that was stopped does not call back. -/
def step (capacity : Nat) (s : Push nco) : PushLabel → Option (Push nco)
  | .signal => some { s with doExit := true, handlers := s.handlers + 1 }
  | .handlerWrite =>
      if 0 < s.handlers ∧ s.wakePipe < capacity then
        some { s with handlers := s.handlers - 1, wakePipe := s.wakePipe + 1 }
      else none
  | .callback input room =>
      if s.main ≠ .finished ∧ s.callbackStop = false then s.rxCallback input room else none
  | .callbackWrite =>
      if s.callbackStop = true ∧ s.wakePipe < capacity then
        some { s with callbackStop := false, wakePipe := s.wakePipe + 1 }
      else none
  | .main r => s.mainStep r

end Push
end Cli
end SdrModem
