import SdrModem.ClientTxWorker

/-!
# The transmitting thread: `sdr_tx_worker.c`

The worker takes frames and settings off its queue.  A frame is modulated and
handed to `sdr_process_tx`, then its tail is flushed and handed over as well, and
the client is told how it went.

Results that come from elsewhere are part of the label of the step (`TxResult`):
those of the device, of `sdr_modem_create`, and of the modem behind
`sdr_modem_modulate`, whose functions return `NULL` when their input is longer
than their buffers.
-/
namespace SdrModem
open BoundedFifo

/-- The commands in the queue of the worker. -/
inductive TxCommand where
  | frame (requestId : UInt32) (buffer : List UInt8)
  | commParameters (requestId : UInt32) (buffer : List UInt8)
deriving DecidableEq, Repr

namespace TxCommand

/-- `message.request_id`. -/
def requestId : TxCommand → UInt32
  | .frame id _ | .commParameters id _ => id

/-- `message.buffer_len`. -/
def bufferLen : TxCommand → Nat
  | .frame _ buffer | .commParameters _ buffer => buffer.length

end TxCommand

/-- Whether a command fits the queue of the worker. -/
def fitsTx (bufferSize : Nat) (c : Item TxCommand) : Bool := c.val.bufferLen ≤ bufferSize

/-- The part of `struct sdr_modem_t` that transmitting reads and writes. -/
structure TxModem where
  txPending : Bool
deriving DecidableEq, Repr

/-- `sdr_modem_modulate`: `modulated` is what `modem->modulate` returns, and
`interpolated` what the half-band interpolator makes of it (the same if there is
none).  There is no frequency offset in the server. -/
def sdrModemModulate (inputLen : Nat) (modulated interpolated : Option (List Sample))
    (modem : TxModem) : TxModem × Option (List Sample) :=
  match modulated with
  | none => (modem, none)
  | some _ => ({ modem with txPending := modem.txPending || decide (inputLen > 0) }, interpolated)

/-- `sdr_modem_modulate_flush`, with the same parameters. -/
def sdrModemModulateFlush (modulated interpolated : Option (List Sample)) (modem : TxModem) :
    TxModem × Option (List Sample) :=
  if modem.txPending then
    match modulated with
    | none => (modem, none)
    | some _ => ({ modem with txPending := false }, interpolated)
  else (modem, none)

/-- Where `sdr_tx_worker_callback` is. -/
inductive TxPc where
  /-- about to call `queue_take` -/
  | take
  /-- a command was taken -/
  | handle (c : Item TxCommand)
  /-- about to call `sdr_process_tx` with the modulated frame -/
  | processFrame (c : Item TxCommand) (t : Transmission)
  /-- about to call `sdr_modem_modulate_flush` -/
  | flush (c : Item TxCommand) (t : Transmission)
  /-- about to call `sdr_process_tx` with the tail -/
  | processTail (c : Item TxCommand) (t : Transmission) (tail : List Sample)
  /-- about to call `client_tx_worker_send_tx_complete` -/
  | report (c : Item TxCommand) (status : ResponseStatus) (details : ResponseDetails)
      (t : Transmission)
  /-- `sdr_modem_create` has returned a new modem -/
  | setParameters (c : Item TxCommand)
  /-- about to call `client_tx_worker_send_response` -/
  | respond (c : Item TxCommand) (status : ResponseStatus) (details : ResponseDetails)
  /-- about to call `queue_complete` -/
  | complete
  | finished
deriving DecidableEq, Repr

/-- `struct sdr_tx_worker_t`. -/
structure TxWorker where
  queue : Fifo (Item TxCommand)
  pc : TxPc
  modem : Option TxModem
deriving DecidableEq, Repr

/-- What a step gets from outside the worker. -/
inductive TxResult where
  | nothing
  | modulate (modulated interpolated : Option (List Sample))
  | processTx (code : Int)
  | modemCreate (ok : Bool)
  | setTxParameters (ok : Bool)
deriving DecidableEq, Repr

namespace TxWorker

/-- A new worker. -/
def create : TxWorker := ⟨Fifo.empty, .take, none⟩

/-- The head of the loop: `queue_take`. -/
def takeStep (w : TxWorker) : Option TxWorker :=
  match w.queue.pending with
  | c :: rest =>
      some { w with
        queue := { w.queue with pending := rest, inFlight := some c }
        pc := .handle c }
  | [] => if w.queue.closed then some { w with pc := .finished } else none

/-- `switch (message.type)`, up to the first call that leaves the worker. -/
def handleStep (w : TxWorker) (c : Item TxCommand) (r : TxResult) : Option TxWorker :=
  match c.val, r with
  | .frame _ _, .nothing =>
      if w.modem = none then some { w with pc := .complete } else none
  | .frame _ buffer, .modulate modulated interpolated =>
      w.modem.map fun m =>
        let (m, output) := sdrModemModulate buffer.length modulated interpolated m
        { w with modem := some m, pc := .processFrame c ⟨output, false, none, []⟩ }
  | .commParameters _ buffer, .nothing =>
      if apiDecodeCommSettings buffer = none then
        some { w with pc := .respond c .failure .invalidRequest }
      else none
  | .commParameters _ buffer, .modemCreate ok =>
      if apiDecodeCommSettings buffer = none then none
      else if ok then some { w with pc := .setParameters c }
      else some { w with pc := .respond c .failure .invalidRequest }
  | _, _ => none

/-- `sdr_modem_modulate_flush`, and whether its output goes to the device. -/
def flushStep (w : TxWorker) (c : Item TxCommand) (t : Transmission)
    (modulated interpolated : Option (List Sample)) : Option TxWorker :=
  w.modem.map fun m =>
    let (m', output) := sdrModemModulateFlush modulated interpolated m
    let t := { t with tailDue := m.txPending, tail := output }
    match output with
    | some tail => { w with modem := some m', pc := .processTail c t tail }
    | none => { w with modem := some m', pc := .report c .success .noDetails t }

/-- One step of `sdr_tx_worker_callback`, and what it puts into the client queue. -/
def step (w : TxWorker) (r : TxResult) : Option (TxWorker × Option Sent) :=
  match w.pc, r with
  | .take, .nothing => w.takeStep.map fun w => (w, none)
  | .handle c, r => (w.handleStep c r).map fun w => (w, none)
  | .processFrame c t, .processTx code =>
      -- a NULL output is handed over with length 0
      if code = 0 then
        some ({ w with pc := .flush c { t with handed := t.handed ++ [t.modulated.getD []] } }, none)
      else some ({ w with pc := .report c .failure .invalidRequest t }, none)
  | .flush c t, .modulate modulated interpolated =>
      (w.flushStep c t modulated interpolated).map fun w => (w, none)
  | .processTail c t tail, .processTx code =>
      if code = 0 then
        some ({ w with pc := .report c .success .noDetails { t with handed := t.handed ++ [tail] } },
          none)
      else some ({ w with pc := .report c .failure .invalidRequest t }, none)
  | .report c status details t, .nothing =>
      some ({ w with pc := .complete },
        some ⟨.complete c.val.requestId status details, c.tag, none, some t⟩)
  | .setParameters c, .setTxParameters ok =>
      if ok then
        some ({ w with modem := some ⟨false⟩, pc := .respond c .success .noDetails }, none)
      else some ({ w with pc := .respond c .failure .invalidRequest }, none)
  | .respond c status details, .nothing =>
      some ({ w with pc := .complete },
        some ⟨.response c.val.requestId status details, c.tag, none, none⟩)
  | .complete, .nothing =>
      some ({ w with queue := { w.queue with inFlight := none }, pc := .take }, none)
  | _, _ => none

/-- `queue_put` of a command; `none` while the queue is full. -/
def put (bufferSize queueSize : Nat) (w : TxWorker) (c : Item TxCommand) : Option TxWorker :=
  (offer queueSize (fitsTx bufferSize) w.queue c).map fun q => { w with queue := q }

/-- `queue_interrupt`. -/
def interrupt (w : TxWorker) : TxWorker := { w with queue := { w.queue with closed := true } }

end TxWorker
end SdrModem
