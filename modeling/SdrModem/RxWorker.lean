import SdrModem.Machine
import SdrModem.ClientTxWorker

/-!
# The receiving thread: `sdr_rx_worker.c`

The worker takes commands off its queue and, in between, moves samples to the
client.  A device is read by the worker itself (`sdr_process_rx`, pull) or calls
`sdr_rx_callback` from a thread of its own (push).  Both threads are cut into
steps small enough to be interleaved: every call that leaves the worker, every
operation on the mutex and every use of `worker->modem` is a step.

Results that come from elsewhere — `sdr_modem_create`, the device, the
demodulator — are part of the label of the step (`RxResult`).  Modems are numbered
in the order of their creation.
-/
namespace SdrModem
open BoundedFifo

/-- The commands in the queue of the worker. -/
inductive RxCommand where
  | commParameters (requestId : UInt32) (buffer : List UInt8)
  | start (requestId : UInt32)
  | stop (requestId : UInt32)
deriving DecidableEq, Repr

namespace RxCommand

/-- `message->request_id`. -/
def requestId : RxCommand → UInt32
  | .commParameters id _ | .start id | .stop id => id

/-- `message->buffer_len`. -/
def bufferLen : RxCommand → Nat
  | .commParameters _ buffer => buffer.length
  | .start _ | .stop _ => 0

end RxCommand

/-- Whether a command fits the queue of the worker. -/
def fitsRx (bufferSize : Nat) (c : Item RxCommand) : Bool := c.val.bufferLen ≤ bufferSize

/-- `SDR_RX_MESSAGE_QUEUE_SIZE`. -/
def sdrRxMessageQueueSize : Nat := 8

/-- Where a thread is inside `sdr_rx_callback`. -/
inductive CallbackPc where
  | lock
  | demodulate
  /-- `demod_output` points into the buffer of the modem `owner` -/
  | unlock (output : Option (Nat × List UInt8))
  | send (owner : Nat) (bits : List UInt8)
deriving DecidableEq, Repr

/-- Where `sdr_rx_worker_callback` is. -/
inductive RxPc where
  /-- about to call `queue_peak` or `queue_take` -/
  | loop
  /-- entering `sdr_rx_worker_handle_message` -/
  | handle (c : Item RxCommand)
  /-- `sdr_modem_create` has returned `newModem` -/
  | setParameters (c : Item RxCommand) (newModem : Nat)
  | lock (c : Item RxCommand) (newModem : Nat)
  | swap (c : Item RxCommand) (newModem : Nat)
  | unlock (c : Item RxCommand) (newModem : Nat) (oldModem : Option Nat)
  | destroyOld (c : Item RxCommand) (newModem : Nat) (oldModem : Option Nat)
  /-- about to call `client_tx_worker_send_response` -/
  | respond (c : Item RxCommand) (status : ResponseStatus) (details : ResponseDetails)
      (modem : Option Nat)
  /-- about to call `queue_complete` -/
  | complete (c : Item RxCommand)
  /-- behind the handling of a command -/
  | checkRx
  /-- inside `sdr_rx_callback`, called by the worker itself -/
  | callback (pc : CallbackPc)
  | finished
deriving DecidableEq, Repr

/-- The worker inside `sdr_rx_callback`, or back at the head of its loop. -/
def RxPc.ofCallback : Option CallbackPc → RxPc
  | some pc => .callback pc
  | none => .loop

/-- The two threads that use the modem. -/
inductive ModemUser where
  | worker
  | device
deriving DecidableEq, Repr

/-- `struct sdr_rx_worker_t`, with the thread of the device.  `pull` says that the
device has a `sdr_process_rx`; `streaming` that it was started.  `destroyed`,
`accepted` and `handled` record what happened. -/
structure RxWorker where
  pull : Bool
  queue : Fifo (Item RxCommand)
  pc : RxPc
  rxEnabled : Bool
  requestId : UInt32
  modem : Option Nat
  nextModem : Nat
  destroyed : List Nat
  mutex : Option ModemUser
  device : Option CallbackPc
  streaming : Bool
  accepted : List (Item RxCommand)
  handled : List (Item RxCommand)
deriving DecidableEq, Repr

/-- What a step gets from outside the worker. -/
inductive RxResult where
  | nothing
  | modemCreate (ok : Bool)
  | setRxParameters (ok : Bool)
  /-- `start_rx` returns; `streaming` says whether the device now streams -/
  | startRx (streaming : Bool)
  | processRx (code : Int) (outputLen : Nat)
  | demodulate (output : Option (List UInt8))
deriving DecidableEq, Repr

namespace RxWorker

/-- A new worker. -/
def create (pull : Bool) : RxWorker :=
  { pull := pull
    queue := Fifo.empty
    pc := .loop
    rxEnabled := false
    requestId := 0
    modem := none
    nextModem := 0
    destroyed := []
    mutex := none
    device := none
    streaming := false
    accepted := []
    handled := [] }

/-- One step of `sdr_rx_callback`, executed by `user`: the worker, where the
thread is next (`none` when it returns), and what it puts into the client queue. -/
def callbackStep (user : ModemUser) (w : RxWorker) (pc : CallbackPc) (r : RxResult) :
    Option (RxWorker × Option CallbackPc × Option Sent) :=
  match pc, r with
  | .lock, .nothing =>
      if w.mutex = none then some ({ w with mutex := some user }, some .demodulate, none) else none
  | .demodulate, .nothing =>
      if w.modem = none then some (w, some (.unlock none), none) else none
  | .demodulate, .demodulate output =>
      w.modem.map fun m => (w, some (.unlock (output.map fun bits => (m, bits))), none)
  | .unlock output, .nothing =>
      some ({ w with mutex := none }, output.map fun (m, bits) => .send m bits, none)
  | .send owner bits, .nothing =>
      some ({ w with requestId := w.requestId + 1 }, none,
        some ⟨.softBits w.requestId bits, none, some owner, none⟩)
  | _, _ => none

/-- The message `queue_peak` or `queue_take` returns goes to
`sdr_rx_worker_handle_message`. -/
def receive (w : RxWorker) (c : Item RxCommand) (rest : List (Item RxCommand)) : RxWorker :=
  { w with
    queue := { w.queue with pending := rest, inFlight := some c }
    pc := .handle c }

/-- The head of the loop: `queue_peak` while a pull device is on, else
`queue_take`. -/
def loopStep (w : RxWorker) : Option RxWorker :=
  match w.queue.pending with
  | c :: rest => some (w.receive c rest)
  | [] =>
      if w.rxEnabled ∧ w.pull then some { w with pc := .checkRx }
      else if w.queue.closed then some { w with pc := .finished }
      else none

/-- The beginning of `sdr_rx_worker_handle_message`. -/
def handleStep (w : RxWorker) (c : Item RxCommand) (r : RxResult) : Option RxWorker :=
  match c.val, r with
  | .commParameters _ buffer, .nothing =>
      if apiDecodeCommSettings buffer = none then
        some { w with pc := .respond c .failure .invalidRequest none }
      else none
  | .commParameters _ buffer, .modemCreate ok =>
      if apiDecodeCommSettings buffer = none then none
      else if ok then
        some { w with pc := .setParameters c w.nextModem, nextModem := w.nextModem + 1 }
      else some { w with pc := .respond c .failure .invalidRequest none }
  | .start _, .nothing =>
      if w.rxEnabled then some { w with pc := .respond c .success .noDetails none } else none
  | .start _, .startRx streaming =>
      if w.rxEnabled then none
      else
        some { w with
          pc := .respond c .success .noDetails none, rxEnabled := true, streaming := streaming }
  | .stop _, .nothing =>
      if w.rxEnabled then
        -- stop_rx waits for the sdr thread
        if w.device = none then
          some { w with
            pc := .respond c .success .noDetails none, rxEnabled := false, streaming := false }
        else none
      else some { w with pc := .respond c .success .noDetails none }
  | _, _ => none

/-- The end of an iteration: `sdr_process_rx` of a pull device that is on. -/
def checkRxStep (w : RxWorker) (r : RxResult) : Option RxWorker :=
  if w.rxEnabled ∧ w.pull then
    match r with
    | .processRx code outputLen =>
        -- read timeout happened. it's ok
        if code < -1 then some { w with pc := .loop }
        else if code ≠ 0 ∧ outputLen = 0 then some { w with pc := .finished }
        else some { w with pc := .callback .lock }
    | _ => none
  else
    match r with
    | .nothing => some { w with pc := .loop }
    | _ => none

/-- One step of `sdr_rx_worker_callback`, and what it puts into the client
queue. -/
def workerStep (w : RxWorker) (r : RxResult) : Option (RxWorker × Option Sent) :=
  match w.pc, r with
  | .loop, .nothing => w.loopStep.map fun w => (w, none)
  | .handle c, r => (w.handleStep c r).map fun w => (w, none)
  | .setParameters c newModem, .setRxParameters ok =>
      if ok then some ({ w with pc := .lock c newModem }, none)
      else
        some ({ w with
          pc := .respond c .failure .invalidRequest none
          destroyed := newModem :: w.destroyed }, none)
  | .lock c newModem, .nothing =>
      if w.mutex = none then some ({ w with mutex := some .worker, pc := .swap c newModem }, none)
      else none
  | .swap c newModem, .nothing =>
      some ({ w with modem := some newModem, pc := .unlock c newModem w.modem }, none)
  | .unlock c newModem oldModem, .nothing =>
      some ({ w with mutex := none, pc := .destroyOld c newModem oldModem }, none)
  | .destroyOld c newModem oldModem, .nothing =>
      some ({ w with
        destroyed := oldModem.toList ++ w.destroyed
        pc := .respond c .success .noDetails (some newModem) }, none)
  | .respond c status details modem, .nothing =>
      some ({ w with pc := .complete c },
        some ⟨.response c.val.requestId status details, c.tag, modem, none⟩)
  | .complete c, .nothing =>
      some ({ w with
        queue := { w.queue with inFlight := none }, handled := w.handled ++ [c], pc := .checkRx },
        none)
  | .checkRx, r => (w.checkRxStep r).map fun w => (w, none)
  | .callback pc, r =>
      (w.callbackStep .worker pc r).map fun (w, pc, sent) =>
        ({ w with pc := .ofCallback pc }, sent)
  | _, _ => none

/-- One step of the thread of a push device: a new call of `sdr_rx_callback` while
the device streams, or the next step of the current one. -/
def deviceStep (w : RxWorker) (r : RxResult) : Option (RxWorker × Option Sent) :=
  match w.device with
  | none =>
      if w.pull = false ∧ w.streaming = true ∧ r = .nothing then
        some ({ w with device := some .lock }, none)
      else none
  | some pc =>
      (w.callbackStep .device pc r).map fun (w, pc, sent) => ({ w with device := pc }, sent)

/-- `queue_put` of a command; `none` while the queue is full. -/
def put (bufferSize : Nat) (w : RxWorker) (c : Item RxCommand) : Option RxWorker :=
  match BoundedFifo.step sdrRxMessageQueueSize (fitsRx bufferSize) w.queue (.put c) with
  | some q => some { w with queue := q, accepted := w.accepted ++ [c] }
  | none =>
      (BoundedFifo.step sdrRxMessageQueueSize (fitsRx bufferSize) w.queue (.reject c)).map fun q =>
        { w with queue := q }

/-- `queue_interrupt`. -/
def interrupt (w : RxWorker) : RxWorker := { w with queue := { w.queue with closed := true } }

end RxWorker

/-- The worker with the messages it has put into the client queue. -/
structure RxRun where
  worker : RxWorker
  log : List Sent
deriving DecidableEq, Repr

/-- What can happen to the worker. -/
inductive RxLabel where
  | put (c : Item RxCommand)
  | interrupt
  | worker (r : RxResult)
  | device (r : RxResult)
deriving DecidableEq, Repr

namespace RxRun

/-- One step of the worker, its device or the threads that use its queue.  The
buffers of the queue have `bufferSize` bytes. -/
def step (bufferSize : Nat) (s : RxRun) : RxLabel → Option RxRun
  | .put c => (s.worker.put bufferSize c).map fun w => ⟨w, s.log⟩
  | .interrupt => some ⟨s.worker.interrupt, s.log⟩
  | .worker r => (s.worker.workerStep r).map fun (w, sent) => ⟨w, s.log ++ sent.toList⟩
  | .device r => (s.worker.deviceStep r).map fun (w, sent) => ⟨w, s.log ++ sent.toList⟩

/-- A new worker that has sent nothing. -/
def start (pull : Bool) : RxRun := ⟨RxWorker.create pull, []⟩

end RxRun
end SdrModem
