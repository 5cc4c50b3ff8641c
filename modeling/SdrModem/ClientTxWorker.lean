import SdrModem.BoundedFifo
import SdrModem.Api

/-!
# The thread that writes to the client: `client_tx_worker.c`

The other threads put messages into the queue of this worker, and it writes them
to `client_socket`, the header first and then the payload.  Its queue is a
`BoundedFifo`, which is what `queue.c` implements.

A message carries marks that the code does not have and never looks at: the
request it answers (`tag`), the modem it is about (`modem`), and what became of
the frame it reports on (`transmission`).
-/
namespace SdrModem
open BoundedFifo

/-- Where a request came from: its connection, and how many messages of that
connection were handled before it. -/
structure Tag where
  conn : Nat
  index : Nat
deriving DecidableEq, Repr

/-- A command together with the request it comes from; `none` for a command the
server gives itself. -/
structure Item (α : Type) where
  val : α
  tag : Option Tag
deriving DecidableEq, Repr

/-- What the queue of the worker holds: `client_tx_message_type` and the buffer
that goes with it. -/
inductive ClientTxMessage where
  | softBits (requestId : UInt32) (bits : List UInt8)
  | response (requestId : UInt32) (status : ResponseStatus) (details : ResponseDetails)
  | newClient (clientSocket : Int)
  | complete (requestId : UInt32) (status : ResponseStatus) (details : ResponseDetails)
deriving DecidableEq, Repr

namespace ClientTxMessage

/-- `buffer_len`: `sizeof(response)` is 2 and `sizeof(int)` is 4. -/
def bufferLen : ClientTxMessage → Nat
  | .softBits _ bits => bits.length
  | .response _ _ _ | .complete _ _ _ => apiResponseSize
  | .newClient _ => 4

/-- The header the worker writes for a message. -/
def header : ClientTxMessage → MessageHeader
  | .softBits id bits =>
      ⟨protocolVersion, MessageType.softBits.code, id, UInt32.ofNat bits.length⟩
  | .response id _ _ => ⟨protocolVersion, MessageType.response.code, id, UInt32.ofNat apiResponseSize⟩
  | .complete id _ _ =>
      ⟨protocolVersion, MessageType.txComplete.code, id, UInt32.ofNat apiResponseSize⟩
  | .newClient _ => ⟨protocolVersion, 0, 0, 0⟩

/-- The payload the worker writes for a message. -/
def payload : ClientTxMessage → List UInt8
  | .softBits _ bits => bits
  | .response _ status details | .complete _ status details => apiEncodeResponse status details
  | .newClient _ => []

end ClientTxMessage

/-- A complex sample, as the bits of its two floats. -/
abbrev Sample := UInt64

/-- What became of a frame: the output of `sdr_modem_modulate` (`none` for `NULL`),
whether there was a tail to flush and the output of `sdr_modem_modulate_flush`,
and the buffers that `sdr_process_tx` took with result 0. -/
structure Transmission where
  modulated : Option (List Sample)
  tailDue : Bool
  tail : Option (List Sample)
  handed : List (List Sample)
deriving DecidableEq, Repr

/-- A message in the queue, with its marks. -/
structure Sent where
  message : ClientTxMessage
  tag : Option Tag
  modem : Option Nat
  transmission : Option Transmission
deriving DecidableEq, Repr

/-- Where `client_tx_worker_callback` is. -/
inductive ClientTxPc where
  /-- about to call `queue_take` -/
  | take
  /-- about to write the header of a message -/
  | header (m : Sent)
  /-- about to write the payload of a message -/
  | payload (m : Sent)
  /-- about to call `queue_complete` -/
  | complete
  | finished
deriving DecidableEq, Repr

/-- About to write an empty payload, for which `write` is not called. -/
def ClientTxPc.writesNothing : ClientTxPc → Bool
  | .payload m => m.message.bufferLen = 0
  | _ => false

/-- `struct client_tx_worker_t`. -/
structure ClientTxWorker where
  queue : Fifo Sent
  clientSocket : Int
  pc : ClientTxPc
deriving DecidableEq, Repr

/-- The two parts of a message, written one after the other. -/
inductive Part where
  | header
  | payload
deriving DecidableEq, Repr

/-- What the worker wrote to a socket: a part of a message. -/
structure Written where
  part : Part
  clientSocket : Int
  sent : Sent
deriving DecidableEq, Repr

/-- The bytes that are written. -/
def Written.data (w : Written) : List UInt8 :=
  match w.part with
  | .header => apiEncodeMessageHeader w.sent.message.header
  | .payload => w.sent.message.payload

/-- **What is written for a message can be read again**: the header decodes, and the
payload is as long as it says. -/
theorem Written.data_wellFramed (clientSocket : Int) {m : Sent}
    (h : m.message.bufferLen < UInt32.size) :
    ∃ header, apiDecodeMessageHeader (Written.data ⟨.header, clientSocket, m⟩) = some header ∧
      header.messageLength.toNat = (Written.data ⟨.payload, clientSocket, m⟩).length := by
  refine ⟨m.message.header, apiDecodeMessageHeader_encode _, ?_⟩
  show m.message.header.messageLength.toNat = m.message.payload.length
  cases hm : m.message with
  | softBits id bits =>
    rw [hm] at h
    exact UInt32.toNat_ofNat_of_lt' h
  | response id status details => rfl
  | complete id status details => rfl
  | newClient fd => rfl

/-- What the worker does next: a step of its own, or a `tcp_utils_write_data` that
succeeds or fails. -/
inductive ClientTxLabel where
  | next
  | write (ok : Bool)
deriving DecidableEq, Repr

namespace ClientTxWorker

/-- A new worker: `client_socket` is -1. -/
def create : ClientTxWorker := ⟨Fifo.empty, -1, .take⟩

/-- `switch (message.type)`, up to the first write. -/
def handle (w : ClientTxWorker) (m : Sent) : ClientTxWorker :=
  match m.message with
  | .newClient clientSocket => { w with clientSocket := clientSocket, pc := .complete }
  | _ => if w.clientSocket < 0 then { w with pc := .complete } else { w with pc := .header m }

/-- One step of `client_tx_worker_callback`. -/
def step (w : ClientTxWorker) : ClientTxLabel → Option (ClientTxWorker × Option Written)
  | .next =>
      match w.pc with
      | .take =>
          match w.queue.pending with
          | m :: rest =>
              some ({ w with queue := { w.queue with pending := rest, inFlight := some m } }.handle m,
                none)
          | [] => if w.queue.closed then some ({ w with pc := .finished }, none) else none
      | .complete =>
          some ({ w with queue := { w.queue with inFlight := none }, pc := .take }, none)
      | _ => none
  | .write ok =>
      match w.pc with
      | .header m =>
          if ok then some ({ w with pc := .payload m }, some ⟨.header, w.clientSocket, m⟩)
          else some ({ w with clientSocket := -1, pc := .complete }, none)
      | .payload m =>
          if ok then some ({ w with pc := .complete }, some ⟨.payload, w.clientSocket, m⟩)
          -- nothing is written for an empty payload, so nothing can fail
          else if w.pc.writesNothing then none
          else some ({ w with clientSocket := -1, pc := .complete }, none)
      | _ => none

end ClientTxWorker

/-- Whether a message fits the queue of the worker. -/
def fitsClientTx (bufferSize : Nat) (m : Sent) : Bool := m.message.bufferLen ≤ bufferSize

end SdrModem
