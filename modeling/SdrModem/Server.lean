import SdrModem.Machine
import SdrModem.TcpServer
import SdrModem.RxWorker
import SdrModem.TxWorker

/-!
# The server: `tcp_server.c` with its workers

One machine for the four threads and their queues.  The acceptor thread accepts a
client, serves it and closes its socket; the calls it makes to the workers are
queued in `todo` and made one by one, each as soon as the queue it goes to has
room.  The rx worker, the tx worker and the client tx worker take their own steps,
and a step that puts a message into the client queue waits until there is room.

There is one client at a time, so a descriptor belongs to the connection that is
open or to nobody.  Descriptors are plain numbers and are given out again after
they were closed.

`received` and `written` record the messages acted on, with the tag their answers
carry, and what was written to which connection.
-/
namespace SdrModem
open BoundedFifo

/-- `sdr_device_type`. -/
inductive SdrType where
  | plutosdr
  | airspy
  | file
deriving DecidableEq, Repr

/-- The settings of `app_config` that the server reads. -/
structure AppConfig where
  sdrBufferLen : UInt32
  readTimeoutSeconds : Int
  queueSize : UInt16
  maxFrameSize : UInt32
  sdrType : SdrType
deriving DecidableEq, Repr

/-- `app_config_validate_and_log` in the server mode, that is with a bind address;
`none` is the return value `-1`. -/
def appConfigValidate (config : AppConfig) : Option AppConfig :=
  let config :=
    { config with
      sdrBufferLen := if config.sdrBufferLen = 0 then 262144 else config.sdrBufferLen }
  if config.readTimeoutSeconds < 0 then none
  else
    let config :=
      { config with
        readTimeoutSeconds :=
          if config.readTimeoutSeconds = 0 then 5 else config.readTimeoutSeconds
        queueSize := if config.queueSize = 0 then 64 else config.queueSize }
    if config.maxFrameSize = 0 then none
    else
      match config.sdrType with
      | .plutosdr | .airspy => some config
      | .file => none

namespace AppConfig

/-- `buffer_length` of the server: 32-bit arithmetic, which may wrap around. -/
def bufferLength (config : AppConfig) : Nat :=
  (config.sdrBufferLen + UInt32.ofNat apiHeaderSize + 100).toNat

/-- Whether the device has a `sdr_process_tx`. -/
def canTransmit (config : AppConfig) : Bool := config.sdrType ≠ .airspy

/-- Whether the device has a `sdr_process_rx`. -/
def pull (config : AppConfig) : Bool := config.sdrType ≠ .airspy

/-- What the worker loop reads of the server. -/
def tcpServer (config : AppConfig) : TcpServer :=
  ⟨config.bufferLength, config.maxFrameSize, config.canTransmit⟩

end AppConfig

/-- The client of the acceptor thread.  `script` is what `recv` was to meet when
the client was accepted and `socket` what it still meets; `count` is the number of
its messages acted on. -/
structure Client where
  conn : Nat
  clientSocket : Int
  script : List Recv
  socket : List Recv
  count : Nat
deriving DecidableEq, Repr

/-- Where the acceptor thread goes on when it has made its calls. -/
inductive AcceptorPc where
  /-- the head of the loop of `acceptor_worker` -/
  | head
  /-- inside `accept` -/
  | accepting
  /-- the head of the loop of `tcp_worker_callback` -/
  | serve
  /-- behind that loop -/
  | leave
  /-- about to close the socket -/
  | close
  | finished
deriving DecidableEq, Repr

/-- `struct tcp_server_t` with the workers and the record of what happened. -/
structure Server where
  config : AppConfig
  isRunning : Bool
  acceptor : AcceptorPc
  todo : List (Item ServerAct)
  client : Client
  isOpen : Bool
  nextConn : Nat
  rx : RxWorker
  tx : Option TxWorker
  clientTx : ClientTxWorker
  received : List (Tag × Handled)
  written : List (Option Nat × Written)
deriving DecidableEq, Repr

/-- What happens next. -/
inductive ServerLabel where
  /-- `tcp_server_shutdown` -/
  | shutdown
  /-- `accept` returns `clientSocket`, whose `recv` will meet `script`, and
  `setsockopt` succeeds or fails -/
  | accept (clientSocket : Int) (script : List Recv) (setsockopt : Bool)
  | acceptor
  | rx (r : RxResult)
  | device (r : RxResult)
  | tx (r : TxResult)
  | clientTx (l : ClientTxLabel)
  /-- `sdr_rx_worker_destroy`, `sdr_tx_worker_destroy` and
  `client_tx_worker_destroy` interrupt their queues -/
  | interruptRx
  | interruptTx
  | interruptClientTx
deriving DecidableEq, Repr

namespace Server

/-- `tcp_server_create`. -/
def create (config : AppConfig) : Server :=
  { config := config
    isRunning := true
    acceptor := .head
    todo := []
    client := ⟨0, 0, [], [], 0⟩
    isOpen := false
    nextConn := 0
    rx := RxWorker.create config.pull
    tx := if config.canTransmit then some TxWorker.create else none
    clientTx := ClientTxWorker.create
    received := []
    written := [] }

/-- The connection a descriptor belongs to. -/
def owner (s : Server) (clientSocket : Int) : Option Nat :=
  if s.isOpen ∧ clientSocket = s.client.clientSocket then some s.client.conn else none

/-- `queue_put` into the client queue; `none` while it is full. -/
def putClient (s : Server) (m : Sent) : Option Server :=
  (offer s.config.queueSize.toNat (fitsClientTx s.config.sdrBufferLen.toNat) s.clientTx.queue m).map
    fun q => { s with clientTx := { s.clientTx with queue := q } }

/-- A message goes to the client queue, if there is one. -/
def putClient? (s : Server) : Option Sent → Option Server
  | none => some s
  | some m => s.putClient m

/-- `queue_put` into the queue of the rx worker. -/
def putRx (s : Server) (c : Item RxCommand) : Option Server :=
  (s.rx.put s.config.sdrBufferLen.toNat c).map fun w => { s with rx := w }

/-- `queue_put` into the queue of the tx worker. -/
def putTx (s : Server) (c : Item TxCommand) : Option Server :=
  s.tx.bind fun w =>
    (w.put s.config.maxFrameSize.toNat s.config.queueSize.toNat c).map fun w =>
      { s with tx := some w }

/-- The acceptor thread makes a call. -/
def perform (s : Server) (a : Item ServerAct) : Option Server :=
  match a.val with
  | .sendResponse id status details => s.putClient ⟨.response id status details, a.tag, none, none⟩
  | .sendNew clientSocket => s.putClient ⟨.newClient clientSocket, none, none, none⟩
  | .setRxCommParameters id settings => s.putRx ⟨.commParameters id settings, a.tag⟩
  | .startRx id => s.putRx ⟨.start id, a.tag⟩
  | .stopRx id => s.putRx ⟨.stop id, a.tag⟩
  | .setTxCommParameters id settings => s.putTx ⟨.commParameters id settings, a.tag⟩
  | .sendFrame id frame => s.putTx ⟨.frame id frame, a.tag⟩

/-- An iteration of `tcp_worker_callback` has acted on `it`. -/
def afterIteration (s : Server) (it : Iteration) : Server :=
  let tag : Tag := ⟨s.client.conn, s.client.count⟩
  { s with
    acceptor := if it.clientDisconnected then .leave else .serve
    todo := it.acts.map fun a => ⟨a, some tag⟩
    client := { s.client with
      socket := it.socket, count := s.client.count + it.handled.toList.length }
    received := s.received ++ it.handled.toList.map fun h => (tag, h) }

/-- The acceptor thread with no call left to make. -/
def acceptorStep (s : Server) : Option Server :=
  match s.acceptor with
  | .head => some { s with acceptor := if s.isRunning then .accepting else .finished }
  | .serve =>
      if s.isRunning then
        (tcpWorkerIteration s.config.tcpServer s.client.socket).map s.afterIteration
      else some { s with acceptor := .leave }
  | .leave => some { s with acceptor := .close, todo := [⟨.stopRx 0, none⟩] }
  | .close => some { s with acceptor := .head, isOpen := false }
  | .accepting | .finished => none

/-- A new client: the descriptor goes to the client tx worker, and the client is
served. -/
def acceptClient (s : Server) (clientSocket : Int) (script : List Recv) : Server :=
  { s with
    acceptor := .serve
    todo := [⟨.sendNew clientSocket, none⟩]
    client := ⟨s.nextConn, clientSocket, script, script, 0⟩
    isOpen := true
    nextConn := s.nextConn + 1 }

/-- `tcp_utils_write_data` to a descriptor that belongs to nobody fails, unless
there is nothing to write. -/
def writeAllowed (s : Server) : ClientTxLabel → Bool
  | .write true => (s.owner s.clientTx.clientSocket).isSome || s.clientTx.pc.writesNothing
  | _ => true

/-- What was written reaches the connection that owns the descriptor. -/
def record (s : Server) (w : Option Written) : List (Option Nat × Written) :=
  s.written ++ w.toList.map fun w => (s.owner w.clientSocket, w)

/-- One step of one thread. -/
def step (s : Server) : ServerLabel → Option Server
  | .shutdown => some { s with isRunning := false }
  | .accept clientSocket script setsockopt =>
      if s.acceptor = .accepting then
        if clientSocket < 0 then some { s with acceptor := .finished }
        else if setsockopt then some (s.acceptClient clientSocket script)
        else some { s with acceptor := .head }
      else none
  | .acceptor =>
      match s.todo with
      | a :: rest => ({ s with todo := rest } : Server).perform a
      | [] => s.acceptorStep
  | .rx r =>
      (s.rx.workerStep r).bind fun (w, sent) => ({ s with rx := w } : Server).putClient? sent
  | .device r =>
      (s.rx.deviceStep r).bind fun (w, sent) => ({ s with rx := w } : Server).putClient? sent
  | .tx r =>
      s.tx.bind fun w =>
        (w.step r).bind fun (w, sent) => ({ s with tx := some w } : Server).putClient? sent
  | .clientTx l =>
      if s.writeAllowed l then
        (s.clientTx.step l).map fun (w, out) =>
          { s with clientTx := w, written := s.record out }
      else none
  | .interruptRx => if s.acceptor = .finished then some { s with rx := s.rx.interrupt } else none
  | .interruptTx =>
      if s.acceptor = .finished ∧ s.rx.pc = .finished then
        some { s with tx := s.tx.map TxWorker.interrupt }
      else none
  | .interruptClientTx =>
      if s.acceptor = .finished ∧ s.rx.pc = .finished ∧ s.tx.all (fun w => w.pc = .finished) then
        some { s with
          clientTx := { s.clientTx with queue := { s.clientTx.queue with closed := true } } }
      else none

end Server
end SdrModem
