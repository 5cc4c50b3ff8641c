import SdrModem.DeviceLifecycle

/-!
# What a server leaves behind

`tcp_server_create`, a server that is used, and `tcp_server_join_thread`.  Whatever is refused on
the way, nothing is given back twice or while a thread uses it, and nothing is left but the
listening socket.

The threads are those of the server.  That they end, and that the thread of the device is stopped
by then, is the subject of `SdrModem.ServerShutdown`.
-/
namespace SdrModem
open Ledger

variable {shared : Multiset (Thing ResourceKind)}

/-- `struct tcp_server_t`.  There is a worker that transmits only for a device that can. -/
structure ServerBlocks where
  self : Handle ResourceKind.memory
  buffer : Option (Handle ResourceKind.memory)
  sdr : Option DeviceBlocks
  txWorker : Option ClientTxBlocks
  sdrRxWorker : Option WorkerBlocks
  sdrTxWorker : Option WorkerBlocks
  thread : Option Nat
  transmits : sdrTxWorker.isSome = true → sdr.elim false DeviceBlocks.canTransmit = true

/-- What stays of a server: the blocks that its threads use, and the threads. -/
structure ServerShape where
  base : List (Thing ResourceKind)
  sdr : List (Thing ResourceKind)
  txWorker : List (Thing ResourceKind) × Option Nat
  sdrRxWorker : List (Thing ResourceKind) × Option Nat
  sdrTxWorker : List (Thing ResourceKind) × Option Nat
  thread : Option Nat

namespace ServerShape
variable (sh : ServerShape)

/-- What the workers of the device use. -/
def env : List (Thing ResourceKind) := sh.txWorker.1 ++ sh.sdr

/-- What the acceptor uses. -/
def uses : List (Thing ResourceKind) :=
  sh.sdrRxWorker.1 ++ (sh.sdrTxWorker.1 ++ (sh.env ++ sh.base))

/-- A worker of the device. -/
def worker (w : List (Thing ResourceKind) × Option Nat) : Holding ResourceKind :=
  started (w.1 ++ sh.env) w.2 + things w.1

def stable : Holding ResourceKind :=
  started sh.uses sh.thread + (sh.worker sh.sdrRxWorker + (sh.worker sh.sdrTxWorker +
    (started sh.txWorker.1 sh.txWorker.2 + things (sh.env ++ sh.base))))

end ServerShape

namespace ServerBlocks

theorem transmits_none (sdr : Option DeviceBlocks)
    (h : (none : Option WorkerBlocks).isSome = true) :
    sdr.elim false DeviceBlocks.canTransmit = true :=
  absurd h Bool.false_ne_true

/-- A server that has not come to the worker that transmits. -/
def receiving (self : Handle ResourceKind.memory) (buffer : Option (Handle ResourceKind.memory))
    (sdr : Option DeviceBlocks) (txWorker : Option ClientTxBlocks)
    (sdrRxWorker : Option WorkerBlocks) : ServerBlocks :=
  ⟨self, buffer, sdr, txWorker, sdrRxWorker, none, none, transmits_none sdr⟩

variable (s : ServerBlocks)

/-- The buffer and the server itself. -/
def base : List (Thing ResourceKind) := handleIf s.buffer ++ [s.self.thing]

def shape : ServerShape where
  base := s.base
  sdr := s.sdr.elim [] DeviceBlocks.blocks
  txWorker := s.txWorker.elim ([], none) fun w => (w.blocks, w.thread)
  sdrRxWorker := s.sdrRxWorker.elim ([], none) fun w => (w.blocks, w.thread)
  sdrTxWorker := s.sdrTxWorker.elim ([], none) fun w => (w.blocks, w.thread)
  thread := s.thread

/-- The modems and the buffers of the device, which come and go while the threads run. -/
def loose : List (Thing ResourceKind) :=
  handleIf (s.sdrRxWorker.bind WorkerBlocks.modem) ++
    (handleIf (s.sdrTxWorker.bind WorkerBlocks.modem) ++ s.sdr.elim [] DeviceBlocks.buffers)

def holding : Holding ResourceKind := things s.loose + s.shape.stable

/-- All that was created, without the acceptor. -/
def parts : Holding ResourceKind :=
  ifAny s.sdrRxWorker (WorkerBlocks.holding · s.shape.env) +
    (ifAny s.sdrTxWorker (WorkerBlocks.holding · s.shape.env) +
      (ifAny s.txWorker ClientTxBlocks.holding +
        (ifAny s.sdr DeviceBlocks.holding + things s.base)))

/-- `tcp_server_destroy`. -/
def destroy : Program ResourceKind Unit := do
  doIf s.sdrRxWorker (WorkerBlocks.sdrRxWorkerDestroy · s.shape.env)
  doIf s.sdrTxWorker (WorkerBlocks.sdrTxWorkerDestroy · s.shape.env)
  doIf s.txWorker ClientTxBlocks.destroy
  doIf s.sdr DeviceBlocks.destroy
  releaseIf s.buffer
  release s.self

/-- `tcp_server_join_thread`. -/
def joinThread : Program ResourceKind Unit := do
  joinIf s.shape.uses s.thread
  s.destroy

end ServerBlocks

/-- A call on the server's socket, which fails if there is none. -/
def onSocket (socket : Option (Handle ResourceKind.descriptor)) :
    Program ResourceKind (Except Int Unit) :=
  match socket with
  | none => return .error (-1)
  | some _ => checks 1

/-- The settings that decide about the requests of a server. -/
structure ServerSettings where
  sdrBufferLen : UInt32
  queueSize : UInt16
  maxFrameSize : UInt32
  device : DeviceSettings

namespace ServerBlocks

/-- `tcp_server_create` from the options of the socket on. -/
def listen (socket : Option (Handle ResourceKind.descriptor)) (result : ServerBlocks) :
    Program ResourceKind (Except Int ServerBlocks) :=
  -- `SO_REUSEADDR` and `SO_REUSEPORT`
  orUndo (onSocket socket) (fun _ => do result.destroy; return -1) fun _ =>
  orUndo (onSocket socket) (fun _ => do result.destroy; return -1) fun _ =>
  -- `inet_pton`
  orUndo (checks 1) (fun _ => do result.destroy; return -1) fun _ =>
  -- `bind` and `listen`
  orUndo (onSocket socket) (fun _ => do result.destroy; return -1) fun _ =>
  orUndo (onSocket socket) (fun _ => do result.destroy; return -1) fun _ =>
  orUndo (pthreadCreate result.shape.uses) (fun _ => do result.destroy; return -1) fun thread =>
  pure (.ok { result with thread := some thread })

/-- `tcp_server_create` from the buffer on. -/
def setup (config : ServerSettings) (memory : Nat → QueueNode)
    (socket : Option (Handle ResourceKind.descriptor)) (self : Handle ResourceKind.memory) :
    Program ResourceKind (Except Int ServerBlocks) :=
  let result := receiving self none none none none
  orUndo malloc (fun code => do result.destroy; return code) fun buffer =>
  let result := receiving self (some buffer) none none none
  orUndo (DeviceBlocks.create config.device) (fun _ => do result.destroy; return -1) fun sdr =>
  let result := receiving self (some buffer) (some sdr.1) none none
  orUndo (ClientTxBlocks.create memory config.sdrBufferLen config.queueSize)
    (fun _ => do result.destroy; return -1) fun txWorker =>
  let result := receiving self (some buffer) (some sdr.1) (some txWorker) none
  orUndo (WorkerBlocks.sdrRxWorkerCreate result.shape.env memory config.sdrBufferLen)
    (fun _ => do result.destroy; return -1) fun sdrRxWorker =>
  let result := receiving self (some buffer) (some sdr.1) (some txWorker) (some sdrRxWorker)
  -- some SDRs don't support TX
  if h : sdr.1.canTransmit = true then
    orUndo (WorkerBlocks.sdrTxWorkerCreate result.shape.env memory config.maxFrameSize
        config.queueSize)
      (fun _ => do result.destroy; return -1) fun sdrTxWorker =>
    listen socket { result with sdrTxWorker := some sdrTxWorker, transmits := fun _ => h }
  else listen socket result

end ServerBlocks

/-- `tcp_server_create`, with the socket that it opened.  The socket may be the descriptor 0, if
that was closed. -/
def tcpServerCreate (config : ServerSettings) (memory : Nat → QueueNode) (isZero : Bool) :
    Program ResourceKind
      (Option (Handle ResourceKind.descriptor) × Except Int ServerBlocks) := do
  match ← malloc with
  | .error code => return (none, .error code)
  | .ok self =>
    let socket ← acquire .descriptor
    if socket.isSome && isZero then
      (ServerBlocks.receiving self none none none none).destroy
      return (socket, .error (-1))
    else
      let server ← ServerBlocks.setup config memory socket self
      return (socket, server)

/-! ## The use of a server -/

/-- What happens to the blocks of a server that is used. -/
inductive ServerUse where
  /-- a section of an operation of one of the queues -/
  | clientTxQueue (l : MonitorLabel Nat)
  | sdrRxQueue (l : MonitorLabel Nat)
  | sdrTxQueue (l : MonitorLabel Nat)
  /-- a command that the workers handle -/
  | rxCommParameters
  | txCommParameters
  | rxStart
  | rxStop

/-- The `COMM_PARAMETERS` branch of both workers, for settings that can be decoded: the modem and
the device after it. -/
def handleCommParameters {α : Type} (modem : Option (Handle ResourceKind.modem)) (sdr : α)
    (setParameters : Program ResourceKind (Bool × α)) :
    Program ResourceKind (Option (Handle ResourceKind.modem) × α) := do
  match ← acquire .modem with
  | none => return (modem, sdr)
  | some newModem =>
    let (ok, sdr) ← setParameters
    if ok then
      releaseIf modem
      return (some newModem, sdr)
    else
      release newModem
      return (modem, sdr)

namespace ServerBlocks

/-- A server of the same shape. -/
abbrev Same (s : ServerBlocks) := { s' : ServerBlocks // s'.shape = s.shape }

section Shape
variable {s : ServerBlocks} {w : WorkerBlocks} {d : DeviceBlocks}
variable {self : Handle ResourceKind.memory} {buffer : Option (Handle ResourceKind.memory)}
variable {txWorker : Option ClientTxBlocks} {sdrRxWorker sdrTxWorker : Option WorkerBlocks}
variable {thread : Option Nat}
variable (h : sdrTxWorker.isSome = true → (some d).elim false DeviceBlocks.canTransmit = true)
variable (modem : Option (Handle ResourceKind.modem)) (sdr : d.Same) (l : MonitorLabel Nat)

include h in
/-- The device that takes the place of another transmits for the same worker. -/
theorem transmits_same (hworker : sdrTxWorker.isSome = true) :
    (some sdr.1).elim false DeviceBlocks.canTransmit = true :=
  sdr.2.2.trans (h hworker)

theorem shape_sdr :
    shape ⟨self, buffer, some sdr.1, txWorker, sdrRxWorker, sdrTxWorker, thread,
        transmits_same h sdr⟩ =
      shape ⟨self, buffer, some d, txWorker, sdrRxWorker, sdrTxWorker, thread, h⟩ := by
  simp [shape, base, sdr.2.1]

theorem shape_rxModem :
    shape ⟨self, buffer, some sdr.1, txWorker, some { w with modem := modem }, sdrTxWorker,
        thread, transmits_same h sdr⟩ =
      shape ⟨self, buffer, some d, txWorker, some w, sdrTxWorker, thread, h⟩ :=
  shape_sdr h sdr

theorem shape_txModem (h : (some w).isSome = true →
      (some d).elim false DeviceBlocks.canTransmit = true) :
    shape ⟨self, buffer, some sdr.1, txWorker, sdrRxWorker, some { w with modem := modem },
        thread, transmits_same h sdr⟩ =
      shape ⟨self, buffer, some d, txWorker, sdrRxWorker, some w, thread, h⟩ :=
  shape_sdr h sdr

/-- The worker that transmits with another queue. -/
theorem transmits_use (hworker : (s.sdrTxWorker.map (·.use l)).isSome = true) :
    s.sdr.elim false DeviceBlocks.canTransmit = true :=
  s.transmits (Option.isSome_map.symm.trans hworker)

theorem shape_clientTxQueue :
    shape { s with txWorker := s.txWorker.map (·.use l) } = s.shape := by
  cases h : s.txWorker <;> simp [shape, base, h]

theorem shape_sdrRxQueue :
    shape { s with sdrRxWorker := s.sdrRxWorker.map (·.use l) } = s.shape := by
  cases h : s.sdrRxWorker <;> simp [shape, base, h]

theorem shape_sdrTxQueue :
    shape { s with
      sdrTxWorker := s.sdrTxWorker.map (·.use l), transmits := transmits_use l } = s.shape := by
  obtain ⟨self, buffer, sdr, txWorker, sdrRxWorker, sdrTxWorker, thread, transmits⟩ := s
  cases sdrTxWorker <;> simp [shape, base]

end Shape

/-- The `SDR_RX_COMM_PARAMETERS` branch of `sdr_rx_worker_handle_message`. -/
def handleRxCommParameters : (s : ServerBlocks) → Program ResourceKind s.Same
  | ⟨self, buffer, some d, txWorker, some w, sdrTxWorker, thread, transmits⟩ => do
    let r ← handleCommParameters w.modem d.same d.setRxParameters
    return ⟨⟨self, buffer, some r.2.1, txWorker, some { w with modem := r.1 }, sdrTxWorker,
      thread, transmits_same transmits r.2⟩, shape_rxModem transmits r.1 r.2⟩
  | s => return ⟨s, rfl⟩

/-- The `SDR_TX_COMM_PARAMETERS` branch of `sdr_tx_worker_callback`. -/
def handleTxCommParameters : (s : ServerBlocks) → Program ResourceKind s.Same
  | ⟨self, buffer, some d, txWorker, sdrRxWorker, some w, thread, transmits⟩ => do
    let r ← handleCommParameters w.modem d.same (d.setTxParameters (transmits rfl))
    return ⟨⟨self, buffer, some r.2.1, txWorker, sdrRxWorker, some { w with modem := r.1 },
      thread, transmits_same transmits r.2⟩, shape_txModem r.1 r.2 transmits⟩
  | s => return ⟨s, rfl⟩

/-- A call of the device that keeps its blocks. -/
def onDevice (call : (d : DeviceBlocks) → Program ResourceKind d.Same) :
    (s : ServerBlocks) → Program ResourceKind s.Same
  | ⟨self, buffer, some d, txWorker, sdrRxWorker, sdrTxWorker, thread, transmits⟩ => do
    let sdr ← call d
    return ⟨⟨self, buffer, some sdr.1, txWorker, sdrRxWorker, sdrTxWorker, thread,
      transmits_same transmits sdr⟩, shape_sdr transmits sdr⟩
  | s => return ⟨s, rfl⟩

/-- A server in use. -/
def use (s : ServerBlocks) : ServerUse → Program ResourceKind s.Same
  | .clientTxQueue l =>
    return ⟨{ s with txWorker := s.txWorker.map (·.use l) }, shape_clientTxQueue l⟩
  | .sdrRxQueue l =>
    return ⟨{ s with sdrRxWorker := s.sdrRxWorker.map (·.use l) }, shape_sdrRxQueue l⟩
  | .sdrTxQueue l =>
    return ⟨{ s with
      sdrTxWorker := s.sdrTxWorker.map (·.use l), transmits := transmits_use l },
      shape_sdrTxQueue l⟩
  | .rxCommParameters => s.handleRxCommParameters
  | .txCommParameters => s.handleTxCommParameters
  | .rxStart => s.onDevice DeviceBlocks.startRx
  | .rxStop => s.onDevice DeviceBlocks.stopRx

/-- One use after the other. -/
def useAll (s : ServerBlocks) : List ServerUse → Program ResourceKind s.Same
  | [] => return ⟨s, rfl⟩
  | u :: us => do
    let s' ← s.use u
    let t ← useAll s'.1 us
    return ⟨t.1, t.2.trans s'.2⟩

end ServerBlocks

/-- `tcp_server_shutdown`: the socket that is left open. -/
def tcpServerShutdown (socket : Option (Handle ResourceKind.descriptor)) :
    Program ResourceKind (Option (Handle ResourceKind.descriptor)) := do
  if ← attempt then return socket
  else
    releaseIf socket
    return none

/-- A server from its beginning to its end: the socket that is left open. -/
def tcpServerRun (config : ServerSettings) (memory : Nat → QueueNode) (isZero : Bool)
    (us : List ServerUse) : Program ResourceKind (Option (Handle ResourceKind.descriptor)) := do
  match ← tcpServerCreate config memory isZero with
  | (socket, .error _) => return socket
  | (socket, .ok server) =>
    let server ← server.useAll us
    let socket ← tcpServerShutdown socket
    server.1.joinThread
    return socket

/-! ## Nothing else is left -/

theorem handleCommParameters_spec {α : Type} (A : α → Holding ResourceKind)
    (modem : Option (Handle ResourceKind.modem)) (sdr : α)
    {setParameters : Program ResourceKind (Bool × α)} (hA : ∀ a, Closed shared (A a))
    (hset : Spec shared (A sdr) setParameters fun r => A r.2) :
    Spec shared (things (handleIf modem) + A sdr) (handleCommParameters modem sdr setParameters)
      fun r => things (handleIf r.1) + A r.2 := by
  have hmodem : Closed shared (things (handleIf modem)) := closed_things _
  refine (((Spec.acquire _).frame (hmodem.add (hA sdr))).of_eq (zero_add _).symm fun _ => rfl).bind
    fun newModem => ?_
  cases newModem with
  | none => exact Spec.pure (zero_add _)
  | some newModem =>
    have hnew : Closed shared (got (some newModem)) := closed_things _
    refine ((hset.frame (hnew.add hmodem)).of_eq ?_ fun _ => rfl).bind fun r => ?_
    · abel
    obtain ⟨ok, sdr'⟩ := r
    cases ok with
    | true =>
      refine (((releaseIf_spec modem).frame (hnew.add (hA sdr'))).of_eq ?_ fun _ => zero_add _).bind
        fun _ => Spec.pure rfl
      change A sdr' + _ = _
      abel
    | false =>
      refine (((Spec.release newModem).frame (hmodem.add (hA sdr'))).of_eq ?_
        fun _ => zero_add _).bind fun _ => Spec.pure rfl
      change A sdr' + (things [newModem.thing] + _) = _
      abel

/-- The same, for what the workers call: a device that keeps its blocks. -/
theorem handleCommParameters_device (modem : Option (Handle ResourceKind.modem))
    {d : DeviceBlocks} {setParameters : Program ResourceKind (Bool × d.Same)}
    (hset : Spec shared (things d.buffers) setParameters fun r => things r.2.1.buffers) :
    Spec shared (things (handleIf modem) + things d.buffers)
      (handleCommParameters modem d.same setParameters)
      fun r => things (handleIf r.1) + things r.2.1.buffers :=
  handleCommParameters_spec (fun d' : d.Same => things d'.1.buffers) modem d.same
    (fun _ => closed_things _) hset

@[simp] theorem fst_started (uses : List (Thing ResourceKind)) (id : Option Nat) :
    (started uses id).1 = 0 := rfl

@[simp] theorem fst_things (l : List (Thing ResourceKind)) : (things l).1 = l := rfl

namespace ServerShape
variable (sh : ServerShape)

/-- A worker of the device beside what its thread uses. -/
theorem worker_closed (w : List (Thing ResourceKind) × Option Nat) {k : Holding ResourceKind}
    (henv : ∀ r ∈ sh.env, r ∈ k.1 ∨ r ∈ shared) (hk : Closed shared k) :
    Closed shared (sh.worker w + k) := by
  rw [worker, add_assoc]
  refine closed_started (fun r hr => ?_) ((closed_things _).add hk)
  rcases List.mem_append.mp hr with hr | hr
  · exact Or.inl (Multiset.mem_add.mpr (Or.inl hr))
  · exact (henv r hr).imp_left fun hmem => Multiset.mem_add.mpr (Or.inr hmem)

/-- **The threads use only what stays.** -/
theorem stable_closed : Closed shared sh.stable := by
  have hwriter :
      Closed shared (started sh.txWorker.1 sh.txWorker.2 + things (sh.env ++ sh.base)) := by
    refine closed_started (fun r hr => Or.inl ?_) (closed_things _)
    simp [env, hr]
  have htx := sh.worker_closed sh.sdrTxWorker (fun r hr => Or.inl (by simp [hr])) hwriter
  have hrx := sh.worker_closed sh.sdrRxWorker (fun r hr => Or.inl (by simp [hr])) htx
  refine closed_started (fun r hr => Or.inl ?_) hrx
  simpa [uses, worker, or_assoc] using hr

end ServerShape

namespace ServerBlocks
variable (s : ServerBlocks)

theorem handleRxCommParameters_spec :
    Spec shared (things s.loose) s.handleRxCommParameters fun s' => things s'.1.loose := by
  obtain ⟨self, buffer, _ | d, txWorker, sdrRxWorker, sdrTxWorker, thread, transmits⟩ := s
  · exact Spec.pure rfl
  cases sdrRxWorker with
  | none => exact Spec.pure rfl
  | some w =>
    have hframe : Closed shared (things (handleIf (sdrTxWorker.bind WorkerBlocks.modem))) :=
      closed_things _
    refine (((handleCommParameters_device w.modem d.setRxParameters_spec).frame hframe).of_eq ?_
      fun _ => rfl).bind fun r => Spec.pure ?_
    · simp only [loose, Option.bind_some, Option.elim_some, things_append]
      abel
    · simp only [loose, Option.bind_some, Option.elim_some, things_append]
      abel

theorem handleTxCommParameters_spec :
    Spec shared (things s.loose) s.handleTxCommParameters fun s' => things s'.1.loose := by
  obtain ⟨self, buffer, _ | d, txWorker, sdrRxWorker, sdrTxWorker, thread, transmits⟩ := s
  · exact Spec.pure rfl
  cases sdrTxWorker with
  | none => exact Spec.pure rfl
  | some w =>
    have hframe : Closed shared (things (handleIf (sdrRxWorker.bind WorkerBlocks.modem))) :=
      closed_things _
    refine (((handleCommParameters_device w.modem
      (d.setTxParameters_spec (transmits rfl))).frame hframe).of_eq ?_
      fun _ => rfl).bind fun r => Spec.pure ?_
    · simp only [loose, Option.bind_some, Option.elim_some, things_append]
      abel
    · simp only [loose, Option.bind_some, Option.elim_some, things_append]
      abel

theorem onDevice_spec {call : (d : DeviceBlocks) → Program ResourceKind d.Same}
    (hcall : ∀ d, Spec shared (things d.buffers) (call d) fun d' => things d'.1.buffers) :
    Spec shared (things s.loose) (s.onDevice call) fun s' => things s'.1.loose := by
  obtain ⟨self, buffer, _ | d, txWorker, sdrRxWorker, sdrTxWorker, thread, transmits⟩ := s
  · exact Spec.pure rfl
  have hframe : Closed shared (things (handleIf (sdrRxWorker.bind WorkerBlocks.modem)) +
      things (handleIf (sdrTxWorker.bind WorkerBlocks.modem))) :=
    (closed_things _).add (closed_things _)
  refine (((hcall d).frame hframe).of_eq ?_ fun _ => rfl).bind fun r => Spec.pure ?_
  · simp only [loose, Option.elim_some, things_append]
    abel
  · simp only [loose, Option.elim_some, things_append]
    abel

/-- **Only the modems and the buffers of the device come and go.** -/
theorem use_spec (u : ServerUse) :
    Spec shared (things s.loose) (s.use u) fun s' => things s'.1.loose := by
  cases u with
  | clientTxQueue l => exact Spec.pure rfl
  | sdrRxQueue l =>
    obtain ⟨self, buffer, sdr, txWorker, sdrRxWorker, sdrTxWorker, thread, transmits⟩ := s
    cases sdrRxWorker <;> exact Spec.pure rfl
  | sdrTxQueue l =>
    obtain ⟨self, buffer, sdr, txWorker, sdrRxWorker, sdrTxWorker, thread, transmits⟩ := s
    cases sdrTxWorker <;> exact Spec.pure rfl
  | rxCommParameters => exact s.handleRxCommParameters_spec
  | txCommParameters => exact s.handleTxCommParameters_spec
  | rxStart => exact s.onDevice_spec DeviceBlocks.startRx_spec
  | rxStop => exact s.onDevice_spec DeviceBlocks.stopRx_spec

theorem useAll_spec (us : List ServerUse) :
    Spec shared (things s.loose) (s.useAll us) fun t => things t.1.loose := by
  induction us generalizing s with
  | nil => exact Spec.pure rfl
  | cons u us ih => exact (s.use_spec u).bind fun s' => (ih s'.1).bind fun t => Spec.pure rfl

/-- **A server that is used is still all there.** -/
theorem useAll_holding (us : List ServerUse) :
    Spec shared s.holding (s.useAll us) fun t => t.1.holding :=
  ((s.useAll_spec us).frame s.shape.stable_closed).of_eq rfl fun t => by rw [holding, t.2]

theorem ifAny_worker (env : List (Thing ResourceKind)) (w : Option WorkerBlocks) :
    ifAny w (WorkerBlocks.holding · env) = things (handleIf (w.bind WorkerBlocks.modem)) +
      (started ((w.elim ([], none) fun w => (w.blocks, w.thread)).1 ++ env)
        (w.elim ([], none) fun w => (w.blocks, w.thread)).2 +
          things (w.elim ([], none) fun w => (w.blocks, w.thread)).1) := by
  cases w with
  | none => simp [things_nil]
  | some w => rfl

theorem ifAny_clientTx (w : Option ClientTxBlocks) :
    ifAny w ClientTxBlocks.holding =
      started (w.elim ([], none) fun w => (w.blocks, w.thread)).1
        (w.elim ([], none) fun w => (w.blocks, w.thread)).2 +
          things (w.elim ([], none) fun w => (w.blocks, w.thread)).1 := by
  cases w with
  | none => simp [things_nil]
  | some w => rfl

theorem ifAny_sdr (d : Option DeviceBlocks) :
    ifAny d DeviceBlocks.holding =
      things (d.elim [] DeviceBlocks.buffers) + things (d.elim [] DeviceBlocks.blocks) := by
  cases d with
  | none => simp [things_nil]
  | some d => exact things_append _ _

/-- All there is without the acceptor, part by part. -/
theorem parts_eq : s.parts = things s.loose + (s.shape.worker s.shape.sdrRxWorker +
    (s.shape.worker s.shape.sdrTxWorker + (started s.shape.txWorker.1 s.shape.txWorker.2 +
      things (s.shape.env ++ s.shape.base)))) := by
  rw [parts, ifAny_worker, ifAny_worker, ifAny_clientTx, ifAny_sdr, loose, things_append,
    things_append, ServerShape.worker, ServerShape.worker, things_append, ServerShape.env,
    things_append]
  simp only [shape]
  abel

theorem holding_eq : s.holding = started s.shape.uses s.thread + s.parts := by
  rw [parts_eq, holding, ServerShape.stable]
  exact add_left_comm _ _ _

/-- The parts without the acceptor use only each other. -/
theorem parts_closed : Closed shared s.parts := by
  rw [parts_eq]
  refine (closed_things _).add (s.shape.worker_closed _ (fun r hr => Or.inl ?_)
    (s.shape.worker_closed _ (fun r hr => Or.inl ?_)
      (closed_started (fun r hr => Or.inl ?_) (closed_things _))))
  · simp [hr]
  · simp [hr]
  · simp [ServerShape.env, hr]

/-- The device, the buffer and the server itself. -/
theorem sdr_closed : Closed shared (ifAny s.sdr DeviceBlocks.holding + things s.base) := by
  rw [ifAny_sdr]
  exact ((closed_things _).add (closed_things _)).add (closed_things _)

theorem clientTx_closed : Closed shared (ifAny s.txWorker ClientTxBlocks.holding +
    (ifAny s.sdr DeviceBlocks.holding + things s.base)) := by
  rw [ifAny_clientTx, add_assoc]
  exact closed_started (fun r hr => Or.inl (Multiset.mem_add.mpr (Or.inl hr)))
    ((closed_things _).add s.sdr_closed)

/-- What the workers of the device use is there. -/
theorem mem_of_mem_env {r : Thing ResourceKind} (hr : r ∈ s.shape.env) :
    r ∈ (ifAny s.txWorker ClientTxBlocks.holding +
      (ifAny s.sdr DeviceBlocks.holding + things s.base)).1 := by
  rw [ifAny_clientTx, ifAny_sdr]
  rcases List.mem_append.mp hr with hr | hr
  · exact Multiset.mem_add.mpr (Or.inl (Multiset.mem_add.mpr (Or.inr hr)))
  · exact Multiset.mem_add.mpr (Or.inr (Multiset.mem_add.mpr (Or.inl
      (Multiset.mem_add.mpr (Or.inr hr)))))

theorem sdrTxWorker_closed :
    Closed shared (ifAny s.sdrTxWorker (WorkerBlocks.holding · s.shape.env) +
      (ifAny s.txWorker ClientTxBlocks.holding +
        (ifAny s.sdr DeviceBlocks.holding + things s.base))) := by
  rw [ifAny_worker, add_assoc]
  exact (closed_things _).add
    (s.shape.worker_closed _ (fun _ hr => Or.inl (s.mem_of_mem_env hr)) s.clientTx_closed)

theorem destroy_spec : Spec shared s.parts s.destroy fun _ => 0 := by
  refine (Spec.doIf (fun w => w.sdrRxWorkerDestroy_spec _) _).andThen ?_ s.sdrTxWorker_closed
  refine (Spec.doIf (fun w => w.sdrTxWorkerDestroy_spec _) _).andThen ?_ s.clientTx_closed
  refine (Spec.doIf ClientTxBlocks.destroy_spec _).andThen ?_ s.sdr_closed
  refine (Spec.doIf DeviceBlocks.destroy_spec _).andThen ?_ (closed_things _)
  exact then_spec (releaseIf_spec _) (Spec.release _)

theorem holding_closed : Closed shared s.holding :=
  (closed_things _).add s.shape.stable_closed

theorem joinThread_spec : Spec shared s.holding s.joinThread fun _ => 0 := by
  rw [holding_eq]
  exact (Spec.joinIf _ _).andThen s.destroy_spec s.parts_closed

theorem onSocket_spec (socket : Option (Handle ResourceKind.descriptor)) :
    Spec shared 0 (onSocket socket) (held fun _ => 0) := by
  cases socket with
  | none => exact Spec.pure rfl
  | some socket => exact checks_spec 1

/-- The blocks are given back if a step fails. -/
theorem step_spec {ε α : Type} {request : Program ResourceKind (Except ε α)} {code : ε → Int}
    {next : α → Program ResourceKind (Except Int ServerBlocks)} {A : α → Holding ResourceKind}
    (T : α → ServerBlocks) (hrequest : Spec shared 0 request (held A))
    (hT : ∀ a, (T a).parts = A a + s.parts)
    (hnext : ∀ a, Spec shared (T a).parts (next a) (held holding)) :
    Spec shared s.parts
      (orUndo request (fun e => s.destroy >>= fun _ => pure (code e)) next) (held holding) :=
  Spec.step (fun a => (T a).parts) hrequest s.parts_closed s.destroy_spec hT hnext

/-- The same for a worker, which uses the client tx worker and the device. -/
theorem worker_spec {ε α : Type} {request : Program ResourceKind (Except ε α)} {code : ε → Int}
    {next : α → Program ResourceKind (Except Int ServerBlocks)} {A : α → Holding ResourceKind}
    (T : α → ServerBlocks)
    (hrequest : Spec (shared + (s.shape.env : Multiset (Thing ResourceKind))) 0 request (held A))
    (hT : ∀ a, (T a).parts = A a + s.parts)
    (hnext : ∀ a, Spec shared (T a).parts (next a) (held holding)) :
    Spec shared s.parts
      (orUndo request (fun e => s.destroy >>= fun _ => pure (code e)) next) (held holding) := by
  refine Spec.orUndo (Spec.within (l := s.shape.env)
    (things s.loose + (s.shape.worker s.shape.sdrRxWorker + (s.shape.worker s.shape.sdrTxWorker +
      (started s.shape.txWorker.1 s.shape.txWorker.2 + things s.base)))) hrequest ?_ ?_)
    (fun _ => s.destroy_spec.returns _) fun a => hT a ▸ hnext a
  · rw [parts_eq, things_append]
    change _ + (_ + (_ + (_ + (_ + things s.base)))) = _
    abel
  · have henv : ∀ r ∈ s.shape.env, r ∈ shared + (s.shape.env : Multiset (Thing ResourceKind)) :=
      fun r hr => Multiset.mem_add.mpr (Or.inr hr)
    refine (closed_things _).add (s.shape.worker_closed _ (fun r hr => Or.inr (henv r hr))
      (s.shape.worker_closed _ (fun r hr => Or.inr (henv r hr))
        (closed_started (fun r hr => Or.inr (henv r ?_)) (closed_things _))))
    exact List.mem_append_left _ hr

/-- What the acceptor uses is there. -/
theorem mem_of_mem_uses {r : Thing ResourceKind} (hr : r ∈ s.shape.uses) : r ∈ s.parts.1 := by
  rw [parts_eq]
  simp only [ServerShape.uses, List.mem_append] at hr
  simp only [ServerShape.worker, Prod.fst_add, fst_started, fst_things, zero_add,
    Multiset.mem_add, Multiset.mem_coe, List.mem_append]
  tauto

/-- What is left to do when all workers are there. -/
theorem listen_spec (socket : Option (Handle ResourceKind.descriptor)) :
    Spec shared s.parts (listen socket s) (held holding) := by
  refine step_spec _ (fun _ => _) (onSocket_spec socket) (fun _ => (zero_add _).symm) fun _ => ?_
  refine step_spec _ (fun _ => _) (onSocket_spec socket) (fun _ => (zero_add _).symm) fun _ => ?_
  refine step_spec _ (fun _ => _) (checks_spec 1) (fun _ => (zero_add _).symm) fun _ => ?_
  refine step_spec _ (fun _ => _) (onSocket_spec socket) (fun _ => (zero_add _).symm) fun _ => ?_
  refine step_spec _ (fun _ => _) (onSocket_spec socket) (fun _ => (zero_add _).symm) fun _ => ?_
  refine Spec.orUndo (pthreadCreate_spec fun r hr => Or.inl (mem_of_mem_uses _ hr))
    (fun _ => (destroy_spec _).returns _) fun thread => Spec.pure ?_
  exact (holding_eq { s with thread := some thread }).symm

theorem setup_spec (config : ServerSettings) (memory : Nat → QueueNode)
    (socket : Option (Handle ResourceKind.descriptor)) (self : Handle ResourceKind.memory) :
    Spec shared (receiving self none none none none).parts
      (setup config memory socket self) (held holding) := by
  refine step_spec _ (fun buffer => receiving self (some buffer) none none none) malloc_spec
    (fun _ => ?_) fun buffer => ?_
  · simp [receiving, parts, base, things_cons, things_nil]
  refine step_spec _ (fun sdr => receiving self (some buffer) (some sdr.1) none none)
    (DeviceBlocks.create_spec _) (fun _ => ?_) fun sdr => ?_
  · simp [receiving, parts, base, SdrDevice.holding]
  refine step_spec _
    (fun txWorker => receiving self (some buffer) (some sdr.1) (some txWorker) none)
    (ClientTxBlocks.create_spec _ _ _) (fun _ => ?_) fun txWorker => ?_
  · simp [receiving, parts, base]
  refine worker_spec _
    (fun sdrRxWorker =>
      receiving self (some buffer) (some sdr.1) (some txWorker) (some sdrRxWorker))
    (WorkerBlocks.create_spec _ (fun r hr => Multiset.mem_add.mpr (Or.inr hr))
      (fun w => w.sdrRxWorkerDestroy_spec _) _ _ _)
    (fun w => congrArg (WorkerBlocks.holding w _ + ·) (zero_add _).symm) fun sdrRxWorker => ?_
  change Spec shared _ (dite (sdr.1.canTransmit = true) _ _) _
  split
  · rename_i htransmits
    refine worker_spec _
      (fun sdrTxWorker => ⟨self, some buffer, some sdr.1, some txWorker, some sdrRxWorker,
        some sdrTxWorker, none, fun _ => htransmits⟩)
      (WorkerBlocks.create_spec _ (fun r hr => Multiset.mem_add.mpr (Or.inr hr))
        (fun w => w.sdrTxWorkerDestroy_spec _) _ _ _)
      (fun w => ?_) fun sdrTxWorker => listen_spec _ socket
    rw [parts, parts, receiving, ifAny_none, zero_add]
    exact add_left_comm _ _ _
  · exact listen_spec _ socket

end ServerBlocks

/-- **A server that was not created leaves its socket.** -/
theorem tcpServerCreate_spec (config : ServerSettings) (memory : Nat → QueueNode) (isZero : Bool) :
    Spec shared 0 (tcpServerCreate config memory isZero)
      fun r => held ServerBlocks.holding r.2 + things (handleIf r.1) := by
  refine malloc_spec.bind fun self => ?_
  cases self with
  | error code => exact Spec.pure rfl
  | ok self =>
    have hself : Closed shared (ServerBlocks.receiving self none none none none).parts :=
      ServerBlocks.parts_closed _
    refine (((Spec.acquire _).frame hself).of_eq ?_ fun _ => add_comm _ _).bind fun socket => ?_
    · simp [held, ServerBlocks.receiving, ServerBlocks.parts, ServerBlocks.base]
    have hsocket : Closed shared (things (handleIf socket)) := closed_things _
    split
    · exact ((ServerBlocks.destroy_spec _).frame hsocket).bind fun _ => Spec.pure rfl
    · exact ((ServerBlocks.setup_spec config memory socket self).frame hsocket).bind
        fun server => Spec.pure rfl

theorem tcpServerShutdown_spec (socket : Option (Handle ResourceKind.descriptor)) :
    Spec shared (things (handleIf socket)) (tcpServerShutdown socket)
      fun socket => things (handleIf socket) := by
  refine ((Spec.attempt.frame (closed_things _)).of_eq (zero_add _).symm fun _ => zero_add _).bind
    fun ok => ?_
  cases ok with
  | true => exact Spec.pure rfl
  | false => exact (releaseIf_spec socket).bind fun _ => Spec.pure rfl

theorem tcpServerRun_spec (config : ServerSettings) (memory : Nat → QueueNode) (isZero : Bool)
    (us : List ServerUse) :
    Spec shared 0 (tcpServerRun config memory isZero us)
      fun socket => things (handleIf socket) := by
  refine (tcpServerCreate_spec config memory isZero).bind fun r => ?_
  obtain ⟨socket, code | server⟩ := r
  · exact Spec.pure (zero_add _)
  · refine ((server.useAll_holding us).frame (closed_things _)).bind fun t => ?_
    refine (((tcpServerShutdown_spec socket).frame t.1.holding_closed).of_eq (add_comm _ _)
      fun _ => add_comm _ _).bind fun left => ?_
    exact (t.1.joinThread_spec.frame (closed_things (handleIf left))).bind
      fun _ => Spec.pure (zero_add _)

/-- **Only the socket is left.**  Take a server and any requests that are refused: it is created,
or not, it is used in any way, shut down and joined.  Nothing is given back twice or while a thread
uses it, every thread is joined, and in the end there is nothing but the socket, unless
`tcp_server_shutdown` closed it. -/
theorem tcp_server_leaves_socket (refuses : Nat → Bool) (config : ServerSettings)
    (memory : Nat → QueueNode) (isZero : Bool) (us : List ServerUse) :
    ∃ socket t, tcpServerRun config memory isZero us ⟨refuses, 0, 0⟩ = some (socket, t) ∧
      t.holding = things (handleIf socket) := by
  have hrun : Spec (0 : Multiset (Thing ResourceKind)) 0 (tcpServerRun config memory isZero us)
      fun socket => things (handleIf socket) := tcpServerRun_spec config memory isZero us
  exact hrun.fromNothing refuses

/-- With an airspy and queues of one node there are 32 things and three threads. -/
example :
    ((tcpServerCreate ⟨4, 1, 4, .airspy true true⟩ zeroMemory false ⟨fun _ => false, 0, 0⟩).map
      fun r => (r.1.2.toBool, r.2.holding.1.card, r.2.holding.2.card)) = some (true, 32, 3) := by
  decide +kernel

end SdrModem
