import SdrModem.Ledger
import SdrModem.QueueMonitor
import SdrModem.RxWorker

/-!
# What is created is destroyed

The functions that create and destroy, with every request they make: memory, descriptors, files
and threads.  Each request may be refused.  "Init all fields with 0 so that destroy_* method
would work": what was created so far is destroyed by the function that destroys all of it.
-/
namespace SdrModem
open Ledger LinkedList

/-- What can be asked for.  A `modem` is what `sdr_modem_create` returns, and `hardware` the plugin
of a device that is not a file. -/
inductive ResourceKind where
  | memory
  | descriptor
  | file
  | gzFile
  | modem
  | hardware
deriving DecidableEq, Repr

/-- A request for a thing that fails with a code. -/
def request (k : ResourceKind) (code : Int) : Program ResourceKind (Except Int (Handle k)) := do
  return orError code (← acquire k)

/-- `malloc`; a function returns `-ENOMEM` if it fails. -/
def malloc : Program ResourceKind (Except Int (Handle ResourceKind.memory)) := request .memory (-12)

/-- `pthread_create`, which returns a code if it fails. -/
def pthreadCreate (uses : List (Thing ResourceKind)) : Program ResourceKind (Except Int Nat) := do
  return (← start uses).elim (.error 11) .ok

variable {shared : Multiset (Thing ResourceKind)}

theorem request_spec (k : ResourceKind) (code : Int) :
    Spec shared 0 (request k code) (held fun h => things [h.thing]) := by
  refine (Spec.acquire _).bind fun h => Spec.pure ?_
  cases h with
  | none => rfl
  | some h => rfl

theorem malloc_spec : Spec shared 0 malloc (held fun h => things [h.thing]) := request_spec _ _

/-! ## The queue: `queue.c` -/

/-- A node and its buffer. -/
structure QueueNodeBlocks where
  node : Handle ResourceKind.memory
  buffer : Handle ResourceKind.memory
deriving DecidableEq, Repr

/-- `struct queue_t` with the nodes that `queue_create` allocated: the node with the address `a` is
`nodes[a]`.  The threads that put have numbers. -/
structure QueueBlocks where
  self : Handle ResourceKind.memory
  nodes : List QueueNodeBlocks
  monitor : Monitor Nat
  inv : monitor.Inv nodes.length

/-- What the nodes with these addresses consist of. -/
def nodeThings (nodes : List QueueNodeBlocks) (addresses : List Nat) : List (Thing ResourceKind) :=
  addresses.flatMap fun a =>
    (nodes[a]?).elim [] fun b => [b.buffer.thing, b.node.thing]

/-- `destroy_nodes`, from the addresses of a list. -/
def destroyNodes (nodes : List QueueNodeBlocks) : List Nat → Program ResourceKind Unit
  | [] => pure ()
  | a :: rest =>
    match nodes[a]? with
    | none => failure
    | some b => do
      release b.buffer
      release b.node
      destroyNodes nodes rest

/-- The loop of `queue_create`, with the nodes there are and so many to come. -/
def queueCreateNodes : (n : Nat) → (nodes : List QueueNodeBlocks) →
    Program ResourceKind
      (Except Int { all : List QueueNodeBlocks // all.length = nodes.length + n })
  | 0, nodes => pure (.ok ⟨nodes, rfl⟩)
  | n + 1, nodes =>
    orUndo malloc (fun _ => do destroyNodes nodes (List.range nodes.length); return -12) fun cur =>
    orUndo malloc
      (fun _ => do destroyNodes nodes (List.range nodes.length); release cur; return -12)
      fun buffer => do
    return (← queueCreateNodes n (nodes ++ [⟨cur, buffer⟩])).map fun all =>
      ⟨all.1, all.2.trans (by rw [List.length_append, List.length_singleton]; omega)⟩

namespace QueueBlocks

/-- All that `queue_create` allocated. -/
def blocks (q : QueueBlocks) : List (Thing ResourceKind) :=
  q.self.thing :: nodeThings q.nodes (List.range q.nodes.length)

/-- `destroy_queue`. -/
def destroy (q : QueueBlocks) : Program ResourceKind Unit := do
  let queue := q.monitor.queue
  destroyNodes q.nodes (walk queue.next q.nodes.length queue.firstFreeNode)
  destroyNodes q.nodes (walk queue.next q.nodes.length queue.firstFilledNode)
  destroyNodes q.nodes queue.detachedNode.toList
  release q.self

/-- `queue_create`.  `memory` is what the blocks hold before they are written. -/
def create (memory : Nat → QueueNode) (bufferSize : UInt32) (queueSize : UInt16) (blocking : Bool) :
    Program ResourceKind (Except Int QueueBlocks) :=
  match h : queueCreate memory bufferSize queueSize blocking with
  | none => pure (.error (-1))
  | some queue =>
    orUndo malloc pure fun self =>
    orUndo (queueCreateNodes queueSize.toNat []) (fun code => do release self; return code)
      fun nodes =>
    pure (.ok ⟨self, nodes.1, Monitor.start queue, by
      rw [nodes.2, List.length_nil, Nat.zero_add]
      exact Monitor.start_inv h⟩)

/-- The queue after a section of one of its operations, if it can be called then. -/
def use (q : QueueBlocks) (l : MonitorLabel Nat) : QueueBlocks :=
  if hl : q.monitor.Allowed l then
    match h : q.monitor.step l with
    | none => q
    | some monitor => { q with monitor := monitor, inv := Monitor.step_inv hl h q.inv }
  else q

end QueueBlocks

theorem nodeThings_append (nodes : List QueueNodeBlocks) (l m : List Nat) :
    nodeThings nodes (l ++ m) = nodeThings nodes l ++ nodeThings nodes m :=
  List.flatMap_append

theorem nodeThings_perm (nodes : List QueueNodeBlocks) {l m : List Nat} (h : l.Perm m) :
    (nodeThings nodes l).Perm (nodeThings nodes m) :=
  h.flatMap_right _

theorem destroyNodes_spec {nodes : List QueueNodeBlocks} {l : List Nat}
    (hl : ∀ a ∈ l, a < nodes.length) :
    Spec shared (things (nodeThings nodes l)) (destroyNodes nodes l) fun _ => 0 := by
  induction l with
  | nil => exact Spec.pure rfl
  | cons a rest ih =>
    obtain ⟨b, hb⟩ : ∃ b, nodes[a]? = some b :=
      ⟨_, List.getElem?_eq_getElem (hl a List.mem_cons_self)⟩
    have hrest := ih fun c hc => hl c (List.mem_cons_of_mem _ hc)
    have hthings : nodeThings nodes (a :: rest) =
        [b.buffer.thing] ++ ([b.node.thing] ++ nodeThings nodes rest) := by
      simp [nodeThings, hb]
    rw [destroyNodes, hb, hthings, things_append, things_append]
    have hnode := (Spec.release b.node).andThen hrest (closed_things _)
    exact (Spec.release b.buffer).andThen hnode ((closed_things _).add (closed_things _))

theorem nodeThings_concat (nodes : List QueueNodeBlocks) (b : QueueNodeBlocks) :
    nodeThings (nodes ++ [b]) (List.range (nodes ++ [b]).length) =
      nodeThings nodes (List.range nodes.length) ++ [b.buffer.thing, b.node.thing] := by
  have hold : nodeThings (nodes ++ [b]) (List.range nodes.length) =
      nodeThings nodes (List.range nodes.length) := by
    refine List.flatMap_congr fun a ha => ?_
    rw [List.getElem?_append_left (List.mem_range.mp ha)]
  rw [List.length_append, List.length_singleton, List.range_succ, nodeThings_append, hold]
  simp [nodeThings]

/-- **The loop undoes itself if it fails.** -/
theorem queueCreateNodes_spec (n : Nat) (nodes : List QueueNodeBlocks) :
    Spec shared (things (nodeThings nodes (List.range nodes.length))) (queueCreateNodes n nodes)
      (held fun all => things (nodeThings all.1 (List.range all.1.length))) := by
  induction n generalizing nodes with
  | zero => exact Spec.pure rfl
  | succ n ih =>
    have hnodes : Spec shared _ (destroyNodes nodes (List.range nodes.length)) fun _ => 0 :=
      destroyNodes_spec fun a => List.mem_range.mp
    refine Spec.orUndo (malloc_spec.beside (closed_things _))
      (fun _ => hnodes.returns _) fun cur => ?_
    refine Spec.orUndo
      (malloc_spec.beside ((closed_things _).add (closed_things _))) (fun _ => ?_) fun buffer => ?_
    · exact (hnodes.andThen ((Spec.release cur).returns _) (closed_things _)).of_eq (add_comm _ _)
        fun _ => rfl
    · have hmore := ih (nodes ++ [⟨cur, buffer⟩])
      rw [nodeThings_concat, things_append, things_cons] at hmore
      refine (hmore.of_eq ?_ fun _ => rfl).bind fun r => Spec.pure ?_
      · simp only [things_singleton]
        abel
      · cases r <;> rfl

namespace QueueBlocks
variable (q : QueueBlocks)

/-- **Every node is destroyed once**, in whatever list it is. -/
theorem destroy_spec : Spec shared (things q.blocks) q.destroy fun _ => 0 := by
  obtain ⟨free, filled, hshape⟩ := q.inv.shape
  have hlength := hshape.nodes.length_eq
  rw [List.length_append, List.length_append, List.length_range] at hlength
  have hfree : walk q.monitor.queue.next q.nodes.length q.monitor.queue.firstFreeNode = free :=
    hshape.free_ends.chain.walk_eq (by omega)
  have hfilled :
      walk q.monitor.queue.next q.nodes.length q.monitor.queue.firstFilledNode = filled :=
    hshape.filled_ends.chain.walk_eq (by omega)
  have hlt : ∀ a ∈ free ++ filled ++ q.monitor.queue.detachedNode.toList, a < q.nodes.length :=
    fun a ha => (hshape.mem_nodes a).mp ha
  have hblocks : things q.blocks =
      things (nodeThings q.nodes free) + (things (nodeThings q.nodes filled) +
        (things (nodeThings q.nodes q.monitor.queue.detachedNode.toList) +
          things [q.self.thing])) := by
    rw [blocks, things_cons, ← things_perm (nodeThings_perm q.nodes hshape.nodes),
      nodeThings_append, nodeThings_append, things_append, things_append, things_singleton]
    abel
  simp only [destroy]
  rw [hfree, hfilled, hblocks]
  have hdestroy : ∀ l ⊆ free ++ filled ++ q.monitor.queue.detachedNode.toList,
      Spec shared (things (nodeThings q.nodes l)) (destroyNodes q.nodes l) fun _ => 0 :=
    fun l hl => destroyNodes_spec fun a ha => hlt a (hl ha)
  refine (hdestroy free fun a ha => ?_).andThen ((hdestroy filled fun a ha => ?_).andThen
    ((hdestroy _ fun a ha => ?_).andThen (Spec.release _) ?_) ?_) ?_
  · exact List.mem_append_left _ (List.mem_append_left _ ha)
  · exact List.mem_append_left _ (List.mem_append_right _ ha)
  · exact List.mem_append_right _ ha
  · exact closed_things _
  · exact (closed_things _).add (closed_things _)
  · exact (closed_things _).add ((closed_things _).add (closed_things _))

/-- **A queue that was not created leaves nothing.** -/
theorem create_spec (memory : Nat → QueueNode) (bufferSize : UInt32) (queueSize : UInt16)
    (blocking : Bool) : Spec shared 0 (create memory bufferSize queueSize blocking)
      (held fun q => things q.blocks) := by
  unfold create
  split
  · exact Spec.pure rfl
  · rename_i queue hqueue
    refine Spec.orUndo (malloc_spec.of_eq rfl fun r => (add_zero _).symm) (fun _ => Spec.pure rfl)
      fun self => ?_
    refine Spec.orUndo (((queueCreateNodes_spec _ []).of_eq rfl fun _ => rfl).beside ?_)
      (fun _ => ((Spec.release self).returns _).of_eq (add_zero _) fun _ => rfl)
      fun nodes => Spec.pure ?_
    · exact (closed_things _).add (closed_things [])
    · rw [held, blocks, add_comm, add_zero, things_cons]
      rfl

/-- No operation of the queue allocates. -/
theorem blocks_use (l : MonitorLabel Nat) : (q.use l).blocks = q.blocks := by
  unfold use
  split
  · split <;> rfl
  · rfl

/-- A queue that may be there. -/
def blocksIf (q : Option QueueBlocks) : List (Thing ResourceKind) := q.elim [] blocks

@[simp] theorem blocksIf_none : blocksIf none = [] := rfl
@[simp] theorem blocksIf_some : blocksIf (some q) = q.blocks := rfl

def destroyIf (q : Option QueueBlocks) : Program ResourceKind Unit := q.elim (pure ()) destroy

theorem destroyIf_spec (q : Option QueueBlocks) :
    Spec shared (things (blocksIf q)) (destroyIf q) fun _ => 0 := by
  cases q with
  | none => exact Spec.pure rfl
  | some q => exact q.destroy_spec

end QueueBlocks

/-- What may have been allocated. -/
def handleIf {k : ResourceKind} (h : Option (Handle k)) : List (Thing ResourceKind) :=
  h.toList.map Handle.thing

@[simp] theorem handleIf_none {k : ResourceKind} : handleIf (none : Option (Handle k)) = [] := rfl

@[simp] theorem handleIf_some {k : ResourceKind} (h : Handle k) : handleIf (some h) = [h.thing] :=
  rfl

theorem releaseIf_spec {k : ResourceKind} (h : Option (Handle k)) :
    Spec shared (things (handleIf h)) (releaseIf h) fun _ => 0 :=
  Spec.releaseIf h

/-- One after the other, of things without threads. -/
theorem then_spec {β : Type} {l m : List (Thing ResourceKind)} {x : Program ResourceKind Unit}
    {y : Program ResourceKind β} {R : β → Holding ResourceKind}
    (hx : Spec shared (things l) x fun _ => 0) (hy : Spec shared (things m) y R) :
    Spec shared (things (l ++ m)) (x >>= fun _ => y) R :=
  (hx.andThen hy (closed_things m)).of_eq (things_append l m) fun _ => rfl

/-- A thread with what it uses. -/
theorem closed_started {uses : List (Thing ResourceKind)} {id : Option Nat}
    {h : Holding ResourceKind} (huses : ∀ r ∈ uses, r ∈ h.1 ∨ r ∈ shared) (hh : Closed shared h) :
    Closed shared (started uses id + h) := by
  cases id with
  | none => exact (zero_add h).symm ▸ hh
  | some id =>
    intro t ht r hr
    rcases Multiset.mem_add.mp ht with ht | ht
    · obtain rfl := Multiset.mem_singleton.mp ht
      exact (huses r hr).imp_left fun hmem => Multiset.mem_add.mpr (Or.inr hmem)
    · exact (hh t ht r hr).imp_left fun hmem => Multiset.mem_add.mpr (Or.inr hmem)

/-- **A thread may use what there is.** -/
theorem pthreadCreate_spec {uses : List (Thing ResourceKind)} {P : Holding ResourceKind}
    (huses : ∀ r ∈ uses, r ∈ P.1 ∨ r ∈ shared) :
    Spec shared P (pthreadCreate uses)
      fun r => held (fun id => started uses (some id)) r + P := by
  refine (Spec.start huses).bind fun id => Spec.pure ?_
  cases id <;> rfl


/-! ## The writer: `client_tx_worker.c` -/

/-- `struct client_tx_worker_t`. -/
structure ClientTxBlocks where
  self : Handle ResourceKind.memory
  queue : Option QueueBlocks
  buffer : Option (Handle ResourceKind.memory)
  headerBuffer : Option (Handle ResourceKind.memory)
  thread : Option Nat

namespace ClientTxBlocks
variable (w : ClientTxBlocks)

/-- All that was allocated for the worker, and that its thread uses. -/
def blocks : List (Thing ResourceKind) :=
  QueueBlocks.blocksIf w.queue ++ (handleIf w.buffer ++ (handleIf w.headerBuffer ++ [w.self.thing]))

def holding : Holding ResourceKind := started w.blocks w.thread + things w.blocks

/-- `client_tx_worker_destroy`. -/
def destroy : Program ResourceKind Unit := do
  -- wait until thread terminates and only then destroy remaining objects
  joinIf w.blocks w.thread
  QueueBlocks.destroyIf w.queue
  releaseIf w.buffer
  releaseIf w.headerBuffer
  release w.self

/-- `client_tx_worker_create`. -/
def create (memory : Nat → QueueNode) (bufferSize : UInt32) (queueSize : UInt16) :
    Program ResourceKind (Except Int ClientTxBlocks) :=
  orUndo malloc pure fun self =>
  let result : ClientTxBlocks := ⟨self, none, none, none, none⟩
  orUndo (QueueBlocks.create memory bufferSize queueSize true)
    (fun code => do result.destroy; return code) fun queue =>
  let result := { result with queue := some queue }
  orUndo malloc (fun code => do result.destroy; return code) fun buffer =>
  let result := { result with buffer := some buffer }
  orUndo malloc (fun code => do result.destroy; return code) fun headerBuffer =>
  let result := { result with headerBuffer := some headerBuffer }
  orUndo (pthreadCreate result.blocks) (fun code => do result.destroy; return code) fun thread =>
  pure (.ok { result with thread := some thread })

theorem destroy_spec : Spec shared w.holding w.destroy fun _ => 0 :=
  (Spec.joinIf _ _).andThen
    (then_spec (QueueBlocks.destroyIf_spec _)
      (then_spec (releaseIf_spec _) (then_spec (releaseIf_spec _) (Spec.release _))))
    (closed_things _)

theorem closed : Closed shared w.holding :=
  closed_started (fun _ hr => Or.inl hr) (closed_things _)

theorem create_spec (memory : Nat → QueueNode) (bufferSize : UInt32) (queueSize : UInt16) :
    Spec shared 0 (create memory bufferSize queueSize) (held holding) := by
  refine Spec.first (fun self => holding ⟨self, none, none, none, none⟩) malloc_spec
    (fun _ => ?_) fun self => ?_
  · simp [holding, blocks]
  refine Spec.step (fun queue => holding ⟨self, some queue, none, none, none⟩)
    (QueueBlocks.create_spec memory bufferSize queueSize true) (closed _) (destroy_spec _)
    (fun _ => ?_) fun queue => ?_
  · simp [holding, blocks, things_append]
  refine Spec.step (fun buffer => holding ⟨self, some queue, some buffer, none, none⟩) malloc_spec
    (closed _) (destroy_spec _) (fun _ => ?_) fun buffer => ?_
  · simp [holding, blocks, things_append, things_cons, things_nil]
    abel
  refine Spec.step
    (fun headerBuffer => holding ⟨self, some queue, some buffer, some headerBuffer, none⟩)
    malloc_spec (closed _) (destroy_spec _) (fun _ => ?_) fun headerBuffer => ?_
  · simp [holding, blocks, things_append, things_cons, things_nil]
    abel
  refine Spec.orUndo (pthreadCreate_spec fun _ hr => Or.inl ?_)
    (fun _ => (destroy_spec _).returns _) fun thread => Spec.pure ?_
  · exact Multiset.mem_add.mpr (Or.inr hr)
  · exact congrArg (started _ (some thread) + ·) (zero_add _)

/-- The queue is used. -/
def use (l : MonitorLabel Nat) : ClientTxBlocks := { w with queue := w.queue.map (·.use l) }

@[simp] theorem thread_use (l : MonitorLabel Nat) : (w.use l).thread = w.thread := rfl

@[simp] theorem blocks_use (l : MonitorLabel Nat) : (w.use l).blocks = w.blocks := by
  obtain ⟨self, queue, buffer, headerBuffer, thread⟩ := w
  cases queue with
  | none => rfl
  | some queue => simp [use, blocks, QueueBlocks.blocks_use]

end ClientTxBlocks

/-! ## The workers of the device: `sdr_rx_worker.c` and `sdr_tx_worker.c` -/

/-- `struct sdr_rx_worker_t` and `struct sdr_tx_worker_t`. -/
structure WorkerBlocks where
  self : Handle ResourceKind.memory
  queue : Option QueueBlocks
  modem : Option (Handle ResourceKind.modem)
  thread : Option Nat

namespace WorkerBlocks
variable (w : WorkerBlocks) (env : List (Thing ResourceKind))

/-- What was allocated for the worker and stays.  Its thread uses it and the client tx worker and
the device, which are `env`. -/
def blocks : List (Thing ResourceKind) := QueueBlocks.blocksIf w.queue ++ [w.self.thing]

def stable : Holding ResourceKind := started (w.blocks ++ env) w.thread + things w.blocks

def holding : Holding ResourceKind := things (handleIf w.modem) + w.stable env

/-- `sdr_rx_worker_destroy`. -/
def sdrRxWorkerDestroy : Program ResourceKind Unit := do
  joinIf (w.blocks ++ env) w.thread
  -- cleanup everything only when thread terminates
  releaseIf w.modem
  QueueBlocks.destroyIf w.queue
  release w.self

/-- `sdr_tx_worker_destroy`. -/
def sdrTxWorkerDestroy : Program ResourceKind Unit := do
  -- wait until thread terminates and only then destroy remaining objects
  joinIf (w.blocks ++ env) w.thread
  QueueBlocks.destroyIf w.queue
  releaseIf w.modem
  release w.self

/-- What `sdr_rx_worker_create` and `sdr_tx_worker_create` share. -/
def create (destroy : WorkerBlocks → Program ResourceKind Unit) (fail : Int → Int)
    (memory : Nat → QueueNode) (bufferSize : UInt32) (queueSize : UInt16) :
    Program ResourceKind (Except Int WorkerBlocks) :=
  orUndo malloc pure fun self =>
  let result : WorkerBlocks := ⟨self, none, none, none⟩
  orUndo (QueueBlocks.create memory bufferSize queueSize true)
    (fun code => do destroy result; return fail code) fun queue =>
  let result := { result with queue := some queue }
  orUndo (pthreadCreate (result.blocks ++ env)) (fun code => do destroy result; return fail code)
    fun thread =>
  pure (.ok { result with thread := some thread })

/-- `sdr_rx_worker_create`. -/
def sdrRxWorkerCreate (memory : Nat → QueueNode) (sdrBufferLen : UInt32) :
    Program ResourceKind (Except Int WorkerBlocks) :=
  create env (fun w => w.sdrRxWorkerDestroy env) (fun _ => -1) memory sdrBufferLen
    (UInt16.ofNat sdrRxMessageQueueSize)

/-- `sdr_tx_worker_create`. -/
def sdrTxWorkerCreate (memory : Nat → QueueNode) (maxFrameSize : UInt32) (queueSize : UInt16) :
    Program ResourceKind (Except Int WorkerBlocks) :=
  create env (fun w => w.sdrTxWorkerDestroy env) id memory maxFrameSize queueSize

theorem sdrRxWorkerDestroy_spec :
    Spec shared (w.holding env) (w.sdrRxWorkerDestroy env) fun _ => 0 := by
  refine ((Spec.joinIf (w.blocks ++ env) w.thread).andThen
    (then_spec (releaseIf_spec w.modem)
      (then_spec (QueueBlocks.destroyIf_spec w.queue) (Spec.release w.self)))
    (closed_things _)).of_eq ?_ fun _ => rfl
  simp only [holding, stable, blocks, things_append]
  abel

theorem sdrTxWorkerDestroy_spec :
    Spec shared (w.holding env) (w.sdrTxWorkerDestroy env) fun _ => 0 := by
  refine ((Spec.joinIf (w.blocks ++ env) w.thread).andThen
    (then_spec (QueueBlocks.destroyIf_spec w.queue)
      (then_spec (releaseIf_spec w.modem) (Spec.release w.self)))
    (closed_things _)).of_eq ?_ fun _ => rfl
  simp only [holding, stable, blocks, things_append]
  abel

/-- The worker beside what its thread uses. -/
theorem closed {k : Holding ResourceKind} (henv : ∀ r ∈ env, r ∈ k.1 ∨ r ∈ shared)
    (hk : Closed shared k) : Closed shared (w.stable env + k) := by
  rw [stable, add_assoc]
  refine closed_started (fun r hr => ?_) ((closed_things _).add hk)
  rcases List.mem_append.mp hr with hr | hr
  · exact Or.inl (Multiset.mem_add.mpr (Or.inl hr))
  · exact (henv r hr).imp_left fun hmem => Multiset.mem_add.mpr (Or.inr hmem)

/-- **A worker that was not created leaves nothing.** -/
theorem create_spec {destroy : WorkerBlocks → Program ResourceKind Unit} {fail : Int → Int}
    (henv : ∀ r ∈ env, r ∈ shared)
    (hdestroy : ∀ w, Spec shared (holding w env) (destroy w) fun _ => 0)
    (memory : Nat → QueueNode) (bufferSize : UInt32) (queueSize : UInt16) :
    Spec shared 0 (create env destroy fail memory bufferSize queueSize)
      (held fun w => w.holding env) := by
  refine Spec.first (fun self => holding ⟨self, none, none, none⟩ env) malloc_spec
    (fun _ => ?_) fun self => ?_
  · simp [holding, stable, blocks, things_nil]
  refine Spec.step (fun queue => holding ⟨self, some queue, none, none⟩ env)
    (QueueBlocks.create_spec memory bufferSize queueSize true) ?_ (hdestroy _)
    (fun _ => ?_) fun queue => ?_
  · rw [holding, stable, started_none, zero_add]
    exact (closed_things _).add (closed_things _)
  · simp [holding, stable, blocks, things_append, things_nil]
  refine Spec.orUndo (pthreadCreate_spec fun r hr => ?_) (fun _ => (hdestroy _).returns _)
    fun thread => Spec.pure ?_
  · rcases List.mem_append.mp hr with hr | hr
    · exact Or.inl (Multiset.mem_add.mpr (Or.inr (Multiset.mem_add.mpr (Or.inr hr))))
    · exact Or.inr (henv r hr)
  · change _ + (0 + (0 + _)) = 0 + (_ + _)
    rw [zero_add, zero_add, zero_add]
    rfl

/-- The queue is used. -/
def use (l : MonitorLabel Nat) : WorkerBlocks := { w with queue := w.queue.map (·.use l) }

@[simp] theorem thread_use (l : MonitorLabel Nat) : (w.use l).thread = w.thread := rfl

@[simp] theorem blocks_use (l : MonitorLabel Nat) : (w.use l).blocks = w.blocks := by
  obtain ⟨self, queue, modem, thread⟩ := w
  cases queue with
  | none => rfl
  | some queue => simp [use, blocks, QueueBlocks.blocks_use]

end WorkerBlocks
end SdrModem
