import SdrModem.Machine
import SdrModem.BoundedFifo
import Mathlib.Logic.Function.Basic
import Mathlib.Data.List.TakeDrop

/-!
# The message queue of `queue.c`

`Queue` is `struct queue_t` over a heap of nodes: pointers are `Option Nat`, an
address indexes `node`, and `NULL` is `none`.  Every operation of `queue.c` runs
with the mutex held, from `pthread_mutex_lock` to the next release of it — by
`pthread_mutex_unlock` or inside `pthread_cond_wait`.  Such a stretch is one
`Section`: it returns to the caller, or waits, or dereferences `NULL`.
`queue_put` and `queue_take` have two sections each, the one entered by the call
and the one entered when `pthread_cond_wait` gives the mutex back.

`Monitor` is the queue with the threads around it: any number of producers and
one consumer, each running, waiting in `pthread_cond_wait`, or notified by a
broadcast and about to take the mutex again.  A waiting thread may also wake up
without a broadcast.
-/
namespace SdrModem
open BoundedFifo

/-- `queue_message`: `buffer_len` is the length of `buffer`. -/
structure QueueMessage where
  type : UInt8
  requestId : UInt32
  buffer : List UInt8
deriving DecidableEq, Repr

/-- `message->buffer_len`. -/
def QueueMessage.bufferLen (m : QueueMessage) : Nat := m.buffer.length

/-- `struct queue_node`.  `buffer` is the whole block the node owns, of which the
first `len` bytes are the message. -/
structure QueueNode where
  type : UInt8
  requestId : UInt32
  buffer : List UInt8
  len : Nat
  next : Option Nat
deriving Repr

/-- `struct queue_t`, less the mutex and the condition variable. -/
structure Queue where
  node : Nat → QueueNode
  firstFreeNode : Option Nat
  lastFreeNode : Option Nat
  firstFilledNode : Option Nat
  lastFilledNode : Option Nat
  detachedNode : Option Nat
  poisonPill : Bool
  bufferSize : Nat
  blocking : Bool

namespace Queue

/-- `node->next` of every node. -/
def next (q : Queue) (a : Nat) : Option Nat := (q.node a).next

/-- What a reader finds in a node. -/
def message (q : Queue) (a : Nat) : QueueMessage :=
  ⟨(q.node a).type, (q.node a).requestId, (q.node a).buffer.take (q.node a).len⟩

/-- `a->next = p`. -/
def setNext (q : Queue) (a : Nat) (p : Option Nat) : Queue :=
  { q with node := Function.update q.node a { q.node a with next := p } }

/-- The copy of a message into a node: `memcpy` overwrites the front of the
block. -/
def fill (q : Queue) (a : Nat) (m : QueueMessage) : Queue :=
  { q with
    node := Function.update q.node a
      { q.node a with
        buffer := m.buffer ++ (q.node a).buffer.drop m.bufferLen
        len := m.bufferLen, type := m.type, requestId := m.requestId } }

end Queue

/-! ## Creation -/

/-- The variables of the loop in `queue_create`. -/
structure QueueCreate where
  node : Nat → QueueNode
  firstNode : Option Nat
  lastNode : Option Nat

/-- One iteration of the loop in `queue_create`: the node allocated at address
`i`, with a block of `bufferSize` bytes, is linked behind the last one.  The rest
of the memory is whatever `malloc` returned. -/
def queueCreateNode (bufferSize : Nat) (s : QueueCreate) (i : Nat) : QueueCreate :=
  let node := Function.update s.node i
    { s.node i with buffer := (s.node i).buffer.takeD bufferSize 0, next := none, len := 0 }
  match s.lastNode with
  | none => ⟨node, some i, some i⟩
  | some l => ⟨Function.update node l { node l with next := some i }, s.firstNode, some i⟩

/-- `queue_create`, with every `malloc` succeeding; `memory` is what the blocks
hold before they are written.  `none` is the return value `-1`. -/
def queueCreate (memory : Nat → QueueNode) (bufferSize : UInt32) (queueSize : UInt16)
    (blocking : Bool) : Option Queue :=
  if queueSize = 0 then none
  else if bufferSize = 0 then none
  else
    let nodes := (List.range queueSize.toNat).foldl (queueCreateNode bufferSize.toNat)
      ⟨memory, none, none⟩
    some
      { node := nodes.node
        firstFreeNode := nodes.firstNode
        lastFreeNode := nodes.lastNode
        firstFilledNode := none
        lastFilledNode := none
        detachedNode := none
        poisonPill := false
        bufferSize := bufferSize.toNat
        blocking := blocking }

/-! ## The operations, section by section -/

/-- How a stretch of code that holds the mutex ends. -/
inductive Section (β : Type) where
  /-- The operation returns `value`; `broadcast` tells whether it woke the
  waiting threads. -/
  | returns (value : β) (q : Queue) (broadcast : Bool)
  /-- `pthread_cond_wait`: nothing was changed. -/
  | waits
  /-- A `NULL` pointer was dereferenced. -/
  | undefined

/-- The first free node `t` is removed from the free nodes pool. -/
def Queue.removeFree (q : Queue) (t : Nat) : Queue :=
  let q := { q with firstFreeNode := q.next t }
  let q := q.setNext t none
  if q.firstFreeNode = none then { q with lastFreeNode := none } else q

/-- The node `t` is added to the filled nodes pool. -/
def Queue.addFilled (q : Queue) (t : Nat) : Queue :=
  let q := match q.lastFilledNode with
    | none => { q with firstFilledNode := some t }
    | some l => q.setNext l (some t)
  { q with lastFilledNode := some t }

/-- The part of `queue_put` behind the wait loop: pick the node to fill and copy
the message into it.  `none` if `to_fill` is `NULL`. -/
def queuePutNode (m : QueueMessage) (q : Queue) : Option Queue :=
  match q.firstFreeNode with
  -- queue is full: overwrite last node
  | none => q.lastFilledNode.map fun toFill => q.fill toFill m
  | some toFill => some (((q.removeFree toFill).addFilled toFill).fill toFill m)

/-- `queue_put` from the end of its wait loop on. -/
def queuePutCommit (m : QueueMessage) (q : Queue) : Section Int :=
  match queuePutNode m q with
  | some q' => .returns 0 q' true
  | none => .undefined

/-- `queue_put` from its call to the first release of the mutex. -/
def queuePut (m : QueueMessage) (q : Queue) : Section Int :=
  if m.bufferLen > q.bufferSize then .returns (-1) q false
  else if q.blocking then
    if q.poisonPill then .returns (-1) q false
    else if q.firstFreeNode = none then .waits
    else queuePutCommit m q
  else queuePutCommit m q

/-- `queue_put` from the return of `pthread_cond_wait` to the next release of the
mutex. -/
def queuePutWake (m : QueueMessage) (q : Queue) : Section Int :=
  if q.poisonPill then .returns (-1) q false
  else if q.firstFreeNode = none then .waits
  else queuePutCommit m q

/-- The first filled node `a` leaves the filled list and becomes the detached
node, shared by `queue_take` and `queue_peak`. -/
def queueDetach (q : Queue) (a : Nat) : Queue :=
  let q := { q with detachedNode := some a, firstFilledNode := q.next a }
  let q := q.setNext a none
  if q.firstFilledNode = none then { q with lastFilledNode := none } else q

/-- `queue_take`, entered by the call or by the return of `pthread_cond_wait`:
both check the poison pill and the filled list in the same way. -/
def queueTake (q : Queue) : Section (Option QueueMessage) :=
  match q.firstFilledNode with
  | none => if q.poisonPill then .returns none q false else .waits
  | some a => .returns (some (q.message a)) (queueDetach q a) false

/-- `queue_peak`. -/
def queuePeak (q : Queue) : Section (Option QueueMessage) :=
  match q.firstFilledNode with
  | none => .returns none q false
  | some a => .returns (some (q.message a)) (queueDetach q a) false

/-- The list from `first` to `last` is linked behind the free nodes pool. -/
def Queue.addFree (q : Queue) (first last : Option Nat) : Queue :=
  let q := match q.lastFreeNode with
    | none => { q with firstFreeNode := first }
    | some l => q.setNext l first
  { q with lastFreeNode := last }

/-- `queue_complete`. -/
def queueComplete (q : Queue) : Queue :=
  { q.addFree q.detachedNode q.detachedNode with detachedNode := none }

/-- `queue_interrupt`. -/
def queueInterrupt (q : Queue) : Queue := { q with poisonPill := true }

/-- `queue_reset`. -/
def queueReset (q : Queue) : Queue :=
  let q :=
    if q.firstFilledNode = none then q
    else
      { q.addFree q.firstFilledNode q.lastFilledNode with
        firstFilledNode := none, lastFilledNode := none }
  { q with poisonPill := false }

/-! ## The threads around the queue -/

/-- A thread, seen from the queue: outside of `pthread_cond_wait`, waiting in it,
or notified by a broadcast and not yet back.  `arg` is what the call it is in was
given. -/
inductive Thread (β : Type) where
  | running
  | waiting (arg : β)
  | notified (arg : β)
deriving DecidableEq, Repr

/-- `pthread_cond_broadcast`, for one thread. -/
def Thread.notify {β : Type} : Thread β → Thread β
  | .waiting b => .notified b
  | t => t

/-- The queue, its producers `P` and its consumer.  `history` records the visible
events and is read by no operation. -/
structure Monitor (P : Type) where
  queue : Queue
  producer : P → Thread QueueMessage
  consumer : Thread Unit
  history : List (Event QueueMessage)

/-- What a thread does next. -/
inductive MonitorLabel (P : Type) where
  | put (p : P) (m : QueueMessage)
  | putWake (p : P)
  | take
  | takeWake
  | peak
  | complete
  | interrupt
  | reset

namespace Monitor
variable {P : Type} [DecidableEq P]

/-- Nobody is inside the queue. -/
def start (q : Queue) : Monitor P := ⟨q, fun _ => .running, .running, []⟩

/-- `pthread_cond_broadcast` if `broadcast` is set. -/
def broadcast (s : Monitor P) (broadcast : Bool) : Monitor P :=
  if broadcast then
    { s with producer := fun p => (s.producer p).notify, consumer := s.consumer.notify }
  else s

/-- A section of `queue_put`, executed by `p` with message `m`. -/
def putSection (s : Monitor P) (p : P) (m : QueueMessage) :
    Section Int → Option (Monitor P)
  | .returns code q b =>
      let s' := s.broadcast b
      some { s' with
        queue := q
        producer := Function.update s'.producer p .running
        history := s.history ++ [if code = 0 then .put m else .reject m] }
  | .waits => some { s with producer := Function.update s.producer p (.waiting m) }
  | .undefined => none

/-- A section of `queue_take` or `queue_peak`; `empty` is the event of a return
without a message. -/
def takeSection (s : Monitor P) (empty : Event QueueMessage) :
    Section (Option QueueMessage) → Option (Monitor P)
  | .returns m q b =>
      let s' := s.broadcast b
      some { s' with
        queue := q
        consumer := .running
        history := s.history ++ [match m with | some m => .take m | none => empty] }
  | .waits => some { s with consumer := .waiting () }
  | .undefined => none

/-- One section of one thread.  A thread that is inside `pthread_cond_wait` can
only come back from it, whether it was notified or not. -/
def step (s : Monitor P) : MonitorLabel P → Option (Monitor P)
  | .put p m =>
      match s.producer p with
      | .running => s.putSection p m (queuePut m s.queue)
      | _ => none
  | .putWake p =>
      match s.producer p with
      | .running => none
      | .waiting m | .notified m => s.putSection p m (queuePutWake m s.queue)
  | .take =>
      match s.consumer with
      | .running => s.takeSection .drained (queueTake s.queue)
      | _ => none
  | .takeWake =>
      match s.consumer with
      | .running => none
      | _ => s.takeSection .drained (queueTake s.queue)
  | .peak =>
      match s.consumer with
      | .running => s.takeSection .miss (queuePeak s.queue)
      | _ => none
  | .complete =>
      match s.consumer with
      | .running =>
          some { s.broadcast true with
            queue := queueComplete s.queue, history := s.history ++ [.complete] }
      | _ => none
  | .interrupt =>
      some { s.broadcast true with
        queue := queueInterrupt s.queue, history := s.history ++ [.close] }
  | .reset => some { s with queue := queueReset s.queue }

end Monitor
end SdrModem
