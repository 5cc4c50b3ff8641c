import SdrModem.Machine
import SdrModem.ClientTxWorker

/-!
# The stream a client receives

`ClientTxWorker.step` writes a part of a message in one piece.  Here every call of
`write` in the loop of `tcp_utils_write_data` is a step of its own: it stores some
of the bytes that are left, is interrupted, or fails.  A part is done when nothing
is left of it, and only then does `tcp_utils_write_data` return 0.

`Stream` is the worker with its producers.  It records which messages were
accepted into the queue, which were taken out of it, and what every call of
`write` stored through which descriptor.
-/
namespace SdrModem
open BoundedFifo Machine

/-! ## The worker, one call of `write` at a time -/

/-- The bytes of the part the worker is writing. -/
def ClientTxPc.data : ClientTxPc → List UInt8
  | .header m => apiEncodeMessageHeader m.message.header
  | .payload m => m.message.payload
  | .take | .complete | .finished => []

/-- What comes behind the part in hand: the payload follows the header. -/
def ClientTxPc.behind : ClientTxPc → List UInt8
  | .header m => m.message.payload
  | _ => []

/-- Inside `tcp_utils_write_data`. -/
def ClientTxPc.writing : ClientTxPc → Bool
  | .header _ | .payload _ => true
  | .take | .complete | .finished => false

/-- The worker, and how much of the part in hand is written:
`total_len_bytes - left`. -/
structure ClientTxThread where
  worker : ClientTxWorker
  sent : Nat
deriving DecidableEq, Repr

/-- What the thread does next. -/
inductive WriteLabel where
  /-- `queue_take` or `queue_complete` -/
  | next
  /-- `write` stores `count` bytes -/
  | wrote (count : Nat)
  | eintr
  /-- `write` fails for another reason -/
  | error
  /-- nothing is left: `tcp_utils_write_data` returns 0 -/
  | done
deriving DecidableEq, Repr

namespace ClientTxThread

/-- `buffer + (total_len_bytes - left)`. -/
def left (t : ClientTxThread) : List UInt8 := t.worker.pc.data.drop t.sent

/-- One step of the thread, with what it stored through which descriptor. -/
def step (t : ClientTxThread) : WriteLabel → Option (ClientTxThread × Option (Int × List UInt8))
  | .next => (t.worker.step .next).map fun r => (⟨r.1, 0⟩, none)
  | .wrote count =>
      if t.left ≠ [] ∧ count ≤ t.left.length then
        some ({ t with sent := t.sent + count }, some (t.worker.clientSocket, t.left.take count))
      else none
  | .eintr => if t.left ≠ [] then some (t, none) else none
  | .error =>
      if t.left ≠ [] then (t.worker.step (.write false)).map fun r => (⟨r.1, 0⟩, none) else none
  | .done =>
      if t.worker.pc.writing ∧ t.left = [] then
        (t.worker.step (.write true)).map fun r => (⟨r.1, 0⟩, none)
      else none

/-- The message that a step takes out of the queue. -/
def takes (t : ClientTxThread) (l : WriteLabel) : List Sent :=
  if l = .next ∧ t.worker.pc = .take then t.worker.queue.pending.head?.toList else []

/-- What is still to be written of the message in hand. -/
def remaining (t : ClientTxThread) : List UInt8 := t.left ++ t.worker.pc.behind

/-- A worker between two messages. -/
def Idle (t : ClientTxThread) : Prop := t.worker.pc = .take ∨ t.worker.pc = .complete

end ClientTxThread

/-- `CLIENT_TX_NEW_CLIENT`. -/
def Sent.isNewClient (m : Sent) : Bool :=
  match m.message with
  | .newClient _ => true
  | _ => false

/-- Everything that is written for a message. -/
def messageBytes (m : Sent) : List UInt8 :=
  apiEncodeMessageHeader m.message.header ++ m.message.payload

/-- The messages for the connected client: those up to the next `NEW_CLIENT`. -/
def forClient (ms : List Sent) : List Sent := ms.takeWhile fun m => !m.isNewClient

/-! ## What one step does -/

/-- Everything a step of the thread can do. -/
inductive ClientTxThread.Effect (t : ClientTxThread) :
    WriteLabel → ClientTxThread → Option (Int × List UInt8) → Prop
  /-- `queue_take` returns a new descriptor. -/
  | newClient (m : Sent) (rest : List Sent) (clientSocket : Int) (hpc : t.worker.pc = .take)
      (hqueue : t.worker.queue.pending = m :: rest) (hm : m.message = .newClient clientSocket) :
      t.Effect .next
        ⟨{ t.worker with
            queue := { t.worker.queue with pending := rest, inFlight := some m }
            clientSocket := clientSocket
            pc := .complete }, 0⟩ none
  /-- `queue_take` returns a message, and there is no client. -/
  | dropped (m : Sent) (rest : List Sent) (hpc : t.worker.pc = .take)
      (hqueue : t.worker.queue.pending = m :: rest) (hm : m.isNewClient = false)
      (hsocket : t.worker.clientSocket < 0) :
      t.Effect .next
        ⟨{ t.worker with
            queue := { t.worker.queue with pending := rest, inFlight := some m }
            pc := .complete }, 0⟩ none
  /-- `queue_take` returns a message for the client. -/
  | begun (m : Sent) (rest : List Sent) (hpc : t.worker.pc = .take)
      (hqueue : t.worker.queue.pending = m :: rest) (hm : m.isNewClient = false)
      (hsocket : 0 ≤ t.worker.clientSocket) :
      t.Effect .next
        ⟨{ t.worker with
            queue := { t.worker.queue with pending := rest, inFlight := some m }
            pc := .header m }, 0⟩ none
  /-- the poison pill -/
  | finished (hpc : t.worker.pc = .take) (hqueue : t.worker.queue.pending = []) :
      t.Effect .next ⟨{ t.worker with pc := .finished }, 0⟩ none
  | completed (hpc : t.worker.pc = .complete) :
      t.Effect .next
        ⟨{ t.worker with queue := { t.worker.queue with inFlight := none }, pc := .take }, 0⟩ none
  | wrote (count : Nat) (hcount : count ≤ t.left.length) (hleft : t.left ≠ []) :
      t.Effect (.wrote count) ⟨t.worker, t.sent + count⟩
        (some (t.worker.clientSocket, t.left.take count))
  | eintr (hleft : t.left ≠ []) : t.Effect .eintr t none
  | error (hleft : t.left ≠ []) :
      t.Effect .error ⟨{ t.worker with clientSocket := -1, pc := .complete }, 0⟩ none
  | headerDone (m : Sent) (hpc : t.worker.pc = .header m) (hleft : t.left = []) :
      t.Effect .done ⟨{ t.worker with pc := .payload m }, 0⟩ none
  | payloadDone (m : Sent) (hpc : t.worker.pc = .payload m) (hleft : t.left = []) :
      t.Effect .done ⟨{ t.worker with pc := .complete }, 0⟩ none

/-- What `switch (message.type)` does with a message that is no new client. -/
theorem ClientTxWorker.handle_of_not_newClient (w : ClientTxWorker) {m : Sent}
    (hm : m.isNewClient = false) :
    w.handle m =
      if w.clientSocket < 0 then { w with pc := .complete } else { w with pc := .header m } := by
  cases hmessage : m.message with
  | newClient clientSocket => simp [Sent.isNewClient, hmessage] at hm
  | softBits requestId bits => simp only [handle, hmessage]
  | response requestId status details => simp only [handle, hmessage]
  | complete requestId status details => simp only [handle, hmessage]

namespace ClientTxThread

/-- Whoever has bytes left is inside `tcp_utils_write_data`. -/
theorem writing_of_left {t : ClientTxThread} (h : t.left ≠ []) :
    ∃ m, t.worker.pc = .header m ∨ t.worker.pc = .payload m ∧ t.worker.pc.writesNothing = false := by
  unfold left at h
  cases hpc : t.worker.pc with
  | header m => exact ⟨m, Or.inl rfl⟩
  | payload m =>
    refine ⟨m, Or.inr ⟨rfl, ?_⟩⟩
    have hne : m.message.payload ≠ [] := by
      intro hnil
      simp [hpc, ClientTxPc.data, hnil] at h
    simp only [ClientTxPc.writesNothing, decide_eq_false_iff_not]
    intro hlen
    apply hne
    cases hm : m.message with
    | softBits id bits =>
      rw [hm] at hlen
      exact List.eq_nil_of_length_eq_zero hlen
    | response id status details => simp [hm, ClientTxMessage.bufferLen, apiResponseSize] at hlen
    | complete id status details => simp [hm, ClientTxMessage.bufferLen, apiResponseSize] at hlen
    | newClient fd => rfl
  | take => simp [hpc, ClientTxPc.data] at h
  | complete => simp [hpc, ClientTxPc.data] at h
  | finished => simp [hpc, ClientTxPc.data] at h

theorem next_effect {t u : ClientTxThread} {out : Option (Int × List UInt8)}
    (h : t.step .next = some (u, out)) : t.Effect .next u out := by
  obtain ⟨⟨w, out'⟩, hstep, heq⟩ := Option.map_eq_some_iff.mp h
  obtain ⟨rfl, rfl⟩ := Prod.mk.inj heq
  cases hpc : t.worker.pc with
  | take =>
    simp only [ClientTxWorker.step, hpc] at hstep
    split at hstep
    · rename_i m rest hqueue
      obtain ⟨rfl, -⟩ := Prod.mk.inj (Option.some.inj hstep)
      by_cases hm : m.isNewClient = true
      · unfold Sent.isNewClient at hm
        split at hm
        · rename_i fd hfd
          simp only [ClientTxWorker.handle, hfd]
          exact .newClient m rest fd hpc hqueue hfd
        · cases hm
      · rw [Bool.not_eq_true] at hm
        rw [ClientTxWorker.handle_of_not_newClient _ hm]
        split
        · exact .dropped m rest hpc hqueue hm ‹_›
        · exact .begun m rest hpc hqueue hm (Int.not_lt.mp ‹_›)
    · split at hstep
      · obtain ⟨rfl, -⟩ := Prod.mk.inj (Option.some.inj hstep)
        exact .finished hpc ‹_›
      · cases hstep
  | complete =>
    simp only [ClientTxWorker.step, hpc] at hstep
    obtain ⟨rfl, -⟩ := Prod.mk.inj (Option.some.inj hstep)
    exact .completed hpc
  | header m => simp [ClientTxWorker.step, hpc] at hstep
  | payload m => simp [ClientTxWorker.step, hpc] at hstep
  | finished => simp [ClientTxWorker.step, hpc] at hstep

theorem step_effect {t u : ClientTxThread} {l : WriteLabel} {out : Option (Int × List UInt8)}
    (h : t.step l = some (u, out)) : t.Effect l u out := by
  cases l with
  | next => exact next_effect h
  | wrote count =>
    simp only [step] at h
    split at h
    · rename_i hc
      obtain ⟨rfl, rfl⟩ := Prod.mk.inj (Option.some.inj h)
      exact .wrote count hc.2 hc.1
    · cases h
  | eintr =>
    simp only [step] at h
    split at h
    · obtain ⟨rfl, rfl⟩ := Prod.mk.inj (Option.some.inj h)
      exact .eintr ‹_›
    · cases h
  | error =>
    simp only [step] at h
    split at h
    · rename_i hleft
      obtain ⟨m, hpc | ⟨hpc, hdata⟩⟩ := writing_of_left hleft
      · simp only [ClientTxWorker.step, hpc, Bool.false_eq_true, if_false, Option.map_some] at h
        obtain ⟨rfl, rfl⟩ := Prod.mk.inj (Option.some.inj h)
        exact .error hleft
      · rw [hpc] at hdata
        simp only [ClientTxWorker.step, hpc, hdata, Bool.false_eq_true, if_false,
          Option.map_some] at h
        obtain ⟨rfl, rfl⟩ := Prod.mk.inj (Option.some.inj h)
        exact .error hleft
    · cases h
  | done =>
    simp only [step] at h
    split at h
    · rename_i hc
      cases hpc : t.worker.pc with
      | header m =>
        simp only [ClientTxWorker.step, hpc, if_true, Option.map_some] at h
        obtain ⟨rfl, rfl⟩ := Prod.mk.inj (Option.some.inj h)
        exact .headerDone m hpc hc.2
      | payload m =>
        simp only [ClientTxWorker.step, hpc, if_true, Option.map_some] at h
        obtain ⟨rfl, rfl⟩ := Prod.mk.inj (Option.some.inj h)
        exact .payloadDone m hpc hc.2
      | take => simp [hpc, ClientTxPc.writing] at hc
      | complete => simp [hpc, ClientTxPc.writing] at hc
      | finished => simp [hpc, ClientTxPc.writing] at hc
    · cases h

end ClientTxThread

/-! ## The worker with its producers -/

/-- The thread, the messages accepted into its queue and taken out of it, and what
every call of `write` stored. -/
structure Stream where
  thread : ClientTxThread
  accepted : List Sent
  taken : List Sent
  output : List (Int × List UInt8)
deriving DecidableEq, Repr

/-- What happens next. -/
inductive StreamLabel where
  /-- another thread calls `queue_put` -/
  | put (m : Sent)
  /-- `client_tx_worker_destroy` calls `queue_interrupt` -/
  | interrupt
  | thread (l : WriteLabel)
deriving DecidableEq, Repr

namespace Stream

/-- The messages waiting in the queue. -/
def pending (s : Stream) : List Sent := s.thread.worker.queue.pending

/-- The bytes written so far. -/
def bytes (s : Stream) : List UInt8 := s.output.flatMap Prod.snd

/-- The thread with another queue. -/
def setQueue (s : Stream) (q : Fifo Sent) : Stream :=
  { s with thread := { s.thread with worker := { s.thread.worker with queue := q } } }

variable (bufferSize : UInt32) (queueSize : Nat)

/-- One step: a message is offered to the queue, or the thread goes on. -/
def step (s : Stream) : StreamLabel → Option Stream
  | .put m =>
      (offer queueSize (fitsClientTx bufferSize.toNat) s.thread.worker.queue m).map fun q =>
        { s.setQueue q with accepted := s.accepted ++ q.pending.drop s.pending.length }
  | .interrupt => some (s.setQueue { s.thread.worker.queue with closed := true })
  | .thread l =>
      (s.thread.step l).map fun r =>
        { s with
          thread := r.1
          taken := s.taken ++ s.thread.takes l
          output := s.output ++ r.2.toList }

/-- Between two messages of the client behind `clientSocket`, with nothing recorded
yet. -/
structure Fresh (clientSocket : Int) (s : Stream) : Prop where
  idle : s.thread.Idle
  socket : s.thread.worker.clientSocket = clientSocket
  connected : 0 ≤ clientSocket
  accepted : s.accepted = s.pending
  fits : ∀ m ∈ s.pending, fitsClientTx bufferSize.toNat m = true
  taken : s.taken = []
  output : s.output = []

section Steps
variable {bufferSize queueSize} {s t : Stream}

/-- A step of another thread adds messages that fit to the queue, and changes
nothing else of it. -/
theorem step_producer {l : StreamLabel} (hl : ∀ w, l ≠ .thread w)
    (h : step bufferSize queueSize s l = some t) :
    (∃ new, t.accepted = s.accepted ++ new ∧ t.pending = s.pending ++ new ∧
      ∀ m ∈ new, fitsClientTx bufferSize.toNat m = true) ∧
    t.taken = s.taken ∧ t.output = s.output ∧
    t.thread.worker.pc = s.thread.worker.pc ∧ t.thread.left = s.thread.left ∧
    t.thread.worker.clientSocket = s.thread.worker.clientSocket := by
  cases l with
  | thread w => exact absurd rfl (hl w)
  | interrupt =>
    cases h
    exact ⟨⟨[], (List.append_nil _).symm, (List.append_nil _).symm, List.forall_mem_nil _⟩,
      rfl, rfl, rfl, rfl, rfl⟩
  | put m =>
    obtain ⟨q, hq, rfl⟩ := Option.map_eq_some_iff.mp h
    refine ⟨⟨q.pending.drop s.pending.length, rfl, ?_⟩, rfl, rfl, rfl, rfl, rfl⟩
    rcases offer_cases hq with ⟨-, hfits, rfl⟩ | ⟨-, rfl⟩
    · have hnew : (s.pending ++ [m]).drop s.pending.length = [m] := List.drop_left
      change s.pending ++ [m] = s.pending ++ (s.pending ++ [m]).drop s.pending.length ∧
        ∀ a ∈ (s.pending ++ [m]).drop s.pending.length, _
      rw [hnew]
      exact ⟨rfl, fun a ha => List.mem_singleton.mp ha ▸ hfits⟩
    · change s.pending = s.pending ++ s.pending.drop s.pending.length ∧
        ∀ a ∈ s.pending.drop s.pending.length, _
      rw [List.drop_length, List.append_nil]
      exact ⟨rfl, List.forall_mem_nil _⟩

theorem step_thread {l : WriteLabel} (h : step bufferSize queueSize s (.thread l) = some t) :
    ∃ out, s.thread.Effect l t.thread out ∧ t.accepted = s.accepted ∧
      t.taken = s.taken ++ s.thread.takes l ∧ t.output = s.output ++ out.toList := by
  obtain ⟨⟨u, out⟩, hstep, rfl⟩ := Option.map_eq_some_iff.mp h
  exact ⟨out, ClientTxThread.step_effect hstep, rfl, rfl, rfl⟩

/-- What a step takes is what leaves the queue. -/
theorem takes_append_pending {l : WriteLabel} {out : Option (Int × List UInt8)}
    (h : s.thread.Effect l t.thread out) : s.thread.takes l ++ t.pending = s.pending := by
  obtain ⟨thread, accepted, taken, output⟩ := t
  simp only [pending] at *
  cases h with
  | newClient m rest fd hpc hqueue hm => simp [ClientTxThread.takes, hpc, hqueue]
  | dropped m rest hpc hqueue hm hsocket => simp [ClientTxThread.takes, hpc, hqueue]
  | begun m rest hpc hqueue hm hsocket => simp [ClientTxThread.takes, hpc, hqueue]
  | finished hpc hqueue => simp [ClientTxThread.takes, hpc, hqueue]
  | completed hpc => simp [ClientTxThread.takes, hpc]
  | wrote count hcount hleft => simp [ClientTxThread.takes]
  | eintr hleft => simp [ClientTxThread.takes]
  | error hleft => simp [ClientTxThread.takes]
  | headerDone m hpc hleft => simp [ClientTxThread.takes]
  | payloadDone m hpc hleft => simp [ClientTxThread.takes]

/-- Messages are taken in the order in which they were accepted, and they fit. -/
structure Accounted (bufferSize : UInt32) (s : Stream) : Prop where
  accepted : s.accepted = s.taken ++ s.pending
  fits : ∀ m ∈ s.accepted, fitsClientTx bufferSize.toNat m = true

theorem Accounted.step {l : StreamLabel} (h : step bufferSize queueSize s l = some t)
    (hs : Accounted bufferSize s) : Accounted bufferSize t := by
  by_cases hl : ∃ w, l = .thread w
  · obtain ⟨w, rfl⟩ := hl
    obtain ⟨out, heffect, haccepted, htaken, -⟩ := step_thread h
    constructor
    · rw [haccepted, hs.accepted, htaken, List.append_assoc, takes_append_pending heffect]
    · rw [haccepted]
      exact hs.fits
  · obtain ⟨⟨new, haccepted, hpending, hfits⟩, htaken, -⟩ :=
      step_producer (fun w hw => hl ⟨w, hw⟩) h
    constructor
    · rw [haccepted, hpending, htaken, hs.accepted, List.append_assoc]
    · rw [haccepted]
      intro m hm
      rcases List.mem_append.mp hm with hold | hnew
      · exact hs.fits m hold
      · exact hfits m hnew

/-! ## An unbroken stream -/

/-- The client is connected, and what was written to it and what is left of the
message in hand are the bytes of the messages taken. -/
structure Unbroken (clientSocket : Int) (s : Stream) : Prop where
  socket : s.thread.worker.clientSocket = clientSocket
  output : ∀ w ∈ s.output, w.1 = clientSocket
  bytes : s.bytes ++ s.thread.remaining = s.taken.flatMap messageBytes

/-- There is no client, and nothing is being written. -/
structure Broken (s : Stream) : Prop where
  socket : s.thread.worker.clientSocket < 0
  pc : s.thread.worker.pc.writing = false

theorem left_of_not_writing {t : ClientTxThread} (h : t.worker.pc.writing = false) :
    t.left = [] ∧ t.worker.pc.behind = [] := by
  unfold ClientTxThread.left
  cases hpc : t.worker.pc <;> simp [hpc, ClientTxPc.writing] at h <;>
    simp [ClientTxPc.data, ClientTxPc.behind]

/-- A step without a failed `write`, as far as the client sees it: the bytes it
stores and what then remains are what remained before and the message it takes. -/
theorem effect_bytes {t u : ClientTxThread} {l : WriteLabel} {out : Option (Int × List UInt8)}
    (h : t.Effect l u out) (hl : l ≠ .error) (hconnected : 0 ≤ t.worker.clientSocket)
    (hnew : ∀ m ∈ t.takes l, m.isNewClient = false) :
    u.worker.clientSocket = t.worker.clientSocket ∧
      (∀ w ∈ out, w.1 = t.worker.clientSocket) ∧
      out.toList.flatMap Prod.snd ++ u.remaining =
        t.remaining ++ (t.takes l).flatMap messageBytes := by
  cases h with
  | newClient m rest fd hpc hqueue hm =>
    have hmem : m ∈ t.takes .next := by simp [ClientTxThread.takes, hpc, hqueue]
    have hfalse := hnew m hmem
    simp [Sent.isNewClient, hm] at hfalse
  | dropped m rest hpc hqueue hm hsocket => omega
  | begun m rest hpc hqueue hm hsocket =>
    refine ⟨rfl, by simp, ?_⟩
    simp [ClientTxThread.remaining, ClientTxThread.left, ClientTxThread.takes, hpc, hqueue,
      ClientTxPc.data, ClientTxPc.behind, messageBytes]
  | finished hpc hqueue =>
    refine ⟨rfl, by simp, ?_⟩
    simp [ClientTxThread.remaining, ClientTxThread.left, ClientTxThread.takes, hpc, hqueue,
      ClientTxPc.data, ClientTxPc.behind]
  | completed hpc =>
    refine ⟨rfl, by simp, ?_⟩
    simp [ClientTxThread.remaining, ClientTxThread.left, ClientTxThread.takes, hpc,
      ClientTxPc.data, ClientTxPc.behind]
  | wrote count hcount hleft =>
    refine ⟨rfl, by simp, ?_⟩
    have hdrop : ClientTxThread.left ⟨t.worker, t.sent + count⟩ = t.left.drop count :=
      List.drop_drop.symm
    simp [ClientTxThread.remaining, ClientTxThread.takes, hdrop, ← List.append_assoc,
      List.take_append_drop]
  | eintr hleft => exact ⟨rfl, by simp, by simp [ClientTxThread.takes]⟩
  | error hleft => exact absurd rfl hl
  | headerDone m hpc hleft =>
    refine ⟨rfl, by simp, ?_⟩
    simp only [ClientTxThread.remaining, hleft]
    simp [ClientTxThread.left, ClientTxThread.takes, hpc, ClientTxPc.data, ClientTxPc.behind]
  | payloadDone m hpc hleft =>
    refine ⟨rfl, by simp, ?_⟩
    simp only [ClientTxThread.remaining, hleft]
    simp [ClientTxThread.left, ClientTxThread.takes, hpc, ClientTxPc.data, ClientTxPc.behind]

/-- **A step without a failed `write` keeps the stream unbroken.** -/
theorem Unbroken.step {clientSocket : Int} {l : StreamLabel}
    (h : step bufferSize queueSize s l = some t) (hl : l ≠ .thread .error)
    (hconnected : 0 ≤ clientSocket) (hnew : ∀ m ∈ t.taken, m.isNewClient = false)
    (hs : Unbroken clientSocket s) : Unbroken clientSocket t := by
  by_cases hthread : ∃ w, l = .thread w
  · obtain ⟨w, rfl⟩ := hthread
    obtain ⟨out, heffect, -, htaken, houtput⟩ := step_thread h
    have htakes : ∀ m ∈ s.thread.takes w, m.isNewClient = false := by
      intro m hm
      apply hnew
      rw [htaken]
      exact List.mem_append_right _ hm
    obtain ⟨hsocket, hout, hbytes⟩ := effect_bytes heffect (fun hw => hl (hw ▸ rfl))
      (hs.socket.symm ▸ hconnected) htakes
    constructor
    · rw [hsocket, hs.socket]
    · rw [houtput]
      intro v hv
      rcases List.mem_append.mp hv with hold | hcur
      · exact hs.output v hold
      · rw [hout v (Option.mem_toList.mp hcur), hs.socket]
    · have hold := hs.bytes
      simp only [Stream.bytes] at hold ⊢
      rw [htaken, houtput, List.flatMap_append, List.flatMap_append, ← hold]
      simp only [List.append_assoc] at hbytes ⊢
      exact congrArg _ hbytes
  · obtain ⟨-, htaken, houtput, hpc, hleft, hsocket⟩ :=
      step_producer (fun w hw => hthread ⟨w, hw⟩) h
    constructor
    · rw [hsocket, hs.socket]
    · rw [houtput]
      exact hs.output
    · rw [Stream.bytes, houtput, ClientTxThread.remaining, hleft, hpc, htaken]
      exact hs.bytes

/-- A failed `write` ends the stream. -/
theorem Broken.of_error (h : step bufferSize queueSize s (.thread .error) = some t) :
    Broken t ∧ t.output = s.output ∧ t.taken = s.taken := by
  obtain ⟨out, heffect, -, htaken, houtput⟩ := step_thread h
  obtain ⟨thread, accepted, taken, output⟩ := t
  cases heffect with
  | error hleft =>
    refine ⟨⟨by simp, rfl⟩, ?_, ?_⟩
    · simpa using houtput
    · simpa [ClientTxThread.takes] using htaken

/-- **Without a client nothing is written until there is a new one.** -/
theorem Broken.step {l : StreamLabel} (h : step bufferSize queueSize s l = some t)
    (hnew : ∀ w, l = .thread w → ∀ m ∈ s.thread.takes w, m.isNewClient = false) (hs : Broken s) :
    Broken t ∧ t.output = s.output := by
  by_cases hthread : ∃ w, l = .thread w
  · obtain ⟨w, rfl⟩ := hthread
    obtain ⟨out, heffect, -, -, houtput⟩ := step_thread h
    have htakes := hnew w rfl
    have hleft := (left_of_not_writing hs.pc).1
    have hsocket := hs.socket
    obtain ⟨thread, accepted, taken, output⟩ := t
    cases heffect with
    | newClient m rest fd hpc hqueue hm =>
      have hmem : m ∈ s.thread.takes .next := by simp [ClientTxThread.takes, hpc, hqueue]
      have hfalse := htakes m hmem
      simp [Sent.isNewClient, hm] at hfalse
    | dropped m rest hpc hqueue hm _ => exact ⟨⟨hsocket, rfl⟩, by simpa using houtput⟩
    | begun m rest hpc hqueue hm hopen => omega
    | finished hpc hqueue => exact ⟨⟨hsocket, rfl⟩, by simpa using houtput⟩
    | completed hpc => exact ⟨⟨hsocket, rfl⟩, by simpa using houtput⟩
    | wrote count hcount hne => exact absurd hleft hne
    | eintr hne => exact absurd hleft hne
    | error hne => exact absurd hleft hne
    | headerDone m hpc _ =>
      have hwriting := hs.pc
      simp [hpc, ClientTxPc.writing] at hwriting
    | payloadDone m hpc _ =>
      have hwriting := hs.pc
      simp [hpc, ClientTxPc.writing] at hwriting
  · obtain ⟨-, -, houtput, hpc, -, hsocket⟩ := step_producer (fun w hw => hthread ⟨w, hw⟩) h
    refine ⟨⟨?_, ?_⟩, houtput⟩
    · rw [hsocket]
      exact hs.socket
    · rw [hpc]
      exact hs.pc

theorem taken_extends {l : StreamLabel} (h : step bufferSize queueSize s l = some t) :
    s.taken <+: t.taken ∧
      ∀ w, l = .thread w → t.taken = s.taken ++ s.thread.takes w := by
  by_cases hthread : ∃ w, l = .thread w
  · obtain ⟨w, rfl⟩ := hthread
    obtain ⟨out, -, -, htaken, -⟩ := step_thread h
    refine ⟨⟨_, htaken.symm⟩, ?_⟩
    rintro v ⟨⟩
    exact htaken
  · obtain ⟨-, htaken, -⟩ := step_producer (fun w hw => hthread ⟨w, hw⟩) h
    refine ⟨⟨[], by rw [List.append_nil, htaken]⟩, ?_⟩
    rintro w rfl
    exact absurd ⟨w, rfl⟩ hthread

end Steps

/-! ## Whole runs -/

section Runs
variable {bufferSize queueSize} {s t : Stream} {clientSocket : Int}

/-- What the client behind `clientSocket` has received, whether a `write` failed or
not. -/
structure Delivered (clientSocket : Int) (s : Stream) : Prop where
  output : ∀ w ∈ s.output, w.1 = clientSocket
  bytes : s.bytes <+: s.taken.flatMap messageBytes
  state : Unbroken clientSocket s ∨ Broken s

theorem Unbroken.delivered (h : Unbroken clientSocket s) : Delivered clientSocket s :=
  ⟨h.output, ⟨_, h.bytes⟩, Or.inl h⟩

theorem Delivered.step {l : StreamLabel} (h : step bufferSize queueSize s l = some t)
    (hconnected : 0 ≤ clientSocket) (hnew : ∀ m ∈ t.taken, m.isNewClient = false)
    (hs : Delivered clientSocket s) : Delivered clientSocket t := by
  obtain ⟨htaken, htakes⟩ := taken_extends h
  have hbroken (hb : Broken t ∧ t.output = s.output) : Delivered clientSocket t := by
    refine ⟨?_, ?_, Or.inr hb.1⟩
    · rw [hb.2]
      exact hs.output
    · rw [Stream.bytes, hb.2]
      obtain ⟨more, hmore⟩ := htaken
      refine hs.bytes.trans ⟨more.flatMap messageBytes, ?_⟩
      rw [← hmore, List.flatMap_append]
  rcases hs.state with hu | hb
  · by_cases hl : l = .thread .error
    · subst hl
      obtain ⟨hb, houtput, -⟩ := Broken.of_error h
      exact hbroken ⟨hb, houtput⟩
    · exact (hu.step h hl hconnected hnew).delivered
  · refine hbroken (hb.step h ?_)
    intro w hw m hm
    apply hnew
    rw [htakes w hw]
    exact List.mem_append_right _ hm

/-- What holds of a stream as long as no new client has been taken is kept along
every run. -/
theorem exec_invariant {Inv : Stream → Prop} {P : StreamLabel → Prop}
    (hstep : ∀ s l t, P l → step bufferSize queueSize s l = some t →
      (∀ m ∈ t.taken, m.isNewClient = false) → Inv s → Inv t)
    {ls : List StreamLabel} (hP : ∀ l ∈ ls, P l)
    (h : exec (step bufferSize queueSize) s ls = some t)
    (hnew : ∀ m ∈ t.taken, m.isNewClient = false) (hs : Inv s) : Inv t := by
  have hrun : Run (step bufferSize queueSize) (fun _ l => P l) s ls t :=
    run_of_labels (fun l hl _ => hP l hl) h
  have hkeep : ∀ u l v, P l → step bufferSize queueSize u l = some v →
      ((∀ m ∈ u.taken, m.isNewClient = false) → Inv u) →
      (∀ m ∈ v.taken, m.isNewClient = false) → Inv v := by
    intro u l v hl huv ih hv
    obtain ⟨more, hmore⟩ := (taken_extends huv).1
    refine hstep u l v hl huv hv (ih fun m hm => hv m ?_)
    rw [← hmore]
    exact List.mem_append_left _ hm
  exact Run.invariant hkeep hrun (fun _ => hs) hnew

theorem exec_taken {ls : List StreamLabel} (h : exec (step bufferSize queueSize) s ls = some t) :
    s.taken <+: t.taken := by
  induction ls generalizing s with
  | nil => exact Option.some.inj h ▸ List.prefix_rfl
  | cons l ls ih =>
    obtain ⟨u, hu, hrest⟩ := Option.bind_eq_some_iff.mp h
    exact (taken_extends hu).1.trans (ih hrest)

/-- Without a client a whole run writes nothing, unless it takes a new client. -/
theorem Broken.exec_output {ls : List StreamLabel}
    (h : exec (Stream.step bufferSize queueSize) s ls = some t)
    (hnew : ∀ m ∈ t.taken.drop s.taken.length, m.isNewClient = false) (hs : Broken s) :
    t.output = s.output := by
  induction ls generalizing s with
  | nil => exact Option.some.inj h ▸ rfl
  | cons l ls ih =>
    obtain ⟨u, hu, hrest⟩ := Option.bind_eq_some_iff.mp h
    obtain ⟨⟨first, hfirst⟩, htakes⟩ := taken_extends hu
    obtain ⟨more, hmore⟩ := exec_taken hrest
    have hdrop : t.taken.drop s.taken.length = first ++ more := by
      rw [← hmore, ← hfirst, List.append_assoc, List.drop_left]
    rw [hdrop] at hnew
    obtain ⟨hbroken, houtput⟩ := hs.step hu fun w hw m hm => by
      have hthread := htakes w hw
      rw [← hfirst] at hthread
      exact hnew m (List.mem_append_left _ (List.append_cancel_left hthread ▸ hm))
    rw [← houtput]
    refine ih hrest ?_ hbroken
    intro m hm
    rw [← hmore, List.drop_left] at hm
    exact hnew m (List.mem_append_right _ hm)

end Runs

end Stream

/-! ## Reading the stream -/

/-- `api_decode_response`; `none` is the return value `-1`. -/
def apiDecodeResponse (buffer : List UInt8) : Option (UInt8 × UInt8) :=
  if buffer.length < apiResponseSize then none else some (buffer.getD 0 0, buffer.getD 1 0)

/-- How a client reads: a header, as many bytes as it says, and so on until no
whole message is left.  Every message takes at least a byte, so `fuel` is the
number of bytes. -/
def readMessages : Nat → List UInt8 → List (UInt8 × UInt32 × List UInt8)
  | 0, _ => []
  | fuel + 1, bytes =>
      match apiDecodeMessageHeader bytes with
      | none => []
      | some header =>
          let rest := bytes.drop apiHeaderSize
          let len := header.messageLength.toNat
          if rest.length < len then []
          else (header.type, header.requestId, rest.take len) :: readMessages fuel (rest.drop len)

/-- What a client is to see of a message. -/
def Sent.entry (m : Sent) : UInt8 × UInt32 × List UInt8 :=
  (m.message.header.type, m.message.header.requestId, m.message.payload)

/-- The header decodes whatever stands behind it. -/
theorem apiDecodeMessageHeader_append (header : MessageHeader) (rest : List UInt8) :
    apiDecodeMessageHeader (apiEncodeMessageHeader header ++ rest) = some header := by
  have hid : (apiEncodeMessageHeader header ++ rest).drop 2 =
      writeU32 header.requestId ++ (writeU32 header.messageLength ++ rest) := rfl
  have hlen : (apiEncodeMessageHeader header ++ rest).drop 6 =
      writeU32 header.messageLength ++ rest := rfl
  rw [apiDecodeMessageHeader, if_neg (by simp), hid, hlen, readU32_writeU32, readU32_writeU32]
  rfl

/-- `message_length` is the length of the payload. -/
theorem messageLength_eq {m : Sent} (h : m.message.bufferLen < UInt32.size) :
    m.message.header.messageLength.toNat = m.message.payload.length := by
  obtain ⟨header, hdecode, hlen⟩ := Written.data_wellFramed 0 h
  have hheader : header = m.message.header :=
    Option.some.inj (hdecode.symm.trans (apiDecodeMessageHeader_encode m.message.header))
  rw [hheader] at hlen
  exact hlen

theorem readMessages_cons {m : Sent} (h : m.message.bufferLen < UInt32.size) (fuel : Nat)
    (rest : List UInt8) :
    readMessages (fuel + 1) (messageBytes m ++ rest) = m.entry :: readMessages fuel rest := by
  have hlen := messageLength_eq h
  have hdrop : (apiEncodeMessageHeader m.message.header ++ (m.message.payload ++ rest)).drop
      apiHeaderSize = m.message.payload ++ rest :=
    List.drop_left' (length_apiEncodeMessageHeader _)
  rw [messageBytes, List.append_assoc, readMessages, apiDecodeMessageHeader_append]
  simp only [hdrop, hlen]
  rw [if_neg (by simp), List.take_left, List.drop_left]
  rfl

/-- **A stream of whole messages is read as these messages.** -/
theorem readMessages_flatMap {ms : List Sent} (h : ∀ m ∈ ms, m.message.bufferLen < UInt32.size)
    {fuel : Nat} (hfuel : ms.length ≤ fuel) :
    readMessages fuel (ms.flatMap messageBytes) = ms.map Sent.entry := by
  induction ms generalizing fuel with
  | nil =>
    cases fuel with
    | zero => rfl
    | succ fuel => simp [readMessages, apiDecodeMessageHeader, apiHeaderSize]
  | cons m ms ih =>
    obtain ⟨fuel, rfl⟩ : ∃ k, fuel = k + 1 := Nat.exists_eq_add_one.mpr (by simp at hfuel; omega)
    rw [List.flatMap_cons, readMessages_cons (h m List.mem_cons_self)]
    rw [ih (fun a ha => h a (List.mem_cons_of_mem _ ha)) (by simpa using hfuel)]
    rfl

/-- There are at least as many bytes as messages. -/
theorem length_le_flatMap (ms : List Sent) : ms.length ≤ (ms.flatMap messageBytes).length := by
  induction ms with
  | nil => exact Nat.le_refl 0
  | cons m ms ih =>
    simp only [List.flatMap_cons, List.length_append, List.length_cons, messageBytes,
      length_apiEncodeMessageHeader, apiHeaderSize]
    omega

/-- The status and the details of an answer are read from its payload. -/
theorem apiDecodeResponse_encode (status : ResponseStatus) (details : ResponseDetails) :
    apiDecodeResponse (apiEncodeResponse status details) = some (status.code, details.code) := rfl

/-! ## The stream of one connection -/

section Connection
variable {bufferSize : UInt32} {queueSize : Nat} {clientSocket : Int} {start s : Stream}

theorem Stream.Fresh.accounted (h : start.Fresh bufferSize clientSocket) :
    start.Accounted bufferSize := by
  constructor
  · rw [h.accepted, h.taken, List.nil_append]
  · rw [h.accepted]
    exact h.fits

theorem Stream.Fresh.unbroken (h : start.Fresh bufferSize clientSocket) :
    start.Unbroken clientSocket := by
  have hpc : start.thread.worker.pc.writing = false := by
    rcases h.idle with hpc | hpc <;> rw [hpc] <;> rfl
  refine ⟨h.socket, ?_, ?_⟩
  · rw [h.output]
    exact List.forall_mem_nil _
  · obtain ⟨hleft, hbehind⟩ := Stream.left_of_not_writing hpc
    simp [Stream.bytes, ClientTxThread.remaining, h.output, h.taken, hleft, hbehind]

/-- Once a new client has been taken from the queue the worker is fresh. -/
theorem Stream.fresh_of_newClient {u : Stream} {m : Sent}
    (hs : s.Accounted bufferSize) (hconnected : 0 ≤ clientSocket)
    (hpc : s.thread.worker.pc = .take) (hhead : s.pending.head? = some m)
    (hm : m.message = .newClient clientSocket)
    (h : Stream.step bufferSize queueSize s (.thread .next) = some u) :
    Stream.Fresh bufferSize clientSocket ⟨u.thread, u.pending, [], []⟩ := by
  obtain ⟨out, heffect, -, -, -⟩ := Stream.step_thread h
  have hpending := Stream.takes_append_pending heffect
  have hfits : ∀ a ∈ u.pending, fitsClientTx bufferSize.toNat a = true := by
    intro a ha
    apply hs.fits
    rw [hs.accepted, ← hpending]
    exact List.mem_append_right _ (List.mem_append_right _ ha)
  obtain ⟨thread, accepted, taken, output⟩ := u
  have hother {a : Sent} {rest : List Sent} (hqueue : s.thread.worker.queue.pending = a :: rest) :
      a = m := by
    rw [Stream.pending, hqueue] at hhead
    exact Option.some.inj hhead
  cases heffect with
  | newClient a rest fd hpc' hqueue ha =>
    obtain rfl := hother hqueue
    obtain rfl : fd = clientSocket := ClientTxMessage.newClient.inj (ha.symm.trans hm)
    exact ⟨Or.inr rfl, rfl, hconnected, rfl, hfits, rfl, rfl⟩
  | dropped a rest hpc' hqueue ha _ =>
    obtain rfl := hother hqueue
    simp [Sent.isNewClient, hm] at ha
  | begun a rest hpc' hqueue ha _ =>
    obtain rfl := hother hqueue
    simp [Sent.isNewClient, hm] at ha
  | finished hpc' hqueue => simp [Stream.pending, hqueue] at hhead
  | completed hpc' => simp [hpc] at hpc'

theorem forClient_append {ms ns : List Sent} (h : ∀ m ∈ ms, m.isNewClient = false) :
    forClient (ms ++ ns) = ms ++ forClient ns := by
  unfold forClient
  rw [List.takeWhile_append_of_pos]
  intro m hm
  simp [h m hm]

/-- **The outgoing stream of one connection is decodable.** -/
theorem clientTx_stream (hstart : start.Fresh bufferSize clientSocket) {ls : List StreamLabel}
    (hrun : exec (Stream.step bufferSize queueSize) start ls = some s) :
    -- while no new client was taken, the client has received a prefix of its messages
    ((∀ m ∈ s.taken, m.isNewClient = false) →
      (∀ w ∈ s.output, w.1 = clientSocket) ∧
      s.bytes <+: (forClient s.accepted).flatMap messageBytes ∧
      -- and all of them when no `write` failed and nothing is left to do
      (.thread .error ∉ ls → s.thread.Idle → s.pending = [] →
        s.bytes = s.accepted.flatMap messageBytes ∧ forClient s.accepted = s.accepted)) ∧
    -- the whole stream is read as the messages in queue order
    (∀ m ∈ s.accepted, m.message.header.messageLength.toNat = m.message.payload.length) ∧
    (let stream := (forClient s.accepted).flatMap messageBytes
     readMessages stream.length stream = (forClient s.accepted).map Sent.entry) ∧
    (∀ m ∈ s.accepted, ∀ id status details,
      m.message = .response id status details ∨ m.message = .complete id status details →
        apiDecodeResponse m.entry.2.2 = some (status.code, details.code)) ∧
    -- after a failed `write` nothing is written until a new client is taken
    ∀ before after mid, ls = before ++ .thread .error :: after →
      exec (Stream.step bufferSize queueSize) start (before ++ [.thread .error]) = some mid →
      (∀ m ∈ s.taken.drop mid.taken.length, m.isNewClient = false) → s.output = mid.output := by
  have haccounted : s.Accounted bufferSize := by
    have hall : Run (Stream.step bufferSize queueSize) (fun _ _ => True) start ls s :=
      run_of_labels (fun _ _ _ => trivial) hrun
    exact hall.invariant (fun _ _ _ _ h hs => hs.step h) hstart.accounted
  have hsize : ∀ m ∈ s.accepted, m.message.bufferLen < UInt32.size := by
    intro m hm
    have hfits := of_decide_eq_true (haccounted.fits m hm)
    exact Nat.lt_of_le_of_lt hfits bufferSize.toNat_lt
  have hclient : ∀ m ∈ forClient s.accepted, m ∈ s.accepted := fun m hm =>
    (List.takeWhile_prefix _).subset hm
  refine ⟨?_, fun m hm => messageLength_eq (hsize m hm), ?_, ?_, ?_⟩
  · intro hnew
    have haccepted : forClient s.accepted = s.taken ++ forClient s.pending := by
      rw [haccounted.accepted, forClient_append hnew]
    have hdelivered : s.Delivered clientSocket :=
      Stream.exec_invariant (fun _ _ _ (_ : True) h hn hd => hd.step h hstart.connected hn)
        (fun _ _ => trivial) hrun hnew hstart.unbroken.delivered
    refine ⟨hdelivered.output, ?_, ?_⟩
    · rw [haccepted, List.flatMap_append]
      exact hdelivered.bytes.trans (List.prefix_append _ _)
    · intro herror hidle hpending
      have hunbroken : s.Unbroken clientSocket :=
        Stream.exec_invariant (fun _ _ _ hl h hn hu => hu.step h hl hstart.connected hn)
          (fun l hl heq => herror (heq ▸ hl)) hrun hnew hstart.unbroken
      have hleft : s.thread.remaining = [] := by
        have hpc : s.thread.worker.pc.writing = false := by
          rcases hidle with hpc | hpc <;> rw [hpc] <;> rfl
        rw [ClientTxThread.remaining, (Stream.left_of_not_writing hpc).1,
          (Stream.left_of_not_writing hpc).2, List.append_nil]
      have htaken : s.accepted = s.taken := by
        rw [haccounted.accepted, hpending, List.append_nil]
      have hbytes := hunbroken.bytes
      rw [hleft, List.append_nil] at hbytes
      refine ⟨by rw [hbytes, htaken], ?_⟩
      rw [haccepted, hpending, htaken]
      exact List.append_nil _
  · exact readMessages_flatMap (fun m hm => hsize m (hclient m hm)) (length_le_flatMap _)
  · rintro m - id status details (hm | hm)
    · rw [Sent.entry, hm]
      exact apiDecodeResponse_encode status details
    · rw [Sent.entry, hm]
      exact apiDecodeResponse_encode status details
  · intro before after mid hls hmid hnew
    have hsplit : exec (Stream.step bufferSize queueSize) start
        ((before ++ [.thread .error]) ++ after) = some s := by
      rw [List.append_assoc]
      exact hls ▸ hrun
    obtain ⟨mid', hmid', hafter⟩ := exec_prefix hsplit
    obtain rfl : mid' = mid := Option.some.inj (hmid'.symm.trans hmid)
    obtain ⟨pre, hpre, herror⟩ := exec_prefix hmid
    obtain ⟨post, hpost, hlast⟩ := Option.bind_eq_some_iff.mp herror
    obtain rfl : post = mid' := Option.some.inj hlast
    exact (Stream.Broken.of_error hpost).1.exec_output hafter hnew

end Connection

/-- A worker whose client has just connected with descriptor 5; nothing is queued. -/
def connectedStream : Stream :=
  ⟨⟨{ ClientTxWorker.create with clientSocket := 5, pc := .complete }, 0⟩, [], [], []⟩

/-- Two soft bits and an answer. -/
def queuedMessages : List Sent :=
  [⟨.softBits 7 [1, 255], none, none, none⟩, ⟨.response 8 .failure .invalidRequest, none, none, none⟩]

/-- The header of the soft bits goes out in two pieces, with an interrupted call in
between; the `write` of the answer fails behind one byte. -/
def brokenRun : List StreamLabel :=
  queuedMessages.map .put ++
    [.thread .next, .thread .next, .thread (.wrote 4), .thread .eintr, .thread (.wrote 6),
     .thread .done, .thread (.wrote 2), .thread .done, .thread .next, .thread .next,
     .thread (.wrote 1), .thread .error, .thread .next]

theorem clientTx_stream_broken :
    ∃ s, exec (Stream.step 16 4) connectedStream brokenRun = some s ∧
      s.bytes = [0, 5, 0, 0, 0, 7, 0, 0, 0, 2, 1, 255, 0] ∧
      s.bytes <+: (forClient s.accepted).flatMap messageBytes := by
  refine exists_exec (by decide) fun s hs => ?_
  have hfresh : connectedStream.Fresh 16 5 :=
    ⟨Or.inr rfl, rfl, by decide, rfl, List.forall_mem_nil _, rfl, rfl⟩
  have hbytes : (exec (Stream.step 16 4) connectedStream brokenRun).map Stream.bytes =
      some [0, 5, 0, 0, 0, 7, 0, 0, 0, 2, 1, 255, 0] := by decide
  have htaken : (exec (Stream.step 16 4) connectedStream brokenRun).map Stream.taken =
      some queuedMessages := by decide
  rw [hs] at hbytes htaken
  have hnew : ∀ m ∈ s.taken, m.isNewClient = false := by
    rw [Option.some.inj htaken]
    decide
  exact ⟨Option.some.inj hbytes, ((clientTx_stream hfresh hs).1 hnew).2.1⟩

end SdrModem
