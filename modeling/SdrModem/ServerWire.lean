import SdrModem.ServerIsolation
import SdrModem.ClientTxStream

/-!
# What reaches a connection

The server with its client tx worker cut into single calls of `write`.  What a call
stores reaches the connection that owns the descriptor at that moment, and not the
one the message was meant for: a descriptor is a number, freed by `close` and given
out again by `accept`.

`awaiting` are the connections whose `NEW_CLIENT` waits in the queue of the client
tx worker, oldest first, and `introduced` those whose `NEW_CLIENT` was taken out of
it.
-/
namespace SdrModem
open BoundedFifo Machine

/-- A `NEW_CLIENT` with a descriptor. -/
def Sent.announces (m : Sent) : Bool :=
  match m.message with
  | .newClient fd => 0 ≤ fd
  | _ => false

/-- The server with the progress of the part in hand and the record of what every
call of `write` stored for which connection. -/
structure Wire where
  server : Server
  sent : Nat
  output : List (Option Nat × List UInt8)
  awaiting : List Nat
  introduced : List Nat
deriving DecidableEq, Repr

/-- What happens next: a step of another thread, or one of the client tx worker. -/
inductive WireLabel where
  | server (l : ServerLabel)
  | tx (l : WriteLabel)
deriving DecidableEq, Repr

/-- The descriptors that get something of the message in hand or of `ms`, if `ms` is
what the thread takes next. -/
def ClientTxThread.dueFor (t : ClientTxThread) (ms : List Sent) : List Int :=
  (if t.remaining = [] then [] else [t.worker.clientSocket]) ++
    ((assign t.worker.clientSocket ms).filter fun p => !p.2.isNewClient).map Prod.fst

namespace Wire

/-- The client tx thread. -/
def thread (s : Wire) : ClientTxThread := ⟨s.server.clientTx, s.sent⟩

/-- The messages waiting for the client tx worker. -/
def pending (s : Wire) : List Sent := s.server.clientTx.queue.pending

/-- `tcp_server_create`. -/
def create (config : AppConfig) : Wire := ⟨Server.create config, 0, [], [], []⟩

/-- The clients announced by the messages that a step put into the queue. -/
def announcedBy (s : Wire) (t : Server) : List Nat :=
  ((t.clientTx.queue.pending.drop s.pending.length).filter Sent.announces).map
    fun _ => s.server.client.conn

/-- How many clients are announced by the messages that a step takes. -/
def introduces (s : Wire) (l : WriteLabel) : Nat := (s.thread.takes l).countP Sent.announces

/-- `write` to a descriptor that belongs to nobody fails. -/
def writeAllowed (s : Wire) : WriteLabel → Bool
  | .wrote _ => (s.server.owner s.server.clientTx.clientSocket).isSome
  | _ => true

/-- One step of one thread. -/
def step (s : Wire) : WireLabel → Option Wire
  | .server (.clientTx _) => none
  | .server l =>
      (s.server.step l).map fun t =>
        { s with server := t, awaiting := s.awaiting ++ s.announcedBy t }
  | .tx l =>
      if s.writeAllowed l then
        (s.thread.step l).map fun r =>
          { server := { s.server with clientTx := r.1.worker }
            sent := r.1.sent
            output := s.output ++ r.2.toList.map fun o => (s.server.owner o.1, o.2)
            awaiting := s.awaiting.drop (s.introduces l)
            introduced := s.introduced ++ s.awaiting.take (s.introduces l) }
      else none

/-- The bytes that reached a connection. -/
def bytes (s : Wire) (conn : Nat) : List UInt8 :=
  (s.output.filter fun o => o.1 = some conn).flatMap Prod.snd

/-- The descriptors to which the client tx worker has still something to write:
what is left of the message in hand, and the messages in its queue. -/
def due (s : Wire) : List Int := s.thread.dueFor s.pending

/-- **The condition on a step**: `accept` does not return a descriptor to which
something is still to be written. -/
def Unshared (s : Wire) : WireLabel → Prop
  | .server (.accept fd _ _) => fd ∉ s.due
  | _ => True

instance (s : Wire) : (l : WireLabel) → Decidable (s.Unshared l)
  | .server (.accept fd _ _) => inferInstanceAs (Decidable (fd ∉ s.due))
  | .server .shutdown | .server .acceptor | .server (.rx _) | .server (.device _) | .server (.tx _)
  | .server (.clientTx _) | .server .interruptRx | .server .interruptTx
  | .server .interruptClientTx | .tx _ => instDecidableTrue

end Wire

/-- Bytes a client can read: a prefix of whole messages, each of them with a payload
as long as its header says. -/
def Whole (bytes : List UInt8) : Prop :=
  ∃ ms : List Sent,
    (∀ m ∈ ms, m.isNewClient = false ∧ m.message.bufferLen < UInt32.size) ∧
      bytes <+: ms.flatMap messageBytes

/-- A connection carries whole messages, and nothing before its `NEW_CLIENT` was
processed. -/
def Wire.Orderly (s : Wire) : Prop :=
  ∀ conn, Whole (s.bytes conn) ∧ (conn ∉ s.introduced → s.bytes conn = [])

/-! ## The socket that is met at the end of the queue -/

namespace Server
variable {s s' : Server} {l : ServerLabel}

/-- No call announces a client. -/
def NoAnnouncement (s : Server) : Prop := ∀ a ∈ s.todo, a.val.announces = false

/-- The server was stopped while it served a client, and accepts no other one. -/
structure Stopping (s : Server) : Prop where
  running : s.isRunning = false
  pc : s.acceptor = .leave ∨ s.acceptor = .close ∨ s.acceptor = .head ∨ s.acceptor = .finished

/-- What the client tx worker knows is in step with the acceptor thread, or there
will be no other client. -/
def Told (s : Server) : Prop := s.Announced ∨ s.Stopping

theorem Stopping.effect (hs : s.Stopping) (h : Effect s l s') : s'.Stopping := by
  obtain ⟨hrun, hpc⟩ := hs
  cases h with
  | shutdown => exact ⟨rfl, hpc⟩
  | acceptFailed fd script ok hacc hfd => simp [hacc] at hpc
  | accepted fd script hacc hfd => simp [hacc] at hpc
  | optionFailed fd script hacc => simp [hacc] at hpc
  | head pc hacc htodo hpc' hfin => exact ⟨hrun, Or.inr (Or.inr (Or.inr (hfin hrun)))⟩
  | iteration it hacc htodo hr hit => simp [hacc] at hpc
  | stopServing hacc htodo hr => simp [hacc] at hpc
  | leave hacc htodo => exact ⟨hrun, Or.inr (Or.inl rfl)⟩
  | close hacc htodo => exact ⟨hrun, Or.inr (Or.inr (Or.inl rfl))⟩
  | _ => exact ⟨hrun, hpc⟩

theorem Told.effect (hs : s.Told) (h : Effect s l s') (hw : s.WellFormed) : s'.Told := by
  rcases hs with hs | hs
  · by_cases hstop : l = .acceptor ∧ s.todo = [] ∧ s.acceptor = .serve ∧ s.isRunning = false
    · obtain ⟨rfl, htodo, hpc, hrun⟩ := hstop
      refine Or.inr ?_
      cases h with
      | stopServing => exact ⟨hrun, Or.inl rfl⟩
      | iteration it _ _ hrun' => rw [hrun] at hrun'; cases hrun'
      | head pc hpc' => rw [hpc] at hpc'; cases hpc'
      | leave hpc' => rw [hpc] at hpc'; cases hpc'
      | close hpc' => rw [hpc] at hpc'; cases hpc'
      | callClient a rest m htodo' => rw [htodo] at htodo'; cases htodo'
      | callWorker a rest rx tx htodo' => rw [htodo] at htodo'; cases htodo'
      | worker _ _ _ _ hstep => cases hstep
    · exact Or.inl (h.announced (fun hl htodo hpc hrun => absurd ⟨hl, htodo, hpc, hrun⟩ hstop) hw hs)
  · exact Or.inr (hs.effect h)

theorem Told.clientTx (hs : s.Told) {l : ClientTxLabel} {w : ClientTxWorker}
    {out : Option Written} (hstep : s.clientTx.step l = some (w, out)) :
    Told { s with clientTx := w } := by
  rcases hs with hs | ⟨hrun, hpc⟩
  · exact Or.inl (hs.clientTx hstep s.written)
  · exact Or.inr ⟨hrun, hpc⟩

/-- Nobody is known at the end of the queue when a client is accepted. -/
theorem Told.endSocket_of_accepting (hs : s.Told) (hpc : s.acceptor = .accepting) :
    s.clientTx.endSocket = -1 := by
  rcases hs with hs | ⟨-, hstop⟩
  · have hphase := hs.phase
    rw [hpc] at hphase
    exact hphase
  · simp [hpc] at hstop

end Server

/-! ## What the other threads put into the queue -/

namespace Server
variable {s s' : Server} {l : ServerLabel}

theorem WellFormed.clientTx (hs : s.WellFormed) {l : ClientTxLabel} {w : ClientTxWorker}
    {out : Option Written} (hstep : s.clientTx.step l = some (w, out)) :
    WellFormed { s with clientTx := w } := by
  refine ⟨hs.typed, fun hf => ⟨(hs.queuesOpen hf).rx, (hs.queuesOpen hf).tx, ?_⟩, hs.outside,
    hs.inside⟩
  exact (ClientTxWorker.step_closed hstep).trans (hs.queuesOpen hf).clientTx

/-- **What a step of another thread does to the client tx worker**: it adds messages
that fit to the queue. -/
structure Produces (s s' : Server) (new : List Sent) : Prop where
  pending : s'.clientTx.queue.pending = s.clientTx.queue.pending ++ new
  pc : s'.clientTx.pc = s.clientTx.pc
  clientSocket : s'.clientTx.clientSocket = s.clientTx.clientSocket
  config : s'.config = s.config
  fits : ∀ m ∈ new, fitsClientTx s.config.sdrBufferLen.toNat m = true

theorem produces_put (t : Server) (m : Sent) (hconfig : t.config = s.config)
    (ht : t.clientTx = s.clientTx.put s.config.sdrBufferLen.toNat m) :
    (Produces s t [m]) ∨ Produces s t [] := by
  by_cases hput : s.clientTx.queue.closed = false ∧ fitsClientTx s.config.sdrBufferLen.toNat m = true
  · refine Or.inl ⟨?_, ?_, ?_, hconfig, ?_⟩
    · rw [ht, ClientTxWorker.put, if_pos hput]
    · rw [ht, ClientTxWorker.put, if_pos hput]
    · rw [ht, ClientTxWorker.put, if_pos hput]
    · intro a ha
      rw [List.mem_singleton.mp ha]
      exact hput.2
  · rw [ClientTxWorker.put, if_neg hput] at ht
    refine Or.inr ⟨?_, by rw [ht], by rw [ht], hconfig, List.forall_mem_nil _⟩
    rw [ht, List.append_nil]

theorem produces_nothing (t : Server) (hconfig : t.config = s.config)
    (ht : t.clientTx = s.clientTx) : Produces s t [] := by
  refine ⟨?_, by rw [ht], by rw [ht], hconfig, List.forall_mem_nil _⟩
  rw [ht, List.append_nil]

/-- A client is announced by the call that is made for it, and by nothing else. -/
theorem Effect.produces (h : Effect s l s') (hl : ∀ w, l ≠ .clientTx w) :
    (∃ new, Produces s s' new ∧ ∀ m ∈ new, m.announces = false) ∨
      ∃ a rest fd, l = .acceptor ∧ s.todo = a :: rest ∧ s'.todo = rest ∧ a.val = .sendNew fd ∧
        0 ≤ fd ∧ s'.client = s.client ∧ s'.isOpen = s.isOpen ∧ s'.acceptor = s.acceptor ∧
        s'.nextConn = s.nextConn ∧ s'.clientTx.queue.closed = s.clientTx.queue.closed ∧
        (Produces s s' [⟨.newClient fd, none, none, none⟩] ∨ Produces s s' []) := by
  cases h with
  | callClient a rest m htodo hm =>
    have hput := produces_put (s := s)
      { s with todo := rest, clientTx := s.clientTx.put s.config.sdrBufferLen.toNat m } m rfl rfl
    by_cases ha : a.val.announces = true
    · refine Or.inr ?_
      obtain ⟨fd, hval, hfd⟩ : ∃ fd, a.val = .sendNew fd ∧ 0 ≤ fd := by
        cases hval : a.val <;> rw [hval] at ha <;> try cases ha
        exact ⟨_, rfl, of_decide_eq_true ha⟩
      have hm' : m = ⟨.newClient fd, none, none, none⟩ := by
        rw [Item.message?, hval] at hm
        exact (Option.some.inj hm).symm
      refine ⟨a, rest, fd, rfl, htodo, rfl, hval, hfd, rfl, rfl, rfl, rfl, ?_, hm' ▸ hput⟩
      exact ClientTxWorker.put_closed m
    · rw [Bool.not_eq_true] at ha
      have hm' : m.announces = false := by
        unfold Item.message? at hm
        split at hm <;> cases hm
        · rfl
        · rename_i fd hval
          rw [hval] at ha
          exact ha
      refine Or.inl ?_
      rcases hput with hput | hput
      · exact ⟨_, hput, fun x hx => List.mem_singleton.mp hx ▸ hm'⟩
      · exact ⟨_, hput, List.forall_mem_nil _⟩
  | worker l rx tx sent hstep =>
    refine Or.inl ?_
    cases sent with
    | none => exact ⟨_, produces_nothing _ rfl rfl, List.forall_mem_nil _⟩
    | some m =>
      have hm : m.announces = false := by
        have hne := hstep.sent_ne
        unfold Sent.announces
        split
        · exact absurd ‹_› (hne _)
        · rfl
      rcases produces_put (s := s)
        { s with
          rx := rx, tx := tx
          clientTx := s.clientTx.put s.config.sdrBufferLen.toNat m } m rfl rfl with hput | hput
      · exact ⟨_, hput, fun x hx => List.mem_singleton.mp hx ▸ hm⟩
      · exact ⟨_, hput, List.forall_mem_nil _⟩
  | clientTx w => exact absurd rfl (hl w)
  | interruptClientTx hpc =>
    exact Or.inl ⟨[], ⟨(List.append_nil _).symm, rfl, rfl, rfl, List.forall_mem_nil _⟩,
      List.forall_mem_nil _⟩
  | _ => exact Or.inl ⟨_, produces_nothing _ rfl rfl, List.forall_mem_nil _⟩

theorem Effect.nextConn_le (h : Effect s l s') : s.nextConn ≤ s'.nextConn := by
  cases h with
  | accepted fd script hpc hfd => exact Nat.le_succ _
  | _ => exact Nat.le_refl _

/-- The calls left to make announce no client that was not to be announced before. -/
theorem Effect.opened (h : Effect s l s') (hopen : s'.isOpen = true) :
    (∃ fd script, l = .accept fd script true ∧ s' = s.acceptClient fd script ∧
      s.acceptor = .accepting ∧ 0 ≤ fd) ∨
    (s.isOpen = true ∧ s'.client.conn = s.client.conn ∧
      s'.client.clientSocket = s.client.clientSocket ∧ s'.nextConn = s.nextConn ∧
      (s'.todo = s.todo ∨ s'.NoAnnouncement ∧ s.todo = [] ∨ ∃ a, s.todo = a :: s'.todo)) := by
  cases h with
  | accepted fd script hpc hfd => exact Or.inl ⟨fd, script, rfl, rfl, hpc, hfd⟩
  | iteration it hpc htodo hrun hit =>
    refine Or.inr ⟨hopen, rfl, rfl, rfl, Or.inr (Or.inl ⟨?_, htodo⟩)⟩
    have hnew := (tcpWorkerIteration_effect hit).sendNew
    intro a ha
    obtain ⟨act, hact, rfl⟩ := List.mem_map.mp ha
    cases act with
    | sendNew fd =>
      split at hnew
      · obtain ⟨before, hacts, hbefore⟩ := hnew
        rw [hacts] at hact
        rcases List.mem_append.mp hact with hact | hact
        · exact absurd hact (hbefore fd)
        · cases List.mem_singleton.mp hact
          rfl
      · exact absurd hact (hnew fd)
    | _ => rfl
  | leave hpc htodo =>
    refine Or.inr ⟨hopen, rfl, rfl, rfl, Or.inr (Or.inl ⟨?_, htodo⟩)⟩
    intro a ha
    cases List.mem_singleton.mp ha
    rfl
  | close hpc htodo => cases hopen
  | callClient a rest m htodo hm => exact Or.inr ⟨hopen, rfl, rfl, rfl, Or.inr (Or.inr ⟨a, htodo⟩)⟩
  | callWorker a rest rx tx htodo hcall =>
    exact Or.inr ⟨hopen, rfl, rfl, rfl, Or.inr (Or.inr ⟨a, htodo⟩)⟩
  | _ => exact Or.inr ⟨hopen, rfl, rfl, rfl, Or.inl rfl⟩

/-- A call is made: the calls left announce nobody if all of them did not. -/
theorem noAnnouncement_after {todo : List (Item ServerAct)}
    (h : s'.todo = todo ∨ s'.NoAnnouncement ∧ todo = [] ∨ ∃ a, todo = a :: s'.todo)
    (hs : ∀ a ∈ todo, a.val.announces = false) : s'.NoAnnouncement := by
  rcases h with h | ⟨h, -⟩ | ⟨a, h⟩
  · intro a ha
    exact hs a (h ▸ ha)
  · exact h
  · intro b hb
    exact hs b (h ▸ List.mem_cons_of_mem _ hb)

end Server

end SdrModem
