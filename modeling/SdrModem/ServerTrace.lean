import SdrModem.ServerBalance

/-!
# What was put into the client queue

The server with the record of all messages that its threads put into the client
queue, oldest first.  Two orders are read off this record: that of the RESPONSEs to
the requests of one connection, and that of soft bits and the RESPONSE to an RX_STOP.

The first one needs a fact about the client tx worker: the RESPONSEs that it has
written to the connection that asked for them are a prefix of those in the record.
The worker drops messages while it has no socket, but it is told of a client before
any request of that client is read, and a socket it has given up does not come back
(`Traced.Kept`).
-/
namespace SdrModem
open BoundedFifo Machine

/-- A message in the record: whether it is the RESPONSE to an RX_STOP, and how many
RX_START the rx worker had handled by then. -/
structure Entry where
  sent : Sent
  stop : Bool
  starts : Nat
deriving DecidableEq, Repr

namespace Server

/-- The messages a step has added to the client queue. -/
def added (s t : Server) : List Sent :=
  t.clientTx.queue.pending.drop s.clientTx.queue.pending.length

/-- The rx worker is about to respond to an RX_STOP. -/
def answersStop (s : Server) : ServerLabel → Bool
  | .rx _ =>
      match s.rx.pc with
      | .respond ⟨.stop _, _⟩ _ _ _ => true
      | _ => false
  | _ => false

/-- The rx worker is about to handle an RX_START. -/
def handlesStart (s : Server) : ServerLabel → Bool
  | .rx _ =>
      match s.rx.pc with
      | .handle ⟨.start _, _⟩ => true
      | _ => false
  | _ => false

end Server

/-- The server with the record of the client queue. -/
structure Traced where
  server : Server
  starts : Nat
  accepted : List Entry
deriving DecidableEq, Repr

namespace Traced

/-- `tcp_server_create`. -/
def create (config : AppConfig) : Traced := ⟨Server.create config, 0, []⟩

/-- One step of one thread. -/
def step (s : Traced) (l : ServerLabel) : Option Traced :=
  (s.server.step l).map fun t =>
    { server := t
      starts := if s.server.handlesStart l then s.starts + 1 else s.starts
      accepted := s.accepted ++
        (s.server.added t).map fun m => ⟨m, s.server.answersStop l, s.starts⟩ }

/-- The messages waiting for the client tx worker. -/
def pending (s : Traced) : List Sent := s.server.clientTx.queue.pending

/-- The messages the client tx worker took out of its queue. -/
def taken (s : Traced) : List Entry := s.accepted.take (s.accepted.length - s.pending.length)

end Traced

/-! ## How the record grows -/

/-- The client tx worker takes messages off the front of its queue. -/
theorem ClientTxWorker.pending_of_step {w w' : ClientTxWorker} {l : ClientTxLabel}
    {out : Option Written} (h : w.step l = some (w', out)) :
    ∃ gone, w.queue.pending = gone ++ w'.queue.pending := by
  have hhandle : ∀ (v : ClientTxWorker) (m : Sent), (v.handle m).queue = v.queue := by
    intro v m
    unfold handle
    split
    · rfl
    · split <;> rfl
  unfold step at h
  split at h
  · split at h
    · split at h
      · rename_i m rest hq
        cases h
        refine ⟨[m], ?_⟩
        rw [hq, hhandle]
        rfl
      · split at h
        · cases h; exact ⟨[], rfl⟩
        · cases h
    · cases h; exact ⟨[], rfl⟩
    · cases h
  · split at h
    · split at h
      · cases h; exact ⟨[], rfl⟩
      · cases h; exact ⟨[], rfl⟩
    · split at h
      · cases h; exact ⟨[], rfl⟩
      · split at h
        · cases h
        · cases h; exact ⟨[], rfl⟩
    · cases h

namespace Server
variable {s t : Server} {l : ServerLabel}

theorem added_of_pending_eq
    (h : t.clientTx.queue.pending = s.clientTx.queue.pending) : s.added t = [] := by
  rw [added, h, List.drop_length]

theorem not_mem_added (h : t.clientTx.queue.pending = s.clientTx.queue.pending) (m : Sent) :
    m ∉ s.added t := by
  rw [added_of_pending_eq h]
  exact List.not_mem_nil

theorem added_of_append {new : List Sent}
    (h : t.clientTx.queue.pending = s.clientTx.queue.pending ++ new) : s.added t = new := by
  rw [added, h, List.drop_left]

theorem added_of_step {l : ClientTxLabel} {out : Option Written}
    (h : s.clientTx.step l = some (t.clientTx, out)) : s.added t = [] := by
  obtain ⟨gone, hgone⟩ := ClientTxWorker.pending_of_step h
  rw [added, hgone, List.drop_eq_nil_iff, List.length_append]
  omega

/-- A `queue_put` adds its message, or nothing if the message is refused. -/
theorem added_of_put {n : Nat} {m : Sent} (h : t.clientTx = s.clientTx.put n m) :
    s.added t = if s.clientTx.queue.closed = false ∧ fitsClientTx n m = true then [m] else [] := by
  split
  · rename_i hput
    rw [ClientTxWorker.put, if_pos hput] at h
    exact added_of_append (by rw [h])
  · rename_i hput
    rw [ClientTxWorker.put, if_neg hput] at h
    exact added_of_pending_eq (by rw [h])

theorem mem_added_of_put {n : Nat} {m m' : Sent} (h : t.clientTx = s.clientTx.put n m)
    (hm : m' ∈ s.added t) : m' = m := by
  rw [added_of_put h] at hm
  split at hm
  · exact List.mem_singleton.mp hm
  · cases hm

theorem Effect.received_subset (h : Effect s l t) :
    s.received ⊆ t.received ∧ t.config = s.config := by
  cases h with
  | iteration it hpc htodo hrun hit => exact ⟨List.subset_append_left _ _, rfl⟩
  | _ => exact ⟨List.Subset.refl _, rfl⟩

/-- **What a step does to the client queue**: another thread adds messages to it, or
the client tx worker takes some. -/
theorem Effect.pending (h : Effect s l t) :
    t.clientTx.queue.pending = s.clientTx.queue.pending ++ s.added t ∨
      (s.added t = [] ∧
        ∃ gone, s.clientTx.queue.pending = gone ++ t.clientTx.queue.pending) := by
  have hput : ∀ {n : Nat} {m : Sent} {u : Server}, u.clientTx = s.clientTx.put n m →
      u.clientTx.queue.pending = s.clientTx.queue.pending ++ s.added u := by
    intro n m u hu
    rw [added_of_put hu]
    rw [ClientTxWorker.put] at hu
    split at hu
    · rename_i hput
      rw [hu, if_pos hput]
    · rename_i hput
      rw [hu, if_neg hput, List.append_nil]
  cases h with
  | callClient a rest m htodo hm => exact Or.inl (hput rfl)
  | worker _ rx tx sent hstep =>
    cases sent with
    | none => exact Or.inr ⟨added_of_pending_eq rfl, [], rfl⟩
    | some m => exact Or.inl (hput rfl)
  | clientTx l w out hallowed hstep =>
    exact Or.inr ⟨added_of_step hstep, ClientTxWorker.pending_of_step hstep⟩
  | _ => exact Or.inr ⟨added_of_pending_eq rfl, [], rfl⟩

end Server

namespace Traced
variable {s t : Traced} {l : ServerLabel}

/-- A step of the server, and what it adds to the record. -/
theorem step_effect (h : s.step l = some t) :
    Server.Effect s.server l t.server ∧
      t.starts = (if s.server.handlesStart l then s.starts + 1 else s.starts) ∧
      t.accepted = s.accepted ++
        (s.server.added t.server).map fun m => ⟨m, s.server.answersStop l, s.starts⟩ := by
  obtain ⟨u, hu, rfl⟩ := Option.map_eq_some_iff.mp h
  exact ⟨Server.step_effect hu, rfl, rfl⟩

/-- **The queue is the end of the record.** -/
def Recorded (s : Traced) : Prop := ∃ front, s.accepted.map Entry.sent = front ++ s.pending

theorem Recorded.step (hs : s.Recorded) (h : s.step l = some t) : t.Recorded := by
  obtain ⟨heffect, -, haccepted⟩ := step_effect h
  obtain ⟨front, hfront⟩ := hs
  have hmap : t.accepted.map Entry.sent = front ++ s.pending ++ s.server.added t.server := by
    rw [haccepted, List.map_append, hfront, List.map_map]
    simp [Function.comp_def]
  rcases heffect.pending with hpending | ⟨hadded, gone, hpending⟩
  · refine ⟨front, ?_⟩
    rw [hmap, List.append_assoc]
    exact congrArg (front ++ ·) hpending.symm
  · refine ⟨front ++ gone, ?_⟩
    rw [hmap, hadded, List.append_nil, List.append_assoc]
    exact congrArg (front ++ ·) hpending

theorem run_recorded {config : AppConfig} {allowed : Traced → ServerLabel → Prop}
    {ls : List ServerLabel} (hrun : Run step allowed (create config) ls s) : s.Recorded :=
  hrun.invariant (fun _ _ _ _ hstep hs => hs.step hstep) ⟨[], rfl⟩

/-- **The messages taken are the beginning of the record, and those waiting its
end.** -/
theorem Recorded.taken_append (hs : s.Recorded) :
    ∃ waiting, s.accepted = s.taken ++ waiting ∧ waiting.map Entry.sent = s.pending := by
  obtain ⟨front, hfront⟩ := hs
  refine ⟨s.accepted.drop (s.accepted.length - s.pending.length), ?_, ?_⟩
  · exact (List.take_append_drop _ _).symm
  · have hlen : s.accepted.length - s.pending.length = front.length := by
      have := congrArg List.length hfront
      rw [List.length_map, List.length_append] at this
      omega
    rw [List.map_drop, hfront, hlen, List.drop_left]

/-- A run of the server with its record is a run of the server. -/
theorem run_server {s t : Traced} {ls : List ServerLabel}
    {allowed : Traced → ServerLabel → Prop} (h : Run step allowed s ls t) :
    Run Server.step (fun _ _ => True) s.server ls t.server := by
  induction ls generalizing s with
  | nil => exact congrArg Traced.server h
  | cons l ls ih =>
    obtain ⟨-, u, hu, hrest⟩ := h
    obtain ⟨v, hv, rfl⟩ := Option.map_eq_some_iff.mp hu
    exact ⟨trivial, v, hv, ih hrest⟩

end Traced

/-! ## The RESPONSEs to one connection -/

/-- The number of the request of the connection `c` that this is about, unless it is
about a frame. -/
def Item.request? (c : Nat) (x : Item About) : Option Nat :=
  if x.val.frame then none
  else x.tag.bind fun t => if t.conn = c then some t.index else none

/-- The number of the request of the connection `c` to which a message is the
RESPONSE. -/
def Sent.request? (c : Nat) (m : Sent) : Option Nat := m.item?.bind (Item.request? c)

theorem Item.request?_eq_some {c k : Nat} {x : Item About} :
    x.request? c = some k ↔ x.val.frame = false ∧ x.tag = some ⟨c, k⟩ := by
  unfold request?
  cases x.val.frame with
  | true => simp
  | false =>
    cases htag : x.tag with
    | none => simp
    | some t =>
      obtain ⟨conn, index⟩ := t
      simp

theorem Sent.request?_eq_some {c k : Nat} {m : Sent} :
    m.request? c = some k ↔ ∃ x, m.item? = some x ∧ x.request? c = some k :=
  Option.bind_eq_some_iff

theorem Sent.request?_newClient {c : Nat} {fd : Int} {m : Sent} (h : m.message = .newClient fd) :
    m.request? c = none := by
  rw [request?, item?, h]
  rfl

/-- No request of a connection, no RESPONSE to it. -/
theorem Justified.request?_eq_none {config : AppConfig} {received : List (Tag × Handled)} {c : Nat}
    (hc : ∀ r ∈ received, r.1.conn ≠ c) {m : Sent}
    (h : ∀ x, m.item? = some x → Server.Justified config received x) : m.request? c = none := by
  rw [Option.eq_none_iff_forall_ne_some]
  intro k hk
  obtain ⟨x, hx, hreq⟩ := Sent.request?_eq_some.mp hk
  obtain ⟨-, htag⟩ := Item.request?_eq_some.mp hreq
  obtain ⟨hd, hmem, -⟩ := h x hx _ htag
  exact hc _ hmem rfl

/-- A socket that no message announces is met by none, unless it is there from the
start. -/
theorem assign_of_not_announced {fd clientSocket : Int} {ms : List Sent} (hne : clientSocket ≠ fd)
    (hms : ∀ m ∈ ms, m.message ≠ .newClient fd) :
    (∀ p ∈ assign clientSocket ms, p.1 ≠ fd) ∧ ms.foldl socketAfter clientSocket ≠ fd := by
  induction ms generalizing clientSocket with
  | nil => exact ⟨fun p hp => absurd hp List.not_mem_nil, hne⟩
  | cons m ms ih =>
    have hnext : socketAfter clientSocket m ≠ fd := by
      unfold socketAfter
      split
      · rename_i fd' hm
        rintro rfl
        exact hms m List.mem_cons_self hm
      · exact hne
    obtain ⟨hall, hend⟩ := ih hnext fun a ha => hms a (List.mem_cons_of_mem _ ha)
    refine ⟨fun p hp => ?_, hend⟩
    rcases List.mem_cons.mp hp with rfl | hp
    · exact hne
    · exact hall p hp

/-- The messages that will meet a socket, as far as they are RESPONSEs to the
connection. -/
def dueResponses (c : Nat) (fd : Int) (ps : List (Int × Sent)) : List Nat :=
  ps.filterMap fun p => if p.1 = fd then p.2.request? c else none

theorem dueResponses_append (c : Nat) (fd : Int) (ps qs : List (Int × Sent)) :
    dueResponses c fd (ps ++ qs) = dueResponses c fd ps ++ dueResponses c fd qs :=
  List.filterMap_append

theorem dueResponses_eq_nil {c : Nat} {fd : Int} {ps : List (Int × Sent)}
    (h : ∀ p ∈ ps, p.1 = fd → p.2.request? c = none) : dueResponses c fd ps = [] := by
  rw [dueResponses, List.filterMap_eq_nil_iff]
  intro p hp
  split
  · exact h p hp ‹_›
  · rfl

theorem dueResponses_cons_of_none {c : Nat} {fd : Int} {p : Int × Sent} (ps : List (Int × Sent))
    (h : p.1 = fd → p.2.request? c = none) :
    dueResponses c fd (p :: ps) = dueResponses c fd ps := by
  have hone : dueResponses c fd [p] = [] := by
    apply dueResponses_eq_nil
    intro q hq
    rw [List.mem_singleton.mp hq]
    exact h
  rw [show p :: ps = [p] ++ ps from rfl, dueResponses_append, hone, List.nil_append]

theorem Item.sendNew_of_message? {a : Item ServerAct} {m : Sent} (hm : a.message? = some m)
    {fd : Int} (hfd : m.message = .newClient fd) : a.val = .sendNew fd := by
  by_contra hne
  have hne' : ∀ fd', a.val ≠ .sendNew fd' := by
    intro fd' ha
    rw [Item.message?, ha] at hm
    cases hm
    cases hfd
    exact hne ha
  exact Server.message_ne_newClient hm hne' fd hfd

namespace Traced

/-- The requests of the connection `c` whose RESPONSE was put into the queue. -/
def answers (s : Traced) (c : Nat) : List Nat :=
  s.accepted.filterMap fun e => e.sent.request? c

end Traced

namespace Server

/-- The requests of the connection `c` whose RESPONSE was written to it, as far as
this part goes. -/
def responses (s : Server) (part : Part) (c : Nat) : List Nat :=
  s.written.filterMap fun o =>
    if o.1 = some c ∧ o.2.part = part then o.2.sent.request? c else none

end Server

namespace Traced
variable {s t : Traced} {l : ServerLabel} {part : Part}

/-- The descriptor of the client. -/
abbrev fd (s : Traced) : Int := s.server.client.clientSocket

/-- The number of the connection. -/
abbrev conn (s : Traced) : Nat := s.server.client.conn

/-- **What the open connection has been sent and will be sent.** -/
structure Kept (part : Part) (s : Traced) : Prop where
  front : s.server.responses part s.conn ++
    dueResponses s.conn s.fd (s.server.clientTx.upcoming part) <+: s.answers s.conn
  all : s.server.clientTx.endSocket = s.fd →
    s.answers s.conn = s.server.responses part s.conn ++
      dueResponses s.conn s.fd (s.server.clientTx.upcoming part)
  order : (s.server.clientTx.upcoming part).Pairwise fun p q =>
    p.2.request? s.conn ≠ none → q.2.message ≠ .newClient s.fd
  todo : ∀ a ∈ s.server.todo, ∀ fd', a.val = .sendNew fd' →
    fd' = -1 ∨ ∀ r ∈ s.server.received, r.1.conn ≠ s.conn

/-- **What holds in every state.** -/
structure Inv (part : Part) (s : Traced) : Prop where
  wellFormed : s.server.WellFormed
  provenance : s.server.Provenance
  accepted : ∀ e ∈ s.accepted, ∀ x, e.sent.item? = some x →
    Server.Justified s.server.config s.server.received x
  front : ∀ c, s.server.responses part c <+: s.answers c
  kept : s.server.isOpen = true → s.Kept part

/-! ### A message is put into the queue -/

theorem answers_of_step (h : s.step l = some t) (c : Nat) :
    t.answers c = s.answers c ++ (s.server.added t.server).filterMap (Sent.request? c) := by
  obtain ⟨-, -, haccepted⟩ := step_effect h
  rw [answers, answers, haccepted, List.filterMap_append, List.filterMap_map]
  rfl

/-- Before the first request nothing is a RESPONSE to the connection. -/
theorem Inv.no_requests (hs : s.Inv part) {c : Nat}
    (hc : ∀ r ∈ s.server.received, r.1.conn ≠ c) :
    s.answers c = [] ∧ (∀ p ∈ s.server.clientTx.upcoming part, p.2.request? c = none) ∧
      s.server.responses part c = [] := by
  refine ⟨?_, ?_, ?_⟩
  · rw [answers, List.filterMap_eq_nil_iff]
    intro e he
    exact Justified.request?_eq_none hc (hs.accepted e he)
  · intro p hp
    apply Justified.request?_eq_none hc
    exact hs.provenance.upcoming p (Server.upcoming_subset_payload _ hp)
  · rw [Server.responses, List.filterMap_eq_nil_iff]
    intro o ho
    split
    · exact Justified.request?_eq_none hc (hs.provenance.written o ho)
    · rfl

theorem Kept.put (hs : s.Kept part) (hinv : s.Inv part) (hfd : 0 ≤ s.fd) {n : Nat} {m : Sent}
    (hclient : t.server.client = s.server.client) (hwritten : t.server.written = s.server.written)
    (hput : t.server.clientTx = s.server.clientTx.put n m)
    (hanswers : t.answers s.conn =
      s.answers s.conn ++ (s.server.added t.server).filterMap (Sent.request? s.conn))
    (hnew : ∀ fd', m.message = .newClient fd' →
      fd' = -1 ∨ ∀ r ∈ s.server.received, r.1.conn ≠ s.conn)
    (htodo : ∀ a ∈ t.server.todo, ∀ fd', a.val = .sendNew fd' →
      fd' = -1 ∨ ∀ r ∈ t.server.received, r.1.conn ≠ s.conn) : t.Kept part := by
  have hresponses : t.server.responses part s.conn = s.server.responses part s.conn := by
    rw [Server.responses, hwritten]
    rfl
  rw [Server.added_of_put hput] at hanswers
  by_cases htakes : s.server.clientTx.queue.closed = false ∧ fitsClientTx n m = true
  · rw [if_pos htakes] at hanswers
    have hup : t.server.clientTx.upcoming part =
        s.server.clientTx.upcoming part ++ [(s.server.clientTx.endSocket, m)] := by
      rw [hput]
      exact ClientTxWorker.upcoming_put part htakes.1 htakes.2
    have hend : t.server.clientTx.endSocket = socketAfter s.server.clientTx.endSocket m := by
      rw [hput]
      exact ClientTxWorker.endSocket_put htakes.1 htakes.2
    have hdue : dueResponses s.conn s.fd (t.server.clientTx.upcoming part) =
        dueResponses s.conn s.fd (s.server.clientTx.upcoming part) ++
          dueResponses s.conn s.fd [(s.server.clientTx.endSocket, m)] := by
      rw [hup, dueResponses_append]
    -- what the socket at the end of the queue has been told is everything
    have hall : s.server.clientTx.endSocket = s.fd →
        t.answers s.conn = s.server.responses part s.conn ++
          dueResponses s.conn s.fd (t.server.clientTx.upcoming part) := by
      intro he
      rw [hanswers, hs.all he, hdue, List.append_assoc]
      simp [dueResponses, List.filterMap_cons, he]
    refine ⟨?_, ?_, ?_, ?_⟩
    · rw [conn, fd, hclient, hresponses]
      by_cases he : s.server.clientTx.endSocket = s.fd
      · exact ⟨[], by rw [List.append_nil, hall he]⟩
      · have hnone : dueResponses s.conn s.fd [(s.server.clientTx.endSocket, m)] = [] := by
          apply dueResponses_eq_nil
          intro p hp hsocket
          rw [List.mem_singleton.mp hp] at hsocket
          exact absurd hsocket he
        rw [hdue, hnone, List.append_nil, hanswers]
        exact hs.front.trans (List.prefix_append _ _)
    · rw [conn, fd, hclient, hresponses, hend]
      intro he
      cases hm : m.message with
      | newClient fd' =>
        -- only the client itself is announced with its descriptor
        have hfd' : fd' = s.fd := by rw [socketAfter, hm] at he; exact he
        have hc := (hnew fd' hm).resolve_left (by omega)
        obtain ⟨hnil, hupcoming, hwr⟩ := hinv.no_requests hc
        rw [hanswers, hnil, hwr, hdue]
        have hreq := Sent.request?_newClient (c := s.conn) hm
        rw [dueResponses_eq_nil fun p hp _ => hupcoming p hp]
        simp [dueResponses, hreq]
      | _ =>
        rw [socketAfter, hm] at he
        exact hall he
    · rw [hup, conn, fd, hclient, List.pairwise_append]
      refine ⟨hs.order, List.pairwise_singleton _ _, ?_⟩
      intro p hp q hq hreq hm
      rw [List.mem_singleton.mp hq] at hm
      have hne : s.fd ≠ -1 := by omega
      have hc := (hnew _ hm).resolve_left hne
      exact hreq ((hinv.no_requests hc).2.1 p hp)
    · rw [conn, hclient]
      exact htodo
  · rw [if_neg htakes, List.filterMap_nil, List.append_nil] at hanswers
    have hsame : t.server.clientTx = s.server.clientTx := by
      rw [hput, ClientTxWorker.put, if_neg htakes]
    refine ⟨?_, ?_, ?_, ?_⟩
    · rw [conn, fd, hclient, hresponses, hsame, hanswers]
      exact hs.front
    · rw [conn, fd, hclient, hresponses, hsame, hanswers]
      exact hs.all
    · rw [conn, fd, hclient, hsame]
      exact hs.order
    · rw [conn, hclient]
      exact htodo

/-! ### A message is taken or written -/

theorem responses_record (part : Part) (s : Server) (w : ClientTxWorker) (out : Option Written) (c : Nat) :
    Server.responses { s with clientTx := w, written := s.record out } part c =
      s.responses part c ++ out.toList.filterMap fun o =>
        if s.owner o.clientSocket = some c ∧ o.part = part then o.sent.request? c else none := by
  rw [Server.responses, Server.record, List.filterMap_append, List.filterMap_map]
  rfl

/-- A failed write gives the socket up. -/
theorem step_write_false {w w' : ClientTxWorker} {out : Option Written}
    (h : w.step (.write false) = some (w', out)) :
    w' = { w with clientSocket := -1, pc := .complete } ∧ out = none := by
  simp only [ClientTxWorker.step] at h
  split at h
  · split at h
    · contradiction
    · cases h
      exact ⟨rfl, rfl⟩
  · split at h
    · contradiction
    · split at h
      · cases h
      · cases h
        exact ⟨rfl, rfl⟩
  · cases h

/-- What the open connection is still sent after a failed write: nothing, or it was not
announced before. -/
theorem due_of_failed {w : ClientTxWorker} {c : Nat} {fd : Int} (hfd : 0 ≤ fd)
    (horder : (w.upcoming part).Pairwise fun p q =>
      p.2.request? c ≠ none → q.2.message ≠ .newClient fd) :
    let w' := { w with clientSocket := -1, pc := .complete }
    (dueResponses c fd (w'.upcoming part) = [] ∧ w'.endSocket ≠ fd) ∨
      (dueResponses c fd (w'.upcoming part) = dueResponses c fd (w.upcoming part) ∧
        w'.endSocket = w.endSocket) := by
  intro w'
  have hup : w'.upcoming part = assign (-1) w.queue.pending := rfl
  by_cases hnew : ∃ m ∈ w.queue.pending, m.message = .newClient fd
  · -- in front of the announcement there is nothing for the connection
    right
    obtain ⟨m, hm, hmsg⟩ := hnew
    obtain ⟨before, rest, hpending⟩ := List.append_of_mem hm
    have hafter : ∀ x, socketAfter x m = fd := fun x => by rw [socketAfter, hmsg]
    have hassign : ∀ x, assign x w.queue.pending =
        assign x before ++ (before.foldl socketAfter x, m) :: assign fd rest := by
      intro x
      rw [hpending, assign_append, assign, hafter]
    have hsplit : w.upcoming part = ((w.pc.unwritten? part).toList.map (fun m => (w.clientSocket, m)) ++
        assign w.clientSocket before) ++
          (before.foldl socketAfter w.clientSocket, m) :: assign fd rest := by
      rw [ClientTxWorker.upcoming, hassign, List.append_assoc]
    rw [hsplit, List.pairwise_append] at horder
    have hfront : ∀ p ∈ (w.pc.unwritten? part).toList.map (fun m => (w.clientSocket, m)) ++
        assign w.clientSocket before, p.2.request? c = none := by
      intro p hp
      by_contra hne
      exact horder.2.2 p hp _ List.mem_cons_self hne hmsg
    have hbefore : ∀ p ∈ assign (-1) before, p.2.request? c = none := by
      intro p hp
      have hmem : p.2 ∈ before := assign_map_snd (-1) before ▸ List.mem_map_of_mem hp
      rw [← assign_map_snd w.clientSocket before] at hmem
      obtain ⟨q, hq, hqp⟩ := List.mem_map.mp hmem
      rw [← hqp]
      exact hfront q (List.mem_append_right _ hq)
    have hmreq := Sent.request?_newClient (c := c) hmsg
    refine ⟨?_, ?_⟩
    · rw [hup, hassign, hsplit, dueResponses_append, dueResponses_append,
        dueResponses_eq_nil fun p hp _ => hbefore p hp,
        dueResponses_eq_nil fun p hp _ => hfront p hp,
        dueResponses_cons_of_none _ fun _ => hmreq, dueResponses_cons_of_none _ fun _ => hmreq]
    · change w.queue.pending.foldl socketAfter (-1) = w.queue.pending.foldl socketAfter w.clientSocket
      rw [hpending, List.foldl_append, List.foldl_append, List.foldl_cons, List.foldl_cons, hafter,
        hafter]
  · left
    have hne : (-1 : Int) ≠ fd := by omega
    obtain ⟨hmeet, hend⟩ := assign_of_not_announced hne fun m hm h => hnew ⟨m, hm, h⟩
    exact ⟨dueResponses_eq_nil fun p hp he => absurd he (hmeet p hp), hend⟩

theorem Kept.clientTx (hs : s.Kept part) (hopen : s.server.isOpen = true) (hfd : 0 ≤ s.fd)
    {l : ClientTxLabel} {w : ClientTxWorker} {out : Option Written}
    (hstep : s.server.clientTx.step l = some (w, out))
    (ht : t.server = { s.server with clientTx := w, written := s.server.record out })
    (hanswers : t.answers s.conn = s.answers s.conn) : t.Kept part := by
  have hresponses := responses_record part s.server w out s.conn
  have hflow := ClientTxWorker.step_flow part hstep
  have hclient : t.server.client = s.server.client := by rw [ht]
  have hworker : t.server.clientTx = w := by rw [ht]
  have htodo : t.server.todo = s.server.todo := by rw [ht]
  have hreceived : t.server.received = s.server.received := by rw [ht]
  rw [← ht] at hresponses
  have hpairwise : ∀ {p : Int × Sent} {ps : List (Int × Sent)},
      s.server.clientTx.upcoming part = p :: ps → ps.Pairwise fun p q =>
        p.2.request? s.conn ≠ none → q.2.message ≠ .newClient s.fd := by
    intro p ps hup
    have horder := hs.order
    rw [hup] at horder
    exact (List.pairwise_cons.mp horder).2
  suffices hkept : t.server.responses part s.conn ++
        dueResponses s.conn s.fd (w.upcoming part) <+: s.answers s.conn ∧
      (w.endSocket = s.fd → s.answers s.conn = t.server.responses part s.conn ++
        dueResponses s.conn s.fd (w.upcoming part)) ∧
      (w.upcoming part).Pairwise fun p q =>
        p.2.request? s.conn ≠ none → q.2.message ≠ .newClient s.fd by
    refine ⟨?_, ?_, ?_, ?_⟩
    · rw [conn, fd, hclient, hworker, hanswers]
      exact hkept.1
    · rw [conn, fd, hclient, hworker, hanswers]
      exact hkept.2.1
    · rw [conn, fd, hclient, hworker]
      exact hkept.2.2
    · rw [conn, hclient, htodo, hreceived]
      exact hs.todo
  cases hflow with
  | kept _ _ hup hend hout =>
    have hnone : out.toList.filterMap (fun o => if s.server.owner o.clientSocket = some s.conn ∧
        o.part = part then o.sent.request? s.conn else none) = [] := by
      rw [List.filterMap_eq_nil_iff]
      intro o ho
      rw [if_neg]
      exact fun h => hout o (Option.mem_toList.mp ho) h.2
    rw [hnone, List.append_nil] at hresponses
    rw [hresponses, hup, hend]
    exact ⟨hs.front, hs.all, hs.order⟩
  | skipped _ m hup hend hm =>
    have hdue : dueResponses s.conn s.fd (s.server.clientTx.upcoming part) =
        dueResponses s.conn s.fd (w.upcoming part) := by
      rw [hup]
      apply dueResponses_cons_of_none
      intro hsocket
      rcases hm with hm | hm
      · rw [Sent.request?, hm]
        rfl
      · change s.server.clientTx.clientSocket = s.fd at hsocket
        omega
    have hsame : t.server.responses part s.conn = s.server.responses part s.conn :=
      hresponses.trans (List.append_nil _)
    rw [hsame, hend, ← hdue]
    exact ⟨hs.front, hs.all, hpairwise hup⟩
  | wrote m hup hend =>
    -- what is written to the socket of the client reaches the client
    have hmove : t.server.responses part s.conn ++ dueResponses s.conn s.fd (w.upcoming part) =
        s.server.responses part s.conn ++
          dueResponses s.conn s.fd (s.server.clientTx.upcoming part) := by
      rw [hresponses, hup, List.append_assoc]
      refine congrArg (s.server.responses part s.conn ++ ·) ?_
      by_cases hsocket : s.server.clientTx.clientSocket = s.fd
      · have howner : s.server.owner s.server.clientTx.clientSocket = some s.conn :=
          if_pos ⟨hopen, hsocket⟩
        rw [show (s.server.clientTx.clientSocket, m) :: w.upcoming part =
          [(s.server.clientTx.clientSocket, m)] ++ w.upcoming part from rfl, dueResponses_append]
        refine congrArg (· ++ dueResponses s.conn s.fd (w.upcoming part)) ?_
        rw [hsocket] at howner ⊢
        simp [dueResponses, List.filterMap_cons, howner]
      · have howner : s.server.owner s.server.clientTx.clientSocket = none :=
          if_neg fun h => hsocket h.2
        rw [dueResponses_cons_of_none _ fun h => absurd h hsocket]
        simp [howner]
    rw [hmove, hend]
    exact ⟨hs.front, hs.all, hpairwise hup⟩
  | failed hmem hsent hend =>
    obtain ⟨rfl, -⟩ := step_write_false hstep
    have hsame : t.server.responses part s.conn = s.server.responses part s.conn :=
      hresponses.trans (List.append_nil _)
    rw [hsame]
    refine ⟨?_, ?_, ?_⟩
    · rcases due_of_failed hfd hs.order with ⟨hdue, -⟩ | ⟨hdue, -⟩
      · rw [hdue, List.append_nil]
        exact (List.prefix_append _ _).trans hs.front
      · rw [hdue]
        exact hs.front
    · intro he
      rcases due_of_failed hfd hs.order with ⟨-, hne⟩ | ⟨hdue, hsocket⟩
      · exact absurd he hne
      · rw [hdue]
        exact hs.all (hsocket.symm.trans he)
    · have horder := hs.order
      rw [ClientTxWorker.upcoming, List.pairwise_append] at horder
      have hpending : s.server.clientTx.queue.pending.Pairwise fun a b =>
          a.request? s.conn ≠ none → b.message ≠ .newClient s.fd := by
        rw [← assign_map_snd s.server.clientTx.clientSocket s.server.clientTx.queue.pending]
        exact List.pairwise_map.mpr horder.2.1
      change (assign (-1) s.server.clientTx.queue.pending).Pairwise _
      rw [← assign_map_snd (-1) s.server.clientTx.queue.pending] at hpending
      exact List.pairwise_map.mp hpending

/-! ### Every step -/

/-- What the record holds comes from requests. -/
theorem Inv.accepted_step (hs : s.Inv part) (h : s.step l = some t) :
    ∀ e ∈ t.accepted, ∀ x, e.sent.item? = some x →
      Server.Justified t.server.config t.server.received x := by
  obtain ⟨heffect, -, haccepted⟩ := step_effect h
  have hprovenance := heffect.provenance hs.wellFormed hs.provenance
  have hsub := heffect.received_subset
  intro e he x hx
  rw [haccepted] at he
  rcases List.mem_append.mp he with he | he
  · rw [hsub.2]
    exact (hs.accepted e he x hx).mono hsub.1
  · -- what was added waits in the queue
    obtain ⟨m, hm, rfl⟩ := List.mem_map.mp he
    rcases heffect.pending with hpending | ⟨hadded, -⟩
    · have hmem : m ∈ t.server.clientTx.queue.pending := by
        rw [hpending]
        exact List.mem_append_right _ hm
      rw [← assign_map_snd t.server.clientTx.clientSocket t.server.clientTx.queue.pending] at hmem
      obtain ⟨p, hp, rfl⟩ := List.mem_map.mp hmem
      exact hprovenance.upcoming p (List.mem_append_right _ hp) x hx
    · rw [hadded] at hm
      cases hm

/-- Only what is written to a connection is added to its RESPONSEs. -/
theorem responses_of_ne (h : Server.Effect s.server l t.server) {c : Nat}
    (hc : s.server.isOpen = true → c ≠ s.conn) :
    t.server.responses part c = s.server.responses part c := by
  have hsame : t.server.written = s.server.written →
      t.server.responses part c = s.server.responses part c := by
    intro hw
    rw [Server.responses, hw]
    rfl
  generalize t.server = u at h hsame ⊢
  cases h with
  | clientTx l w out hallowed hstep =>
    rw [responses_record]
    refine List.append_right_eq_self.mpr ?_
    rw [List.filterMap_eq_nil_iff]
    intro o ho
    rw [if_neg]
    rintro ⟨howner, -⟩
    unfold Server.owner at howner
    split at howner
    · rename_i hopen
      exact hc hopen.1 (Option.some.inj howner).symm
    · cases howner
  | _ => exact hsame rfl

/-- Nothing is sent to a connection before it is accepted. -/
theorem Inv.accepted_kept (hs : s.Inv part) (fd : Int) (script : List Recv)
    (ht : t.server = s.server.acceptClient fd script) (haccepted : t.accepted = s.accepted) :
    t.Kept part := by
  have hc : ∀ r ∈ s.server.received, r.1.conn ≠ s.server.nextConn :=
    fun r hr => Nat.ne_of_lt (hs.provenance.received r hr).1
  obtain ⟨hanswers, hupcoming, hresponses⟩ := hs.no_requests hc
  have hconn : t.conn = s.server.nextConn := by rw [conn, ht]; rfl
  have hworker : t.server.clientTx = s.server.clientTx := by rw [ht]; rfl
  have hresponses : t.server.responses part s.server.nextConn = [] := by rw [ht]; exact hresponses
  have hanswers : t.answers s.server.nextConn = [] := by rw [answers, haccepted]; exact hanswers
  have hdue : dueResponses s.server.nextConn t.fd (s.server.clientTx.upcoming part) = [] :=
    dueResponses_eq_nil fun p hp _ => hupcoming p hp
  refine ⟨?_, ?_, ?_, ?_⟩
  · rw [hconn, hworker, hresponses, hdue, List.append_nil]
    exact List.nil_prefix
  · intro _
    rw [hconn, hworker, hresponses, hdue, hanswers]
    rfl
  · rw [hconn, hworker]
    refine List.pairwise_of_forall_mem_list fun p hp q _ hreq => ?_
    exact absurd (hupcoming p hp) hreq
  · rw [hconn, ht]
    exact fun a ha fd' hfd' => Or.inr hc

/-- The acceptor thread moves on, and nothing is put into the queue or taken out of
it. -/
theorem Kept.congr (hs : s.Kept part) (hclient : t.conn = s.conn ∧ t.fd = s.fd)
    (hworker : t.server.clientTx.upcoming part = s.server.clientTx.upcoming part ∧
      t.server.clientTx.endSocket = s.server.clientTx.endSocket)
    (hwritten : t.server.written = s.server.written) (haccepted : t.accepted = s.accepted)
    (htodo : ∀ a ∈ t.server.todo, ∀ fd', a.val = .sendNew fd' →
      fd' = -1 ∨ ∀ r ∈ t.server.received, r.1.conn ≠ s.conn) : t.Kept part := by
  have hresponses : t.server.responses part s.conn = s.server.responses part s.conn := by
    rw [Server.responses, hwritten]
    rfl
  have hanswers : t.answers s.conn = s.answers s.conn := by rw [answers, haccepted]; rfl
  refine ⟨?_, ?_, ?_, ?_⟩
  · rw [hclient.1, hclient.2, hworker.1, hresponses, hanswers]
    exact hs.front
  · rw [hclient.1, hclient.2, hworker.1, hworker.2, hresponses, hanswers]
    exact hs.all
  · rw [hclient.1, hclient.2, hworker.1]
    exact hs.order
  · rw [hclient.1]
    exact htodo

/-- The client is announced when it is accepted, and later only that there is
nobody. -/
theorem todo_of_iteration {it : Iteration} {server : TcpServer} (hit : IterationEffect server it)
    {tag : Option Tag} {a : Item ServerAct} (ha : a ∈ it.acts.map fun b => (⟨b, tag⟩ : Item ServerAct))
    {fd : Int} (hfd : a.val = .sendNew fd) : fd = -1 := by
  obtain ⟨b, hb, rfl⟩ := List.mem_map.mp ha
  have hnew := hit.sendNew
  have hfd : b = .sendNew fd := hfd
  rw [hfd] at hb
  split at hnew
  · obtain ⟨before, hacts, hbefore⟩ := hnew
    rw [hacts] at hb
    rcases List.mem_append.mp hb with hb | hb
    · exact absurd hb (hbefore fd)
    · cases List.mem_singleton.mp hb
      rfl
  · exact absurd hb (hnew fd)

/-- **What the open connection is sent is kept in order by every step.** -/
theorem Inv.kept_step (hs : s.Inv part) (h : s.step l = some t) (hopen : t.server.isOpen = true) :
    t.Kept part := by
  have hanswers := answers_of_step h
  obtain ⟨heffect, -, haccepted⟩ := step_effect h
  have hfd : s.server.isOpen = true → 0 ≤ s.fd := hs.wellFormed.socket_nonneg
  -- a step that leaves the queue alone leaves the record alone
  have hsame : t.server.clientTx.queue.pending = s.server.clientTx.queue.pending →
      t.accepted = s.accepted := by
    intro hpending
    rw [haccepted, Server.added_of_pending_eq hpending]
    exact List.append_nil _
  generalize hu : t.server = u at heffect hopen
  cases heffect with
  | accepted fd script hpc hfd' =>
    exact hs.accepted_kept fd script hu (hsame (by rw [hu]; rfl))
  | iteration it hpc htodo hrun hit =>
    have hk := hs.kept hopen
    refine hk.congr ⟨by rw [conn, hu]; rfl, by rw [fd, hu]; rfl⟩ ⟨by rw [hu]; rfl, by rw [hu]; rfl⟩
      (by rw [hu]; rfl) (hsame (by rw [hu]; rfl)) ?_
    intro a ha fd' hfd'
    rw [hu] at ha
    exact Or.inl (todo_of_iteration (tcpWorkerIteration_effect hit) ha hfd')
  | leave hpc htodo =>
    have hk := hs.kept hopen
    refine hk.congr ⟨by rw [conn, hu], by rw [fd, hu]⟩ ⟨by rw [hu], by rw [hu]⟩ (by rw [hu])
      (hsame (by rw [hu])) ?_
    intro a ha fd' hfd'
    rw [hu] at ha
    cases List.mem_singleton.mp ha
    cases hfd'
  | close hpc htodo => cases hopen
  | callClient a rest m htodo hm =>
    have hk := hs.kept hopen
    have htodo' : ∀ b ∈ rest, ∀ fd', b.val = .sendNew fd' →
        fd' = -1 ∨ ∀ r ∈ s.server.received, r.1.conn ≠ s.conn :=
      fun b hb => hk.todo b (htodo ▸ List.mem_cons_of_mem _ hb)
    refine hk.put hs (hfd hopen) (by rw [hu]) (by rw [hu]) (by rw [hu]) (hanswers _) ?_
      (by rw [hu]; exact htodo')
    intro fd' hfd'
    refine hk.todo a (htodo ▸ List.mem_cons_self) fd' ?_
    exact Item.sendNew_of_message? hm hfd'
  | callWorker a rest rx tx htodo hcall =>
    have hk := hs.kept hopen
    refine hk.congr ⟨by rw [conn, hu], by rw [fd, hu]⟩ ⟨by rw [hu], by rw [hu]⟩ (by rw [hu])
      (hsame (by rw [hu])) ?_
    rw [hu]
    exact fun b hb => hk.todo b (htodo ▸ List.mem_cons_of_mem _ hb)
  | worker _ rx tx sent hstep =>
    have hk := hs.kept hopen
    cases sent with
    | none =>
      refine hk.congr ⟨by rw [conn, hu], by rw [fd, hu]⟩ ⟨by rw [hu]; rfl, by rw [hu]; rfl⟩
        (by rw [hu]) (hsame (by rw [hu]; rfl)) ?_
      rw [hu]
      exact hk.todo
    | some m =>
      refine hk.put hs (hfd hopen) (by rw [hu]) (by rw [hu]) (by rw [hu]; rfl) (hanswers _) ?_
        (by rw [hu]; exact hk.todo)
      intro fd' hfd'
      exact absurd hfd' (hstep.sent_ne fd')
  | clientTx l w out hallowed hstep =>
    have hk := hs.kept hopen
    refine hk.clientTx hopen (hfd hopen) hstep hu ?_
    rw [hanswers, hu, Server.added_of_step hstep]
    exact List.append_nil _
  | interruptClientTx hpc =>
    have hk := hs.kept hopen
    refine hk.congr ⟨by rw [conn, hu], by rw [fd, hu]⟩ ⟨by rw [hu]; rfl, by rw [hu]; rfl⟩
      (by rw [hu]) (hsame (by rw [hu])) ?_
    rw [hu]
    exact hk.todo
  | _ =>
    have hk := hs.kept hopen
    refine hk.congr ⟨by rw [conn, hu], by rw [fd, hu]⟩ ⟨by rw [hu], by rw [hu]⟩ (by rw [hu])
      (hsame (by rw [hu])) ?_
    rw [hu]
    exact hk.todo

/-- Only the client tx worker writes, and it leaves the connection alone. -/
theorem written_cases {s t : Server} (h : Server.Effect s l t) :
    t.written = s.written ∨ (t.isOpen = s.isOpen ∧ t.client = s.client) := by
  cases h with
  | clientTx l w out hallowed hstep => exact Or.inr ⟨rfl, rfl⟩
  | _ => exact Or.inl rfl

/-- **The RESPONSEs written to a connection stay a prefix of those put into the client
queue for it.** -/
theorem Inv.step (hs : s.Inv part) (h : s.step l = some t) : t.Inv part := by
  have hkept := hs.kept_step h
  have hanswers := answers_of_step h
  obtain ⟨heffect, -, -⟩ := step_effect h
  refine ⟨heffect.wellFormed hs.wellFormed, heffect.provenance hs.wellFormed hs.provenance,
    hs.accepted_step h, ?_, hkept⟩
  intro c
  have hgrows : t.server.responses part c = s.server.responses part c →
      t.server.responses part c <+: t.answers c := by
    intro hsame
    rw [hsame, hanswers]
    exact (hs.front c).trans (List.prefix_append _ _)
  by_cases hc : s.server.isOpen = true ∧ c = s.conn
  · rcases written_cases heffect with hwritten | ⟨hopen, hclient⟩
    · apply hgrows
      rw [Server.responses, hwritten]
      rfl
    · have hfront := (hkept (hopen.trans hc.1)).front
      rw [show t.conn = c by rw [conn, hclient]; exact hc.2.symm] at hfront
      exact (List.prefix_append _ _).trans hfront
  · exact hgrows (responses_of_ne heffect fun hopen hne => hc ⟨hopen, hne⟩)

/-- At the start nothing was put into the queue. -/
theorem create_inv (config : AppConfig) : (create config).Inv part := by
  refine ⟨Server.create_wellFormed config, Server.create_provenance config, ?_, ?_, nofun⟩
  · intro e he
    cases he
  · intro c
    exact List.nil_prefix

end Traced
end SdrModem
