import SdrModem.ServerWire

/-!
# Whole messages across reconnects

In every run whose `accept` returns a descriptor to which nothing is still to be
written, a connection carries whole messages and nothing before it was introduced.
The open connection goes through four phases (`Wire.Phase`): it is not announced to
the client tx worker, its `NEW_CLIENT` waits in the queue, the worker writes to it,
or the worker has lost it for good.
-/
namespace SdrModem
open BoundedFifo Machine

/-! ## The thread and the front of its queue -/

theorem socketAfter_of_not_newClient (clientSocket : Int) {m : Sent} (hm : m.isNewClient = false) :
    socketAfter clientSocket m = clientSocket := by
  cases hmessage : m.message with
  | newClient fd => simp [Sent.isNewClient, hmessage] at hm
  | softBits requestId bits => simp only [socketAfter, hmessage]
  | response requestId status details => simp only [socketAfter, hmessage]
  | complete requestId status details => simp only [socketAfter, hmessage]

namespace ClientTxThread
variable {t u : ClientTxThread} {l : WriteLabel} {out : Option (Int × List UInt8)}

theorem remaining_of_not_writing (h : t.worker.pc.writing = false) : t.remaining = [] := by
  rw [remaining, (Stream.left_of_not_writing h).1, (Stream.left_of_not_writing h).2,
    List.append_nil]

theorem mem_dueFor {fd : Int} {ms : List Sent} :
    fd ∈ t.dueFor ms ↔ (t.remaining ≠ [] ∧ fd = t.worker.clientSocket) ∨
      ∃ m, (fd, m) ∈ assign t.worker.clientSocket ms ∧ m.isNewClient = false := by
  unfold dueFor
  rw [List.mem_append]
  refine or_congr ?_ ?_
  · split
    · simp [*]
    · simp [*]
  · simp

/-- A step that is no `queue_take` leaves the queue alone, and gives no descriptor
more to write. -/
theorem dueFor_of_not_taking (h : t.Effect l u out) (htakes : t.takes l = []) {fd : Int}
    (hfd : 0 ≤ fd) {ms : List Sent} (hdue : fd ∉ t.dueFor ms) : fd ∉ u.dueFor ms := by
  intro hmem
  apply hdue
  rw [mem_dueFor] at hmem ⊢
  cases h with
  | newClient m rest fd' hpc hqueue hm => simp [takes, hpc, hqueue] at htakes
  | dropped m rest hpc hqueue hm hsocket => simp [takes, hpc, hqueue] at htakes
  | begun m rest hpc hqueue hm hsocket => simp [takes, hpc, hqueue] at htakes
  | finished hpc hqueue =>
    have hnil : remaining ⟨{ t.worker with pc := .finished }, 0⟩ = [] :=
      remaining_of_not_writing rfl
    exact Or.inr (hmem.resolve_left fun h => h.1 hnil)
  | completed hpc =>
    exact Or.inr (hmem.resolve_left fun h => h.1 (remaining_of_not_writing rfl))
  | wrote count hcount hleft =>
    refine hmem.imp_left fun h => ⟨?_, h.2⟩
    simp [remaining, hleft]
  | eintr hleft => exact hmem
  | error hleft =>
    obtain ⟨m, hm, hnew⟩ := hmem.resolve_left fun h => h.1 (remaining_of_not_writing rfl)
    have hchange : _ ∈ assign t.worker.clientSocket _ ∨ _ := mem_assign_change hm
    rcases hchange with hm | ⟨hlost, -⟩
    · exact Or.inr ⟨m, hm, hnew⟩
    · change fd = -1 at hlost
      omega
  | headerDone m hpc hleft =>
    refine hmem.imp_left fun h => ⟨?_, h.2⟩
    have hne := h.1
    simp only [remaining, hleft, hpc, ClientTxPc.behind, List.nil_append]
    simpa [remaining, left, ClientTxPc.data, ClientTxPc.behind] using hne
  | payloadDone m hpc hleft =>
    exact Or.inr (hmem.resolve_left fun h => h.1 (remaining_of_not_writing rfl))

/-- `queue_take` takes the first of the messages, and then the others are next. -/
theorem dueFor_of_taking (h : t.Effect l u out) {m : Sent} (htakes : t.takes l = [m]) {fd : Int}
    {ms : List Sent} (hdue : fd ∉ t.dueFor (m :: ms)) : fd ∉ u.dueFor ms := by
  intro hmem
  apply hdue
  rw [mem_dueFor] at hmem ⊢
  have hfirst {a : Sent} {rest : List Sent} (hpc : t.worker.pc = .take)
      (hqueue : t.worker.queue.pending = a :: rest) (hl : l = .next) : a = m := by
    simpa [takes, hpc, hqueue, hl] using htakes
  cases h with
  | newClient a rest fd' hpc hqueue ha =>
    obtain rfl := hfirst hpc hqueue rfl
    obtain ⟨b, hb, hnew⟩ := hmem.resolve_left fun h => h.1 (remaining_of_not_writing rfl)
    refine Or.inr ⟨b, List.mem_cons_of_mem _ ?_, hnew⟩
    rw [show socketAfter t.worker.clientSocket a = fd' by rw [socketAfter, ha]]
    exact hb
  | dropped a rest hpc hqueue ha hsocket =>
    obtain rfl := hfirst hpc hqueue rfl
    obtain ⟨b, hb, hnew⟩ := hmem.resolve_left fun h => h.1 (remaining_of_not_writing rfl)
    refine Or.inr ⟨b, List.mem_cons_of_mem _ ?_, hnew⟩
    rw [socketAfter_of_not_newClient _ ha]
    exact hb
  | begun a rest hpc hqueue ha hsocket =>
    obtain rfl := hfirst hpc hqueue rfl
    rcases hmem with ⟨-, rfl⟩ | ⟨b, hb, hnew⟩
    · exact Or.inr ⟨a, List.mem_cons_self, ha⟩
    · refine Or.inr ⟨b, List.mem_cons_of_mem _ ?_, hnew⟩
      rw [socketAfter_of_not_newClient _ ha]
      exact hb
  | finished hpc hqueue => simp [takes, hpc, hqueue] at htakes
  | completed hpc => simp [takes, hpc] at htakes
  | _ => simp [takes] at htakes

/-- What a step takes is what leaves the queue. -/
theorem takes_append_pending (h : t.Effect l u out) :
    t.takes l ++ u.worker.queue.pending = t.worker.queue.pending :=
  Stream.takes_append_pending (s := ⟨t, [], [], []⟩) (t := ⟨u, [], [], []⟩) h

/-- A step of the thread is a step of the worker, or leaves the worker alone. -/
theorem step_worker (h : t.step l = some (u, out)) :
    u.worker = t.worker ∨ ∃ l' written, t.worker.step l' = some (u.worker, written) := by
  cases l with
  | next =>
    obtain ⟨⟨w, written⟩, hstep, heq⟩ := Option.map_eq_some_iff.mp h
    obtain ⟨rfl, -⟩ := Prod.mk.inj heq
    exact Or.inr ⟨_, written, hstep⟩
  | wrote count =>
    simp only [step] at h
    split at h
    · obtain ⟨rfl, -⟩ := Prod.mk.inj (Option.some.inj h)
      exact Or.inl rfl
    · cases h
  | eintr =>
    simp only [step] at h
    split at h
    · obtain ⟨rfl, -⟩ := Prod.mk.inj (Option.some.inj h)
      exact Or.inl rfl
    · cases h
  | error =>
    simp only [step] at h
    split at h
    · obtain ⟨⟨w, written⟩, hstep, heq⟩ := Option.map_eq_some_iff.mp h
      obtain ⟨rfl, -⟩ := Prod.mk.inj heq
      exact Or.inr ⟨_, written, hstep⟩
    · cases h
  | done =>
    simp only [step] at h
    split at h
    · obtain ⟨⟨w, written⟩, hstep, heq⟩ := Option.map_eq_some_iff.mp h
      obtain ⟨rfl, -⟩ := Prod.mk.inj heq
      exact Or.inr ⟨_, written, hstep⟩
    · cases h

/-- Taking a `NEW_CLIENT` gives the worker its descriptor. -/
theorem Effect.newClient_of_takes (h : t.Effect l u out) {m : Sent} (htakes : t.takes l = [m])
    {fd : Int} (hm : m.message = .newClient fd) :
    u.worker.clientSocket = fd ∧ u.worker.pc.writing = false := by
  have hfirst {a : Sent} {rest : List Sent} (hpc : t.worker.pc = .take)
      (hqueue : t.worker.queue.pending = a :: rest) (hl : l = .next) : a = m := by
    simpa [takes, hpc, hqueue, hl] using htakes
  cases h with
  | newClient a rest fd' hpc hqueue ha =>
    obtain rfl := hfirst hpc hqueue rfl
    exact ⟨ClientTxMessage.newClient.inj (ha.symm.trans hm), rfl⟩
  | dropped a rest hpc hqueue ha _ =>
    obtain rfl := hfirst hpc hqueue rfl
    simp [Sent.isNewClient, hm] at ha
  | begun a rest hpc hqueue ha _ =>
    obtain rfl := hfirst hpc hqueue rfl
    simp [Sent.isNewClient, hm] at ha
  | finished hpc hqueue => simp [takes, hpc, hqueue] at htakes
  | completed hpc => simp [takes, hpc] at htakes
  | _ => simp [takes] at htakes

theorem takes_length (t : ClientTxThread) (l : WriteLabel) :
    t.takes l = [] ∨ ∃ m, t.takes l = [m] := by
  unfold takes
  split
  · cases t.worker.queue.pending with
    | nil => exact Or.inl rfl
    | cons m rest => exact Or.inr ⟨m, rfl⟩
  · exact Or.inl rfl

end ClientTxThread

/-! ## The phases of the open connection -/

namespace Wire

/-- The descriptor of the client. -/
abbrev fd (s : Wire) : Int := s.server.client.clientSocket

/-- The number of the connection. -/
abbrev conn (s : Wire) : Nat := s.server.client.conn

/-- The client tx worker has not been told of the client. -/
structure Unannounced (s : Wire) : Prop where
  awaiting : s.conn ∉ s.awaiting
  introduced : s.conn ∉ s.introduced
  endSocket : s.server.clientTx.endSocket < 0
  due : s.fd ∉ s.due
  todo : s.server.todo = [⟨.sendNew s.fd, none⟩] ∨ s.server.NoAnnouncement

/-- Its `NEW_CLIENT` waits in the queue; what is in front of it is for others. -/
structure Queued (s : Wire) : Prop where
  introduced : s.conn ∉ s.introduced
  queue : ∃ front rest olds, s.pending = front ++ ⟨.newClient s.fd, none, none, none⟩ :: rest ∧
    s.awaiting = olds ++ [s.conn] ∧ front.countP Sent.announces = olds.length ∧
    s.conn ∉ olds ∧ (∀ m ∈ rest, m.announces = false) ∧ s.fd ∉ s.thread.dueFor front
  todo : s.server.NoAnnouncement

/-- The client tx worker writes to the client: what was written to it and what is
left of the message in hand are whole messages. -/
structure Connected (s : Wire) : Prop where
  awaiting : s.awaiting = []
  introduced : s.conn ∈ s.introduced
  pending : ∀ m ∈ s.pending, m.announces = false
  clientSocket : s.server.clientTx.clientSocket = s.fd
  bytes : ∃ ms : List Sent, (∀ m ∈ ms, m.isNewClient = false ∧ m.message.bufferLen < UInt32.size) ∧
    s.bytes s.conn ++ s.thread.remaining = ms.flatMap messageBytes
  todo : s.server.NoAnnouncement

/-- The client tx worker has no socket, and none is announced to it. -/
structure Lost (s : Wire) : Prop where
  awaiting : s.awaiting = []
  pending : ∀ m ∈ s.pending, m.announces = false
  clientSocket : s.server.clientTx.clientSocket < 0
  pc : s.server.clientTx.pc.writing = false
  todo : s.server.NoAnnouncement

/-- Where the open connection is. -/
def Phase (s : Wire) : Prop := s.Unannounced ∨ s.Queued ∨ s.Connected ∨ s.Lost

/-- **What holds in every state of a run whose steps meet the condition.** -/
structure Inv (s : Wire) : Prop where
  wellFormed : s.server.WellFormed
  told : s.server.Told
  fits : ∀ m ∈ s.pending, fitsClientTx s.server.config.sdrBufferLen.toNat m = true
  count : s.pending.countP Sent.announces = s.awaiting.length
  fresh : ∀ c, c ∈ s.awaiting ∨ c ∈ s.introduced → c < s.server.nextConn
  connLt : s.server.isOpen = true → s.conn < s.server.nextConn
  orderly : s.Orderly
  phase : s.server.isOpen = true → s.Phase

/-! ## A step of the client tx worker -/

section Thread
variable {s s' : Wire} {l : WriteLabel} {u : ClientTxThread} {out : Option (Int × List UInt8)}

/-- The state after a step of the thread. -/
def afterTx (s : Wire) (l : WriteLabel) (u : ClientTxThread) (out : Option (Int × List UInt8)) :
    Wire :=
  { server := { s.server with clientTx := u.worker }
    sent := u.sent
    output := s.output ++ out.toList.map fun o => (s.server.owner o.1, o.2)
    awaiting := s.awaiting.drop (s.introduces l)
    introduced := s.introduced ++ s.awaiting.take (s.introduces l) }

theorem step_tx (h : s.step (.tx l) = some s') :
    s.writeAllowed l = true ∧ ∃ u out, s.thread.step l = some (u, out) ∧ s' = s.afterTx l u out := by
  simp only [step] at h
  split at h
  · obtain ⟨⟨u, out⟩, hstep, rfl⟩ := Option.map_eq_some_iff.mp h
    exact ⟨‹_›, u, out, hstep, rfl⟩
  · cases h

theorem bytes_afterTx (c : Nat) : (s.afterTx l u out).bytes c =
    s.bytes c ++ (out.toList.filter fun o => s.server.owner o.1 = some c).flatMap Prod.snd := by
  simp only [bytes, afterTx, List.filter_append, List.flatMap_append]
  congr 1
  cases out with
  | none => rfl
  | some o =>
    simp only [Option.toList_some, List.map_cons, List.map_nil, List.filter_cons, List.filter_nil]
    split <;> simp

/-- Bytes reach the open connection only, through its own descriptor. -/
theorem out_cases (hallowed : s.writeAllowed l = true) (h : s.thread.Effect l u out) :
    out = none ∨ (s.server.isOpen = true ∧ s.server.clientTx.clientSocket = s.fd ∧
      s.thread.remaining ≠ [] ∧ ∀ o ∈ out, o.1 = s.fd) := by
  cases h with
  | wrote count hcount hleft =>
    right
    have howner : (s.server.owner s.server.clientTx.clientSocket).isSome = true := hallowed
    unfold Server.owner at howner
    split at howner
    · rename_i hopen
      refine ⟨hopen.1, hopen.2, ?_, ?_⟩
      · simp [ClientTxThread.remaining, hleft]
      · rintro o ⟨⟩
        exact hopen.2
    · cases howner
  | _ => exact Or.inl rfl

theorem bytes_afterTx_none (c : Nat) : (s.afterTx l u none).bytes c = s.bytes c := by
  rw [bytes_afterTx]
  exact List.append_nil _

theorem server_afterTx (h : u.worker = s.thread.worker) :
    (s.afterTx l u out).server = s.server := by
  change { s.server with clientTx := u.worker } = s.server
  rw [h]
  rfl

theorem not_mem_introduced {c : Nat} (hawaiting : c ∉ s.awaiting) (hintroduced : c ∉ s.introduced) :
    c ∉ (s.afterTx l u out).introduced := by
  intro hmem
  rcases List.mem_append.mp hmem with hmem | hmem
  · exact hintroduced hmem
  · exact hawaiting (List.mem_of_mem_take hmem)

theorem Unannounced.tx (hs : s.Unannounced) (hfd : 0 ≤ s.fd)
    (hstep : s.thread.step l = some (u, out)) : (s.afterTx l u out).Unannounced := by
  have heffect := ClientTxThread.step_effect hstep
  refine ⟨?_, not_mem_introduced hs.awaiting hs.introduced, ?_, ?_, hs.todo⟩
  · exact fun hmem => hs.awaiting (List.mem_of_mem_drop hmem)
  · change u.worker.endSocket < 0
    have hend : s.thread.worker.endSocket < 0 := hs.endSocket
    rcases ClientTxThread.step_worker hstep with hw | ⟨l', written, hw⟩
    · rw [hw]
      exact hend
    · rcases Server.endSocket_step hw with he | he
      · rw [he]
        exact hend
      · rw [he]
        decide
  · change s.fd ∉ u.dueFor u.worker.queue.pending
    have hdue : s.fd ∉ s.thread.dueFor s.thread.worker.queue.pending := hs.due
    rw [← ClientTxThread.takes_append_pending heffect] at hdue
    rcases s.thread.takes_length l with htakes | ⟨m, htakes⟩
    · rw [htakes] at hdue
      exact ClientTxThread.dueFor_of_not_taking heffect htakes hfd hdue
    · rw [htakes] at hdue
      exact ClientTxThread.dueFor_of_taking heffect htakes hdue

/-- The worker goes on with what is in front of the `NEW_CLIENT`, or takes it. -/
theorem Queued.tx (hs : s.Queued) (hfd : 0 ≤ s.fd) (hbytes : s.bytes s.conn = [])
    (hstep : s.thread.step l = some (u, none)) :
    (s.afterTx l u none).Queued ∨ (s.afterTx l u none).Connected := by
  have heffect := ClientTxThread.step_effect hstep
  have htaken := ClientTxThread.takes_append_pending heffect
  obtain ⟨front, rest, olds, hpending, hawaiting, hcount, hold, hrest, hdue⟩ := hs.queue
  change s.thread.worker.queue.pending = _ at hpending
  have hintroduces : s.introduces l = (s.thread.takes l).countP Sent.announces := rfl
  rcases s.thread.takes_length l with htakes | ⟨m, htakes⟩
  · -- nothing is taken
    rw [htakes] at htaken hintroduces
    left
    refine ⟨?_, ⟨front, rest, olds, ?_, ?_, hcount, hold, hrest, ?_⟩, hs.todo⟩
    · change s.conn ∉ s.introduced ++ s.awaiting.take (s.introduces l)
      rw [hintroduces, List.countP_nil, List.take_zero, List.append_nil]
      exact hs.introduced
    · exact htaken.trans hpending
    · change s.awaiting.drop (s.introduces l) = _
      rw [hintroduces, List.countP_nil, List.drop_zero]
      exact hawaiting
    · exact ClientTxThread.dueFor_of_not_taking heffect htakes hfd hdue
  · rw [htakes] at htaken hintroduces
    cases front with
    | nil =>
      -- the client itself
      right
      have hsplit := htaken.trans hpending
      obtain ⟨rfl, hrest'⟩ := List.cons.inj hsplit
      have holds : olds = [] := List.eq_nil_of_length_eq_zero hcount.symm
      have hone : s.introduces l = 1 := by
        rw [hintroduces]
        simp [Sent.announces, hfd]
      have hu := heffect.newClient_of_takes htakes rfl
      refine ⟨?_, ?_, ?_, hu.1, ⟨[], List.forall_mem_nil _, ?_⟩, hs.todo⟩
      · change s.awaiting.drop (s.introduces l) = []
        rw [hone, hawaiting, holds]
        rfl
      · change s.conn ∈ s.introduced ++ s.awaiting.take (s.introduces l)
        rw [hone, hawaiting, holds]
        exact List.mem_append_right _ List.mem_cons_self
      · intro a ha
        exact hrest a (hrest' ▸ ha)
      · change (s.afterTx l u none).bytes s.conn ++ u.remaining = []
        rw [bytes_afterTx_none, hbytes, ClientTxThread.remaining_of_not_writing hu.2]
        rfl
    | cons a front =>
      -- a message for somebody else
      left
      have hsplit := htaken.trans hpending
      obtain ⟨rfl, hrest'⟩ := List.cons.inj hsplit
      have hle : s.introduces l ≤ olds.length := by
        rw [hintroduces, ← hcount, List.countP_cons, List.countP_cons, List.countP_nil]
        omega
      refine ⟨?_, ⟨front, rest, olds.drop (s.introduces l), hrest', ?_, ?_, ?_, hrest, ?_⟩, hs.todo⟩
      · change s.conn ∉ s.introduced ++ s.awaiting.take (s.introduces l)
        rw [hawaiting, List.take_append_of_le_length hle]
        intro hmem
        rcases List.mem_append.mp hmem with hmem | hmem
        · exact hs.introduced hmem
        · exact hold (List.mem_of_mem_take hmem)
      · change s.awaiting.drop (s.introduces l) = olds.drop (s.introduces l) ++ [s.conn]
        rw [hawaiting, List.drop_append_of_le_length hle]
      · rw [List.length_drop, ← hcount, hintroduces, List.countP_cons, List.countP_cons,
          List.countP_nil]
        omega
      · exact fun hmem => hold (List.mem_of_mem_drop hmem)
      · exact ClientTxThread.dueFor_of_taking heffect htakes hdue

theorem pending_eq (h : s.thread.Effect l u out) :
    s.pending = s.thread.takes l ++ (s.afterTx l u out).pending :=
  (ClientTxThread.takes_append_pending h).symm

/-- A `NEW_CLIENT` that announces nobody takes the socket away. -/
theorem takes_nobody (h : s.thread.Effect l u out) {m : Sent} (hm : m ∈ s.thread.takes l)
    (hnew : m.isNewClient = true) (hannounces : m.announces = false) :
    u.worker.clientSocket < 0 ∧ u.worker.pc.writing = false := by
  have htakes : s.thread.takes l = [m] := by
    rcases s.thread.takes_length l with hnil | ⟨a, ha⟩
    · rw [hnil] at hm
      cases hm
    · rw [ha] at hm
      rw [ha, List.mem_singleton.mp hm]
  unfold Sent.isNewClient at hnew
  split at hnew
  · rename_i fd hfd
    obtain ⟨hsocket, hpc⟩ := h.newClient_of_takes htakes hfd
    refine ⟨?_, hpc⟩
    simp only [Sent.announces, hfd, decide_eq_false_iff_not] at hannounces
    rw [hsocket]
    exact Int.not_le.mp hannounces
  · cases hnew

/-- What the worker writes to the client completes the messages it takes. -/
theorem Connected.tx (hs : s.Connected) (hfd : 0 ≤ s.fd) (hopen : s.server.isOpen = true)
    (hfits : ∀ m ∈ s.pending, fitsClientTx s.server.config.sdrBufferLen.toNat m = true)
    (hstep : s.thread.step l = some (u, out)) :
    (s.afterTx l u out).Connected ∨ (s.afterTx l u out).Lost ∧ out = none := by
  have heffect := ClientTxThread.step_effect hstep
  have htakes : ∀ m ∈ s.thread.takes l, m.announces = false := fun m hm =>
    hs.pending m (pending_eq heffect ▸ List.mem_append_left _ hm)
  have hpending : ∀ m ∈ (s.afterTx l u out).pending, m.announces = false := fun m hm =>
    hs.pending m (pending_eq heffect ▸ List.mem_append_right _ hm)
  have hawaiting : (s.afterTx l u out).awaiting = [] := by
    change s.awaiting.drop _ = []
    rw [hs.awaiting, List.drop_nil]
  by_cases hl : l = .error
  · subst hl
    right
    cases heffect with
    | error hleft => exact ⟨⟨hawaiting, hpending, Int.negSucc_lt_zero 0, rfl, hs.todo⟩, rfl⟩
  by_cases hnew : ∃ m ∈ s.thread.takes l, m.isNewClient = true
  · -- the client is disconnected: `NEW_CLIENT` without a descriptor
    obtain ⟨m, hm, hnew⟩ := hnew
    obtain ⟨hsocket, hpc⟩ := takes_nobody heffect hm hnew (htakes m hm)
    right
    refine ⟨⟨hawaiting, hpending, hsocket, hpc, hs.todo⟩, ?_⟩
    cases heffect with
    | wrote count hcount hleft => simp [ClientTxThread.takes] at hm
    | _ => rfl
  · left
    have hnot : ∀ m ∈ s.thread.takes l, m.isNewClient = false := by
      intro m hm
      by_contra hne
      exact hnew ⟨m, hm, by simpa using hne⟩
    have hsocket : s.thread.worker.clientSocket = s.fd := hs.clientSocket
    obtain ⟨hsame, hout, hbytes⟩ := Stream.effect_bytes heffect hl (hsocket ▸ hfd) hnot
    obtain ⟨ms, hms, hmsBytes⟩ := hs.bytes
    refine ⟨hawaiting, List.mem_append_left _ hs.introduced, hpending, hsame.trans hsocket,
      ⟨ms ++ s.thread.takes l, ?_, ?_⟩, hs.todo⟩
    · intro m hm
      rcases List.mem_append.mp hm with hm | hm
      · exact hms m hm
      · refine ⟨hnot m hm, ?_⟩
        have hin : m ∈ s.pending := pending_eq heffect ▸ List.mem_append_left _ hm
        have hfit := of_decide_eq_true (hfits m hin)
        exact Nat.lt_of_le_of_lt hfit s.server.config.sdrBufferLen.toNat_lt
    · change (s.afterTx l u out).bytes s.conn ++ u.remaining = _
      have howner : out.toList.filter (fun o => s.server.owner o.1 = some s.conn) = out.toList := by
        rw [List.filter_eq_self]
        intro o ho
        have hfdo := hout o (Option.mem_toList.mp ho)
        rw [hfdo, hsocket]
        simp [Server.owner, hopen]
      rw [bytes_afterTx, howner, List.flatMap_append, ← hmsBytes, List.append_assoc, hbytes,
        List.append_assoc]

/-- A worker without a socket writes nothing. -/
theorem Lost.tx (hs : s.Lost) (hstep : s.thread.step l = some (u, out)) :
    (s.afterTx l u out).Lost := by
  have heffect := ClientTxThread.step_effect hstep
  have htakes : ∀ m ∈ s.thread.takes l, m.announces = false := fun m hm =>
    hs.pending m (pending_eq heffect ▸ List.mem_append_left _ hm)
  have hpending : ∀ m ∈ (s.afterTx l u out).pending, m.announces = false := fun m hm =>
    hs.pending m (pending_eq heffect ▸ List.mem_append_right _ hm)
  have hawaiting : (s.afterTx l u out).awaiting = [] := by
    change s.awaiting.drop _ = []
    rw [hs.awaiting, List.drop_nil]
  have hleft : s.thread.left = [] := (Stream.left_of_not_writing hs.pc).1
  have hsocket : s.thread.worker.clientSocket < 0 := hs.clientSocket
  suffices h : u.worker.clientSocket < 0 ∧ u.worker.pc.writing = false from
    ⟨hawaiting, hpending, h.1, h.2, hs.todo⟩
  cases heffect with
  | newClient m rest fd hpc hqueue hm =>
    have hmem : m ∈ s.thread.takes .next := by simp [ClientTxThread.takes, hpc, hqueue]
    exact takes_nobody (.newClient m rest fd hpc hqueue hm) hmem (by simp [Sent.isNewClient, hm])
      (htakes m hmem)
  | dropped m rest hpc hqueue hm _ => exact ⟨hsocket, rfl⟩
  | begun m rest hpc hqueue hm hopen => omega
  | finished hpc hqueue => exact ⟨hsocket, rfl⟩
  | completed hpc => exact ⟨hsocket, rfl⟩
  | wrote count hcount hne => exact absurd hleft hne
  | eintr hne => exact absurd hleft hne
  | error hne => exact absurd hleft hne
  | headerDone m hpc _ =>
    have hwriting : s.thread.worker.pc.writing = false := hs.pc
    simp [hpc, ClientTxPc.writing] at hwriting
  | payloadDone m hpc _ =>
    have hwriting : s.thread.worker.pc.writing = false := hs.pc
    simp [hpc, ClientTxPc.writing] at hwriting

/-- **The client tx worker keeps the connection orderly.** -/
theorem Inv.tx (hs : s.Inv) (h : s.step (.tx l) = some s') : s'.Inv := by
  obtain ⟨hallowed, u, out, hstep, rfl⟩ := step_tx h
  have heffect := ClientTxThread.step_effect hstep
  have hpending := pending_eq heffect
  have hworker := ClientTxThread.step_worker hstep
  -- an output goes to the open connection, which the worker knows
  have hphase : s.server.isOpen = true →
      (s.afterTx l u out).Phase ∧ (out = none ∨ (s.afterTx l u out).Connected) := by
    intro hopen
    have hfd := hs.wellFormed.socket_nonneg hopen
    rcases out_cases hallowed heffect with rfl | ⟨-, hsocket, hrem, -⟩
    · refine ⟨?_, Or.inl rfl⟩
      rcases hs.phase hopen with hp | hp | hp | hp
      · exact Or.inl (hp.tx hfd hstep)
      · have hbytes := (hs.orderly s.conn).2 hp.introduced
        rcases hp.tx hfd hbytes hstep with hp | hp
        · exact Or.inr (Or.inl hp)
        · exact Or.inr (Or.inr (Or.inl hp))
      · rcases hp.tx hfd hopen hs.fits hstep with hp | ⟨hp, -⟩
        · exact Or.inr (Or.inr (Or.inl hp))
        · exact Or.inr (Or.inr (Or.inr hp))
      · exact Or.inr (Or.inr (Or.inr (hp.tx hstep)))
    · have hdue (ms : List Sent) : s.fd ∈ s.thread.dueFor ms :=
        ClientTxThread.mem_dueFor.mpr (Or.inl ⟨hrem, hsocket.symm⟩)
      rcases hs.phase hopen with hp | hp | hp | hp
      · exact absurd (hdue _) hp.due
      · obtain ⟨front, -, -, -, -, -, -, -, hnot⟩ := hp.queue
        exact absurd (hdue front) hnot
      · rcases hp.tx hfd hopen hs.fits hstep with hp | ⟨hp, hout⟩
        · exact ⟨Or.inr (Or.inr (Or.inl hp)), Or.inr hp⟩
        · exact ⟨Or.inr (Or.inr (Or.inr hp)), Or.inl hout⟩
      · have hneg := hp.clientSocket
        rw [hsocket] at hneg
        exact absurd hfd (Int.not_le.mpr hneg)
  refine ⟨?_, ?_, ?_, ?_, ?_, hs.connLt, ?_, fun hopen => (hphase hopen).1⟩
  · rcases hworker with hw | ⟨l', written, hw⟩
    · rw [server_afterTx hw]
      exact hs.wellFormed
    · exact hs.wellFormed.clientTx hw
  · rcases hworker with hw | ⟨l', written, hw⟩
    · rw [server_afterTx hw]
      exact hs.told
    · exact hs.told.clientTx hw
  · exact fun m hm => hs.fits m (hpending ▸ List.mem_append_right _ hm)
  · change (s.afterTx l u out).pending.countP Sent.announces = (s.awaiting.drop (s.introduces l)).length
    have hcount := hs.count
    rw [hpending, List.countP_append] at hcount
    rw [List.length_drop, ← hcount, introduces]
    omega
  · intro c hc
    apply hs.fresh
    rcases hc with hc | hc
    · exact Or.inl (List.mem_of_mem_drop hc)
    · rcases List.mem_append.mp hc with hc | hc
      · exact Or.inr hc
      · exact Or.inl (List.mem_of_mem_take hc)
  · intro c
    have hold := hs.orderly c
    have hsilent : c ∉ (s.afterTx l u out).introduced → s.bytes c = [] := fun hc =>
      hold.2 fun hmem => hc (List.mem_append_left _ hmem)
    by_cases hbytes : (s.afterTx l u out).bytes c = s.bytes c
    · rw [hbytes]
      exact ⟨hold.1, hsilent⟩
    -- something was written: the connection is the open one
    obtain ⟨hopen, rfl⟩ : s.server.isOpen = true ∧ c = s.conn := by
      by_contra hne
      apply hbytes
      have hnobody : out.toList.filter (fun o => s.server.owner o.1 = some c) = [] := by
        rw [List.filter_eq_nil_iff]
        intro o ho howner
        have howner := of_decide_eq_true howner
        unfold Server.owner at howner
        split at howner
        · rename_i hown
          exact hne ⟨hown.1, (Option.some.inj howner).symm⟩
        · cases howner
      rw [bytes_afterTx, hnobody]
      exact List.append_nil _
    rcases (hphase hopen).2 with rfl | hconnected
    · exact absurd (bytes_afterTx_none s.conn) hbytes
    · obtain ⟨ms, hms, hmsBytes⟩ := hconnected.bytes
      exact ⟨⟨ms, hms, ⟨_, hmsBytes⟩⟩, fun hnot => absurd hconnected.introduced hnot⟩

end Thread

/-! ## A step of another thread -/

section Others
variable {s : Wire} {l : ServerLabel} {t : Server} {new : List Sent}

/-- The state after a step of another thread. -/
def afterServer (s : Wire) (t : Server) : Wire :=
  { s with server := t, awaiting := s.awaiting ++ s.announcedBy t }

theorem step_server {s' : Wire} (h : s.step (.server l) = some s') :
    (∀ w, l ≠ .clientTx w) ∧ ∃ t, s.server.step l = some t ∧ s' = s.afterServer t := by
  cases l with
  | clientTx w => cases h
  | _ =>
    simp only [step] at h
    obtain ⟨t, ht, rfl⟩ := Option.map_eq_some_iff.mp h
    exact ⟨by simp, t, ht, rfl⟩

theorem announcedBy_eq (h : s.server.Produces t new) :
    s.announcedBy t = (new.filter Sent.announces).map fun _ => s.conn := by
  have hdrop : t.clientTx.queue.pending.drop s.pending.length = new := by
    rw [h.pending]
    exact List.drop_left
  rw [announcedBy, hdrop]

theorem announcedBy_of_none (h : s.server.Produces t new)
    (hnew : ∀ m ∈ new, m.announces = false) : s.announcedBy t = [] := by
  rw [announcedBy_eq h, List.filter_eq_nil_iff.mpr fun m hm => by simp [hnew m hm]]
  rfl

/-- The message in hand is the same. -/
theorem remaining_afterServer (h : s.server.Produces t new) :
    (s.afterServer t).thread.remaining = s.thread.remaining := by
  change ClientTxThread.remaining ⟨t.clientTx, s.sent⟩ = ClientTxThread.remaining ⟨s.server.clientTx, s.sent⟩
  simp only [ClientTxThread.remaining, ClientTxThread.left, h.pc]

theorem dueFor_afterServer (h : s.server.Produces t new) (ms : List Sent) :
    (s.afterServer t).thread.dueFor ms = s.thread.dueFor ms := by
  rw [ClientTxThread.dueFor, ClientTxThread.dueFor, remaining_afterServer h]
  rw [show (s.afterServer t).thread.worker.clientSocket = s.thread.worker.clientSocket from
    h.clientSocket]

/-- Without a socket, messages that announce nobody meet none. -/
theorem socketAfter_neg {fd : Int} {m : Sent} (hfd : fd < 0) (hm : m.announces = false) :
    socketAfter fd m < 0 := by
  unfold Sent.announces at hm
  unfold socketAfter
  cases hmsg : m.message with
  | newClient fd' =>
    rw [hmsg] at hm
    exact Int.not_le.mp (of_decide_eq_false hm)
  | _ => exact hfd

theorem assign_neg {fd : Int} {ms : List Sent} (hfd : fd < 0)
    (hms : ∀ m ∈ ms, m.announces = false) :
    ms.foldl socketAfter fd < 0 ∧ ∀ p ∈ assign fd ms, p.1 < 0 := by
  induction ms generalizing fd with
  | nil => exact ⟨hfd, List.forall_mem_nil _⟩
  | cons m ms ih =>
    have hm := socketAfter_neg hfd (hms m List.mem_cons_self)
    obtain ⟨hend, hrest⟩ := ih hm fun a ha => hms a (List.mem_cons_of_mem _ ha)
    refine ⟨hend, ?_⟩
    intro p hp
    rcases List.mem_cons.mp hp with rfl | hp
    · exact hfd
    · exact hrest p hp

/-- **Messages that announce nobody leave the connection in its phase.** -/
theorem Phase.quiet (hs : s.Phase) (hfd : 0 ≤ s.fd) (h : s.server.Produces t new)
    (hnew : ∀ m ∈ new, m.announces = false) (hconn : t.client.conn = s.conn)
    (hsocket : t.client.clientSocket = s.fd)
    (htodo : t.todo = s.server.todo ∨ t.NoAnnouncement ∧ s.server.todo = [] ∨
      ∃ a, s.server.todo = a :: t.todo) : (s.afterServer t).Phase := by
  have hawaiting : (s.afterServer t).awaiting = s.awaiting := by
    change s.awaiting ++ s.announcedBy t = s.awaiting
    rw [announcedBy_of_none h hnew, List.append_nil]
  have hpending : (s.afterServer t).pending = s.pending ++ new := h.pending
  have hquiet (hp : ∀ m ∈ s.pending, m.announces = false) :
      ∀ m ∈ (s.afterServer t).pending, m.announces = false := by
    rw [hpending]
    intro m hm
    rcases List.mem_append.mp hm with hm | hm
    · exact hp m hm
    · exact hnew m hm
  have hsame : (s.afterServer t).fd = s.fd := hsocket
  have hsameConn : (s.afterServer t).conn = s.conn := hconn
  rcases hs with hp | hp | hp | hp
  · refine Or.inl ⟨?_, ?_, ?_, ?_, ?_⟩
    · rw [hawaiting, hsameConn]
      exact hp.awaiting
    · rw [hsameConn]
      exact hp.introduced
    · change t.clientTx.endSocket < 0
      rw [ClientTxWorker.endSocket, h.pending, h.clientSocket, List.foldl_append]
      exact (assign_neg hp.endSocket hnew).1
    · rw [due, hsame, dueFor_afterServer h, hpending, ClientTxThread.mem_dueFor]
      rintro (hhand | ⟨m, hm, hnot⟩)
      · exact hp.due (ClientTxThread.mem_dueFor.mpr (Or.inl hhand))
      · rw [assign_append] at hm
        rcases List.mem_append.mp hm with hm | hm
        · exact hp.due (ClientTxThread.mem_dueFor.mpr (Or.inr ⟨m, hm, hnot⟩))
        · have hneg := (assign_neg hp.endSocket hnew).2 _ hm
          exact absurd hfd (Int.not_le.mpr hneg)
    · rw [hsame]
      rcases hp.todo with hone | hnone
      · rcases htodo with heq | ⟨hno, -⟩ | ⟨a, ha⟩
        · exact Or.inl (heq.trans hone)
        · exact Or.inr hno
        · -- the announcement itself, refused
          right
          rw [hone] at ha
          intro b hb
          have hb : b ∈ t.todo := hb
          rw [← (List.cons.inj ha).2] at hb
          cases hb
      · exact Or.inr (Server.noAnnouncement_after htodo hnone)
  · obtain ⟨front, rest, olds, hq, haw, hcount, hold, hrest, hdue⟩ := hp.queue
    refine Or.inr (Or.inl ⟨?_, ⟨front, rest ++ new, olds, ?_, ?_, hcount, ?_, ?_, ?_⟩,
      Server.noAnnouncement_after htodo hp.todo⟩)
    · rw [hsameConn]
      exact hp.introduced
    · rw [hpending, hq, hsame, List.append_assoc, List.cons_append]
    · rw [hawaiting, hsameConn, haw]
    · rw [hsameConn]
      exact hold
    · intro m hm
      rcases List.mem_append.mp hm with hm | hm
      · exact hrest m hm
      · exact hnew m hm
    · rw [hsame, dueFor_afterServer h]
      exact hdue
  · refine Or.inr (Or.inr (Or.inl ⟨?_, ?_, hquiet hp.pending, ?_, ?_,
      Server.noAnnouncement_after htodo hp.todo⟩))
    · rw [hawaiting, hp.awaiting]
    · rw [hsameConn]
      exact hp.introduced
    · exact h.clientSocket.trans (hp.clientSocket.trans hsame.symm)
    · rw [remaining_afterServer h, hsameConn]
      exact hp.bytes
  · refine Or.inr (Or.inr (Or.inr ⟨?_, hquiet hp.pending, ?_, ?_,
      Server.noAnnouncement_after htodo hp.todo⟩))
    · rw [hawaiting, hp.awaiting]
    · exact h.clientSocket.symm ▸ hp.clientSocket
    · exact h.pc.symm ▸ hp.pc

/-- **The client is announced**: its `NEW_CLIENT` is in the queue, or refused for
good. -/
theorem Phase.announce (hs : s.Phase) (hcount : s.pending.countP Sent.announces = s.awaiting.length)
    {a : Item ServerAct} {rest : List (Item ServerAct)} {fd : Int}
    (htodo : s.server.todo = a :: rest) (ha : a.val = .sendNew fd) (hfd : 0 ≤ fd)
    (hrest : t.todo = rest) (hclient : t.client = s.server.client)
    (h : s.server.Produces t [⟨.newClient fd, none, none, none⟩] ∨ s.server.Produces t []) :
    (s.afterServer t).Phase := by
  have hannounces : a.val.announces = true := by
    rw [ha]
    exact decide_eq_true hfd
  -- only a client that is not announced yet is to be announced
  have hun : s.Unannounced ∧ s.server.todo = [⟨.sendNew s.fd, none⟩] := by
    have hnot : ¬ s.server.NoAnnouncement := by
      intro hno
      have hfalse := hno a (htodo ▸ List.mem_cons_self)
      rw [hannounces] at hfalse
      cases hfalse
    rcases hs with hp | hp | hp | hp
    · exact ⟨hp, hp.todo.resolve_right hnot⟩
    · exact absurd hp.todo hnot
    · exact absurd hp.todo hnot
    · exact absurd hp.todo hnot
  obtain ⟨hp, hone⟩ := hun
  rw [hone] at htodo
  obtain ⟨rfl, rfl⟩ := List.cons.inj htodo
  obtain rfl : s.fd = fd := ServerAct.sendNew.inj ha
  have hnone : t.NoAnnouncement := by
    intro b hb
    rw [hrest] at hb
    cases hb
  have hsame : (s.afterServer t).fd = s.fd := congrArg Client.clientSocket hclient
  have hsameConn : (s.afterServer t).conn = s.conn := congrArg Client.conn hclient
  rcases h with h | h
  · have hadded : s.announcedBy t = [s.conn] := by
      rw [announcedBy_eq h, List.filter_cons_of_pos (by simp [Sent.announces, hfd])]
      rfl
    refine Or.inr (Or.inl ⟨?_, ⟨s.pending, [], s.awaiting, ?_, ?_, hcount, ?_, List.forall_mem_nil _,
      ?_⟩, hnone⟩)
    · rw [hsameConn]
      exact hp.introduced
    · rw [hsame]
      exact h.pending
    · rw [hsameConn, ← hadded]
      rfl
    · rw [hsameConn]
      exact hp.awaiting
    · rw [hsame, dueFor_afterServer h]
      exact hp.due
  · have hconn : t.client.conn = s.conn := hsameConn
    have hsocket : t.client.clientSocket = s.fd := hsame
    exact (show s.Phase from Or.inl hp).quiet hfd h (List.forall_mem_nil _) hconn hsocket
      (Or.inr (Or.inr ⟨_, hrest ▸ hone⟩))

/-- A client gets a descriptor to which nothing is to be written. -/
theorem unannounced_accept (hs : s.Inv) {fd : Int} {script : List Recv}
    (hpc : s.server.acceptor = .accepting) (hdue : fd ∉ s.due) :
    (s.afterServer (s.server.acceptClient fd script)).Unannounced := by
  have hproduces : s.server.Produces (s.server.acceptClient fd script) [] :=
    Server.produces_nothing _ rfl rfl
  have hlt (c : Nat) (hc : c ∈ s.awaiting ∨ c ∈ s.introduced) : c ≠ s.server.nextConn :=
    Nat.ne_of_lt (hs.fresh c hc)
  refine ⟨?_, ?_, ?_, ?_, Or.inl rfl⟩
  · change s.server.nextConn ∉ s.awaiting ++ s.announcedBy _
    rw [announcedBy_of_none hproduces (List.forall_mem_nil _), List.append_nil]
    exact fun hmem => hlt _ (Or.inl hmem) rfl
  · exact fun hmem => hlt _ (Or.inr hmem) rfl
  · change s.server.clientTx.endSocket < 0
    rw [hs.told.endSocket_of_accepting hpc]
    decide
  · exact hdue

/-- **The other threads keep the connection orderly.** -/
theorem Inv.server {s' : Wire} (hs : s.Inv) (hl : s.Unshared (.server l))
    (h : s.step (.server l) = some s') : s'.Inv := by
  obtain ⟨hne, t, hstep, rfl⟩ := step_server h
  have heffect := Server.step_effect hstep
  have hwf := heffect.wellFormed hs.wellFormed
  have hnext : s.server.nextConn ≤ t.nextConn := heffect.nextConn_le
  -- what the step puts into the queue
  obtain ⟨new, hproduces, hadded⟩ : ∃ new, s.server.Produces t new ∧
      (s.announcedBy t ≠ [] → s.server.isOpen = true) := by
    rcases heffect.produces hne with ⟨new, hp, hnew⟩ | ⟨a, rest, fd, -, htodo, -, -, -, -, -, -, -, -, hp⟩
    · exact ⟨new, hp, fun hadd => absurd (announcedBy_of_none hp hnew) hadd⟩
    · have hopen := (hs.wellFormed.inside (hs.wellFormed.serving_of_todo htodo)).1
      rcases hp with hp | hp
      · exact ⟨_, hp, fun _ => hopen⟩
      · exact ⟨_, hp, fun _ => hopen⟩
  have hpending : (s.afterServer t).pending = s.pending ++ new := hproduces.pending
  refine ⟨hwf, hs.told.effect heffect hs.wellFormed, ?_, ?_, ?_, ?_, hs.orderly, ?_⟩
  · change ∀ m ∈ (s.afterServer t).pending, fitsClientTx t.config.sdrBufferLen.toNat m = true
    rw [hpending, hproduces.config]
    intro m hm
    rcases List.mem_append.mp hm with hm | hm
    · exact hs.fits m hm
    · exact hproduces.fits m hm
  · change (s.afterServer t).pending.countP _ = (s.awaiting ++ s.announcedBy t).length
    rw [hpending, List.countP_append, hs.count, announcedBy_eq hproduces, List.length_append,
      List.length_map, List.countP_eq_length_filter]
  · intro c hc
    rcases hc with hc | hc
    · rcases List.mem_append.mp hc with hc | hc
      · exact Nat.lt_of_lt_of_le (hs.fresh c (Or.inl hc)) hnext
      · have hopen := hadded (List.ne_nil_of_mem hc)
        rw [announcedBy_eq hproduces] at hc
        obtain ⟨m, -, rfl⟩ := List.mem_map.mp hc
        exact Nat.lt_of_lt_of_le (hs.connLt hopen) hnext
    · exact Nat.lt_of_lt_of_le (hs.fresh c (Or.inr hc)) hnext
  · intro hopen
    rcases heffect.opened hopen with ⟨fd, script, -, rfl, -, -⟩ | ⟨hold, hconn, -, hsame, -⟩
    · exact Nat.lt_succ_self _
    · change t.client.conn < t.nextConn
      rw [hconn, hsame]
      exact hs.connLt hold
  · intro hopen
    rcases heffect.opened hopen with
      ⟨fd, script, rfl, rfl, hpc, -⟩ | ⟨hold, hconn, hsocket, -, htodo⟩
    · exact Or.inl (unannounced_accept hs hpc hl)
    · have hfd := hs.wellFormed.socket_nonneg hold
      rcases heffect.produces hne with
        ⟨new, hp, hnew⟩ | ⟨a, rest, fd, -, htodo', hrest, ha, hfd', hclient, -, -, -, -, hp⟩
      · exact (hs.phase hold).quiet hfd hp hnew hconn hsocket htodo
      · exact (hs.phase hold).announce hs.count htodo' ha hfd' hrest hclient hp

end Others

theorem create_inv (config : AppConfig) : (create config).Inv := by
  refine ⟨Server.create_wellFormed config, Or.inl (Server.create_announced config),
    List.forall_mem_nil _, rfl, ?_, ?_, ?_, ?_⟩
  · rintro c (hc | hc)
    · cases hc
    · cases hc
  · intro hopen
    cases hopen
  · intro conn
    exact ⟨⟨[], List.forall_mem_nil _, List.prefix_rfl⟩, fun _ => rfl⟩
  · intro hopen
    cases hopen

theorem Inv.step {s s' : Wire} {l : WireLabel} (hl : s.Unshared l) (h : s.step l = some s')
    (hs : s.Inv) : s'.Inv := by
  cases l with
  | server l => exact hs.server hl h
  | tx l => exact hs.tx h

end Wire

/-- **A connection carries whole messages, and nothing before it was introduced**, in
every run whose `accept` returns a descriptor to which nothing is still to be
written. -/
theorem connections_orderly {config : AppConfig} {ls : List WireLabel} {s : Wire}
    (hrun : Run Wire.step Wire.Unshared (Wire.create config) ls s) :
    ∀ conn, Whole (s.bytes conn) ∧ (conn ∉ s.introduced → s.bytes conn = []) := by
  have hinv := hrun.invariant (fun _ _ _ hl hstep hs => hs.step hl hstep) (Wire.create_inv config)
  exact hinv.orderly

/-- A client that asks in a foreign version, is answered, and leaves. -/
def foreignClient (fd : Int) : List WireLabel :=
  [.server .acceptor,
   .server (.accept fd [.data 1 ((apiEncodeMessageHeader ⟨1, 2, 7, 0⟩).drop 1), .closed] true),
   .server .acceptor, .server .acceptor, .server .acceptor]

/-- The client tx worker takes the client and the header of the answer goes out. -/
def headerOut : List WireLabel := [.tx .next, .tx .next, .tx .next, .tx (.wrote 10)]

/-- The acceptor thread notices that the client has left, closes its socket and
waits for the next one. -/
def clientLeft : List WireLabel := List.replicate 6 (.server .acceptor)

/-- The payload of the answer goes out in two pieces. -/
def payloadOut : List WireLabel := [.tx .done, .tx (.wrote 1), .tx (.wrote 1), .tx .done]

/-- The answer is written before the descriptor is given out again. -/
theorem connections_orderly_reused :
    ∃ s, exec (restrict Wire.step Wire.Unshared) (Wire.create smallConfig)
        (foreignClient 5 ++ headerOut ++ payloadOut ++ clientLeft ++
          [.server (.accept 5 [] true)]) = some s ∧
      s.bytes 0 = [0, 4, 0, 0, 0, 7, 0, 0, 0, 2, 1, 1] ∧ s.bytes 1 = [] ∧
      ∀ conn, Whole (s.bytes conn) ∧ (conn ∉ s.introduced → s.bytes conn = []) := by
  refine exists_exec rfl fun s hs => ?_
  refine ⟨?_, ?_, connections_orderly (run_of_exec hs)⟩
  · cases hs
    rfl
  · cases hs
    rfl

/-- Whole messages begin with the version of the protocol. -/
theorem Whole.head {bytes : List UInt8} (h : Whole bytes) {b : UInt8} {rest : List UInt8}
    (hbytes : bytes = b :: rest) : b = protocolVersion := by
  obtain ⟨ms, hms, hprefix⟩ := h
  rw [hbytes] at hprefix
  cases ms with
  | nil => simp at hprefix
  | cons m ms =>
    obtain ⟨more, hmore⟩ := hprefix
    have hfirst : m.message.header.protocolVersion = protocolVersion := by
      cases m.message <;> rfl
    rw [← hfirst]
    exact (List.cons.inj hmore).1

/-- **A payload reaches the next client without its header**: the descriptor is
closed and given out again between the two writes. -/
theorem payload_to_next_client :
    ∃ s, exec Wire.step (Wire.create smallConfig)
        (foreignClient 5 ++ headerOut ++ clientLeft ++ [.server (.accept 5 [] true)] ++
          payloadOut) = some s ∧
      ¬ ∀ conn, Whole (s.bytes conn) ∧ (conn ∉ s.introduced → s.bytes conn = []) := by
  refine exists_exec rfl fun s hs => ?_
  intro h
  have hbytes : s.bytes 1 = [1, 1] := by
    cases hs
    rfl
  have hversion := (h 1).1.head hbytes
  exact absurd hversion (by decide)

end SdrModem
