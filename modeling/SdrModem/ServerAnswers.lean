import SdrModem.ServerBalance
import SdrModem.TcpFraming
import SdrModem.RxWorkerModem

/-!
# Every request is answered once

On a connection that stays open, is every request answered exactly once?  It is,
if no timeout falls between a header and its payload and what is read fits the
queues it goes through.  The server reads messages of up to `sdr_buffer_len + 110`
bytes, while the queue of the rx worker takes `sdr_buffer_len` and that of the tx
worker `max_frame_size`, and nobody looks at what `queue_put` returns: settings
that decode but are longer than that are never answered.
-/
namespace SdrModem
open BoundedFifo Machine

/-- Whether a message goes through the queues: the buffers hold a descriptor, and
settings that decode fit the queue of their worker. -/
def AppConfig.Fits (config : AppConfig) (m : Message) : Prop :=
  4 ≤ config.sdrBufferLen.toNat ∧
  (m.header.type = MessageType.rxCommParameters.code → apiDecodeCommSettings m.payload ≠ none →
    m.payload.length ≤ config.sdrBufferLen.toNat) ∧
  (m.header.type = MessageType.txCommParameters.code → config.canTransmit = true →
    apiDecodeCommSettings m.payload ≠ none → m.payload.length ≤ config.maxFrameSize.toNat)

/-- A message that is neither a frame nor a shutdown is answered if it goes through
the queues. -/
theorem AppConfig.answers_iff {config : AppConfig} (hn : 4 ≤ config.sdrBufferLen.toNat)
    {m : Message} (hshutdown : m.header.type ≠ MessageType.shutdown.code)
    (hframe : m.header.type ≠ MessageType.txFrame.code) :
    config.answers (.dispatched m.header m.payload) = true ↔ config.Fits m := by
  have hresponse : apiResponseSize ≤ config.sdrBufferLen.toNat := Nat.le_trans (by decide) hn
  unfold answers tcpWorkerDispatch Fits
  by_cases hrx : m.header.type = MessageType.rxCommParameters.code
  · cases hd : apiDecodeCommSettings m.payload <;>
      simp [hrx, hn, hd, hresponse, invalidRequest, ServerAct.about?, takes, MessageType.code]
  · by_cases htx : m.header.type = MessageType.txCommParameters.code
    -- without a tx worker the settings are refused, whatever their length
    · cases hd : apiDecodeCommSettings m.payload <;> cases hc : config.canTransmit <;>
        simp [htx, hn, hd, hc, hresponse, invalidRequest, ServerAct.about?, takes,
          MessageType.code, tcpServer]
    · simp [hrx, htx, hframe, hn, hshutdown]
      split
      · simp [ServerAct.about?, takes]
      · split
        · simp [ServerAct.about?, takes]
        · split <;> simp [ServerAct.about?, takes, hresponse, invalidRequest]

namespace Server
variable {s s' : Server} {l : ServerLabel}

/-- The parts written to the connection of the request `t` in answer to it. -/
def answersTo (part : Part) (t : Tag) (s : Server) : List Written :=
  (s.written.filter fun o => decide (o.1 = some t.conn) && (decide (o.2.part = part) &&
    o.2.sent.item?.any fun x => decide (x.tag = some t))).map Prod.snd

/-- **Nothing is left to do**: the acceptor thread waits for the client, no worker
owes an answer, and the client tx worker waits for a message. -/
structure Drained (s : Server) : Prop where
  todo : s.todo = []
  blocked : tcpWorkerIteration s.config.tcpServer s.client.socket = none
  working : s.working = []
  pending : s.clientTx.queue.pending = []
  clientTx : s.clientTx.pc = .take

/-- **The request `t` was answered exactly once**: one header and one payload were
written in answer to it, of a RESPONSE with its request id. -/
def AnsweredOnce (s : Server) (t : Tag) (requestId : UInt32) : Prop :=
  ∀ part, ∃ w status details, s.answersTo part t = [w] ∧
    w.sent.message = .response requestId status details

/-! ## Buffers too small for a descriptor -/

/-- The client tx worker was never told of a client. -/
structure Mute (s : Server) : Prop where
  small : s.config.sdrBufferLen.toNat < 4
  clientSocket : s.clientTx.clientSocket = -1
  pending : ∀ m ∈ s.clientTx.queue.pending, ∀ fd, m.message ≠ .newClient fd
  pc : s.clientTx.pc.unwritten? .payload = none
  written : s.written = []

theorem Mute.put (hs : s.Mute) {n : Nat} {m : Sent}
    (hm : fitsClientTx n m = true → ∀ fd, m.message ≠ .newClient fd) :
    Mute { s with clientTx := s.clientTx.put n m } := by
  by_cases hput : s.clientTx.queue.closed = false ∧ fitsClientTx n m = true
  · rw [ClientTxWorker.put, if_pos hput]
    refine ⟨hs.small, hs.clientSocket, fun m' hm' => ?_, hs.pc, hs.written⟩
    rcases List.mem_append.mp hm' with hm' | hm'
    · exact hs.pending m' hm'
    · rw [List.mem_singleton.mp hm']
      exact hm hput.2
  · rw [ClientTxWorker.put, if_neg hput]
    exact hs

/-- What announces a client does not fit. -/
theorem newClient_of_fits {n : Nat} (hn : n < 4) {m : Sent} (h : fitsClientTx n m = true)
    (fd : Int) : m.message ≠ .newClient fd := by
  intro hm
  have hle : m.message.bufferLen ≤ n := of_decide_eq_true h
  rw [hm] at hle
  exact absurd (show 4 ≤ n from hle) (Nat.not_le.mpr hn)

theorem Mute.clientTx (hs : s.Mute) {l : ClientTxLabel} {w : ClientTxWorker} {out : Option Written}
    (hstep : s.clientTx.step l = some (w, out)) :
    Mute { s with clientTx := w, written := s.record out } := by
  obtain ⟨hn, hsocket, hpending, hpc, hwritten⟩ := hs
  cases l with
  | next =>
    simp only [ClientTxWorker.step] at hstep
    split at hstep
    · split at hstep
      · rename_i m rest hq
        cases hstep
        have hm := hpending m (by rw [hq]; exact List.mem_cons_self)
        have hrest : ∀ m' ∈ rest, ∀ fd, m'.message ≠ .newClient fd :=
          fun m' hm' => hpending m' (by rw [hq]; exact List.mem_cons_of_mem _ hm')
        unfold ClientTxWorker.handle
        split
        · exact absurd ‹_› (hm _)
        · rw [if_pos (show s.clientTx.clientSocket < 0 by rw [hsocket]; decide)]
          exact ⟨hn, hsocket, hrest, rfl, by rw [record, hwritten]; rfl⟩
      · split at hstep
        · cases hstep
          exact ⟨hn, hsocket, hpending, rfl, by rw [record, hwritten]; rfl⟩
        · cases hstep
    · cases hstep
      exact ⟨hn, hsocket, hpending, rfl, by rw [record, hwritten]; rfl⟩
    · cases hstep
  | write ok =>
    exfalso
    simp only [ClientTxWorker.step] at hstep
    split at hstep
    · rename_i hp
      rw [hp] at hpc
      cases hpc
    · rename_i hp
      rw [hp] at hpc
      cases hpc
    · cases hstep

theorem Effect.mute (h : Effect s l s') (hs : s.Mute) : s'.Mute := by
  cases h with
  | callClient a rest m htodo hm =>
    have hput := hs.put (m := m) (newClient_of_fits hs.small)
    exact ⟨hs.small, hput.clientSocket, hput.pending, hput.pc, hput.written⟩
  | worker _ rx tx sent hstep =>
    cases sent with
    | none => exact ⟨hs.small, hs.clientSocket, hs.pending, hs.pc, hs.written⟩
    | some m =>
      have hput := hs.put (m := m) (newClient_of_fits hs.small)
      exact ⟨hs.small, hput.clientSocket, hput.pending, hput.pc, hput.written⟩
  | clientTx l w out hallowed hstep => exact hs.clientTx hstep
  | _ => exact ⟨hs.small, hs.clientSocket, hs.pending, hs.pc, hs.written⟩

/-- With buffers that do not hold a descriptor nothing is ever written. -/
theorem run_mute {config : AppConfig} {allowed : Server → ServerLabel → Prop}
    {ls : List ServerLabel} (hrun : Run step allowed (create config) ls s)
    (hn : config.sdrBufferLen.toNat < 4) : s.written = [] := by
  have hcreate : (create config).Mute :=
    ⟨hn, rfl, fun m hm => absurd hm List.not_mem_nil, rfl, rfl⟩
  have hmute : s.Mute :=
    hrun.invariant (fun s l t _ hstep hs => (step_effect hstep).mute hs) hcreate
  exact hmute.written

end Server

/-! ## The messages of the client -/

/-- **The client sends these messages**: they arrive in order with no timeout
between a header and its payload, are of our version, and fit the buffer of the
server. -/
structure Sends (server : TcpServer) (script : List Recv) (msgs : List Message) : Prop where
  connected : Connected script
  schedule : Schedule msgs (items script)
  prompt : PromptPayloads msgs (items script)
  version : ∀ m ∈ msgs, m.header.protocolVersion = protocolVersion
  fits : ∀ m ∈ msgs, m.header.messageLength.toNat ≤ server.bufferLength

theorem Sends.handledBy_eq {server : TcpServer} {script : List Recv} {msgs : List Message}
    (h : Sends server script msgs) :
    handledBy server script = (uptoShutdown msgs).map Message.handled :=
  handledBy_messages server h.connected h.schedule h.prompt h.fits
    fun m hm hne => absurd (h.version m (uptoShutdown_subset msgs hm)) hne

theorem Sends.handled {server : TcpServer} {script : List Recv} {msgs : List Message}
    (h : Sends server script msgs) {k : Nat} {m : Message} (hm : (uptoShutdown msgs)[k]? = some m) :
    m.handled = .dispatched m.header m.payload := by
  have hmem := uptoShutdown_subset msgs (List.mem_of_getElem? hm)
  rw [Message.handled, if_pos (h.version m hmem)]

/-- Counting one index. -/
theorem countP_mapIdx (hs : List Handled) (c k : Nat) (g : Handled → Bool) :
    (hs.mapIdx fun i h => ((⟨c, i⟩ : Tag), h)).countP (fun r => decide (r.1 = ⟨c, k⟩) && g r.2) =
      hs[k]?.toList.countP g := by
  -- the induction shifts the index, so it is stated for every offset
  suffices h : ∀ n, (hs.mapIdx fun i h => ((⟨c, i + n⟩ : Tag), h)).countP
      (fun r => decide (r.1 = ⟨c, k + n⟩) && g r.2) = hs[k]?.toList.countP g from h 0
  intro n
  induction hs generalizing k n with
  | nil => rfl
  | cons h hs ih =>
    have hshift : (fun i (h : Handled) => ((⟨c, i + 1 + n⟩ : Tag), h)) =
        fun i h => (⟨c, i + (n + 1)⟩, h) := by
      funext i h
      rw [Nat.add_assoc, Nat.add_comm 1 n]
    rw [List.mapIdx_cons, List.countP_cons, hshift]
    cases k with
    | zero =>
      have hzero : (hs.mapIdx fun i h => ((⟨c, i + (n + 1)⟩ : Tag), h)).countP
          (fun r => decide (r.1 = ⟨c, 0 + n⟩) && g r.2) = 0 := by
        refine List.countP_eq_zero.mpr fun r hr => ?_
        obtain ⟨i, hi, rfl⟩ := List.mem_mapIdx.mp hr
        simp
        omega
      rw [hzero]
      simp [List.countP_cons]
    | succ k =>
      have hk : k + 1 + n = k + (n + 1) := by omega
      rw [hk, ih k (n + 1)]
      simp
      omega

namespace Server
variable {s : Server} {part : Part} {frames : Bool} {k : Nat}

/-- One request, which may be a frame. -/
def byTag (frames : Bool) (t : Tag) (u : Tag) (a : About) : Bool :=
  decide (u = t) && (frames || !a.frame)

theorem due_eq {hs : List Handled} {P : Tag → About → Bool}
    (hf : s.received.filter (fun r => decide (r.1.conn = s.client.conn)) =
      hs.mapIdx (fun k h => (⟨s.client.conn, k⟩, h))) :
    s.due s.client.conn P = (hs.mapIdx (fun k h => (⟨s.client.conn, k⟩, h))).countP
      fun r => P r.1 (r.2.about s.config.canTransmit) && s.config.answers r.2 := by
  rw [← hf, List.countP_filter, due]
  refine List.countP_congr fun r _ => ?_
  rw [Bool.and_comm]

/-- The request `k` is due at most once, namely if it was received and is answered. -/
theorem due_byTag {hs : List Handled}
    (hf : s.received.filter (fun r => decide (r.1.conn = s.client.conn)) =
      hs.mapIdx (fun k h => (⟨s.client.conn, k⟩, h))) :
    s.due s.client.conn (byTag frames ⟨s.client.conn, k⟩) =
      hs[k]?.toList.countP fun h =>
        (frames || !(h.about s.config.canTransmit).frame) && s.config.answers h := by
  rw [due_eq hf, ← countP_mapIdx hs s.client.conn k]
  refine List.countP_congr fun r _ => ?_
  rw [byTag, Bool.and_assoc]

theorem received_of_follows {hs : List Handled} {h : Handled}
    (hf : s.received.filter (fun r => decide (r.1.conn = s.client.conn)) =
      hs.mapIdx (fun k h => (⟨s.client.conn, k⟩, h)))
    (hr : (⟨s.client.conn, k⟩, h) ∈ s.received) : hs[k]? = some h := by
  have hmem : (⟨s.client.conn, k⟩, h) ∈
      s.received.filter fun r => decide (r.1.conn = s.client.conn) :=
    List.mem_filter.mpr ⟨hr, by simp⟩
  rw [hf] at hmem
  obtain ⟨i, hi, he⟩ := List.mem_mapIdx.mp hmem
  cases he
  exact List.getElem?_eq_getElem hi

/-- What was written in answer to a request is counted, if it may be a frame or is
not one. -/
theorem length_answersTo (hp : s.Provenance) {t : Tag}
    (hframe : frames = true ∨ ∀ h, (t, h) ∈ s.received → h.isFrame = false) :
    (s.answersTo part t).length = s.answered part t.conn (byTag frames t) := by
  rw [answersTo, List.length_map, ← List.countP_eq_length_filter, answered]
  refine List.countP_congr fun o ho => ?_
  cases hitem : o.2.sent.item? with
  | none => simp [answeredBy, hitem]
  | some x =>
    have hx : (decide (x.tag = some t)) = x.chosen t.conn (byTag frames t) := by
      cases htag : x.tag with
      | none => simp [Item.chosen, htag]
      | some u =>
        by_cases hu : u = t
        · subst hu
          have hfr : (frames || !x.val.frame) = true := by
            rcases hframe with hframe | hframe
            · rw [hframe]; rfl
            · obtain ⟨h, hmem, hval⟩ := hp.written o ho x hitem u htag
              rw [hval, Handled.about, hframe h hmem]
              simp
          simp [Item.chosen, htag, byTag, hfr]
        · simp [Item.chosen, htag, byTag, hu]
    simp [answeredBy, hitem, hx]

/-- With no call to make, no answer owed and none on its way, what is due was answered. -/
theorem Balanced.answered_eq {P : Tag → About → Bool} (hs : s.Balanced part P)
    (htodo : s.todo = []) (hworking : s.working = []) (hpending : s.clientTx.queue.pending = [])
    (hpc : s.clientTx.pc = .take) : s.answered part s.client.conn P = s.due s.client.conn P := by
  have hbalance := hs.balance
  have hcalls : s.calls s.client.conn P = 0 := by rw [calls, htodo]; rfl
  have howed : s.owed s.client.conn P = 0 := by rw [owed, hworking]; rfl
  have hway : s.onTheirWay part s.client.conn P = 0 := by
    rw [onTheirWay, ClientTxWorker.answers, ClientTxWorker.upcoming, hpending, hpc]
    rfl
  omega

theorem Drained.balance (hd : s.Drained) {P : Tag → About → Bool} (hs : s.Balanced part P) :
    s.answered part s.client.conn P = s.due s.client.conn P :=
  hs.answered_eq hd.todo hd.working hd.pending hd.clientTx

/-- What was received as message `k` is message `k` of the client. -/
theorem received_message {msgs : List Message} {hs : List Handled}
    (hf : s.received.filter (fun r => decide (r.1.conn = s.client.conn)) =
      hs.mapIdx (fun k h => (⟨s.client.conn, k⟩, h)))
    (hsends : Sends s.config.tcpServer s.client.script msgs)
    (hscript : handledBy s.config.tcpServer s.client.script =
      hs ++ handledBy s.config.tcpServer s.client.socket)
    {m : Message} (hm : (uptoShutdown msgs)[k]? = some m) {h : Handled}
    (hr : (⟨s.client.conn, k⟩, h) ∈ s.received) : h = .dispatched m.header m.payload := by
  have hh := received_of_follows hf hr
  have hget : ((uptoShutdown msgs).map Message.handled)[k]? = some h := by
    rw [← hsends.handledBy_eq, hscript,
      List.getElem?_append_left (List.getElem?_eq_some_iff.mp hh).1]
    exact hh
  rw [List.getElem?_map, hm] at hget
  exact (Option.some.inj hget).symm.trans (hsends.handled hm)

/-- An answer to a request that is not a frame is a RESPONSE. -/
theorem response_of_about {m : Sent} {x : Item About} {id : UInt32} (hitem : m.item? = some x)
    (hx : x.val = ⟨id, false⟩) : ∃ status details, m.message = .response id status details := by
  obtain ⟨a, ha, rfl⟩ := Option.map_eq_some_iff.mp hitem
  rw [show a = ⟨id, false⟩ from hx] at ha
  cases hm : m.message with
  | response id' status details =>
    rw [hm] at ha
    cases ha
    exact ⟨status, details, rfl⟩
  | complete id' status details => rw [hm] at ha; cases ha
  | softBits id' bits => rw [hm] at ha; cases ha
  | newClient fd => rw [hm] at ha; cases ha

/-- What was written in answer to a request is about it. -/
theorem mem_answersTo {t : Tag} {w : Written} (hw : w ∈ s.answersTo part t) :
    ∃ o ∈ s.written, o.2 = w ∧ ∃ x, w.sent.item? = some x ∧ x.tag = some t := by
  obtain ⟨o, ho, rfl⟩ := List.mem_map.mp hw
  obtain ⟨hmem, ho⟩ := List.mem_filter.mp ho
  rw [Bool.and_eq_true, Bool.and_eq_true] at ho
  obtain ⟨x, hx, htag⟩ := (Option.any_eq_true _ _).mp ho.2.2
  exact ⟨o, hmem, rfl, x, hx, of_decide_eq_true htag⟩

section
variable {hs : List Handled}
  (hf : s.received.filter (fun r => decide (r.1.conn = s.client.conn)) =
    hs.mapIdx (fun k h => (⟨s.client.conn, k⟩, h)))
  (hb : s.Balanced part (byTag frames ⟨s.client.conn, k⟩)) (hp : s.Provenance)
  (hframe : frames = true ∨ ∀ h, (⟨s.client.conn, k⟩, h) ∈ s.received → h.isFrame = false)
include hf hb hp hframe

/-- No request is answered twice. -/
theorem length_answersTo_le : (s.answersTo part ⟨s.client.conn, k⟩).length ≤ 1 := by
  have hle : s.due s.client.conn (byTag frames ⟨s.client.conn, k⟩) ≤ 1 := by
    rw [due_byTag hf]
    refine Nat.le_trans List.countP_le_length ?_
    cases hs[k]? <;> simp
  have hcount : (s.answersTo part ⟨s.client.conn, k⟩).length =
      s.answered part s.client.conn (byTag frames ⟨s.client.conn, k⟩) :=
    length_answersTo hp hframe
  have hbalance := hb.balance
  omega

/-- When nothing is left to do, what was received and is answered has been. -/
theorem length_answersTo_drained (hd : s.Drained) :
    (s.answersTo part ⟨s.client.conn, k⟩).length = hs[k]?.toList.countP fun h =>
      (frames || !(h.about s.config.canTransmit).frame) && s.config.answers h := by
  rw [length_answersTo hp hframe, ← due_byTag hf]
  exact hd.balance hb

end

/-- When the acceptor thread waits for the client, it has received all messages. -/
theorem Drained.received (hd : s.Drained) {msgs : List Message} {hs : List Handled}
    (hsends : Sends s.config.tcpServer s.client.script msgs)
    (hscript : handledBy s.config.tcpServer s.client.script =
      hs ++ handledBy s.config.tcpServer s.client.socket)
    {m : Message} (hm : (uptoShutdown msgs)[k]? = some m) : hs[k]? = some m.handled := by
  rw [handledBy_blocked hd.blocked, List.append_nil, hsends.handledBy_eq] at hscript
  rw [← hscript, List.getElem?_map, hm]
  rfl

/-- **What is written in answer to a message**: at most one thing at any time, which
is about the message; and when nothing is left to do, exactly one if the message is
answered and the buffers hold a descriptor, and else nothing. -/
theorem answersTo_message {config : AppConfig} {ls : List ServerLabel} {msgs : List Message}
    {m : Message} (hrun : Run step (StaysOpen s.client.conn frames) (create config) ls s)
    (hserve : s.acceptor = .serve) (hsends : Sends config.tcpServer s.client.script msgs)
    (hm : (uptoShutdown msgs)[k]? = some m)
    (hframe : frames = true ∨ (Handled.dispatched m.header m.payload).isFrame = false)
    (part : Part) :
    (s.answersTo part ⟨s.client.conn, k⟩).length ≤ 1 ∧
    (∀ w ∈ s.answersTo part ⟨s.client.conn, k⟩, ∃ x, w.sent.item? = some x ∧
      x.val = (Handled.dispatched m.header m.payload).about config.canTransmit) ∧
    (s.Drained → (s.answersTo part ⟨s.client.conn, k⟩).length =
      if 4 ≤ config.sdrBufferLen.toNat ∧ config.answers (.dispatched m.header m.payload) = true
      then 1 else 0) := by
  rcases Nat.lt_or_ge config.sdrBufferLen.toNat 4 with hlt | hn
  -- no client was ever announced, so nothing is written to any
  · have hnone : s.answersTo part ⟨s.client.conn, k⟩ = [] := by
      rw [answersTo, run_mute hrun hlt]
      rfl
    rw [hnone, if_neg fun h => absurd h.1 (Nat.not_le.mpr hlt)]
    exact ⟨Nat.zero_le 1, fun w hw => absurd hw List.not_mem_nil, fun _ => rfl⟩
  · have hinv : s.BalanceInv part s.client.conn (byTag frames ⟨s.client.conn, k⟩) config := by
      refine run_balanced hrun hn ?_
      cases frames with
      | true => exact Or.inl rfl
      | false =>
        refine Or.inr fun t a h => ?_
        rw [byTag, Bool.and_eq_true] at h
        simpa using h.2
    obtain ⟨hconfig, -, hp, hb⟩ := hinv
    have hb := hb hserve rfl
    obtain ⟨hs, hfilter, hlen, hscript⟩ := (run_follows hrun).follows
    have hscript := hscript hserve
    rw [← hconfig] at hsends
    -- the tag names the message: what was received under it is `m`
    have hsame : ∀ h, (⟨s.client.conn, k⟩, h) ∈ s.received → h = .dispatched m.header m.payload :=
      fun h hr => received_message hfilter hsends hscript hm hr
    have hframe' : frames = true ∨
        ∀ h, (⟨s.client.conn, k⟩, h) ∈ s.received → h.isFrame = false :=
      hframe.imp_right fun hno h hr => by rw [hsame h hr]; exact hno
    refine ⟨length_answersTo_le hfilter hb hp hframe', ?_, fun hd => ?_⟩
    · intro w hw
      obtain ⟨o, ho, rfl, x, hx, htag⟩ := mem_answersTo hw
      obtain ⟨h, hr, hval⟩ := hp.written o ho x hx _ htag
      rw [hsame h hr, hconfig] at hval
      exact ⟨x, hx, hval⟩
    · have hcounted : (frames || !((Handled.dispatched m.header m.payload).about
          config.canTransmit).frame) = true := by
        rcases hframe with hframe | hframe
        · rw [hframe]; rfl
        · simp [Handled.about, hframe]
      rw [length_answersTo_drained hfilter hb hp hframe' hd, hd.received hsends hscript hm,
        hsends.handled hm, hconfig, Option.toList_some, List.countP_singleton, hcounted,
        Bool.true_and]
      simp [hn]

end Server

/-- **Every request is answered exactly once**, if and only if it goes through the
queues.  The run is any run of the server in which what is written to the
connection arrives, and the connection is still served at its end; the client has
sent `msgs`, and `m` is one of them that is neither a shutdown nor a frame.  It is
answered at most once at any time, and when nothing is left to do, exactly once if
and only if it fits. -/
theorem requests_answered_once {config : AppConfig} {ls : List ServerLabel} {s : Server}
    {msgs : List Message} {k : Nat} {m : Message}
    (hrun : Run Server.step (Server.StaysOpen s.client.conn false) (Server.create config) ls s)
    (hserve : s.acceptor = .serve) (hsends : Sends config.tcpServer s.client.script msgs)
    (hm : (uptoShutdown msgs)[k]? = some m)
    (hshutdown : m.header.type ≠ MessageType.shutdown.code)
    (hframe : m.header.type ≠ MessageType.txFrame.code) :
    (∀ part, (s.answersTo part ⟨s.client.conn, k⟩).length ≤ 1) ∧
    (s.Drained →
      (s.AnsweredOnce ⟨s.client.conn, k⟩ m.header.requestId ↔ config.Fits m)) := by
  have hno : (Handled.dispatched m.header m.payload).isFrame = false := decide_eq_false hframe
  have hspec := Server.answersTo_message hrun hserve hsends hm (Or.inr hno)
  refine ⟨fun part => (hspec part).1, fun hd => ⟨fun h => ?_, fun hfits part => ?_⟩⟩
  · obtain ⟨w, status, details, hw, -⟩ := h .header
    have hone := (hspec .header).2.2 hd
    rw [hw] at hone
    by_contra hne
    rw [if_neg fun h => hne ((AppConfig.answers_iff h.1 hshutdown hframe).mp h.2)] at hone
    cases hone
  · obtain ⟨-, habout, hone⟩ := hspec part
    have hone := hone hd
    rw [if_pos ⟨hfits.1, (AppConfig.answers_iff hfits.1 hshutdown hframe).mpr hfits⟩] at hone
    obtain ⟨w, hw⟩ := List.length_eq_one_iff.mp hone
    obtain ⟨x, hx, hval⟩ := habout w (hw ▸ List.mem_singleton_self w)
    rw [Handled.about, hno] at hval
    obtain ⟨status, details, hmessage⟩ := Server.response_of_about hx hval
    exact ⟨w, status, details, hw, hmessage⟩

/-- A client that sends everything at once. -/
theorem sends_atOnce {server : TcpServer} {msgs : List Message}
    (hversion : ∀ m ∈ msgs, m.header.protocolVersion = protocolVersion)
    (hfits : ∀ m ∈ msgs, m.header.messageLength.toNat ≤ server.bufferLength) :
    Sends server (atOnce (encodeAll msgs)) msgs := by
  refine ⟨atOnce_connected _, ?_, ?_, hversion, hfits⟩
  · rw [atOnce_items]
    exact schedule_map_some msgs
  · rw [atOnce_items]
    exact promptPayloads_map_some msgs _

/-- Settings for the receiver. -/
def rxSettings : Message := ⟨⟨0, 0, 1, 62⟩, gfskBuffer, gfskBuffer_length⟩

/-- A ping. -/
def ping : Message := ⟨⟨0, 2, 2, 0⟩, [], List.length_nil⟩

/-- A client that sends these messages is accepted and announced, and the first of
them is read. -/
def readFirst (msgs : List Message) : List ServerLabel :=
  [.acceptor, .accept 5 (atOnce (encodeAll msgs)) true, .acceptor, .acceptor, .acceptor]

/-- The next message is read. -/
def readNext : List ServerLabel := [.acceptor, .acceptor]

/-- The rx worker takes settings and sets up a modem. -/
def exchangeRxModem : List ServerLabel :=
  [.rx .nothing, .rx (.modemCreate true), .rx (.setRxParameters true), .rx .nothing, .rx .nothing,
    .rx .nothing]

/-- It destroys the modem before, answers, and completes. -/
def confirmRxSettings : List ServerLabel :=
  [.rx .nothing, .rx .nothing, .rx .nothing, .rx .nothing]

/-- The rx worker sets up a modem while the acceptor thread reads the ping, and the
answers are written. -/
def answerBoth : List ServerLabel :=
  readFirst [rxSettings, ping] ++ exchangeRxModem ++ readNext ++ confirmRxSettings ++
    skipMessage ++ writeMessage ++ writeMessage

/-- The settings and the ping are answered. -/
theorem settings_and_ping_answered :
    ∃ s, exec (restrict Server.step (Server.StaysOpen 0 false)) (Server.create smallConfig)
        answerBoth = some s ∧
      s.AnsweredOnce ⟨0, 0⟩ 1 ∧ s.AnsweredOnce ⟨0, 1⟩ 2 := by
  refine exists_exec rfl fun s hs => ?_
  have hend : s.client.conn = 0 ∧ s.acceptor = .serve ∧
      s.client.script = atOnce (encodeAll [rxSettings, ping]) ∧ s.Drained := by
    cases hs
    exact ⟨rfl, rfl, rfl, rfl, rfl, rfl, rfl, rfl⟩
  obtain ⟨hconn, hserve, hscript, hdrained⟩ := hend
  have hrun : Run Server.step (Server.StaysOpen s.client.conn false) (Server.create smallConfig)
      answerBoth s := by
    rw [hconn]
    exact run_of_exec hs
  have hsends : Sends smallConfig.tcpServer s.client.script [rxSettings, ping] := by
    rw [hscript]
    exact sends_atOnce (by decide) (by decide)
  have hsettings := (requests_answered_once hrun hserve hsends
    (show (uptoShutdown [rxSettings, ping])[0]? = some rxSettings from rfl)
    (by decide) (by decide)).2 hdrained
  have hping := (requests_answered_once hrun hserve hsends
    (show (uptoShutdown [rxSettings, ping])[1]? = some ping from rfl)
    (by decide) (by decide)).2 hdrained
  rw [hconn] at hsettings hping
  exact ⟨hsettings.mpr ⟨by decide, by decide, by decide⟩,
    hping.mpr ⟨by decide, by decide, by decide⟩⟩

/-- Settings for the receiver with three bytes behind them, which the decoder
ignores: longer than `sdr_buffer_len`. -/
def longSettings : Message := ⟨⟨0, 0, 1, 65⟩, gfskBuffer ++ [0, 0, 0], rfl⟩

/-- **Settings that are too long for the queue are never answered**: they fit the
buffer of the server and decode, the rx worker's queue refuses them, and nobody
notices. -/
theorem long_settings_not_answered :
    appConfigValidate smallConfig = some smallConfig ∧
    ∃ s, exec Server.step (Server.create smallConfig)
        (readFirst [longSettings] ++ skipMessage) = some s ∧
      s.acceptor = .serve ∧ s.Drained ∧
      Sends smallConfig.tcpServer s.client.script [longSettings] ∧
      ¬ s.AnsweredOnce ⟨s.client.conn, 0⟩ longSettings.header.requestId := by
  have hsends : Sends smallConfig.tcpServer (atOnce (encodeAll [longSettings])) [longSettings] :=
    sends_atOnce (by decide) (by decide)
  refine ⟨rfl, _, rfl, rfl, ⟨rfl, rfl, rfl, rfl, rfl⟩, hsends, ?_⟩
  intro h
  obtain ⟨w, status, details, hw, -⟩ := h .header
  cases hw

end SdrModem
