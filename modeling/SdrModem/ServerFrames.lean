import SdrModem.ServerAnswers

/-!
# Every frame gets one verdict

A client that transmits a frame is told how it went, by a TX_COMPLETE.  It is told
exactly once if the frame is not longer than `max_frame_size` and the tx worker has
a modem when it takes the frame off its queue; frames that are too long and frames
without a modem are dropped without a word.  And it is told the truth unless a
`NULL` from the modulator passes for a transmission (`TxWorker.nullReported`).
-/
namespace SdrModem
open BoundedFifo Machine

namespace Server
variable {s s' : Server} {l : ServerLabel}

/-! ## The truth about frames -/

/-- The condition on a step: writing to the connection `c` succeeds while it is
open, the tx worker has a modem for the frames it takes, and no `NULL` passes for a
transmission. -/
def FramesReported (c : Nat) (s : Server) (l : ServerLabel) : Prop :=
  s.StaysOpen c true l ∧ ∀ r, l = .tx r → ∀ w ∈ s.tx, w.nullReported r = true

instance (c : Nat) (s : Server) : (l : ServerLabel) → Decidable (s.FramesReported c l)
  | .tx r =>
      decidable_of_iff (s.StaysOpen c true (.tx r) ∧ ∀ w ∈ s.tx, w.nullReported r = true)
        ⟨fun h => ⟨h.1, fun _ he => ServerLabel.tx.inj he ▸ h.2⟩, fun h => ⟨h.1, h.2 r rfl⟩⟩
  | .shutdown | .accept _ _ _ | .acceptor | .rx _ | .device _ | .clientTx _ | .interruptRx
  | .interruptTx | .interruptClientTx =>
      decidable_of_iff (s.StaysOpen c true _) ⟨fun h => ⟨h, nofun⟩, And.left⟩

/-- **Whoever speaks of a success speaks of a whole frame**: the tx worker, the
messages on their way, and those written. -/
structure TruthfulFrames (s : Server) : Prop where
  tx : ∀ w, s.tx = some w → w.pc.Truthful
  upcoming : ∀ p ∈ s.clientTx.upcoming .payload, p.2.Truthful
  written : ∀ o ∈ s.written, o.2.sent.Truthful

theorem create_truthfulFrames (config : AppConfig) : (create config).TruthfulFrames := by
  refine ⟨fun w hw => ?_, fun p hp => ?_, fun o ho => ?_⟩
  · cases hc : config.canTransmit <;> simp [create, hc] at hw
    rw [← hw]
    trivial
  · cases hp
  · cases ho

/-- Only the tx worker speaks of frames. -/
theorem truthful_of_ne {m : Sent} (h : ∀ id status details, m.message ≠ .complete id status details) :
    m.Truthful :=
  fun id details hm => absurd hm (h id .success details)

theorem message?_truthful {a : Item ServerAct} {m : Sent} (h : a.message? = some m) :
    m.Truthful := by
  obtain ⟨val, tag⟩ := a
  refine truthful_of_ne ?_
  cases val <;> cases h <;> simp

/-- **What a worker sends is true**, if no `NULL` passes for a transmission. -/
theorem WorkerStep.truthful {rx : RxWorker} {tx : Option TxWorker} {sent : Option Sent}
    (h : s.WorkerStep l rx tx sent) (hs : s.TruthfulFrames)
    (hnull : ∀ r, l = .tx r → ∀ w ∈ s.tx, w.nullReported r = true) :
    (∀ w, tx = some w → w.pc.Truthful) ∧ ∀ m ∈ sent, m.Truthful := by
  cases h with
  | rx r _ _ h =>
    refine ⟨hs.tx, ?_⟩
    rintro m rfl
    rcases (RxWorker.workerStep_effect h).sent with ⟨id, bits, hm⟩ | ⟨id, status, details, hm⟩
    · exact truthful_of_ne (by simp [hm])
    · exact truthful_of_ne (by simp [hm])
  | device r _ _ h =>
    refine ⟨hs.tx, fun m hm => ?_⟩
    obtain ⟨id, bits, hm⟩ := RxWorker.deviceStep_sent h m hm
    exact truthful_of_ne (by simp [hm])
  | tx r w w' _ hw h =>
    obtain ⟨hpc, hsent⟩ :=
      (TxWorker.step_effect h).truthful (hnull r rfl w hw) (hs.tx w hw)
    refine ⟨?_, hsent⟩
    rintro _ ⟨⟩
    exact hpc

theorem Effect.truthfulFrames (h : Effect s l s')
    (hnull : ∀ r, l = .tx r → ∀ w ∈ s.tx, w.nullReported r = true) (hs : s.TruthfulFrames) :
    s'.TruthfulFrames := by
  cases h with
  | callClient a rest m htodo hm =>
    refine ⟨hs.tx, fun p hp => ?_, hs.written⟩
    rcases ClientTxWorker.mem_upcoming_put hp with hp | rfl
    · exact hs.upcoming p hp
    · exact message?_truthful hm
  | callWorker a rest rx tx htodo hcall =>
    refine ⟨fun w' hw' => ?_, hs.upcoming, hs.written⟩
    obtain ⟨w, hw, hpc, -⟩ := hcall.tx_pc w' hw'
    rw [hpc]
    exact hs.tx w hw
  | worker _ rx tx sent hstep =>
    obtain ⟨htx, hsent⟩ := hstep.truthful hs hnull
    refine ⟨htx, fun p hp => ?_, hs.written⟩
    cases sent with
    | none => exact hs.upcoming p hp
    | some m =>
      rcases ClientTxWorker.mem_upcoming_put hp with hp | rfl
      · exact hs.upcoming p hp
      · exact hsent m rfl
  | clientTx l w out hallowed hstep =>
    refine ⟨hs.tx, fun p hp => ?_, fun o ho => ?_⟩
    · rcases ClientTxWorker.mem_upcoming_of_step hstep hp with hp | ⟨-, hp⟩
      · exact hs.upcoming p hp
      · exact hs.upcoming (s.clientTx.clientSocket, p.2) hp
    · rcases mem_record hstep ho with ho | ⟨-, hup⟩
      · exact hs.written o ho
      · exact hs.upcoming _ hup
  | interruptTx hpc =>
    refine ⟨fun w hw => ?_, hs.upcoming, hs.written⟩
    obtain ⟨w', hw', rfl⟩ := Option.map_eq_some_iff.mp hw
    exact hs.tx w' hw'
  | _ => exact ⟨hs.tx, hs.upcoming, hs.written⟩

/-- What is said of frames is true in every run in which no `NULL` passes for a
transmission. -/
theorem run_truthfulFrames {config : AppConfig} {c : Nat} {ls : List ServerLabel}
    (hrun : Run step (FramesReported c) (create config) ls s) : s.TruthfulFrames :=
  hrun.invariant (fun _ _ _ hl hstep hs => (step_effect hstep).truthfulFrames hl.2 hs)
    (create_truthfulFrames config)

end Server

/-- **A verdict on a frame**: a TX_COMPLETE that reports success only of a whole frame,
or a RESPONSE that reports a failure. -/
def Sent.Verdict (m : Sent) (requestId : UInt32) : Prop :=
  (∃ status details, m.message = .complete requestId status details ∧
    (status = .success → ∃ t, m.transmission = some t ∧ t.Complete)) ∨
  ∃ details, m.message = .response requestId .failure details

/-- An answer to a frame is a TX_COMPLETE. -/
theorem Sent.verdict_of_about {m : Sent} {x : Item About} {id : UInt32} (hitem : m.item? = some x)
    (hx : x.val = ⟨id, true⟩) (htrue : m.Truthful) : m.Verdict id := by
  obtain ⟨a, ha, rfl⟩ := Option.map_eq_some_iff.mp hitem
  rw [show a = ⟨id, true⟩ from hx] at ha
  cases hm : m.message with
  | complete id' status details =>
    rw [hm] at ha
    cases ha
    refine Or.inl ⟨status, details, hm, ?_⟩
    rintro rfl
    exact htrue _ _ hm
  | response id' status details => rw [hm] at ha; cases ha
  | softBits id' bits => rw [hm] at ha; cases ha
  | newClient fd => rw [hm] at ha; cases ha

/-- A frame is answered unless it is too long. -/
theorem AppConfig.answers_frame {config : AppConfig} (htx : config.canTransmit = true)
    {m : Message} (hframe : m.header.type = MessageType.txFrame.code) :
    config.answers (.dispatched m.header m.payload) = true ↔
      m.header.messageLength ≤ config.maxFrameSize := by
  have hlen : m.payload.length ≤ config.maxFrameSize.toNat ↔
      m.header.messageLength ≤ config.maxFrameSize := by
    rw [m.length_eq, UInt32.le_iff_toNat_le]
  unfold answers tcpWorkerDispatch
  by_cases hle : m.header.messageLength ≤ config.maxFrameSize
  · have hnot : ¬ m.header.messageLength > config.maxFrameSize := UInt32.not_lt.mpr hle
    simp [hframe, MessageType.code, tcpServer, hnot, htx, ServerAct.about?, takes, hlen, hle]
  · have hgt : m.header.messageLength > config.maxFrameSize := UInt32.not_le.mp hle
    simp [hframe, MessageType.code, tcpServer, hgt, hle]

/-- **The frame `t` got exactly one verdict.** -/
def Server.JudgedOnce (s : Server) (t : Tag) (requestId : UInt32) : Prop :=
  ∀ part, ∃ w, s.answersTo part t = [w] ∧ w.sent.Verdict requestId

/-- **Every frame gets exactly one verdict**, if and only if it is not longer than
`max_frame_size` (and the buffers hold a descriptor).  The run is any run of a
server that can transmit, in which what is written to the connection arrives, the
tx worker has a modem for the frames it takes and no `NULL` passes for a
transmission; the connection is still served at its end.  At any time the client
was sent at most one message about the frame, and that is a verdict. -/
theorem frames_judged_once {config : AppConfig} {ls : List ServerLabel} {s : Server}
    {msgs : List Message} {k : Nat} {m : Message} (htx : config.canTransmit = true)
    (hrun : Run Server.step (Server.FramesReported s.client.conn) (Server.create config) ls s)
    (hserve : s.acceptor = .serve) (hsends : Sends config.tcpServer s.client.script msgs)
    (hm : (uptoShutdown msgs)[k]? = some m)
    (hframe : m.header.type = MessageType.txFrame.code) :
    (∀ part, (s.answersTo part ⟨s.client.conn, k⟩).length ≤ 1 ∧
      ∀ w ∈ s.answersTo part ⟨s.client.conn, k⟩, w.sent.Verdict m.header.requestId) ∧
    (s.Drained →
      (s.JudgedOnce ⟨s.client.conn, k⟩ m.header.requestId ↔
        4 ≤ config.sdrBufferLen.toNat ∧ m.header.messageLength ≤ config.maxFrameSize)) := by
  have hspec := Server.answersTo_message (hrun.mono fun _ _ => And.left) hserve hsends hm
    (Or.inl rfl)
  have hverdict : ∀ part, ∀ w ∈ s.answersTo part ⟨s.client.conn, k⟩,
      w.sent.Verdict m.header.requestId := by
    intro part w hw
    obtain ⟨x, hx, hval⟩ := (hspec part).2.1 w hw
    obtain ⟨o, ho, rfl, -⟩ := Server.mem_answersTo hw
    rw [Handled.about, Handled.isFrame, decide_eq_true hframe, htx] at hval
    exact Sent.verdict_of_about hx hval ((Server.run_truthfulFrames hrun).written o ho)
  refine ⟨fun part => ⟨(hspec part).1, hverdict part⟩, fun hd => ?_⟩
  rw [← AppConfig.answers_frame htx hframe]
  constructor
  · intro h
    obtain ⟨w, hw, -⟩ := h .header
    have hone := (hspec .header).2.2 hd
    rw [hw] at hone
    by_contra hne
    rw [if_neg hne] at hone
    cases hone
  · intro hfits part
    have hone := (hspec part).2.2 hd
    rw [if_pos hfits] at hone
    obtain ⟨w, hw⟩ := List.length_eq_one_iff.mp hone
    exact ⟨w, hw, hverdict part w (hw ▸ List.mem_singleton_self w)⟩

/-- Settings for the transmitter. -/
def txSettings : Message := ⟨⟨0, 3, 1, 62⟩, gfskBuffer, gfskBuffer_length⟩

theorem frame_length : ([1, 2, 3] : List UInt8).length = 3 := rfl

/-- A frame. -/
def frame : Message := ⟨⟨0, 6, 2, 3⟩, [1, 2, 3], frame_length⟩

/-- The tx worker takes settings and creates a modem. -/
def createTxModem : List ServerLabel := [.tx .nothing, .tx (.modemCreate true)]

/-- It sets up the device, answers, and completes. -/
def confirmTxSettings : List ServerLabel :=
  [.tx (.setTxParameters true), .tx .nothing, .tx .nothing]

/-- The tx worker takes a frame, transmits it and its tail, reports, and completes. -/
def transmitWithTail : List ServerLabel :=
  [.tx .nothing, .tx (.modulate (some [1, 2]) (some [1, 2])), .tx (.processTx 0),
    .tx (.modulate (some [3]) (some [3])), .tx (.processTx 0), .tx .nothing, .tx .nothing]

/-- The tx worker sets up a modem while the acceptor thread reads the frame, transmits
the frame, and the answers are written. -/
def transmitFrame : List ServerLabel :=
  readFirst [txSettings, frame] ++ createTxModem ++ readNext ++ confirmTxSettings ++
    transmitWithTail ++ skipMessage ++ writeMessage ++ writeMessage

/-- The tx worker takes a frame, finds no modem, and completes. -/
def dropFrame : List ServerLabel := [.tx .nothing, .tx .nothing, .tx .nothing]

/-- The frame gets its verdict. -/
theorem frame_judged :
    ∃ s, exec (restrict Server.step (Server.FramesReported 0)) (Server.create smallConfig)
        transmitFrame = some s ∧ s.JudgedOnce ⟨0, 1⟩ 2 := by
  refine exists_exec rfl fun s hs => ?_
  have hend : s.client.conn = 0 ∧ s.acceptor = .serve ∧
      s.client.script = atOnce (encodeAll [txSettings, frame]) ∧ s.Drained := by
    cases hs
    exact ⟨rfl, rfl, rfl, rfl, rfl, rfl, rfl, rfl⟩
  obtain ⟨hconn, hserve, hscript, hdrained⟩ := hend
  have hrun : Run Server.step (Server.FramesReported s.client.conn) (Server.create smallConfig)
      transmitFrame s := by
    rw [hconn]
    exact run_of_exec hs
  have hsends : Sends smallConfig.tcpServer s.client.script [txSettings, frame] := by
    rw [hscript]
    exact sends_atOnce (by decide) (by decide)
  have hframe := (frames_judged_once (by decide) hrun hserve hsends
    (show (uptoShutdown [txSettings, frame])[1]? = some frame from rfl) (by decide)).2 hdrained
  rw [hconn] at hframe
  exact hframe.mpr ⟨by decide, by decide⟩

/-- **A frame before any settings is dropped without a word**: the tx worker takes it
off its queue, has no modem, and completes it. -/
theorem frame_without_modem_not_judged :
    appConfigValidate smallConfig = some smallConfig ∧ smallConfig.canTransmit = true ∧
    ∃ s, exec Server.step (Server.create smallConfig)
        (readFirst [frame] ++ dropFrame ++ skipMessage) = some s ∧
      s.acceptor = .serve ∧ s.Drained ∧ Sends smallConfig.tcpServer s.client.script [frame] ∧
      ¬ s.JudgedOnce ⟨s.client.conn, 0⟩ frame.header.requestId := by
  have hsends : Sends smallConfig.tcpServer (atOnce (encodeAll [frame])) [frame] :=
    sends_atOnce (by decide) (by decide)
  refine ⟨rfl, rfl, _, rfl, rfl, ⟨rfl, rfl, rfl, rfl, rfl⟩, hsends, ?_⟩
  intro h
  obtain ⟨w, hw, -⟩ := h .header
  cases hw

end SdrModem
