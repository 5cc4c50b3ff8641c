import SdrModem.Api
import SdrModem.TcpUtils

/-!
# Serving one client: `tcp_worker_callback`

One iteration of the loop of `tcp_worker_callback` is a function of the socket
(`tcpWorkerIteration`).  It returns the calls made to the workers, in order
(`ServerAct`), and the message it acted on, if any (`Handled`).  `none` means that
`recv` does not return, and then the loop does not go on.

`tcpWorkerCallback` is the loop of a server that keeps running.
-/
namespace SdrModem

/-- What the loop reads of `struct tcp_server_t`: the size of its buffer,
`app_config->max_frame_size`, and whether `sdr_tx_worker` is there. -/
structure TcpServer where
  bufferLength : Nat
  maxFrameSize : UInt32
  hasTxWorker : Bool
deriving DecidableEq, Repr

/-- A call that the acceptor thread makes to one of the workers. -/
inductive ServerAct where
  /-- `client_tx_worker_send_response` -/
  | sendResponse (requestId : UInt32) (status : ResponseStatus) (details : ResponseDetails)
  /-- `client_tx_worker_send_new` -/
  | sendNew (socket : Int)
  /-- `sdr_rx_worker_set_comm_parameters` -/
  | setRxCommParameters (requestId : UInt32) (settings : List UInt8)
  /-- `sdr_rx_worker_start` -/
  | startRx (requestId : UInt32)
  /-- `sdr_rx_worker_stop` -/
  | stopRx (requestId : UInt32)
  /-- `sdr_tx_worker_set_comm_parameters` -/
  | setTxCommParameters (requestId : UInt32) (settings : List UInt8)
  /-- `sdr_tx_worker_send` -/
  | sendFrame (requestId : UInt32) (frame : List UInt8)
deriving DecidableEq, Repr

/-- A message the loop acted on: rejected as soon as its header was read, or
dispatched by its type with the payload read for it. -/
inductive Handled where
  | rejected (header : MessageHeader)
  | dispatched (header : MessageHeader) (payload : List UInt8)
deriving DecidableEq, Repr

/-- The header and the payload bytes that were read for a message. -/
def Handled.pair : Handled → MessageHeader × List UInt8
  | .rejected header => (header, [])
  | .dispatched header payload => (header, payload)

/-- The type, request and payload of a dispatched message. -/
def Handled.request? : Handled → Option (UInt8 × UInt32 × List UInt8)
  | .rejected _ => none
  | .dispatched header payload => some (header.type, header.requestId, payload)

/-- The answer to an invalid request. -/
def invalidRequest (requestId : UInt32) : ServerAct :=
  .sendResponse requestId .failure .invalidRequest

/-- The switch over `header.type`: the calls made, and whether the client is
disconnected. -/
def tcpWorkerDispatch (server : TcpServer) (header : MessageHeader) (payload : List UInt8) :
    List ServerAct × Bool :=
  if header.type = MessageType.rxCommParameters.code ∨
      header.type = MessageType.txCommParameters.code then
    match apiDecodeCommSettings payload with
    | none => ([invalidRequest header.requestId], false)
    | some _ =>
        if header.type = MessageType.txCommParameters.code then
          if server.hasTxWorker then ([.setTxCommParameters header.requestId payload], false)
          else ([invalidRequest header.requestId], false)
        else ([.setRxCommParameters header.requestId payload], false)
  else if header.type = MessageType.txFrame.code then
    if header.messageLength > server.maxFrameSize then ([], false)
    else if server.hasTxWorker then ([.sendFrame header.requestId payload], false)
    else ([invalidRequest header.requestId], false)
  else if header.type = MessageType.rxStart.code then ([.startRx header.requestId], false)
  else if header.type = MessageType.rxStop.code then ([.stopRx header.requestId], false)
  else if header.type = MessageType.ping.code then
    ([.sendResponse header.requestId .success .noDetails], false)
  else if header.type = MessageType.shutdown.code then ([.sendNew (-1)], true)
  else ([invalidRequest header.requestId], false)

/-- What one iteration leaves behind. -/
structure Iteration where
  socket : List Recv
  handled : Option Handled
  acts : List ServerAct
  clientDisconnected : Bool
deriving DecidableEq, Repr

/-- One iteration of the loop of `tcp_worker_callback`. -/
def tcpWorkerIteration (server : TcpServer) (s : List Recv) : Option Iteration :=
  (tcpUtilsReadData apiHeaderSize s).bind fun r =>
    -- read timeout happened. it's ok
    if r.code < -1 then some ⟨r.socket, none, [], false⟩
    else if r.code = -1 then some ⟨r.socket, none, [.sendNew (-1)], true⟩
    else
      match apiDecodeMessageHeader r.read with
      | none => some ⟨r.socket, none, [], false⟩
      | some header =>
          if header.protocolVersion ≠ protocolVersion then
            some ⟨r.socket, some (.rejected header), [invalidRequest header.requestId], false⟩
          else if header.messageLength.toNat > server.bufferLength then
            some ⟨r.socket, some (.rejected header),
              [invalidRequest header.requestId, .sendNew (-1)], true⟩
          else
            (tcpUtilsReadData header.messageLength.toNat r.socket).bind fun p =>
              if p.code ≠ 0 then some ⟨p.socket, none, [], false⟩
              else
                some ⟨p.socket, some (.dispatched header p.read),
                  (tcpWorkerDispatch server header p.read).1,
                  (tcpWorkerDispatch server header p.read).2⟩

/-- What a client was served: the messages acted on, the calls made, and whether
the client was disconnected in the end. -/
structure Served where
  handled : List Handled
  acts : List ServerAct
  clientDisconnected : Bool
deriving DecidableEq, Repr

/-- The bytes and events of a socket. -/
def socketWeight (s : List Recv) : Nat :=
  (s.map fun | .data _ bs => bs.length + 1 | _ => 1).sum

/-- The loop of `tcp_worker_callback` while the server is running.  Every
iteration but the last takes something off the socket, so `fuel` above its weight
is enough (`tcpWorkerLoop_fuel`). -/
def tcpWorkerLoop (server : TcpServer) : Nat → List Recv → Served
  | 0, _ => ⟨[], [], false⟩
  | fuel + 1, s =>
      match tcpWorkerIteration server s with
      | none => ⟨[], [], false⟩
      | some it =>
          if it.clientDisconnected then ⟨it.handled.toList, it.acts, true⟩
          else
            let rest := tcpWorkerLoop server fuel it.socket
            ⟨it.handled.toList ++ rest.handled, it.acts ++ rest.acts, rest.clientDisconnected⟩

/-- `tcp_worker_callback` of a running server: its loop, and
`sdr_rx_worker_stop(0)` if the loop is left. -/
def tcpWorkerCallback (server : TcpServer) (s : List Recv) : Served :=
  let served := tcpWorkerLoop server (socketWeight s + 1) s
  if served.clientDisconnected then { served with acts := served.acts ++ [.stopRx 0] } else served

/-! ## Every iteration takes something off the socket -/

theorem socketWeight_data (b : UInt8) (bs : List UInt8) (s : List Recv) :
    socketWeight (.data b bs :: s) = bs.length + 1 + socketWeight s := rfl

theorem socketWeight_pushBack (bs : List UInt8) (s : List Recv) :
    socketWeight (pushBack bs s) = bs.length + socketWeight s := by
  cases bs <;> simp [pushBack, socketWeight]

theorem readDataPartially_weight {n : Nat} {s : List Recv} {r : ReadData}
    (h : tcpUtilsReadDataPartially n s = some r) :
    socketWeight r.socket ≤ socketWeight s ∧
      (0 < n → r.code = -1 ∨ socketWeight r.socket < socketWeight s) := by
  induction s generalizing n r with
  | nil =>
    cases n with
    | zero => cases h; exact ⟨Nat.le_refl _, fun hn => absurd hn (Nat.lt_irrefl 0)⟩
    | succ n => cases h
  | cons e s ih =>
    cases n with
    | zero =>
      cases h
      exact ⟨Nat.le_refl _, fun hn => absurd hn (Nat.lt_irrefl 0)⟩
    | succ left =>
      cases e with
      | data b bs =>
        rw [tcpUtilsReadDataPartially] at h
        rw [socketWeight_data]
        split at h
        · cases h
          show socketWeight (pushBack _ _) ≤ _ ∧ (_ → _ ∨ socketWeight (pushBack _ _) < _)
          rw [socketWeight_pushBack, List.length_drop]
          exact ⟨by omega, fun _ => Or.inr (by omega)⟩
        · obtain ⟨r', hr', rfl⟩ := Option.map_eq_some_iff.mp h
          obtain ⟨hle, -⟩ := ih hr'
          exact ⟨by show socketWeight r'.socket ≤ _; omega,
            fun _ => Or.inr (by show socketWeight r'.socket < _; omega)⟩
      | eintr =>
        obtain ⟨hle, -⟩ := ih h
        have hw : socketWeight (.eintr :: s) = 1 + socketWeight s := rfl
        exact ⟨by omega, fun _ => Or.inr (by omega)⟩
      | timeout =>
        cases h
        exact ⟨Nat.le_add_left _ _, fun _ => Or.inr (Nat.lt_add_of_pos_left Nat.one_pos)⟩
      | closed =>
        cases h
        exact ⟨Nat.le_refl _, fun _ => Or.inl rfl⟩
      | error =>
        cases h
        exact ⟨Nat.le_add_left _ _, fun _ => Or.inl rfl⟩

theorem readDataLoop_weight {len fuel stalledTimeouts : Nat} {total : List UInt8} {s : List Recv}
    {r : ReadData} (h : tcpUtilsReadDataLoop len fuel total stalledTimeouts s = some r) :
    socketWeight r.socket ≤ socketWeight s ∧
      (total.length < len → r.code = -1 ∨ socketWeight r.socket < socketWeight s) := by
  induction fuel generalizing total stalledTimeouts s with
  | zero => cases h
  | succ fuel ih =>
    rw [tcpUtilsReadDataLoop] at h
    obtain ⟨p, hp, h⟩ := Option.bind_eq_some_iff.mp h
    obtain ⟨hle, hlt⟩ := readDataPartially_weight hp
    have hlast : ∀ code : Int, (code = p.code ∨ code = -1) →
        socketWeight p.socket ≤ socketWeight s ∧
          (total.length < len → code = -1 ∨ socketWeight p.socket < socketWeight s) := by
      rintro code (rfl | rfl)
      · exact ⟨hle, fun hl => hlt (by omega)⟩
      · exact ⟨hle, fun _ => Or.inl rfl⟩
    generalize (if p.read.length > 0 then 0 else stalledTimeouts + 1) = stalled at h
    simp only at h
    split at h
    · rename_i h0
      cases h
      exact hlast 0 (Or.inl h0.symm)
    · split at h
      · cases h
        exact hlast (-1) (Or.inr rfl)
      · rename_i hne1
        split at h
        · cases h
          exact hlast p.code (Or.inl rfl)
        · split at h
          · cases h
            exact hlast (-1) (Or.inr rfl)
          · obtain ⟨hle', -⟩ := ih h
            refine ⟨Nat.le_trans hle' hle, fun hl => Or.inr ?_⟩
            have := (hlt (by omega)).resolve_left hne1
            omega

/-- An iteration that does not end the loop takes something off the socket. -/
theorem tcpWorkerIteration_weight {server : TcpServer} {s : List Recv} {it : Iteration}
    (h : tcpWorkerIteration server s = some it) :
    it.clientDisconnected = true ∨ socketWeight it.socket < socketWeight s := by
  obtain ⟨r, hr, h⟩ := Option.bind_eq_some_iff.mp h
  have hlt : r.code ≠ -1 → socketWeight r.socket < socketWeight s := fun hc =>
    ((readDataLoop_weight hr).2 (by decide)).resolve_left hc
  split at h
  · cases h; exact Or.inr (hlt (by omega))
  · split at h
    · cases h; exact Or.inl rfl
    · rename_i hne
      have hlt := hlt hne
      split at h
      · cases h; exact Or.inr hlt
      · split at h
        · cases h; exact Or.inr hlt
        · split at h
          · cases h; exact Or.inl rfl
          · obtain ⟨p, hp, h⟩ := Option.bind_eq_some_iff.mp h
            have hle := (readDataLoop_weight hp).1
            split at h
            · cases h; exact Or.inr (Nat.lt_of_le_of_lt hle hlt)
            · cases h; exact Or.inr (Nat.lt_of_le_of_lt hle hlt)

/-- **More fuel changes nothing.** -/
theorem tcpWorkerLoop_fuel {server : TcpServer} {fuel fuel' : Nat} {s : List Recv}
    (h : socketWeight s < fuel) (h' : socketWeight s < fuel') :
    tcpWorkerLoop server fuel s = tcpWorkerLoop server fuel' s := by
  induction fuel generalizing fuel' s with
  | zero => omega
  | succ fuel ih =>
    obtain ⟨k, rfl⟩ : ∃ k, fuel' = k + 1 := ⟨fuel' - 1, by omega⟩
    rw [tcpWorkerLoop, tcpWorkerLoop]
    cases hit : tcpWorkerIteration server s with
    | none => rfl
    | some it =>
      by_cases hd : it.clientDisconnected = true
      · simp [hd]
      · have hw := (tcpWorkerIteration_weight hit).resolve_left hd
        simp only [hd, ih (show socketWeight it.socket < fuel by omega)
          (show socketWeight it.socket < k by omega)]

/-! ## What was handled, iteration by iteration -/

/-- The messages `tcp_worker_callback` acts on. -/
def handledBy (server : TcpServer) (s : List Recv) : List Handled :=
  (tcpWorkerCallback server s).handled

theorem handledBy_eq (server : TcpServer) (s : List Recv) :
    handledBy server s = (tcpWorkerLoop server (socketWeight s + 1) s).handled := by
  unfold handledBy tcpWorkerCallback
  simp only
  split <;> rfl

theorem handledBy_blocked {server : TcpServer} {s : List Recv}
    (h : tcpWorkerIteration server s = none) : handledBy server s = [] := by
  rw [handledBy_eq, tcpWorkerLoop, h]

/-- **One iteration**, and then the rest unless the client is disconnected. -/
theorem handledBy_iteration {server : TcpServer} {s : List Recv} {it : Iteration}
    (h : tcpWorkerIteration server s = some it) :
    handledBy server s =
      it.handled.toList ++ if it.clientDisconnected then [] else handledBy server it.socket := by
  rw [handledBy_eq, tcpWorkerLoop, h]
  cases hd : it.clientDisconnected with
  | true => simp [hd]
  | false =>
    have hw := (tcpWorkerIteration_weight h).resolve_left (by simp [hd])
    simp [hd, handledBy_eq, tcpWorkerLoop_fuel hw (Nat.lt_succ_self _)]

end SdrModem
