import SdrModem.TcpServer

/-!
# Message boundaries in the request stream

A client sends messages one after the other, and the server has to find them
again in a sequence of bytes and timeouts.  `handledBy_messages` says when it
does: no timeout falls between a header and its payload, and a message with a
foreign protocol version has no payload.  Both conditions are needed.  The loop
takes a timeout in front of a payload for "no message yet" and reads the payload
as the next header, and it answers a foreign version without reading the payload.
-/
namespace SdrModem

/-- A message as it is sent: the header announces the length of the payload. -/
structure Message where
  header : MessageHeader
  payload : List UInt8
  length_eq : payload.length = header.messageLength.toNat

namespace Message

/-- The bytes of a message. -/
def encode (m : Message) : List UInt8 := apiEncodeMessageHeader m.header ++ m.payload

/-- A message the server takes for a request to disconnect. -/
def isShutdown (m : Message) : Bool :=
  m.header.protocolVersion = protocolVersion ∧ m.header.type = MessageType.shutdown.code

/-- The header and the payload. -/
def pair (m : Message) : MessageHeader × List UInt8 := (m.header, m.payload)

/-- What the server makes of a message it has read in full. -/
def handled (m : Message) : Handled :=
  if m.header.protocolVersion = protocolVersion then .dispatched m.header m.payload
  else .rejected m.header

theorem length_encode (m : Message) : m.encode.length = apiHeaderSize + m.payload.length := by
  simp [encode]

end Message

/-- The bytes of a stream of messages. -/
def encodeAll (msgs : List Message) : List UInt8 := msgs.flatMap Message.encode

/-- The messages up to the first shutdown, which is included. -/
def uptoShutdown : List Message → List Message
  | [] => []
  | m :: msgs => if m.isShutdown then [m] else m :: uptoShutdown msgs

@[simp] theorem encodeAll_nil : encodeAll [] = [] := rfl

@[simp] theorem encodeAll_cons (m : Message) (msgs : List Message) :
    encodeAll (m :: msgs) = m.encode ++ encodeAll msgs := rfl

theorem uptoShutdown_subset (msgs : List Message) : uptoShutdown msgs ⊆ msgs := by
  induction msgs with
  | nil => exact List.Subset.refl _
  | cons m msgs ih =>
    unfold uptoShutdown
    split
    · exact List.cons_subset_cons m (List.nil_subset msgs)
    · exact List.cons_subset_cons m ih

/-! ## One message -/

/-- Only a shutdown disconnects the client. -/
theorem tcpWorkerDispatch_disconnects (server : TcpServer) (header : MessageHeader)
    (payload : List UInt8) :
    (tcpWorkerDispatch server header payload).2 = true ↔
      header.type = MessageType.shutdown.code := by
  unfold tcpWorkerDispatch
  by_cases hs : header.type = MessageType.shutdown.code
  · simp [hs, MessageType.code]
  · simp only [hs, iff_false, Bool.not_eq_true]
    split
    · split
      · rfl
      · split
        · split <;> rfl
        · rfl
    · split
      · split
        · rfl
        · split <;> rfl
      · split
        · rfl
        · split
          · rfl
          · split <;> rfl

section
variable (server : TcpServer) {s : List Recv}

theorem tcpWorkerIteration_timeout (hs : Connected s) {rest : List (Option UInt8)}
    (hi : items s = none :: rest) :
    ∃ s', tcpWorkerIteration server s = some ⟨s', none, [], false⟩ ∧ Connected s' ∧
      items s' = rest := by
  obtain ⟨s', hr, hc, hrest⟩ := readData_timeout hs hi (show 0 < apiHeaderSize by decide)
  refine ⟨s', ?_, hc, hrest⟩
  rw [tcpWorkerIteration, hr]
  rfl

/-- Timeouts between messages change nothing. -/
theorem handledBy_timeouts (hs : Connected s) {k : Nat} {rest : List (Option UInt8)}
    (hi : items s = List.replicate k none ++ rest) :
    ∃ s', Connected s' ∧ items s' = rest ∧ handledBy server s = handledBy server s' := by
  induction k generalizing s with
  | zero => exact ⟨s, hs, hi, rfl⟩
  | succ k ih =>
    obtain ⟨t, ht, hc, hrest⟩ := tcpWorkerIteration_timeout server hs hi
    obtain ⟨s', hc', hrest', heq⟩ := ih hc hrest
    exact ⟨s', hc', hrest', by rw [handledBy_iteration ht]; simpa using heq⟩

omit server in
/-- A header whose first byte has arrived is read. -/
theorem readData_header (hs : Connected s) {header : MessageHeader} {b : UInt8}
    {gs : List (Nat × UInt8)} {rest : List (Option UInt8)}
    (hi : items s = weave ((0, b) :: gs) ++ rest)
    (hbytes : b :: gs.map Prod.snd = apiEncodeMessageHeader header)
    (hgaps : ∀ g ∈ gs, g.1 < maxStalledTimeouts) :
    ∃ s', tcpUtilsReadData apiHeaderSize s = some ⟨0, apiEncodeMessageHeader header, s'⟩ ∧
      Connected s' ∧ items s' = rest := by
  obtain ⟨s', hr, hc, hrest⟩ := readData_ok hs hi hgaps
  have hlen : gs.length + 1 = apiHeaderSize := by
    have h := congrArg List.length hbytes
    simpa using h
  exact ⟨s', by rw [← hlen, hr, hbytes], hc, hrest⟩

/-- **A foreign protocol version** is rejected, and what follows the header is
taken for the next message. -/
theorem handledBy_rejected (hs : Connected s) {header : MessageHeader} {b : UInt8}
    {gs : List (Nat × UInt8)} {rest : List (Option UInt8)}
    (hi : items s = weave ((0, b) :: gs) ++ rest)
    (hbytes : b :: gs.map Prod.snd = apiEncodeMessageHeader header)
    (hgaps : ∀ g ∈ gs, g.1 < maxStalledTimeouts)
    (hversion : header.protocolVersion ≠ protocolVersion) :
    ∃ s', Connected s' ∧ items s' = rest ∧
      handledBy server s = .rejected header :: handledBy server s' := by
  obtain ⟨s', hr, hc, hrest⟩ := readData_header hs hi hbytes hgaps
  refine ⟨s', hc, hrest, ?_⟩
  have hit : tcpWorkerIteration server s =
      some ⟨s', some (.rejected header), [invalidRequest header.requestId], false⟩ := by
    simp [tcpWorkerIteration, hr, apiDecodeMessageHeader_encode, hversion]
  simpa using handledBy_iteration hit

/-- **A message arrives**: its bytes, in any segments and with fewer than three timeouts in
a row, but none in front of the header and none in front of the payload. -/
def Arrives (s : List Recv) (m : Message) (rest : List (Option UInt8)) : Prop :=
  Connected s ∧ ∃ b gs ps,
    items s = weave ((0, b) :: gs) ++ (weave ps ++ rest) ∧
    b :: gs.map Prod.snd = apiEncodeMessageHeader m.header ∧ ps.map Prod.snd = m.payload ∧
    (∀ g ∈ gs ++ ps, g.1 < maxStalledTimeouts) ∧ ∀ g, ps.head? = some g → g.1 = 0

/-- **A message of our own version** is dispatched with its payload, if that is
there when the header has been read. -/
theorem tcpWorkerIteration_dispatched {m : Message} {rest : List (Option UInt8)}
    (h : Arrives s m rest) (hversion : m.header.protocolVersion = protocolVersion)
    (hfits : m.header.messageLength.toNat ≤ server.bufferLength) :
    ∃ s', Connected s' ∧ items s' = rest ∧ tcpWorkerIteration server s =
      some ⟨s', some (.dispatched m.header m.payload),
        (tcpWorkerDispatch server m.header m.payload).1,
        (tcpWorkerDispatch server m.header m.payload).2⟩ := by
  obtain ⟨hs, b, gs, ps, hi, hbytes, hpayload, hgaps, hfirst⟩ := h
  obtain ⟨t, hr, hc, hrest⟩ :=
    readData_header hs hi hbytes fun g hg => hgaps g (List.mem_append_left _ hg)
  obtain ⟨s', hp, hc', hrest'⟩ : ∃ s', tcpUtilsReadData m.header.messageLength.toNat t =
      some ⟨0, m.payload, s'⟩ ∧ Connected s' ∧ items s' = rest := by
    rw [← m.length_eq, ← hpayload]
    cases ps with
    | nil => exact ⟨t, readData_zero t, hc, hrest⟩
    | cons g ps =>
      obtain ⟨k, c⟩ := g
      have hk : k = 0 := hfirst (k, c) rfl
      subst hk
      have hlen : (((0, c) :: ps).map Prod.snd).length = ps.length + 1 := by simp
      rw [hlen]
      exact readData_ok hc hrest fun g hg => hgaps g (by simp [hg])
  refine ⟨s', hc', hrest', ?_⟩
  simp [tcpWorkerIteration, hr, apiDecodeMessageHeader_encode, hversion, hp, Nat.not_lt.mpr hfits]

/-- **A message that does not fit the buffer** costs the client its connection. -/
theorem tcpWorkerIteration_oversized {m : Message} {rest : List (Option UInt8)}
    (h : Arrives s m rest) (hversion : m.header.protocolVersion = protocolVersion)
    (hlong : ¬ m.header.messageLength.toNat ≤ server.bufferLength) :
    ∃ s', tcpWorkerIteration server s = some ⟨s', some (.rejected m.header),
      [invalidRequest m.header.requestId, .sendNew (-1)], true⟩ := by
  obtain ⟨hs, b, gs, ps, hi, hbytes, -, hgaps, -⟩ := h
  obtain ⟨t, hr, -, -⟩ :=
    readData_header hs hi hbytes fun g hg => hgaps g (List.mem_append_left _ hg)
  exact ⟨t, by simp [tcpWorkerIteration, hr, apiDecodeMessageHeader_encode, hversion,
    Nat.lt_of_not_le hlong]⟩

theorem handledBy_dispatched {m : Message} {rest : List (Option UInt8)} (h : Arrives s m rest)
    (hversion : m.header.protocolVersion = protocolVersion)
    (hfits : m.header.messageLength.toNat ≤ server.bufferLength) :
    ∃ s', Connected s' ∧ items s' = rest ∧
      handledBy server s = .dispatched m.header m.payload ::
        if m.isShutdown then [] else handledBy server s' := by
  obtain ⟨s', hc, hrest, hit⟩ := tcpWorkerIteration_dispatched server h hversion hfits
  refine ⟨s', hc, hrest, ?_⟩
  rw [handledBy_iteration hit]
  have hshut : m.isShutdown = (tcpWorkerDispatch server m.header m.payload).2 := by
    rw [Bool.eq_iff_iff, tcpWorkerDispatch_disconnects]
    simp [Message.isShutdown, hversion]
  simp [hshut]

end

/-! ## Schedules -/

/-- **A schedule of a stream**: its bytes, in order, with timeouts in between, but
never three of them in a row in the middle of a message. -/
structure Schedule (msgs : List Message) (is : List (Option UInt8)) : Prop where
  bytes_eq : bytes is = encodeAll msgs
  noStall : ∀ before after, is = before ++ none :: none :: none :: after →
    ∃ k, (bytes before).length = (encodeAll (msgs.take k)).length

/-- **No timeout falls between a header and its payload**, for the messages up to
the first shutdown. -/
def PromptPayloads (msgs : List Message) (is : List (Option UInt8)) : Prop :=
  ∀ before after, is = before ++ none :: after →
    ∀ k m, (uptoShutdown msgs)[k]? = some m → m.payload ≠ [] →
      (bytes before).length ≠ (encodeAll (msgs.take k)).length + apiHeaderSize

@[simp] theorem bytes_cons_none (is : List (Option UInt8)) : bytes (none :: is) = bytes is := rfl

@[simp] theorem bytes_cons_some (b : UInt8) (is : List (Option UInt8)) :
    bytes (some b :: is) = b :: bytes is := rfl

@[simp] theorem bytes_replicate_none (k : Nat) : bytes (List.replicate k none) = [] := by
  induction k with
  | zero => rfl
  | succ k ih => rw [List.replicate_succ, bytes_cons_none, ih]

@[simp] theorem bytes_weave (gs : List (Nat × UInt8)) : bytes (weave gs) = gs.map Prod.snd := by
  induction gs with
  | nil => rfl
  | cons g gs ih =>
    obtain ⟨k, b⟩ := g
    simp [weave_cons, ih]

/-- Bytes at the front, with the timeouts in front of each of them. -/
theorem exists_weave {is : List (Option UInt8)} {bs more : List UInt8}
    (h : bytes is = bs ++ more) :
    ∃ gs rest, is = weave gs ++ rest ∧ gs.map Prod.snd = bs ∧ bytes rest = more := by
  induction is generalizing bs with
  | nil =>
    obtain ⟨rfl, rfl⟩ := List.append_eq_nil_iff.mp h.symm
    exact ⟨[], [], rfl, rfl, rfl⟩
  | cons i is ih =>
    cases bs with
    | nil => exact ⟨[], i :: is, rfl, rfl, h⟩
    | cons b bs =>
      cases i with
      | none =>
        obtain ⟨gs, rest, hi, hb, hr⟩ := ih h
        cases gs with
        | nil => cases hb
        | cons g gs =>
          refine ⟨(g.1 + 1, g.2) :: gs, rest, ?_, hb, hr⟩
          rw [hi, weave_cons, weave_cons, List.replicate_succ]
          rfl
      | some c =>
        rw [bytes_cons_some, List.cons_append, List.cons.injEq] at h
        obtain ⟨rfl, h⟩ := h
        obtain ⟨gs, rest, hi, hb, hr⟩ := ih h
        refine ⟨(0, c) :: gs, rest, ?_, by rw [List.map_cons, hb], hr⟩
        rw [hi, weave_cons]
        rfl

namespace Schedule
variable {m : Message} {msgs : List Message} {is : List (Option UInt8)}

/-- A position strictly inside the first message is not between two messages. -/
theorem not_boundary {n k : Nat} (h0 : 0 < n) (hn : n < m.encode.length) :
    n ≠ (encodeAll ((m :: msgs).take k)).length := by
  cases k with
  | zero => simp; omega
  | succ k => simp only [List.take_succ_cons, encodeAll_cons, List.length_append]; omega

/-- Less than three timeouts come before any byte of a message but the first. -/
theorem gap_lt (h : Schedule (m :: msgs) is) {g : Nat × UInt8} {gs : List (Nat × UInt8)}
    {rest : List (Option UInt8)} (hi : is = weave (g :: gs) ++ rest)
    (hb : (g :: gs).map Prod.snd = m.encode) : ∀ x ∈ gs, x.1 < maxStalledTimeouts := by
  intro x hx
  by_contra hge
  obtain ⟨xs, ys, rfl⟩ := List.append_of_mem hx
  obtain ⟨j, hj⟩ : ∃ j, x.1 = j + 3 := ⟨x.1 - 3, by unfold maxStalledTimeouts at hge; omega⟩
  have hsplit : is = weave (g :: xs) ++
      none :: none :: none :: (List.replicate j none ++ some x.2 :: weave ys ++ rest) := by
    rw [hi, show g :: (xs ++ x :: ys) = (g :: xs) ++ (x.1, x.2) :: ys from rfl, weave_append, hj]
    simp [weave_cons (j + 3), List.replicate_succ]
  obtain ⟨k, hk⟩ := h.noStall _ _ hsplit
  have hlen := congrArg List.length hb
  simp only [bytes_weave, List.length_map, List.length_cons, List.length_append] at hk hlen
  exact not_boundary (by omega) (by omega) hk

/-- **The first message of a schedule**: timeouts, the header, the payload, and a
schedule of the rest. -/
theorem cons (h : Schedule (m :: msgs) is) :
    ∃ k b gs ps rest, is = List.replicate k none ++ (weave ((0, b) :: gs) ++ (weave ps ++ rest)) ∧
      b :: gs.map Prod.snd = apiEncodeMessageHeader m.header ∧ ps.map Prod.snd = m.payload ∧
      (∀ g ∈ gs ++ ps, g.1 < maxStalledTimeouts) ∧ Schedule msgs rest := by
  obtain ⟨all, rest, hi, hb, hr⟩ := exists_weave h.bytes_eq
  obtain ⟨hs, ps, hall, hbh, hbp⟩ := List.map_eq_append_iff.mp hb
  obtain ⟨g, gs, rfl⟩ : ∃ g gs, hs = g :: gs := by
    cases hs with
    | nil => cases hbh
    | cons g gs => exact ⟨g, gs, rfl⟩
  subst hall
  obtain ⟨k, b⟩ := g
  refine ⟨k, b, gs, ps, rest, ?_, hbh, hbp, h.gap_lt hi hb, hr, ?_⟩
  · rw [hi, weave_append, weave_cons, weave_cons]
    simp
  · intro before after hsplit
    obtain ⟨j, hj⟩ := h.noStall (weave ((k, b) :: gs ++ ps) ++ before) after
      (by rw [hi, hsplit, List.append_assoc])
    rw [bytes_append, bytes_weave, hb, List.length_append] at hj
    cases j with
    | zero =>
      -- the first boundary lies in front of the message that was taken off
      exfalso
      simp [Message.length_encode, apiHeaderSize] at hj
    | succ j =>
      refine ⟨j, ?_⟩
      simp only [List.take_succ_cons, encodeAll_cons, List.length_append] at hj
      omega

end Schedule

/-- The payload of the first message follows its header at once, and so do those
of the messages behind it. -/
theorem PromptPayloads.cons {m : Message} {msgs : List Message} {k : Nat} {b : UInt8}
    {gs ps : List (Nat × UInt8)} {rest : List (Option UInt8)}
    (hbytes : b :: gs.map Prod.snd = apiEncodeMessageHeader m.header)
    (hpayload : ps.map Prod.snd = m.payload)
    (h : PromptPayloads (m :: msgs)
      (List.replicate k none ++ (weave ((0, b) :: gs) ++ (weave ps ++ rest)))) :
    (∀ g, ps.head? = some g → g.1 = 0) ∧ (m.isShutdown = false → PromptPayloads msgs rest) := by
  have hheader : (b :: gs.map Prod.snd).length = apiHeaderSize := by rw [hbytes]; rfl
  constructor
  · intro g hg
    obtain ⟨ps, rfl⟩ : ∃ ps', ps = g :: ps' := ⟨ps.tail, List.eq_cons_of_mem_head? hg⟩
    by_contra hne
    obtain ⟨j, hj⟩ : ∃ j, g.1 = j + 1 := ⟨g.1 - 1, by omega⟩
    refine h (List.replicate k none ++ weave ((0, b) :: gs))
      (List.replicate j none ++ some g.2 :: weave ps ++ rest) ?_ 0 m ?_ ?_ ?_
    · rw [show g = (j + 1, g.2) from by rw [← hj]]
      simp [weave_cons (j + 1), List.replicate_succ]
    · unfold uptoShutdown
      split <;> rfl
    · rw [← hpayload]
      simp
    · simpa using hheader
  · intro hns before after hsplit j m' hm' hne
    have hj := h (List.replicate k none ++ (weave ((0, b) :: gs) ++ weave ps) ++ before) after
      (by rw [hsplit]; simp) (j + 1) m' (by rw [uptoShutdown, hns]; exact hm') hne
    have hlen : (bytes (List.replicate k none ++ (weave ((0, b) :: gs) ++ weave ps) ++ before)).length
        = m.encode.length + (bytes before).length := by
      rw [m.length_encode, ← hpayload, ← hheader]
      simp
      omega
    rw [hlen, List.take_succ_cons, encodeAll_cons, List.length_append] at hj
    omega

/-! ## Whole streams -/

theorem eq_replicate_of_bytes_nil {is : List (Option UInt8)} (h : bytes is = []) :
    is = List.replicate is.length none := by
  induction is with
  | nil => rfl
  | cons i is ih =>
    cases i with
    | none => rw [List.length_cons, List.replicate_succ, ← ih h]
    | some b => cases h

/-- Behind the last message there is nothing to handle. -/
theorem handledBy_end (server : TcpServer) {s : List Recv} (hs : Connected s)
    (h : bytes (items s) = []) : handledBy server s = [] := by
  have hi : items s = List.replicate (items s).length none ++ [] := by
    rw [List.append_nil]
    exact eq_replicate_of_bytes_nil h
  obtain ⟨s', hc, hnil, heq⟩ := handledBy_timeouts server hs hi
  rw [heq]
  apply handledBy_blocked
  rw [tcpWorkerIteration, readData_blocked hc hnil (by decide)]
  rfl

/-- **Every message is found again**, if no timeout falls between a header and its
payload and foreign messages have no payload. -/
theorem handledBy_messages (server : TcpServer) {msgs : List Message} {s : List Recv}
    (hs : Connected s) (hsched : Schedule msgs (items s)) (hprompt : PromptPayloads msgs (items s))
    (hfits : ∀ m ∈ msgs, m.header.messageLength.toNat ≤ server.bufferLength)
    (hforeign : ∀ m ∈ uptoShutdown msgs, m.header.protocolVersion ≠ protocolVersion →
      m.payload = []) :
    handledBy server s = (uptoShutdown msgs).map Message.handled := by
  induction msgs generalizing s with
  | nil => exact handledBy_end server hs hsched.bytes_eq
  | cons m msgs ih =>
    obtain ⟨k, b, gs, ps, rest, hi, hbytes, hpayload, hgaps, hrest⟩ := hsched.cons
    rw [hi] at hprompt
    obtain ⟨hfirst, hprompt'⟩ := hprompt.cons hbytes hpayload
    obtain ⟨t, hct, hit, heq⟩ := handledBy_timeouts server hs hi
    rw [heq]
    have htail : ∀ m' ∈ msgs, m'.header.messageLength.toNat ≤ server.bufferLength :=
      fun m' hm' => hfits m' (List.mem_cons_of_mem _ hm')
    have hhead : m ∈ uptoShutdown (m :: msgs) := by
      unfold uptoShutdown
      split <;> exact List.mem_cons_self
    by_cases hversion : m.header.protocolVersion = protocolVersion
    · have harrives : Arrives t m rest := ⟨hct, b, gs, ps, hit, hbytes, hpayload, hgaps, hfirst⟩
      obtain ⟨s', hc, hi', hh⟩ :=
        handledBy_dispatched server harrives hversion (hfits m List.mem_cons_self)
      rw [hh, uptoShutdown]
      cases hshut : m.isShutdown with
      | true => simp [Message.handled, hversion]
      | false =>
        have hmem : ∀ m' ∈ uptoShutdown msgs, m' ∈ uptoShutdown (m :: msgs) := fun m' hm' => by
          rw [uptoShutdown, hshut]
          exact List.mem_cons_of_mem _ hm'
        rw [ih hc (hi'.symm ▸ hrest) (hi'.symm ▸ hprompt' hshut) htail
          fun m' hm' => hforeign m' (hmem m' hm')]
        simp [Message.handled, hversion]
    -- the next header is read right behind this one, so there must be no payload
    · have hnil := hforeign m hhead hversion
      have hps : ps = [] := by
        rw [hnil] at hpayload
        exact List.map_eq_nil_iff.mp hpayload
      subst hps
      have hshut : m.isShutdown = false := by simp [Message.isShutdown, hversion]
      have hmem : ∀ m' ∈ uptoShutdown msgs, m' ∈ uptoShutdown (m :: msgs) := fun m' hm' => by
        rw [uptoShutdown, hshut]
        exact List.mem_cons_of_mem _ hm'
      obtain ⟨s', hc, hi', hh⟩ := handledBy_rejected server hct
        (show items t = weave ((0, b) :: gs) ++ rest from hit) hbytes
        (fun g hg => hgaps g (List.mem_append_left _ hg)) hversion
      rw [hh, uptoShutdown, hshut, ih hc (hi'.symm ▸ hrest) (hi'.symm ▸ hprompt' hshut) htail
        fun m' hm' => hforeign m' (hmem m' hm')]
      simp [Message.handled, hversion]

/-! ## Messages of a foreign version -/

/-- `recv` never times out: it returns data or is interrupted. -/
def NeverTimesOut (s : List Recv) : Prop := ∀ e ∈ s, (∃ b bs, e = .data b bs) ∨ e = .eintr

theorem NeverTimesOut.connected {s : List Recv} (h : NeverTimesOut s) : Connected s := by
  intro e he
  rcases h e he with ⟨b, bs, rfl⟩ | rfl <;> exact ⟨nofun, nofun⟩

theorem NeverTimesOut.items_eq {s : List Recv} (h : NeverTimesOut s) :
    items s = (bytes (items s)).map some := by
  induction s with
  | nil => rfl
  | cons e s ih =>
    have htail := ih fun x hx => h x (List.mem_cons_of_mem _ hx)
    rcases h e List.mem_cons_self with ⟨b, bs, rfl⟩ | rfl
    · rw [items_cons, Recv.items, bytes_append, List.map_append, ← htail]
      simp
    · exact htail

theorem map_some_eq_weave (bs : List UInt8) : bs.map some = weave (bs.map fun b => (0, b)) := by
  induction bs with
  | nil => rfl
  | cons b bs ih => rw [List.map_cons, ih, List.map_cons, weave_cons]; rfl

/-- Without a timeout a message arrives. -/
theorem arrives_of_bytes {s : List Recv} {m : Message} {rest : List (Option UInt8)}
    (hs : Connected s) (hi : items s = m.encode.map some ++ rest) : Arrives s m rest := by
  obtain ⟨b, bs, hheader⟩ : ∃ b bs, apiEncodeMessageHeader m.header = b :: bs := ⟨_, _, rfl⟩
  have hsnd : ∀ cs : List UInt8, (cs.map fun c => ((0, c) : Nat × UInt8)).map Prod.snd = cs := by
    intro cs
    simp [Function.comp_def]
  have hzero : ∀ cs : List UInt8, ∀ g ∈ cs.map fun c => ((0, c) : Nat × UInt8), g.1 = 0 := by
    intro cs g hg
    obtain ⟨c, -, rfl⟩ := List.mem_map.mp hg
    rfl
  refine ⟨hs, b, bs.map fun c => (0, c), m.payload.map fun c => (0, c), ?_, ?_, hsnd _, ?_, ?_⟩
  · rw [hi, Message.encode, hheader, List.map_append, map_some_eq_weave (b :: bs),
      map_some_eq_weave m.payload, List.append_assoc]
    rfl
  · rw [hsnd, hheader]
  · intro g hg
    rw [← List.map_append] at hg
    rw [hzero _ g hg]
    exact Nat.succ_pos 2
  · exact fun g hg => hzero _ g (List.mem_of_mem_head? hg)

/-- A sequence without timeouts is a schedule. -/
theorem schedule_map_some (msgs : List Message) : Schedule msgs ((encodeAll msgs).map some) := by
  refine ⟨bytes_map_some _, fun before after h => ?_⟩
  have hmem : none ∈ (encodeAll msgs).map some := by rw [h]; simp
  simp at hmem

theorem promptPayloads_map_some (msgs : List Message) (bs : List UInt8) :
    PromptPayloads msgs (bs.map some) := by
  intro before after h
  have hmem : none ∈ bs.map some := by rw [h]; simp
  simp at hmem

/-- If every message is acted on as it was sent, the foreign ones have no payload:
it was not read. -/
theorem foreign_of_handledBy {server : TcpServer} {msgs : List Message} {s : List Recv}
    (hs : Connected s) (hi : items s = (encodeAll msgs).map some)
    (hfits : ∀ m ∈ msgs, m.header.messageLength.toNat ≤ server.bufferLength)
    (h : (handledBy server s).map Handled.pair = (uptoShutdown msgs).map Message.pair) :
    ∀ m ∈ uptoShutdown msgs, m.header.protocolVersion ≠ protocolVersion → m.payload = [] := by
  induction msgs generalizing s with
  | nil => exact fun m hm => absurd hm List.not_mem_nil
  | cons m msgs ih =>
    have hfits' : ∀ m' ∈ msgs, m'.header.messageLength.toNat ≤ server.bufferLength :=
      fun m' hm' => hfits m' (List.mem_cons_of_mem _ hm')
    rw [encodeAll_cons, List.map_append] at hi
    have harrives := arrives_of_bytes hs hi
    by_cases hversion : m.header.protocolVersion = protocolVersion
    · obtain ⟨s', hc, hrest, hh⟩ :=
        handledBy_dispatched server harrives hversion (hfits m List.mem_cons_self)
      rw [hh, uptoShutdown] at h
      intro m' hm'
      rw [uptoShutdown] at hm'
      cases hshut : m.isShutdown with
      | true =>
        rw [hshut] at hm'
        obtain rfl := List.mem_singleton.mp hm'
        exact fun hne => absurd hversion hne
      | false =>
        rw [hshut] at h hm'
        rcases List.mem_cons.mp hm' with rfl | hm'
        · exact fun hne => absurd hversion hne
        · exact ih hc hrest hfits' (List.cons.inj h).2 m' hm'
    · have hshut : m.isShutdown = false := by simp [Message.isShutdown, hversion]
      obtain ⟨-, b, gs, ps, hi', hbytes, hpayload, hgaps, -⟩ := harrives
      obtain ⟨s', hc, hrest, hh⟩ := handledBy_rejected server hs hi' hbytes
        (fun g hg => hgaps g (List.mem_append_left _ hg)) hversion
      rw [hh, uptoShutdown, hshut] at h
      -- nothing was read for it, so a pair that agrees has an empty payload
      have hnil : m.payload = [] := (congrArg Prod.snd (List.cons.inj h).1).symm
      rw [List.map_eq_nil_iff.mp (hpayload.trans hnil)] at hrest
      intro m' hm'
      rw [uptoShutdown, hshut] at hm'
      rcases List.mem_cons.mp hm' with rfl | hm'
      · exact fun _ => hnil
      · exact ih hc hrest hfits' (List.cons.inj h).2 m' hm'

/-- **Exactly when request framing survives rejected messages**: the messages the
server acts on are the messages of the stream, up to the first shutdown, if and
only if none of those with a foreign protocol version has a payload. -/
theorem framing_iff_foreign_empty (server : TcpServer) (msgs : List Message) (s : List Recv)
    (hs : NeverTimesOut s) (hbytes : bytes (items s) = encodeAll msgs)
    (hfits : ∀ m ∈ msgs, m.header.messageLength.toNat ≤ server.bufferLength) :
    (tcpWorkerCallback server s).handled.map Handled.pair =
        (uptoShutdown msgs).map Message.pair ↔
      ∀ m ∈ uptoShutdown msgs, m.header.protocolVersion ≠ protocolVersion → m.payload = [] := by
  have hi : items s = (encodeAll msgs).map some := by rw [hs.items_eq, hbytes]
  constructor
  · exact foreign_of_handledBy hs.connected hi hfits
  · intro hforeign
    have hh := handledBy_messages server hs.connected (hi ▸ schedule_map_some msgs)
      (hi ▸ promptPayloads_map_some msgs _) hfits hforeign
    rw [show (tcpWorkerCallback server s).handled = _ from hh, List.map_map]
    refine List.map_congr_left fun m hm => ?_
    by_cases hversion : m.header.protocolVersion = protocolVersion
    · simp [Message.handled, hversion, Handled.pair, Message.pair]
    · simp [Message.handled, hversion, Handled.pair, Message.pair, hforeign m hm hversion]

/-- A server with a buffer of 126 bytes. -/
def smallServer : TcpServer := ⟨126, 64, true⟩

/-- A message of a foreign version without payload, and a request to ping. -/
def foreignThenPing : List Message :=
  [⟨⟨1, 2, 5, 0⟩, [], rfl⟩, ⟨⟨0, 2, 6, 0⟩, [], rfl⟩]

/-- A foreign message without payload leaves the next one alone. -/
theorem framing_foreign_without_payload :
    (tcpWorkerCallback smallServer [.data 1 ((encodeAll foreignThenPing).drop 1)]).handled.map
        Handled.pair = (uptoShutdown foreignThenPing).map Message.pair := by
  refine (framing_iff_foreign_empty smallServer foreignThenPing _ ?_ ?_ ?_).mpr ?_
  · exact fun e he => Or.inl ⟨_, _, List.mem_singleton.mp he⟩
  · rfl
  · decide
  · decide

/-- One message of a foreign version, whose payload reads like a ping. -/
def foreignHidingPing : List Message :=
  [⟨⟨1, 2, 5, 10⟩, apiEncodeMessageHeader ⟨0, 2, 6, 0⟩, rfl⟩]

/-- **The payload of a rejected message is decoded as a request**: a ping that
nobody sent is answered. -/
theorem framing_lost_after_rejection :
    (tcpWorkerCallback smallServer [.data 1 ((encodeAll foreignHidingPing).drop 1)]).handled =
        [.rejected ⟨1, 2, 5, 10⟩, .dispatched ⟨0, 2, 6, 0⟩ []] ∧
      (tcpWorkerCallback smallServer [.data 1 ((encodeAll foreignHidingPing).drop 1)]).handled.map
        Handled.pair ≠ (uptoShutdown foreignHidingPing).map Message.pair := by
  have h : (tcpWorkerCallback smallServer
      [.data 1 ((encodeAll foreignHidingPing).drop 1)]).handled =
        [.rejected ⟨1, 2, 5, 10⟩, .dispatched ⟨0, 2, 6, 0⟩ []] := by decide
  exact ⟨h, by rw [h]; decide⟩

/-! ## Timeouts in front of a payload -/

/-- The requests a client got dispatched: type, request and payload. -/
def requestsBy (server : TcpServer) (s : List Recv) : List (UInt8 × UInt32 × List UInt8) :=
  (tcpWorkerCallback server s).handled.filterMap Handled.request?

/-- The request a message stands for. -/
def Message.request (m : Message) : UInt8 × UInt32 × List UInt8 :=
  (m.header.type, m.header.requestId, m.payload)

/-- No two bytes arrive without a timeout in between. -/
def Paced (is : List (Option UInt8)) : Prop :=
  ∀ before after b c, is ≠ before ++ some b :: some c :: after

theorem Paced.suffix {used is : List (Option UInt8)} (h : Paced (used ++ is)) : Paced is :=
  fun before after b c he => h (used ++ before) after b c (by rw [he, List.append_assoc])

/-- **Behind a paced header there is no payload**: the read in front of it times
out, or `recv` does not return. -/
theorem readData_paced {s t : List Recv} {used : List (Option UInt8)} {b : UInt8} {n : Nat}
    (ht : Connected t) (hp : Paced (items s)) (hi : items s = used ++ [some b] ++ items t)
    {r : ReadData} (hr : tcpUtilsReadData n t = some r) (hcode : r.code = 0) : r.read = [] := by
  rcases Nat.eq_zero_or_pos n with rfl | hn
  · rw [readData_zero] at hr
    cases hr
    rfl
  · exfalso
    cases hit : items t with
    | nil =>
      rw [readData_blocked ht hit hn] at hr
      cases hr
    | cons i is =>
      cases i with
      | none =>
        obtain ⟨t', ht', -⟩ := readData_timeout ht hit hn
        rw [ht'] at hr
        cases hr
        cases hcode
      | some c =>
        refine hp used is b c ?_
        rw [hi, hit]
        simp

/-- Whatever the server makes of a paced stream, it dispatches no payload. -/
theorem handledBy_paced (server : TcpServer) {s : List Recv} (hs : Connected s)
    (hp : Paced (items s)) :
    ∀ header payload, .dispatched header payload ∈ handledBy server s → payload = [] := by
  induction hw : socketWeight s using Nat.strongRecOn generalizing s with
  | ind w ih =>
    subst hw
    intro header payload hmem
    cases hit : tcpWorkerIteration server s with
    | none =>
      rw [handledBy_blocked hit] at hmem
      cases hmem
    | some it =>
      rw [handledBy_iteration hit, List.mem_append] at hmem
      -- what comes later is handled from a suffix of the same stream
      have hlater : Connected it.socket → Paced (items it.socket) →
          .dispatched header payload ∈
            (if it.clientDisconnected then [] else handledBy server it.socket) → payload = [] := by
        intro hc hp' hm
        split at hm
        · cases hm
        · rename_i hd
          exact ih _ ((tcpWorkerIteration_weight hit).resolve_left hd) hc hp' rfl header payload hm
      obtain ⟨r, hr, hit⟩ := Option.bind_eq_some_iff.mp hit
      obtain ⟨hc, used, hi, -, hneg, hok⟩ := readData_consumes hs hr
      have hpr : Paced (items r.socket) := (hi ▸ hp : Paced (used ++ items r.socket)).suffix
      split at hit
      · cases hit
        exact hmem.elim (by simp) (hlater hc hpr)
      · split at hit
        · cases hit
          exact hmem.elim (by simp) (hlater hc hpr)
        · rename_i hge hne
          obtain ⟨us, b, hus⟩ := (hok (by omega)).2 (by decide)
          rw [hus] at hi
          split at hit
          · cases hit
            exact hmem.elim (by simp) (hlater hc hpr)
          · split at hit
            · cases hit
              exact hmem.elim (by simp) (hlater hc hpr)
            · split at hit
              · cases hit
                exact hmem.elim (by simp) (hlater hc hpr)
              · obtain ⟨q, hq, hit⟩ := Option.bind_eq_some_iff.mp hit
                obtain ⟨hcq, used', hi', -⟩ := readData_consumes hc hq
                have hpq : Paced (items q.socket) :=
                  (hi' ▸ hpr : Paced (used' ++ items q.socket)).suffix
                split at hit
                · cases hit
                  exact hmem.elim (by simp) (hlater hcq hpq)
                · rename_i hcode
                  have hnil := readData_paced hc hp hi hq (Decidable.not_not.mp hcode)
                  cases hit
                  rcases hmem with hm | hm
                  · simp only [Option.toList_some, List.mem_singleton, Handled.dispatched.injEq] at hm
                    rw [hm.2, hnil]
                  · exact hlater hcq hpq hm

/-- Byte by byte, with a timeout after each. -/
def slowly (bs : List UInt8) : List Recv := bs.flatMap fun b => [.data b [], .timeout]

/-- All at once. -/
def atOnce (bs : List UInt8) : List Recv := pushBack bs []

theorem items_slowly_cons (b : UInt8) (bs : List UInt8) :
    items (slowly (b :: bs)) = some b :: none :: items (slowly bs) := rfl

theorem slowly_connected (bs : List UInt8) : Connected (slowly bs) := by
  intro e he
  obtain ⟨b, -, he⟩ := List.mem_flatMap.mp he
  rcases List.mem_cons.mp he with rfl | he
  · exact ⟨nofun, nofun⟩
  · rw [List.mem_singleton.mp he]
    exact ⟨nofun, nofun⟩

theorem slowly_paced (bs : List UInt8) : Paced (items (slowly bs)) := by
  induction bs with
  | nil =>
    intro before after b c h
    simp [slowly] at h
  | cons x bs ih =>
    intro before after b c h
    rw [items_slowly_cons] at h
    match before with
    | [] => cases h
    | [_] => cases h
    | _ :: _ :: before => exact ih before after b c (List.cons.inj (List.cons.inj h).2).2

theorem slowly_schedule (msgs : List Message) : Schedule msgs (items (slowly (encodeAll msgs))) := by
  constructor
  · induction encodeAll msgs with
    | nil => rfl
    | cons b bs ih => rw [items_slowly_cons, bytes_cons_some, bytes_cons_none, ih]
  · suffices h : ∀ (bs : List UInt8) before after,
        items (slowly bs) ≠ before ++ none :: none :: after from
      fun before after he => absurd he (h _ before (none :: after))
    intro bs
    induction bs with
    | nil =>
      intro before after h
      simp [slowly] at h
    | cons x bs ih =>
      intro before after h
      rw [items_slowly_cons] at h
      match before with
      | [] => cases h
      | [_] =>
        cases bs with
        | nil => cases h
        | cons y bs => cases h
      | _ :: _ :: before => exact ih before after (List.cons.inj (List.cons.inj h).2).2

theorem atOnce_items (bs : List UInt8) : items (atOnce bs) = bs.map some := by
  rw [atOnce, items_pushBack, items_nil, List.append_nil]

theorem atOnce_connected (bs : List UInt8) : Connected (atOnce bs) :=
  Connected.pushBack (fun _ he => absurd he List.not_mem_nil) bs

/-- The requests dispatched are those of the stream, if no timeout falls between a
header and its payload. -/
theorem requestsBy_messages (server : TcpServer) {msgs : List Message} {s : List Recv}
    (hversion : ∀ m ∈ msgs, m.header.protocolVersion = protocolVersion)
    (hfits : ∀ m ∈ msgs, m.header.messageLength.toNat ≤ server.bufferLength)
    (hs : Connected s) (hsched : Schedule msgs (items s)) (hprompt : PromptPayloads msgs (items s)) :
    requestsBy server s = (uptoShutdown msgs).map Message.request := by
  have hown : ∀ m ∈ uptoShutdown msgs, m.header.protocolVersion = protocolVersion :=
    fun m hm => hversion m (uptoShutdown_subset msgs hm)
  have hh := handledBy_messages server hs hsched hprompt hfits
    fun m hm hne => absurd (hown m hm) hne
  rw [requestsBy, show (tcpWorkerCallback server s).handled = _ from hh, List.filterMap_map,
    ← List.filterMap_eq_map]
  refine List.filterMap_congr fun m hm => ?_
  simp [Message.handled, hown m hm, Handled.request?, Message.request]

/-- **When request handling does not depend on timing.**  Two schedules of a
stream dispatch the same requests if neither has a timeout between a header and
its payload; and all schedules of a stream agree if and only if no message up to
the first shutdown has a payload. -/
theorem timing_independent_iff (server : TcpServer) (msgs : List Message)
    (hversion : ∀ m ∈ msgs, m.header.protocolVersion = protocolVersion)
    (hfits : ∀ m ∈ msgs, m.header.messageLength.toNat ≤ server.bufferLength) :
    (∀ s₁ s₂, Connected s₁ → Schedule msgs (items s₁) → PromptPayloads msgs (items s₁) →
      Connected s₂ → Schedule msgs (items s₂) → PromptPayloads msgs (items s₂) →
      requestsBy server s₁ = requestsBy server s₂) ∧
    ((∀ s₁ s₂, Connected s₁ → Schedule msgs (items s₁) → Connected s₂ → Schedule msgs (items s₂) →
      requestsBy server s₁ = requestsBy server s₂) ↔ ∀ m ∈ uptoShutdown msgs, m.payload = []) := by
  have hall := fun s => requestsBy_messages (s := s) server hversion hfits
  refine ⟨fun s₁ s₂ h1 h2 h3 h4 h5 h6 => (hall s₁ h1 h2 h3).trans (hall s₂ h4 h5 h6).symm, ?_, ?_⟩
  · intro hagree m hm
    -- the whole stream at once, against the stream with a timeout after every byte
    have hfast := hall (atOnce (encodeAll msgs)) (atOnce_connected _)
      (by rw [atOnce_items]; exact schedule_map_some msgs)
      (by rw [atOnce_items]; exact promptPayloads_map_some msgs _)
    have hslow := hagree (atOnce (encodeAll msgs)) (slowly (encodeAll msgs)) (atOnce_connected _)
      (by rw [atOnce_items]; exact schedule_map_some msgs) (slowly_connected _) (slowly_schedule msgs)
    have hmem : m.request ∈ requestsBy server (slowly (encodeAll msgs)) := by
      rw [← hslow, hfast]
      exact List.mem_map_of_mem hm
    obtain ⟨x, hx, hreq⟩ := List.mem_filterMap.mp hmem
    cases x with
    | rejected header => cases hreq
    | dispatched header payload =>
      -- in the slow stream every payload is lost, so this one is empty
      have hnil := handledBy_paced server (slowly_connected _) (slowly_paced _) header payload hx
      have hpayload : payload = m.payload := by
        have h := Option.some.inj hreq
        exact congrArg (fun r => r.2.2) h
      rw [← hpayload, hnil]
  · intro hempty s₁ s₂ h1 h2 h3 h4
    have hprompt : ∀ is, PromptPayloads msgs is := fun is before after _ k m hm hne =>
      absurd (hempty m (List.mem_of_getElem? hm)) hne
    exact (hall s₁ h1 h2 (hprompt _)).trans (hall s₂ h3 h4 (hprompt _)).symm

/-- Less than three timeouts in all are never three in a row. -/
theorem schedule_of_count {msgs : List Message} {is : List (Option UInt8)}
    (hb : bytes is = encodeAll msgs) (hc : is.count none < maxStalledTimeouts) : Schedule msgs is := by
  refine ⟨hb, fun before after h => ?_⟩
  rw [h] at hc
  simp only [List.count_append, List.count_cons_self, maxStalledTimeouts] at hc
  omega

/-- Two requests to ping and a request to disconnect. -/
def pingsThenShutdown : List Message :=
  [⟨⟨0, 2, 5, 0⟩, [], rfl⟩, ⟨⟨0, 2, 6, 0⟩, [], rfl⟩, ⟨⟨0, 1, 7, 0⟩, [], rfl⟩]

/-- A frame of three bytes, and a request to ping. -/
def frameThenPing : List Message :=
  [⟨⟨0, 6, 5, 3⟩, [1, 2, 3], rfl⟩, ⟨⟨0, 2, 6, 0⟩, [], rfl⟩]

/-- The stream with a timeout inside the first header and one inside its payload. -/
def promptFrame : List Recv :=
  [.data 0 [6, 0, 0, 0], .timeout, .data 5 [0, 0, 0, 3, 1], .timeout,
    .data 2 [3, 0, 2, 0, 0, 0, 6, 0, 0, 0, 0]]

theorem promptFrame_promptPayloads : PromptPayloads frameThenPing (items promptFrame) := by
  intro before after hsplit k m hm hpayload
  -- only the frame has a payload, and its header ends behind ten bytes
  have hfirst : k = 0 := by
    match k with
    | 0 => rfl
    | 1 => exact absurd (Option.some.inj hm ▸ rfl) hpayload
    | k + 2 => cases hm
  subst hfirst
  have hpositions : ∀ i < (items promptFrame).length, (items promptFrame)[i]? = some none →
      (bytes ((items promptFrame).take i)).length ≠ apiHeaderSize := by
    decide
  have hposition := hpositions before.length (by rw [hsplit]; simp) (by rw [hsplit]; simp)
  rw [hsplit, List.take_left] at hposition
  rw [List.take_zero, show encodeAll [] = [] from rfl, List.length_nil, Nat.zero_add]
  exact hposition

/-- Requests without payload do not depend on timing: all at once, or with a
timeout after every byte.  Those with a payload do not, if no timeout falls in front of it. -/
theorem timing_independent_pings :
    requestsBy smallServer (atOnce (encodeAll pingsThenShutdown)) =
        requestsBy smallServer (slowly (encodeAll pingsThenShutdown)) ∧
      requestsBy smallServer (atOnce (encodeAll frameThenPing)) =
        requestsBy smallServer promptFrame := by
  constructor
  · refine (timing_independent_iff smallServer pingsThenShutdown (by decide) (by decide)).2.mpr
      (by decide) _ _ (atOnce_connected _) ?_ (slowly_connected _) (slowly_schedule _)
    rw [atOnce_items]
    exact schedule_map_some _
  · refine (timing_independent_iff smallServer frameThenPing (by decide) (by decide)).1
      _ _ (atOnce_connected _) ?_ ?_ ?_ (schedule_of_count (by decide) (by decide))
      promptFrame_promptPayloads
    · rw [atOnce_items]
      exact schedule_map_some _
    · rw [atOnce_items]
      exact promptPayloads_map_some _ _
    · unfold Connected
      decide

/-- The same stream with one timeout, behind the first header. -/
def lateFrame : List Recv :=
  [.data 0 [6, 0, 0, 0, 5, 0, 0, 0, 3], .timeout, .data 1 [2, 3, 0, 2, 0, 0, 0, 6, 0, 0, 0, 0]]

/-- **One timeout between a header and its payload loses the frame**, and the ping
behind it as well. -/
theorem timing_loses_frame :
    Connected (atOnce (encodeAll frameThenPing)) ∧
      Schedule frameThenPing (items (atOnce (encodeAll frameThenPing))) ∧
      Connected lateFrame ∧ Schedule frameThenPing (items lateFrame) ∧
      requestsBy smallServer (atOnce (encodeAll frameThenPing)) =
        [(6, 5, [1, 2, 3]), (2, 6, [])] ∧
      requestsBy smallServer lateFrame = [] := by
  refine ⟨atOnce_connected _, ?_, ?_, ?_, ?_, ?_⟩
  · rw [atOnce_items]; exact schedule_map_some _
  · unfold Connected; decide
  · exact schedule_of_count (by decide) (by decide)
  · decide
  · decide

end SdrModem
