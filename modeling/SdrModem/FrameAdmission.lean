import SdrModem.BufferSizes
import SdrModem.TcpFraming
import SdrModem.ModulatorStream
import SdrModem.TxWorkerModem

/-!
# The way of a frame to the device

A frame passes four limits.  Its message has to fit the buffer of the server, which is
made from `sdr_buffer_len`; it must not be longer than `max_frame_size`, and neither the
queue of the tx worker nor the modem takes more than that; and its samples have to fit the
half-band interpolator, whose length is cut to 32 bits.
-/
namespace SdrModem
open BoundedFifo Mealy

/-- A TX_FRAME of our own version. -/
structure FrameMessage where
  message : Message
  version : message.header.protocolVersion = protocolVersion
  type : message.header.type = MessageType.txFrame.code

namespace FrameMessage

/-- The bytes to transmit. -/
def frame (m : FrameMessage) : List UInt8 := m.message.payload

/-- The command that `sdr_tx_worker_send` puts into the queue. -/
def command (m : FrameMessage) : TxCommand := .frame m.message.header.requestId m.frame

end FrameMessage

/-- **A frame reaches the device**: the client is not dropped for it, the queue of the tx
worker takes it as soon as there is room, and the modem makes samples of it. -/
structure FrameReaches (config : AppConfig) (modem : SdrModemTx) (m : FrameMessage) : Prop where
  kept : ∀ s rest, Arrives s m.message rest → ∃ s', Connected s' ∧ items s' = rest ∧
    tcpWorkerIteration config.tcpServer s =
      some ⟨s', some (.dispatched m.message.header m.frame),
        [.sendFrame m.message.header.requestId m.frame], false⟩
  queued : ∀ (w : TxWorker) (tag : Option Tag), w.queue.closed = false →
    w.queue.used < config.queueSize.toNat →
    w.put config.maxFrameSize.toNat config.queueSize.toNat ⟨m.command, tag⟩ =
      some { w with queue := { w.queue with pending := w.queue.pending ++ [⟨m.command, tag⟩] } }
  modulated : (modem.modulate m.frame).2.isSome = true

/-! ## The modem -/

theorem GfskModem.length_feed {m : GfskModem} (hnone : m.resamplerTx = none) (bits : List Bool) :
    (m.feed bits).2.length = bits.length * gfskModemSps := by
  rw [feed, hnone]
  exact Object.length_expand _ _

theorem BpskModem.length_feed {m : BpskModem} (hnone : m.resamplerTx = none) (bits : List Bool) :
    (m.feed bits).2.length = bits.length * m.samplesPerSymbol := by
  rw [feed, hnone]
  exact (Object.length_expand _ _).trans (by rw [Object.length_process])

/-- Without a resampler every bit becomes as many samples. -/
theorem WrappedModem.length_feed {config : WrappedConfig} {bufferSize : UInt32} {m : WrappedModem}
    (h : m.reset = create bufferSize config) (hnone : config.resampler = none)
    (bits : List Bool) : (m.feed bits).2.length = bits.length * config.samplesPerSymbol := by
  cases config with
  | gfsk config =>
    cases m with
    | gfsk m =>
      have hreset := congrArg GfskModem.resamplerTx (WrappedModem.gfsk.inj h)
      exact GfskModem.length_feed (by simpa [GfskModem.reset, GfskModem.create,
        show config.resampler = none from hnone] using hreset) bits
    | bpsk m => cases h
    | pskPm m => cases h
  | bpsk config =>
    cases m with
    | gfsk m => cases h
    | bpsk m =>
      have hreset := congrArg BpskModem.resamplerTx (WrappedModem.bpsk.inj h)
      have hsps : m.samplesPerSymbol = config.samplesPerSymbol :=
        congrArg BpskModem.samplesPerSymbol (WrappedModem.bpsk.inj h)
      have hlength := BpskModem.length_feed (m := m) (by simpa [BpskModem.reset, BpskModem.create,
        show config.resampler = none from hnone] using hreset) bits
      rw [hsps] at hlength
      exact hlength
    | pskPm m => cases h
  | pskPm config =>
    cases m with
    | gfsk m => cases h
    | bpsk m => cases h
    | pskPm m =>
      have hsub := congrArg PskPmModem.subcarrierModem (WrappedModem.pskPm.inj h)
      have hreset := congrArg BpskModem.resamplerTx hsub
      have hsps : m.subcarrierModem.samplesPerSymbol = config.subcarrier.samplesPerSymbol :=
        congrArg BpskModem.samplesPerSymbol hsub
      have hlength := BpskModem.length_feed (m := m.subcarrierModem) (by
        simpa [PskPmModem.reset, PskPmModem.create, BpskModem.reset, BpskModem.create,
          show config.subcarrier.resampler = none from hnone] using hreset) bits
      rw [hsps] at hlength
      exact (PskPmModem.length_carrier _ _ _).trans hlength

namespace SdrModemTx
variable {config : SdrModemConfig} {bufferSize : UInt32} {m : SdrModemTx} {input : List UInt8}

/-- How many samples the modem behind makes of an input. -/
def modulatedLength (m : SdrModemTx) (input : List UInt8) : Nat :=
  ((m.modem.modulate input).2.getD []).length

/-- **Which inputs that fit the buffer a modem makes samples of.** -/
theorem CreatedFrom.modulate_isSome_iff (h : CreatedFrom config bufferSize m)
    (hshort : input.length ≤ bufferSize.toNat) :
    (m.modulate input).2.isSome = true ↔ (config.halfband.isSome = true →
      m.modulatedLength input ≤
        (WrappedModem.create bufferSize config.modem).maxModulationLength % 2 ^ 32) := by
  have hlong : ¬ input.length * 8 > m.modem.maxModulationInputBits := by
    rw [h.maxModulationInputBits]
    omega
  obtain ⟨output, houtput⟩ := Option.isSome_iff_exists.mp (WrappedModem.txPending_modulate hlong).2
  have hpair : m.modem.modulate input = ((m.modem.modulate input).1, some output) :=
    Prod.ext rfl houtput
  have hlength : m.modulatedLength input = output.length := by
    rw [modulatedLength, houtput]
    rfl
  have hhalfband : m.halfbandTx.isSome = config.halfband.isSome := by
    have hreset := congrArg (fun m => m.halfbandTx.isSome) h.reset
    simpa [SdrModemTx.reset, create] using hreset
  rw [hlength, ← hhalfband, SdrModemTx.modulate, hpair]
  dsimp only
  cases hf : m.halfbandTx with
  | none => simp
  | some f =>
    dsimp only
    rw [← (h.maxInputBufferLength hf).2, HalfbandInterp.process]
    by_cases hfits : output.length ≤ f.maxInputBufferLength
    · simp [hfits, Nat.not_lt.mpr hfits]
    · simp [hfits, Nat.lt_of_not_le hfits]

/-- Without a resampler the samples can be counted. -/
theorem CreatedFrom.modulatedLength_eq (h : CreatedFrom config bufferSize m)
    (hshort : input.length ≤ bufferSize.toNat) (hnone : config.modem.resampler = none) :
    m.modulatedLength input = config.modem.dataSamples input.length := by
  have hlong : ¬ input.length * 8 > m.modem.maxModulationInputBits := by
    rw [h.maxModulationInputBits]
    omega
  have hfits : ResamplerFits config.modem.resampler (config.modem.dataSamples input.length) := by
    intro r hr
    rw [hnone] at hr
    cases hr
  have hmodem : m.modem.reset = WrappedModem.create bufferSize config.modem :=
    congrArg SdrModemTx.modem h.reset
  rw [modulatedLength, (WrappedModem.modulate_eq_feed hmodem hlong hfits).1, Option.getD_some,
    WrappedModem.length_feed hmodem hnone, length_inputBits]
  rfl

end SdrModemTx

/-! ## All together -/

/-- A message in one segment arrives. -/
theorem Message.arrives_pushBack (m : Message) : Arrives (pushBack m.encode []) m [] := by
  have hconnected : Connected [] := fun e he => absurd he List.not_mem_nil
  exact arrives_of_bytes (hconnected.pushBack m.encode) (items_pushBack m.encode [])

/-- The server hands a frame within the limit to the tx worker. -/
theorem tcpWorkerDispatch_frame (server : TcpServer) (htx : server.hasTxWorker = true)
    {m : FrameMessage} (hlen : m.message.header.messageLength ≤ server.maxFrameSize) :
    tcpWorkerDispatch server m.message.header m.frame =
      ([.sendFrame m.message.header.requestId m.frame], false) := by
  unfold tcpWorkerDispatch
  rw [if_neg (by rw [m.type]; decide), if_pos m.type, if_neg (UInt32.not_lt.mpr hlen), if_pos htx]

/-- **Which frames within the limit reach the device.**  The modem is one that was created for
this limit and has handled any frames since. -/
theorem frame_reaches_iff {config : AppConfig} (htx : config.canTransmit = true)
    (modemConfig : SdrModemConfig) (before : List TxFrame) (m : FrameMessage)
    (hlen : m.message.header.messageLength ≤ config.maxFrameSize) :
    let modem := TxFrame.modemAfter (.create modemConfig config.maxFrameSize) before
    (FrameReaches config modem m ↔
      m.message.header.messageLength.toNat ≤ config.bufferLength ∧
      (modemConfig.halfband.isSome = true → modem.modulatedLength m.frame ≤
        (WrappedModem.create config.maxFrameSize modemConfig.modem).maxModulationLength %
          2 ^ 32)) ∧
    (modemConfig.modem.resampler = none →
      modem.modulatedLength m.frame = modemConfig.modem.dataSamples m.frame.length) := by
  intro modem
  have hcreated : SdrModemTx.CreatedFrom modemConfig config.maxFrameSize modem :=
    (TxFrame.modemAfter_createdFrom
      (SdrModemTx.createdFrom_create modemConfig config.maxFrameSize) before).1
  have hshort : m.frame.length ≤ config.maxFrameSize.toNat := by
    rw [FrameMessage.frame, m.message.length_eq]
    exact UInt32.le_iff_toNat_le.mp hlen
  refine ⟨?_, hcreated.modulatedLength_eq hshort⟩
  rw [← hcreated.modulate_isSome_iff hshort]
  constructor
  · intro hreaches
    refine ⟨?_, hreaches.modulated⟩
    by_contra hlong
    -- the message in one segment: the server drops the client
    have harrives := m.message.arrives_pushBack
    obtain ⟨s', -, -, hkept⟩ := hreaches.kept _ _ harrives
    obtain ⟨t, hdropped⟩ := tcpWorkerIteration_oversized config.tcpServer harrives m.version hlong
    rw [hdropped] at hkept
    cases hkept
  · rintro ⟨hfits, hmodulated⟩
    constructor
    · intro s rest harrives
      obtain ⟨s', hc, hrest, hit⟩ :=
        tcpWorkerIteration_dispatched config.tcpServer harrives m.version hfits
      have hdispatch := tcpWorkerDispatch_frame config.tcpServer htx hlen
      rw [FrameMessage.frame] at hdispatch
      rw [hdispatch] at hit
      exact ⟨s', hc, hrest, hit⟩
    · intro w tag hopen hroom
      have hfits : fitsTx config.maxFrameSize.toNat ⟨m.command, tag⟩ = true :=
        decide_eq_true hshort
      rw [TxWorker.put, offer, BoundedFifo.step, if_pos ⟨hopen, hfits, hroom⟩]
      rfl
    · exact hmodulated

/-- A frame of zeros. -/
def zeroFrame (length : UInt32) : FrameMessage where
  message :=
    { header := ⟨protocolVersion, MessageType.txFrame.code, 1, length⟩
      payload := List.replicate length.toNat 0
      length_eq := List.length_replicate }
  version := rfl
  type := rfl

/-- A buffer of 512 bytes is enough for frames of 256 bytes. -/
theorem small_frames_reach :
    (zeroFrame 256).message.header.messageLength ≤ 256 ∧
    FrameReaches ⟨512, 5, 64, 256, .plutosdr⟩
      (TxFrame.modemAfter (.create sdpskConfig 256) [refusedFrame]) (zeroFrame 256) :=
  have hlen : (zeroFrame 256).message.header.messageLength ≤ 256 := by decide
  have hreaches := @frame_reaches_iff ⟨512, 5, 64, 256, .plutosdr⟩ (by decide)
    sdpskConfig [refusedFrame] (zeroFrame 256) hlen
  ⟨hlen, hreaches.1.mpr ⟨by decide, nofun⟩⟩

/-- A server with a small buffer for samples. -/
def smallBufferOptions : List (Setting × String) := (.sdrBufferLen, "100") :: serverOptions "8093"

/-- Frames of 2048 bytes are allowed, and one of 211 bytes costs the client its connection. -/
theorem frame_within_limit_dropped :
    ∃ config, appConfigCreate queueEnv (optionArgs smallBufferOptions) = .ok config ∧
      config.mode = .server ∧ config.appConfig.canTransmit = true ∧
      (zeroFrame 211).message.header.messageLength ≤ config.appConfig.maxFrameSize ∧
      (∃ s', tcpWorkerIteration config.appConfig.tcpServer
        (pushBack (zeroFrame 211).message.encode []) =
          some ⟨s', some (.rejected (zeroFrame 211).message.header),
            [invalidRequest 1, .sendNew (-1)], true⟩) ∧
      ∀ modem, ¬ FrameReaches config.appConfig modem (zeroFrame 211) := by
  have hvalues : (appConfigCreate queueEnv (optionArgs smallBufferOptions)).map
      (fun config => (config.mode, config.settings .sdrType, config.settings .maxFrameSize,
        config.settings .sdrBufferLen)) = .ok (.server, .plutosdr, 2048, 100) := by decide
  obtain ⟨config, hconfig, hvalues⟩ := map_ok.mp hvalues
  obtain ⟨hmode, hvalues⟩ := Prod.mk.inj hvalues
  obtain ⟨htype, hvalues⟩ := Prod.mk.inj hvalues
  obtain ⟨hframe, hbuffer⟩ := Prod.mk.inj hvalues
  have htx : config.appConfig.canTransmit = true := by
    change decide ((config.settings .sdrType).driver ≠ .airspy) = true
    rw [htype]
    decide
  have hlen : (zeroFrame 211).message.header.messageLength ≤ config.appConfig.maxFrameSize := by
    change _ ≤ config.settings .maxFrameSize
    rw [hframe]
    decide
  have hlong : ¬ (zeroFrame 211).message.header.messageLength.toNat ≤
      config.appConfig.bufferLength := by
    change ¬ _ ≤ (config.settings .sdrBufferLen + UInt32.ofNat apiHeaderSize + 100).toNat
    rw [hbuffer]
    decide
  have harrives := (zeroFrame 211).message.arrives_pushBack
  have hdropped := tcpWorkerIteration_oversized config.appConfig.tcpServer harrives
    (zeroFrame 211).version hlong
  refine ⟨config, hconfig, hmode, htx, hlen, hdropped, fun modem hreaches => ?_⟩
  obtain ⟨s', -, -, hkept⟩ := hreaches.kept _ _ harrives
  obtain ⟨t, hdropped⟩ := hdropped
  rw [hdropped] at hkept
  cases hkept

end SdrModem
