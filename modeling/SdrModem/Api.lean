import Mathlib.Data.List.TakeDrop
import Mathlib.Data.Nat.Bitwise

/-!
# The wire format of `api.c`

All numbers are big-endian.  A pointer into a buffer is the rest of the buffer
from there on, so `buffer + 2` is `buffer.drop 2`; the length checks of the
decoders come before every read.  Floats are carried as their 32 bits, which is
all that `api.c` does with them.
-/
namespace SdrModem

/-- `API_HEADER_SIZE`. -/
def apiHeaderSize : Nat := 10

/-- `PROTOCOL_VERSION`. -/
def protocolVersion : UInt8 := 0

/-- `message_type`. -/
inductive MessageType where
  | rxCommParameters
  | shutdown
  | ping
  | txCommParameters
  | response
  | softBits
  | txFrame
  | rxStart
  | rxStop
  | txComplete
deriving DecidableEq, Repr

/-- The number of a message type on the wire. -/
def MessageType.code : MessageType → UInt8
  | .rxCommParameters => 0
  | .shutdown => 1
  | .ping => 2
  | .txCommParameters => 3
  | .response => 4
  | .softBits => 5
  | .txFrame => 6
  | .rxStart => 7
  | .rxStop => 8
  | .txComplete => 9

/-- `message_header`.  `type` is the byte on the wire, whether it is the number of
a message type or not. -/
structure MessageHeader where
  protocolVersion : UInt8
  type : UInt8
  requestId : UInt32
  messageLength : UInt32
deriving DecidableEq, Repr

/-- `read_u32`. -/
def readU32 (p : List UInt8) : UInt32 :=
  ((p.getD 0 0).toUInt32 <<< 24) ||| ((p.getD 1 0).toUInt32 <<< 16) |||
    ((p.getD 2 0).toUInt32 <<< 8) ||| (p.getD 3 0).toUInt32

/-- `write_u32`: the four bytes written. -/
def writeU32 (value : UInt32) : List UInt8 :=
  [(value >>> 24).toUInt8, (value >>> 16).toUInt8, (value >>> 8).toUInt8, value.toUInt8]

/-- `read_u64`. -/
def readU64 (p : List UInt8) : UInt64 :=
  ((readU32 p).toUInt64 <<< 32) ||| (readU32 (p.drop 4)).toUInt64

/-- `api_decode_message_header`; `none` is the return value `-1`. -/
def apiDecodeMessageHeader (buffer : List UInt8) : Option MessageHeader :=
  if buffer.length < apiHeaderSize then none
  else
    some
      { protocolVersion := buffer.getD 0 0
        type := buffer.getD 1 0
        requestId := readU32 (buffer.drop 2)
        messageLength := readU32 (buffer.drop 6) }

/-- The bytes `api_encode_message_header` writes into a buffer that is large
enough. -/
def apiEncodeMessageHeader (header : MessageHeader) : List UInt8 :=
  [header.protocolVersion, header.type] ++ writeU32 header.requestId ++
    writeU32 header.messageLength

/-! ## Responses -/

/-- `response_status`. -/
inductive ResponseStatus where
  | success
  | failure
deriving DecidableEq, Repr

/-- `response_details`. -/
inductive ResponseDetails where
  | noDetails
  | invalidRequest
deriving DecidableEq, Repr

/-- The number of a status on the wire. -/
def ResponseStatus.code : ResponseStatus → UInt8
  | .success => 0
  | .failure => 1

/-- The number of a detail on the wire. -/
def ResponseDetails.code : ResponseDetails → UInt8
  | .noDetails => 0
  | .invalidRequest => 1

/-- `API_RESPONSE_SIZE`. -/
def apiResponseSize : Nat := 2

/-- The payload of a response, as `api_encode_response` writes it. -/
def apiEncodeResponse (status : ResponseStatus) (details : ResponseDetails) : List UInt8 :=
  [status.code, details.code]

/-! ## Communication settings -/

/-- `sdr_channel_config`. -/
structure SdrChannelConfig where
  frequency : UInt64
  sampleRate : UInt64
  gain : UInt32
deriving DecidableEq, Repr

/-- `gfsk_modem_settings`.  `deviation` is the two's complement of the `int64_t`. -/
structure GfskModemSettings where
  sampleRate : UInt64
  baudRate : UInt32
  deviation : UInt64
  bandwidth : UInt32
  bt : UInt32
  useDcBlock : UInt8
  syncword : UInt64
  syncwordBits : UInt32
deriving DecidableEq, Repr

/-- `psk_modem_type`. -/
inductive PskModemType where
  | bpsk
  | sdpsk
  | dpsk
deriving DecidableEq, Repr

/-- `bpsk_modem_settings`. -/
structure BpskModemSettings where
  sampleRate : UInt64
  baudRate : UInt32
  bandwidth : UInt32
  rrcBeta : UInt32
  rrcDelay : UInt8
  costasBandwidth : UInt32
  symsyncFilterBankSize : UInt8
  type : PskModemType
deriving DecidableEq, Repr

/-- `psk_pm_modem_settings`. -/
structure PskPmModemSettings where
  sampleRate : UInt64
  subcarrierFrequency : UInt32
  carrierPllBandwidth : UInt32
  baudRate : UInt32
  subcarrierBandwidth : UInt32
  rrcBeta : UInt32
  rrcDelay : UInt8
  costasBandwidth : UInt32
  symsyncFilterBankSize : UInt8
  modulationIndex : UInt32
deriving DecidableEq, Repr

/-- `sdr_modem_settings`: the modem type and, of the union, the member that goes
with it.  The three PSK types share a member. -/
inductive SdrModemSettings where
  | gfsk (settings : GfskModemSettings)
  | psk (modemType : PskModemType) (settings : BpskModemSettings)
  | pskPm (settings : PskPmModemSettings)
deriving DecidableEq, Repr

/-- `comm_settings`. -/
structure CommSettings where
  sdrSettings : SdrChannelConfig
  modemSettings : SdrModemSettings
deriving DecidableEq, Repr

/-- `API_SDR_SIZE`. -/
def apiSdrSize : Nat := 8 + 8 + 4

/-- `API_GFSK_SIZE`. -/
def apiGfskSize : Nat := 8 + 4 + 8 + 4 + 4 + 1 + 8 + 4

/-- `API_PSK_SIZE`. -/
def apiPskSize : Nat := 8 + 4 + 4 + 4 + 1 + 4 + 1

/-- `API_PSK_PM_SIZE`. -/
def apiPskPmSize : Nat := 8 + 4 + 4 + 4 + 4 + 4 + 1 + 4 + 1 + 4

/-- The GFSK case of `api_decode_comm_settings`, from the byte behind the type. -/
def decodeGfsk (p : List UInt8) : Option SdrModemSettings :=
  if p.length < apiGfskSize then none
  else
    some <| .gfsk
      { sampleRate := readU64 p
        baudRate := readU32 (p.drop 8)
        deviation := readU64 (p.drop 12)
        bandwidth := readU32 (p.drop 20)
        bt := readU32 (p.drop 24)
        useDcBlock := p.getD 28 0
        syncword := readU64 (p.drop 29)
        syncwordBits := readU32 (p.drop 37) }

/-- The case of the three PSK types, told apart by `modemType`. -/
def decodePsk (modemType : PskModemType) (p : List UInt8) : Option SdrModemSettings :=
  if p.length < apiPskSize then none
  else
    some <| .psk modemType
      { sampleRate := readU64 p
        baudRate := readU32 (p.drop 8)
        bandwidth := readU32 (p.drop 12)
        rrcBeta := readU32 (p.drop 16)
        rrcDelay := p.getD 20 0
        costasBandwidth := readU32 (p.drop 21)
        symsyncFilterBankSize := p.getD 25 0
        type := modemType }

/-- The PSK-PM case. -/
def decodePskPm (p : List UInt8) : Option SdrModemSettings :=
  if p.length < apiPskPmSize then none
  else
    some <| .pskPm
      { sampleRate := readU64 p
        subcarrierFrequency := readU32 (p.drop 8)
        carrierPllBandwidth := readU32 (p.drop 12)
        baudRate := readU32 (p.drop 16)
        subcarrierBandwidth := readU32 (p.drop 20)
        rrcBeta := readU32 (p.drop 24)
        rrcDelay := p.getD 28 0
        costasBandwidth := readU32 (p.drop 29)
        symsyncFilterBankSize := p.getD 33 0
        modulationIndex := readU32 (p.drop 34) }

/-- The switch over `modem_type` in `api_decode_comm_settings`. -/
def decodeModemSettings (modemType : UInt8) (p : List UInt8) : Option SdrModemSettings :=
  match modemType.toNat with
  | 1 => decodeGfsk p
  | 2 => decodePsk .bpsk p
  | 3 => decodePsk .dpsk p
  | 4 => decodePsk .sdpsk p
  | 5 => decodePskPm p
  | _ => none

/-- `api_decode_comm_settings`; `none` is the return value `-1`. -/
def apiDecodeCommSettings (buffer : List UInt8) : Option CommSettings :=
  if buffer.length < apiSdrSize + 1 then none
  else
    let modemBuffer := buffer.drop apiSdrSize
    (decodeModemSettings (modemBuffer.getD 0 0) (modemBuffer.drop 1)).map fun modem =>
      { sdrSettings :=
          { frequency := readU64 buffer
            sampleRate := readU64 (buffer.drop 8)
            gain := readU32 (buffer.drop 16) }
        modemSettings := modem }

/-! ## The header survives the wire -/

/-- A number is put together again from its four bytes. -/
theorem readU32_writeU32 (value : UInt32) (rest : List UInt8) :
    readU32 (writeU32 value ++ rest) = value := by
  simp only [readU32, writeU32, List.cons_append, List.nil_append, List.getD_cons_zero,
    List.getD_cons_succ]
  apply UInt32.toBitVec_inj.mp
  apply BitVec.eq_of_getLsbD_eq
  intro i hi
  simp only [UInt32.toBitVec_or, UInt32.toBitVec_shiftLeft, UInt32.toBitVec_shiftRight,
    UInt8.toBitVec_toUInt32, UInt32.toBitVec_toUInt8, UInt32.toBitVec_ofNat, BitVec.getLsbD_or,
    BitVec.getLsbD_shiftLeft, BitVec.getLsbD_setWidth, BitVec.getLsbD_ushiftRight,
    BitVec.shiftLeft_eq', BitVec.ushiftRight_eq', BitVec.reduceMod, BitVec.toNat_ofNat]
  -- exactly one of the four bytes holds bit `i`
  have hcases : i < 8 ∨ 8 ≤ i ∧ i < 16 ∨ 16 ≤ i ∧ i < 24 ∨ 24 ≤ i := by omega
  rcases hcases with h | ⟨h, h'⟩ | ⟨h, h'⟩ | h
  · simp [h, hi, show i < 16 by omega, show i < 24 by omega]
  · simp [h, hi, h', show i < 24 by omega, show ¬ i < 8 by omega, show i - 8 < 8 by omega,
      show i - 8 < 32 by omega]
  · simp [h, hi, h', show ¬ i < 8 by omega, show ¬ i < 16 by omega, show ¬ i - 8 < 8 by omega,
      show i - 16 < 8 by omega, show i - 16 < 32 by omega]
  · simp [h, hi, show ¬ i < 8 by omega, show ¬ i < 16 by omega, show ¬ i < 24 by omega,
      show ¬ i - 8 < 8 by omega, show ¬ i - 16 < 8 by omega, show i - 24 < 8 by omega,
      show i - 24 < 32 by omega]

@[simp] theorem length_apiEncodeMessageHeader (header : MessageHeader) :
    (apiEncodeMessageHeader header).length = apiHeaderSize := rfl

/-- **Decoding an encoded header gives the header back.** -/
theorem apiDecodeMessageHeader_encode (header : MessageHeader) :
    apiDecodeMessageHeader (apiEncodeMessageHeader header) = some header := by
  have hid : (apiEncodeMessageHeader header).drop 2 =
      writeU32 header.requestId ++ writeU32 header.messageLength := rfl
  have hlen : (apiEncodeMessageHeader header).drop 6 = writeU32 header.messageLength ++ [] := rfl
  rw [apiDecodeMessageHeader, if_neg (by simp), hid, hlen, readU32_writeU32, readU32_writeU32]
  rfl

end SdrModem
