import SdrModem.Libc
import SdrModem.Plutosdr
import SdrModem.Airspy
import SdrModem.ApiSettings

/-!
# The configuration: `app_config.c`

The settings come from a file and from the command line.  `app_config_create` scans the
command line for the path of the file, loads the file, scans the command line again and
lets every option overwrite the setting of its name, and then checks the result and fills
in what is missing.

Everything that can be set is a `Setting`, and `app_config` is a value for each of them
(with three more fields that are derived from them).  What `libconfig` makes of a setting in
the file is given by the results of its getters, and a float is carried as its bits; that
memory runs out is left out.
-/
namespace SdrModem
open Libc

/-! ## The settings -/

/-- The options of the command line, in the order of `long_options`. -/
inductive Setting where
  | bindAddress | logLevel | port | sdrBufferLen | readTimeoutSeconds | queueSize | maxFrameSize
  | direction | sdrType | plutosdrGainControlMode | plutosdrTxPowerdown | plutosdrTimeoutMs
  | plutosdrUri | plutosdrCalibMode | airspyGainMode | airspyLnaGain | airspyMixerGain
  | airspyVgaGain | airspyBiasTee | airspySerial | rxFile | rxFileFormat | txFile | txFileFormat
  | config | input | output | modem | syncword | frequency | sampleRate | gain | power
  | gfskBaudRate | gfskDeviation | gfskBandwidth | gfskBt | gfskUseDcBlock | pskBaudRate
  | pskRrcBeta | pskRrcDelay | pskCostasBandwidth | pskSymsyncFilterBankSize | pskBandwidth
  | pskPmBaudRate | pskPmRrcBeta | pskPmRrcDelay | pskPmCostasBandwidth
  | pskPmSymsyncFilterBankSize | pskPmSubcarrierFrequency | pskPmModulationIndex
  | pskPmCarrierPllBandwidth | pskPmSubcarrierBandwidth | freqOffsetFile | debugFreqOffsetFile
  | debugConstellationFile | debugBasebandFile | debugSubcarrierFile
deriving DecidableEq, Repr

/-- `sdr_device_type`. -/
inductive SdrDeviceType where
  | invalid
  | none
  | plutosdr
  | file
  | airspy
deriving DecidableEq, Repr

/-- `direction`: 0, -1, `DIRECTION_RX` and `DIRECTION_TX`. -/
inductive Direction where
  | none
  | invalid
  | rx
  | tx
deriving DecidableEq, Repr

/-- The levels of the log. -/
inductive LogLevel where
  | error
  | warn
  | info
  | debug
deriving DecidableEq, Repr

/-- `sdr_file_format`. -/
inductive SdrFileFormat where
  | invalid
  | guess
  | cu8
  | cf32
  | cs16
deriving DecidableEq, Repr

/-- The types of the fields. -/
inductive SettingKind where
  | string
  | unit
  | uint8
  | uint16
  | uint32
  | uint64
  | int32
  | int64
  | float
  | bool
  | logLevel
  | direction
  | sdrType
  | iioGainMode
  | airspyGainMode
  | fileFormat
  | modem
  | syncword
deriving DecidableEq, Repr

namespace SettingKind

/-- A string can be `NULL`, and a log level 0; the syncword comes with its number of
bits. -/
abbrev Value : SettingKind → Type
  | string => Option String
  | unit => Unit
  | uint8 => UInt8
  | uint16 => UInt16
  | uint32 => UInt32
  | uint64 => UInt64
  | int32 => Int32
  | int64 => Int64
  | float => UInt32
  | bool => Bool
  | logLevel => Option LogLevel
  | direction => Direction
  | sdrType => SdrDeviceType
  | iioGainMode => IioGainMode
  | airspyGainMode => AirspyGainMode
  | fileFormat => SdrFileFormat
  | modem => Option SdrModemType
  | syncword => UInt64 × UInt32

/-- What `*result = (app_config){0}` leaves in a field. -/
def zero : (k : SettingKind) → k.Value
  | string => none
  | unit => ()
  | uint8 => 0
  | uint16 => 0
  | uint32 => 0
  | uint64 => 0
  | int32 => 0
  | int64 => 0
  | float => 0
  | bool => false
  | logLevel => none
  | direction => .none
  | sdrType => .none
  | iioGainMode => .manual
  | airspyGainMode => .auto
  | fileFormat => .guess
  | modem => none
  | syncword => (0, 0)

/-- A value that a default replaces, where there is one: 0, which a float can be with
either sign, and a string that is empty or missing. -/
def isUnset : (k : SettingKind) → k.Value → Bool
  | string, v => v = none || v = some ""
  | uint8, v => v = 0
  | uint16, v => v = 0
  | uint32, v => v = 0
  | int32, v => v = 0
  | float, v => v = 0 || v = 0x80000000
  | logLevel, v => v = none
  | fileFormat, v => v = .guess
  -- the others have no default
  | _, _ => false

end SettingKind

namespace Setting

/-- The name of an option, which is that of the setting in the file. -/
def name : Setting → String
  | bindAddress => "bind_address"
  | logLevel => "log_level"
  | port => "port"
  | sdrBufferLen => "sdr_buffer_len"
  | readTimeoutSeconds => "read_timeout_seconds"
  | queueSize => "queue_size"
  | maxFrameSize => "max_frame_size"
  | direction => "direction"
  | sdrType => "sdr_type"
  | plutosdrGainControlMode => "plutosdr_gain_control_mode"
  | plutosdrTxPowerdown => "plutosdr_tx_powerdown"
  | plutosdrTimeoutMs => "plutosdr_timeout_ms"
  | plutosdrUri => "plutosdr_uri"
  | plutosdrCalibMode => "plutosdr_calib_mode"
  | airspyGainMode => "airspy_gain_mode"
  | airspyLnaGain => "airspy_lna_gain"
  | airspyMixerGain => "airspy_mixer_gain"
  | airspyVgaGain => "airspy_vga_gain"
  | airspyBiasTee => "airspy_bias_tee"
  | airspySerial => "airspy_serial"
  | rxFile => "rx_file"
  | rxFileFormat => "rx_file_format"
  | txFile => "tx_file"
  | txFileFormat => "tx_file_format"
  | config => "config"
  | input => "input"
  | output => "output"
  | modem => "modem"
  | syncword => "syncword"
  | frequency => "frequency"
  | sampleRate => "sample_rate"
  | gain => "gain"
  | power => "power"
  | gfskBaudRate => "gfsk_baud_rate"
  | gfskDeviation => "gfsk_deviation"
  | gfskBandwidth => "gfsk_bandwidth"
  | gfskBt => "gfsk_bt"
  | gfskUseDcBlock => "gfsk_use_dc_block"
  | pskBaudRate => "psk_baud_rate"
  | pskRrcBeta => "psk_rrc_beta"
  | pskRrcDelay => "psk_rrc_delay"
  | pskCostasBandwidth => "psk_costas_bandwidth"
  | pskSymsyncFilterBankSize => "psk_symsync_filter_bank_size"
  | pskBandwidth => "psk_bandwidth"
  | pskPmBaudRate => "psk_pm_baud_rate"
  | pskPmRrcBeta => "psk_pm_rrc_beta"
  | pskPmRrcDelay => "psk_pm_rrc_delay"
  | pskPmCostasBandwidth => "psk_pm_costas_bandwidth"
  | pskPmSymsyncFilterBankSize => "psk_pm_symsync_filter_bank_size"
  | pskPmSubcarrierFrequency => "psk_pm_subcarrier_frequency"
  | pskPmModulationIndex => "psk_pm_modulation_index"
  | pskPmCarrierPllBandwidth => "psk_pm_carrier_pll_bandwidth"
  | pskPmSubcarrierBandwidth => "psk_pm_subcarrier_bandwidth"
  | freqOffsetFile => "freq_offset_file"
  | debugFreqOffsetFile => "debug_freq_offset_file"
  | debugConstellationFile => "debug_constellation_file"
  | debugBasebandFile => "debug_baseband_file"
  | debugSubcarrierFile => "debug_subcarrier_file"

/-- The type of its field. -/
abbrev kind : Setting → SettingKind
  | bindAddress | plutosdrUri | plutosdrCalibMode | rxFile | txFile | input | output
  | freqOffsetFile | debugFreqOffsetFile | debugConstellationFile | debugBasebandFile
  | debugSubcarrierFile => .string
  | config => .unit
  | airspyLnaGain | airspyMixerGain | airspyVgaGain | pskRrcDelay | pskSymsyncFilterBankSize
  | pskPmRrcDelay | pskPmSymsyncFilterBankSize => .uint8
  | port | queueSize => .uint16
  | sdrBufferLen | maxFrameSize | plutosdrTimeoutMs | gfskBaudRate | gfskBandwidth | pskBaudRate
  | pskBandwidth | pskPmBaudRate | pskPmSubcarrierFrequency | pskPmSubcarrierBandwidth => .uint32
  | airspySerial | frequency | sampleRate => .uint64
  | readTimeoutSeconds => .int32
  | gfskDeviation => .int64
  | gain | power | gfskBt | pskRrcBeta | pskCostasBandwidth | pskPmRrcBeta | pskPmCostasBandwidth
  | pskPmModulationIndex | pskPmCarrierPllBandwidth => .float
  | plutosdrTxPowerdown | airspyBiasTee | gfskUseDcBlock => .bool
  | logLevel => .logLevel
  | direction => .direction
  | sdrType => .sdrType
  | plutosdrGainControlMode => .iioGainMode
  | airspyGainMode => .airspyGainMode
  | rxFileFormat | txFileFormat => .fileFormat
  | modem => .modem
  | syncword => .syncword

/-- The type of the field. -/
abbrev Value (s : Setting) : Type := s.kind.Value

/-- `long_options` of `app_config_load_from_cli`. -/
def all : List Setting :=
  [.bindAddress, .logLevel, .port, .sdrBufferLen, .readTimeoutSeconds, .queueSize, .maxFrameSize,
   .direction, .sdrType, .plutosdrGainControlMode, .plutosdrTxPowerdown, .plutosdrTimeoutMs,
   .plutosdrUri, .plutosdrCalibMode, .airspyGainMode, .airspyLnaGain, .airspyMixerGain,
   .airspyVgaGain, .airspyBiasTee, .airspySerial, .rxFile, .rxFileFormat, .txFile, .txFileFormat,
   .config, .input, .output, .modem, .syncword, .frequency, .sampleRate, .gain, .power,
   .gfskBaudRate, .gfskDeviation, .gfskBandwidth, .gfskBt, .gfskUseDcBlock, .pskBaudRate,
   .pskRrcBeta, .pskRrcDelay, .pskCostasBandwidth, .pskSymsyncFilterBankSize, .pskBandwidth,
   .pskPmBaudRate, .pskPmRrcBeta, .pskPmRrcDelay, .pskPmCostasBandwidth,
   .pskPmSymsyncFilterBankSize, .pskPmSubcarrierFrequency, .pskPmModulationIndex,
   .pskPmCarrierPllBandwidth, .pskPmSubcarrierBandwidth, .freqOffsetFile, .debugFreqOffsetFile,
   .debugConstellationFile, .debugBasebandFile, .debugSubcarrierFile]

/-- The settings of one kind of device. -/
def backend : Setting → Option SdrDeviceType
  | plutosdrGainControlMode | plutosdrTxPowerdown | plutosdrTimeoutMs | plutosdrUri
  | plutosdrCalibMode => some .plutosdr
  | airspyGainMode | airspyLnaGain | airspyMixerGain | airspyVgaGain | airspyBiasTee
  | airspySerial => some .airspy
  | _ => none

end Setting

/-! ## Values from strings -/

/-- `-EINVAL`. -/
def einval : Int := -22

/-- `app_config_convert_sdr_type`. -/
def appConfigConvertSdrType (type : String) : SdrDeviceType :=
  if type = "plutosdr" then .plutosdr
  else if type = "file" then .file
  else if type = "airspy" then .airspy
  else .invalid

/-- `app_config_parse_gain_mode`. -/
def appConfigParseGainMode (str : String) : Except Int IioGainMode :=
  if str = "manual" then .ok .manual
  else if str = "fast_attack" then .ok .fastAttack
  else if str = "slow_attack" then .ok .slowAttack
  else if str = "hybrid" then .ok .hybrid
  else .error (-1)

/-- `app_config_parse_airspy_gain_mode`. -/
def appConfigParseAirspyGainMode (str : String) : Except Int AirspyGainMode :=
  if str = "auto" then .ok .auto
  else if str = "sensitivity" then .ok .sensitivity
  else if str = "linearity" then .ok .linearity
  else if str = "manual" then .ok .manual
  else .error (-1)

/-- `app_config_parse_airspy_number`: the whole string is a number, and it is in range. -/
def appConfigParseAirspyNumber (str : String) (max : UInt64) : Except Int UInt64 :=
  match readNumber 0 str.toList with
  | none => .error (-1)
  | some n =>
    if str.toList.head? = some '-' || n.rest ≠ [] || 2 ^ 64 ≤ n.magnitude || max < n.toUnsigned then
      .error (-1)
    else .ok n.toUnsigned

/-- `app_config_parse_airspy_gain`. -/
def appConfigParseAirspyGain (str : String) (max : UInt8) : Except Int UInt8 :=
  (appConfigParseAirspyNumber str max.toUInt64).map UInt64.toUInt8

/-- `AIRSPY_MAX_LNA_GAIN`. -/
def airspyMaxLnaGain : UInt8 := 14

/-- `AIRSPY_MAX_MIXER_GAIN`. -/
def airspyMaxMixerGain : UInt8 := 15

/-- `AIRSPY_MAX_VGA_GAIN`. -/
def airspyMaxVgaGain : UInt8 := 15

/-- `app_config_convert_file_format`. -/
def appConfigConvertFileFormat (format : String) : SdrFileFormat :=
  if format = "cu8" then .cu8
  else if format = "cf32" then .cf32
  else if format = "cs16" then .cs16
  else .invalid

/-- `app_config_guess_file_format`, of a name that is not `NULL`. -/
def appConfigGuessFileFormat (filename : String) : SdrFileFormat :=
  let name := filename.toList
  let name :=
    if 3 < name.length && ".gz".toList.isSuffixOf name then name.take (name.length - 3) else name
  if 5 < name.length && ".cf32".toList.isSuffixOf name then .cf32
  else if 4 < name.length && ".cu8".toList.isSuffixOf name then .cu8
  else if 5 < name.length && ".cs16".toList.isSuffixOf name then .cs16
  else .invalid

example : appConfigGuessFileFormat "in.cf32.gz" = .cf32 ∧
    appConfigGuessFileFormat ".cu8" = .invalid := by
  decide

/-- `app_config_convert_modem_type`. -/
def appConfigConvertModemType (type : String) : Option SdrModemType :=
  if type = "gfsk" then some .gfsk
  else if type = "bpsk" then some .bpsk
  else if type = "dpsk" then some .dpsk
  else if type = "sdpsk" then some .sdpsk
  else if type = "psk_pm" then some .pskPm
  else none

/-- `app_config_hex_to_nibble`. -/
def appConfigHexToNibble (c : Char) : Option UInt64 :=
  if isDigit 16 c then (digitValue c).map UInt64.ofNat else none

/-- `app_config_parse_syncword`: the word, msb first, and its number of bits. -/
def appConfigParseSyncword (hex : String) : Except Int (UInt64 × UInt32) :=
  let digits := hex.toList
  let digits :=
    if "0x".toList.isPrefixOf digits || "0X".toList.isPrefixOf digits then digits.drop 2 else digits
  if digits.length = 0 || 16 < digits.length then .error einval
  else
    match digits.mapM appConfigHexToNibble with
    | none => .error einval
    | some nibbles =>
      .ok (nibbles.foldl (fun word nibble => word <<< 4 ||| nibble) 0,
        UInt32.ofNat (digits.length * 4))

example : appConfigParseSyncword "0xaa7" = .ok (0xaa7, 12) := by decide

/-- `app_config_convert_direction`. -/
def appConfigConvertDirection (direction : String) : Direction :=
  if direction = "rx" then .rx else if direction = "tx" then .tx else .invalid

/-- `log_parse_level`. -/
def logParseLevel (name : String) : Except Int (Option LogLevel) :=
  if name = "error" then .ok (some .error)
  else if name = "warn" then .ok (some .warn)
  else if name = "info" then .ok (some .info)
  else if name = "debug" then .ok (some .debug)
  else .error (-1)

/-- The casts of an `int` to the type of a field. -/
def castUInt8 (v : Int32) : UInt8 := UInt8.ofInt v.toInt
def castUInt16 (v : Int32) : UInt16 := UInt16.ofInt v.toInt
def castUInt32 (v : Int32) : UInt32 := UInt32.ofInt v.toInt

/-- The cases of `app_config_load_from_cli`: the value of an option, or the code that is
returned.  `atof` is `(float) atof`. -/
def Setting.parse (atof : String → UInt32) (optarg : String) : (s : Setting) → Except Int s.Value
  | .logLevel => logParseLevel optarg
  | .bindAddress => .ok (some optarg)
  | .port => .ok (castUInt16 (atoi optarg))
  | .sdrBufferLen => .ok (castUInt32 (atoi optarg))
  | .readTimeoutSeconds => .ok (atoi optarg)
  | .queueSize => .ok (castUInt16 (atoi optarg))
  | .maxFrameSize => .ok (strtoull optarg).toUInt32
  | .direction => .ok (appConfigConvertDirection optarg)
  | .sdrType => .ok (appConfigConvertSdrType optarg)
  | .plutosdrGainControlMode => appConfigParseGainMode optarg
  | .plutosdrTxPowerdown => .ok (optarg = "true" || optarg = "1")
  | .plutosdrTimeoutMs => .ok (castUInt32 (atoi optarg))
  | .plutosdrUri => .ok (some optarg)
  | .plutosdrCalibMode => .ok (some optarg)
  | .airspyGainMode => appConfigParseAirspyGainMode optarg
  | .airspyLnaGain => appConfigParseAirspyGain optarg airspyMaxLnaGain
  | .airspyMixerGain => appConfigParseAirspyGain optarg airspyMaxMixerGain
  | .airspyVgaGain => appConfigParseAirspyGain optarg airspyMaxVgaGain
  | .airspyBiasTee => .ok (optarg = "true" || optarg = "1")
  | .airspySerial => appConfigParseAirspyNumber optarg (UInt64.ofNat (2 ^ 64 - 1))
  | .rxFile => .ok (some optarg)
  | .rxFileFormat => .ok (appConfigConvertFileFormat optarg)
  | .txFile => .ok (some optarg)
  | .txFileFormat => .ok (appConfigConvertFileFormat optarg)
  | .input => .ok (some optarg)
  | .output => .ok (some optarg)
  | .modem => .ok (appConfigConvertModemType optarg)
  | .syncword => appConfigParseSyncword optarg
  | .frequency => .ok (strtoull optarg)
  | .sampleRate => .ok (strtoull optarg)
  | .gain => .ok (atof optarg)
  | .power => .ok (atof optarg)
  | .gfskBaudRate => .ok (castUInt32 (atoi optarg))
  | .gfskDeviation => .ok (strtoll optarg)
  | .gfskBandwidth => .ok (castUInt32 (atoi optarg))
  | .gfskBt => .ok (atof optarg)
  | .gfskUseDcBlock => .ok (optarg = "true" || optarg = "1")
  | .pskBaudRate => .ok (castUInt32 (atoi optarg))
  | .pskRrcBeta => .ok (atof optarg)
  | .pskRrcDelay => .ok (castUInt8 (atoi optarg))
  | .pskCostasBandwidth => .ok (atof optarg)
  | .pskSymsyncFilterBankSize => .ok (castUInt8 (atoi optarg))
  | .pskBandwidth => .ok (castUInt32 (atoi optarg))
  | .pskPmBaudRate => .ok (castUInt32 (atoi optarg))
  | .pskPmRrcBeta => .ok (atof optarg)
  | .pskPmRrcDelay => .ok (castUInt8 (atoi optarg))
  | .pskPmCostasBandwidth => .ok (atof optarg)
  | .pskPmSymsyncFilterBankSize => .ok (castUInt8 (atoi optarg))
  | .pskPmSubcarrierFrequency => .ok (castUInt32 (atoi optarg))
  | .pskPmModulationIndex => .ok (atof optarg)
  | .pskPmCarrierPllBandwidth => .ok (atof optarg)
  | .pskPmSubcarrierBandwidth => .ok (castUInt32 (atoi optarg))
  | .freqOffsetFile => .ok (some optarg)
  | .debugFreqOffsetFile => .ok (some optarg)
  | .debugConstellationFile => .ok (some optarg)
  | .debugBasebandFile => .ok (some optarg)
  | .debugSubcarrierFile => .ok (some optarg)
  -- handled by `app_config_create`
  | .config => .ok ()

/-! ## The file -/

/-- A setting of the file: the results of `config_setting_get_int`, of its siblings and of
`config_setting_get_string`, which is `NULL` if the setting is no string. -/
structure FileValue where
  int : Int32
  int64 : Int64
  /-- as a `float` -/
  float : UInt32
  bool : Bool
  string : Option String
deriving DecidableEq, Repr

/-- The settings that `config_lookup` finds. -/
abbrev ConfigFile : Type := Setting → Option FileValue

/-- The ways to fail: with a code, or by passing `NULL` to `strcmp` or to `strdup`. -/
inductive ConfigFailure where
  | code (c : Int)
  | crash
deriving DecidableEq, Repr

/-- A string that is used without a check. -/
def FileValue.getString (v : FileValue) : Except ConfigFailure String :=
  match v.string with
  | none => .error .crash
  | some s => .ok s

/-- What a string of the file is converted to. -/
def FileValue.parseString {α : Type} (v : FileValue) (parse : String → Except Int α) :
    Except ConfigFailure α :=
  v.getString.bind fun s => (parse s).mapError ConfigFailure.code

/-- `app_config_load_airspy_gain_from_file`, where the setting is there. -/
def appConfigLoadAirspyGainFromFile (v : FileValue) (max : UInt8) : Except ConfigFailure UInt8 :=
  if v.int < 0 ∨ max.toNat < v.int.toInt then .error (.code (-1)) else .ok (castUInt8 v.int)

/-- What `app_config_load_from_file` and the functions that it calls make of a setting. -/
def Setting.load (v : FileValue) : (s : Setting) → Except ConfigFailure s.Value
  | .sdrBufferLen => .ok (castUInt32 v.int)
  | .bindAddress => v.getString.map some
  | .logLevel => v.parseString logParseLevel
  | .port => .ok (castUInt16 v.int)
  | .readTimeoutSeconds => .ok v.int
  | .queueSize => .ok (castUInt16 v.int)
  | .maxFrameSize => .ok (castUInt32 v.int)
  | .direction => v.getString.map appConfigConvertDirection
  | .sdrType => v.getString.map appConfigConvertSdrType
  | .plutosdrGainControlMode => v.parseString appConfigParseGainMode
  | .plutosdrTxPowerdown => .ok v.bool
  | .plutosdrTimeoutMs => .ok (castUInt32 v.int)
  | .plutosdrUri => v.getString.map some
  | .plutosdrCalibMode => v.getString.map some
  | .airspyGainMode => v.parseString appConfigParseAirspyGainMode
  | .airspyLnaGain => appConfigLoadAirspyGainFromFile v airspyMaxLnaGain
  | .airspyMixerGain => appConfigLoadAirspyGainFromFile v airspyMaxMixerGain
  | .airspyVgaGain => appConfigLoadAirspyGainFromFile v airspyMaxVgaGain
  | .airspyBiasTee => .ok v.bool
  -- serial numbers are 64-bit, thus are specified as strings
  | .airspySerial =>
      v.parseString fun str => appConfigParseAirspyNumber str (UInt64.ofNat (2 ^ 64 - 1))
  | .rxFile => v.getString.map some
  | .rxFileFormat => v.getString.map appConfigConvertFileFormat
  | .txFile => v.getString.map some
  | .txFileFormat => v.getString.map appConfigConvertFileFormat
  | .modem => v.getString.map appConfigConvertModemType
  | .frequency => .ok v.int64.toUInt64
  | .sampleRate => .ok v.int64.toUInt64
  | .gain => .ok v.float
  | .gfskBaudRate => .ok (castUInt32 v.int)
  | .gfskDeviation => .ok v.int64
  | .gfskBandwidth => .ok (castUInt32 v.int)
  | .gfskBt => .ok v.float
  | .gfskUseDcBlock => .ok v.bool
  | .pskBaudRate => .ok (castUInt32 v.int)
  | .pskRrcBeta => .ok v.float
  | .pskRrcDelay => .ok (castUInt8 v.int)
  | .pskCostasBandwidth => .ok v.float
  | .pskSymsyncFilterBankSize => .ok (castUInt8 v.int)
  | .pskBandwidth => .ok (castUInt32 v.int)
  | .pskPmBaudRate => .ok (castUInt32 v.int)
  | .pskPmRrcBeta => .ok v.float
  | .pskPmRrcDelay => .ok (castUInt8 v.int)
  | .pskPmCostasBandwidth => .ok v.float
  | .pskPmSymsyncFilterBankSize => .ok (castUInt8 v.int)
  | .pskPmSubcarrierFrequency => .ok (castUInt32 v.int)
  | .pskPmModulationIndex => .ok v.float
  | .pskPmCarrierPllBandwidth => .ok v.float
  | .pskPmSubcarrierBandwidth => .ok (castUInt32 v.int)
  | .syncword => v.parseString appConfigParseSyncword
  | .debugConstellationFile => v.getString.map some
  | .debugBasebandFile => v.getString.map some
  | .debugSubcarrierFile => v.getString.map some
  -- the others are not looked up
  | s => .ok s.kind.zero

/-- The settings that are looked up before the type of the device is known, and the type. -/
def Setting.fileHead : List Setting :=
  [.sdrBufferLen, .bindAddress, .logLevel, .port, .readTimeoutSeconds, .queueSize, .maxFrameSize,
   .direction, .sdrType]

/-- Those that are looked up behind it, and only for their device if they belong to one. -/
def Setting.fileTail : List Setting :=
  [.plutosdrGainControlMode, .plutosdrTxPowerdown, .plutosdrTimeoutMs, .plutosdrUri,
   .plutosdrCalibMode, .airspyGainMode, .airspyLnaGain, .airspyMixerGain, .airspyVgaGain,
   .airspyBiasTee, .airspySerial, .rxFile, .rxFileFormat, .txFile, .txFileFormat, .modem,
   .frequency, .sampleRate, .gain, .gfskBaudRate, .gfskDeviation, .gfskBandwidth, .gfskBt,
   .gfskUseDcBlock, .pskBaudRate, .pskRrcBeta, .pskRrcDelay, .pskCostasBandwidth,
   .pskSymsyncFilterBankSize, .pskBandwidth, .pskPmBaudRate, .pskPmRrcBeta, .pskPmRrcDelay,
   .pskPmCostasBandwidth, .pskPmSymsyncFilterBankSize, .pskPmSubcarrierFrequency,
   .pskPmModulationIndex, .pskPmCarrierPllBandwidth, .pskPmSubcarrierBandwidth, .syncword,
   .debugConstellationFile, .debugBasebandFile, .debugSubcarrierFile]

/-- The fields of `app_config` that a setting is kept in. -/
abbrev AppSettings : Type := (s : Setting) → s.Value

namespace AppSettings

/-- `*result = (app_config){0}`. -/
def zero : AppSettings := fun s => s.kind.zero

def set (c : AppSettings) (s : Setting) (v : s.Value) : AppSettings := Function.update c s v

/-- One setting is looked up and, if it is there, stored.  The settings of a device are
skipped if it is not the device that is set by now. -/
def loadSetting (file : ConfigFile) (c : AppSettings) (s : Setting) :
    Except ConfigFailure AppSettings :=
  if s.backend.all (· = c .sdrType) then
    match file s with
    | none => .ok c
    | some v => (s.load v).map (c.set s)
  else .ok c

/-- `app_config_load_from_file`, when the file could be read. -/
def loadFromFile (file : ConfigFile) (c : AppSettings) : Except ConfigFailure AppSettings :=
  (Setting.fileHead ++ Setting.fileTail).foldlM (loadSetting file) c

/-- One result of `getopt_long` in `app_config_load_from_cli`. -/
def loadOption (atof : String → UInt32) (c : AppSettings) :
    Option (Setting × String) → Except ConfigFailure AppSettings
  | none => .ok c
  | some (s, optarg) => ((s.parse atof optarg).mapError ConfigFailure.code).map (c.set s)

/-- `long_options` of `app_config_load_from_cli`. -/
def cliOptions : Options Setting := ⟨Setting.all.map fun s => (s.name, s), []⟩

/-- `app_config_load_from_cli`; the arguments are those behind `argv[0]`. -/
def loadFromCli (atof : String → UInt32) (args : List String) (c : AppSettings) :
    Except ConfigFailure AppSettings :=
  (cliOptions.scan args).foldlM (loadOption atof) c

/-! ## The checks -/

/-- A default. -/
def orDefault (c : AppSettings) (s : Setting) (v : s.Value) : AppSettings :=
  if s.kind.isUnset (c s) then c.set s v else c

/-- Defaults, one after the other. -/
def setDefaults (l : List ((s : Setting) × s.Value)) (c : AppSettings) : AppSettings :=
  l.foldl (fun c e => c.orDefault e.1 e.2) c

/-- `return -1` of the checks. -/
def rejected {α : Type} : Except ConfigFailure α := .error (.code (-1))

/-- The head of `app_config_validate_and_log`: what every device needs. -/
def validateCommon (c : AppSettings) : Except ConfigFailure AppSettings :=
  let c := setDefaults
    [⟨.logLevel, some .info⟩, ⟨.sdrBufferLen, (262144 : UInt32)⟩, ⟨.port, (8091 : UInt16)⟩] c
  if c .readTimeoutSeconds < 0 then rejected
  else
    let c := setDefaults [⟨.readTimeoutSeconds, (5 : Int32)⟩, ⟨.queueSize, (64 : UInt16)⟩] c
    -- without a bind address the direction is required
    if c .bindAddress = none ∧ (c .direction = .invalid ∨ c .direction = .none) then rejected
    else if (c .bindAddress ≠ none ∨ c .direction = .tx) ∧ c .maxFrameSize = 0 then rejected
    else .ok c

/-- `app_config_validate_file`: the format, guessed if it is not set. -/
def validateFile (file : Option String) (format : SdrFileFormat) :
    Except ConfigFailure SdrFileFormat :=
  match file with
  | none => .ok format
  | some name =>
    let format := if format = .guess then appConfigGuessFileFormat name else format
    if format = .invalid then rejected else .ok format

/-- The middle of `app_config_validate_and_log`: what the device needs. -/
def validateDevice (c : AppSettings) : Except ConfigFailure AppSettings :=
  match c .sdrType with
  | .plutosdr =>
      -- an empty uri means that the first available context will be used
      .ok (setDefaults [⟨.plutosdrTimeoutMs, (1000 : UInt32)⟩, ⟨.plutosdrUri, none⟩,
        ⟨.plutosdrCalibMode, some "manual_tx_quad"⟩] c)
  | .airspy => if c .bindAddress = none ∧ c .direction = .tx then rejected else .ok c
  | .file =>
      if c .bindAddress ≠ none then rejected
      else if c .direction = .rx ∧ c .rxFile = none then rejected
      else if c .direction = .tx ∧ c .txFile = none then rejected
      else
        (validateFile (c .rxFile) (c .rxFileFormat)).bind fun rxFileFormat =>
        (validateFile (c .txFile) (c .txFileFormat)).bind fun txFileFormat =>
        .ok ((c.set .rxFileFormat rxFileFormat).set .txFileFormat txFileFormat)
  | .invalid | .none => rejected

/-- `app_config_apply_psk_defaults`; the floats are 0.35 and 0.01. -/
def applyPskDefaults (c : AppSettings) : AppSettings :=
  setDefaults [⟨.pskSymsyncFilterBankSize, (32 : UInt8)⟩, ⟨.pskRrcDelay, (5 : UInt8)⟩,
    ⟨.pskRrcBeta, (0x3eb33333 : UInt32)⟩, ⟨.pskCostasBandwidth, (0x3c23d70a : UInt32)⟩] c

/-- `app_config_apply_psk_pm_defaults`; the floats are 0.35, 0.005 and 0.0001. -/
def applyPskPmDefaults (c : AppSettings) : AppSettings :=
  setDefaults [⟨.pskPmSymsyncFilterBankSize, (32 : UInt8)⟩, ⟨.pskPmRrcDelay, (5 : UInt8)⟩,
    ⟨.pskPmRrcBeta, (0x3eb33333 : UInt32)⟩, ⟨.pskPmCostasBandwidth, (0x3ba3d70a : UInt32)⟩,
    ⟨.pskPmCarrierPllBandwidth, (0x38d1b717 : UInt32)⟩] c

/-- The end of `app_config_validate_and_log`: the files of the cli mode and the modem. -/
def validateModem (c : AppSettings) : Except ConfigFailure AppSettings :=
  if c .bindAddress = none ∧ c .direction = .rx ∧ c .output = none then rejected
  else if c .bindAddress = none ∧ c .direction = .tx ∧ c .input = none then rejected
  else if c .bindAddress = none ∧ c .modem = none then rejected
  else .ok c.applyPskDefaults.applyPskPmDefaults

end AppSettings

/-- `struct app_config_t`: the settings, and the fields that are derived from them. -/
structure ParsedConfig where
  settings : AppSettings
  /-- `plutosdr.sample_rate` -/
  plutosdrSampleRate : UInt64
  /-- `airspy.sample_rate` -/
  airspySampleRate : UInt64
  /-- `psk.type` -/
  pskType : PskModemType

/-- `app_config_validate_and_log`. -/
def appConfigValidateAndLog (c : AppSettings) : Except ConfigFailure ParsedConfig :=
  c.validateCommon.bind fun c =>
  c.validateDevice.bind fun c =>
  c.validateModem.bind fun c =>
  .ok {
    settings := c
    plutosdrSampleRate := if c .sdrType = .plutosdr then c .sampleRate else 0
    airspySampleRate := if c .sdrType = .airspy then c .sampleRate else 0
    pskType :=
      match c .modem with
      | some .dpsk => .dpsk
      | some .sdpsk => .sdpsk
      | _ => .bpsk }

/-! ## All together -/

/-- What the program meets outside. -/
structure ConfigEnv where
  /-- `(float) atof` -/
  atof : String → UInt32
  /-- `config_read_file`: the settings of the file at a path, if it can be read -/
  readFile : String → Option ConfigFile
  /-- `iio_lib_create` and `airspy_lib_create` find their library -/
  libLoads : SdrDeviceType → Bool

/-- `long_options` and `"+c:"` of `app_config_create`. -/
def configOptions : Options Unit := ⟨[("config", ())], [('c', ())]⟩

/-- `config_path` after the first scan: that of the last option. -/
def configPath (args : List String) : Option String :=
  ((configOptions.scan args).filterMap id).getLast?.map Prod.snd

/-- The settings before the second scan. -/
def appConfigLoad : Option ConfigFile → Except ConfigFailure AppSettings
  | none => .ok AppSettings.zero
  | some file => AppSettings.zero.loadFromFile file

/-- `app_config_create` with the settings of the file, if there is a path. -/
def appConfigCreateFrom (env : ConfigEnv) (file : Option ConfigFile) (args : List String) :
    Except ConfigFailure ParsedConfig :=
  (appConfigLoad file).bind fun c =>
  (c.loadFromCli env.atof args).bind fun c =>
  (appConfigValidateAndLog c).bind fun config =>
  if (config.settings .sdrType = .plutosdr ∨ config.settings .sdrType = .airspy) ∧
      env.libLoads (config.settings .sdrType) = false then .error (.code (-1))
  else .ok config

/-- `app_config_create`; the arguments are those behind `argv[0]`. -/
def appConfigCreate (env : ConfigEnv) (args : List String) : Except ConfigFailure ParsedConfig :=
  match configPath args with
  | none => appConfigCreateFrom env none args
  | some path =>
    match env.readFile path with
    | none => .error (.code (-1))
    | some file => appConfigCreateFrom env (some file) args

end SdrModem
