import SdrModem.ConfigAdmits

/-!
# The record of a device: `sdr_device`

`malloc` does not clear the record that a driver returns, so a function pointer that the
driver does not set is whatever was in memory.  Some of the pointers are optional and are
compared with `NULL` by those who use the device: `sdr_set_rx_callback` tells them that
the device pushes samples, `sdr_process_rx` that they are to be pulled.
-/
namespace SdrModem

/-- The function pointers of `sdr_device`. -/
inductive DeviceField where
  | sdrSetRxCallback
  | sdrProcessRx
  | sdrProcessTx
  | sdrFlushTx
  | destroy
  | setRxParameters
  | setTxParameters
  | startRx
  | stopRx
deriving DecidableEq, Repr

/-- The functions of the drivers. -/
inductive DeviceFunction where
  | plutosdrProcessRx | plutosdrProcessTx | plutosdrDestroy | plutosdrSetRxParameters
  | plutosdrSetTxParameters | plutosdrStartRx | plutosdrStopRx | plutosdrFlushTx
  | sdrFileProcessRx | sdrFileProcessTx | sdrFileDestroy | sdrFileSetNoOp | sdrFileNoOp
  | airspySetRxCallback | airspyDestroy | airspySetRxParameters | airspyStartRx | airspyStopRx
deriving DecidableEq, Repr

/-- A pointer: `NULL`, a function, or an address that nobody has put there. -/
inductive FnPtr where
  | null
  | function (f : DeviceFunction)
  | garbage (address : UInt64)
deriving DecidableEq, Repr

/-- The function pointers of a record. -/
abbrev DeviceRecord : Type := DeviceField → FnPtr

/-- The end of `plutosdr_create`. -/
def plutosdrRecord (heap : DeviceRecord) : DeviceRecord
  | .sdrProcessRx => .function .plutosdrProcessRx
  | .sdrProcessTx => .function .plutosdrProcessTx
  | .destroy => .function .plutosdrDestroy
  | .setRxParameters => .function .plutosdrSetRxParameters
  | .setTxParameters => .function .plutosdrSetTxParameters
  | .startRx => .function .plutosdrStartRx
  | .stopRx => .function .plutosdrStopRx
  | .sdrFlushTx => .function .plutosdrFlushTx
  | field => heap field

/-- The end of `sdr_file_create`. -/
def sdrFileRecord (heap : DeviceRecord) : DeviceRecord
  | .sdrProcessRx => .function .sdrFileProcessRx
  | .sdrProcessTx => .function .sdrFileProcessTx
  | .destroy => .function .sdrFileDestroy
  | .setRxParameters => .function .sdrFileSetNoOp
  | .setTxParameters => .function .sdrFileSetNoOp
  | .startRx => .function .sdrFileNoOp
  | .stopRx => .function .sdrFileNoOp
  | field => heap field

/-- The end of `airspy_create`. -/
def airspyRecord (heap : DeviceRecord) : DeviceRecord
  | .sdrSetRxCallback => .function .airspySetRxCallback
  | .sdrProcessRx => .null
  | .sdrProcessTx => .null
  | .destroy => .function .airspyDestroy
  | .setRxParameters => .function .airspySetRxParameters
  | .setTxParameters => .null
  | .startRx => .function .airspyStartRx
  | .stopRx => .function .airspyStopRx
  | field => heap field

/-- `sdr_device_create`, for the devices that there are. -/
def sdrDeviceRecord (heap : DeviceRecord) : SdrDeviceType → DeviceRecord
  | .plutosdr => plutosdrRecord heap
  | .airspy => airspyRecord heap
  | .file => sdrFileRecord heap
  | .invalid | .none => heap

/-! ## Those who use a device -/

/-- `sdr_rx_worker_create` registers a callback if it can. -/
def sdrRxWorkerCreateReads : List DeviceField := [.sdrSetRxCallback]

/-- `sdr_rx_worker_callback` and the messages that it handles. -/
def sdrRxWorkerCallbackReads : List DeviceField :=
  [.sdrProcessRx, .setRxParameters, .startRx, .stopRx]

/-- `tcp_server_create`: some SDRs don't support TX. -/
def tcpServerCreateReads : List DeviceField := [.sdrProcessTx]

namespace RunMode

/-- The function pointers that a mode depends on; those of `cli_process` are written out. -/
def reads : RunMode → List DeviceField
  | server => tcpServerCreateReads ++ sdrRxWorkerCreateReads ++ sdrRxWorkerCallbackReads
  | cliRx => [.sdrSetRxCallback, .startRx, .stopRx, .sdrProcessRx]
  | cliTx => [.sdrProcessTx, .sdrFlushTx]

/-- How samples are received: whether a callback is registered, and whether samples are
pulled.  The rx worker looks at both pointers, and `cli_process` at the first only. -/
def receives (sdr : DeviceRecord) : RunMode → Bool × Bool
  | server => (sdr .sdrSetRxCallback ≠ .null, sdr .sdrProcessRx ≠ .null)
  | cliRx => (sdr .sdrSetRxCallback ≠ .null, sdr .sdrSetRxCallback = .null)
  | cliTx => (false, false)

end RunMode

/-- **A list of fields does not depend on what was in memory.** -/
def Determined (type : SdrDeviceType) (fields : List DeviceField) : Prop :=
  ∀ heap heap' : DeviceRecord, ∀ field ∈ fields,
    sdrDeviceRecord heap type field = sdrDeviceRecord heap' type field

/-- The fields that a driver sets. -/
def SdrDeviceType.sets : SdrDeviceType → List DeviceField
  | .plutosdr =>
      [.sdrProcessRx, .sdrProcessTx, .destroy, .setRxParameters, .setTxParameters, .startRx,
       .stopRx, .sdrFlushTx]
  | .file =>
      [.sdrProcessRx, .sdrProcessTx, .destroy, .setRxParameters, .setTxParameters, .startRx,
       .stopRx]
  | .airspy =>
      [.sdrSetRxCallback, .sdrProcessRx, .sdrProcessTx, .destroy, .setRxParameters,
       .setTxParameters, .startRx, .stopRx]
  | .invalid | .none => []

/-- A field is as it was found, unless the driver sets it. -/
theorem sdrDeviceRecord_unset {type : SdrDeviceType} {field : DeviceField} (h : field ∉ type.sets)
    (heap : DeviceRecord) : sdrDeviceRecord heap type field = heap field := by
  cases type <;> cases field <;> first | rfl | exact absurd (by decide) h

theorem sdrDeviceRecord_set {type : SdrDeviceType} {field : DeviceField} (h : field ∈ type.sets)
    (heap heap' : DeviceRecord) :
    sdrDeviceRecord heap type field = sdrDeviceRecord heap' type field := by
  cases type <;> cases field <;> first | rfl | exact absurd h (by decide)

theorem determined_iff {type : SdrDeviceType} {fields : List DeviceField} :
    Determined type fields ↔ ∀ field ∈ fields, field ∈ type.sets := by
  constructor
  · intro h field hfield
    by_contra hunset
    have heq := h (fun _ => .null) (fun _ => .garbage 0) field hfield
    rw [sdrDeviceRecord_unset hunset, sdrDeviceRecord_unset hunset] at heq
    cases heq
  · exact fun h heap heap' field hfield => sdrDeviceRecord_set (h field hfield) heap heap'

/-- **When nothing is left to chance.**  Of the configurations that are admitted, the function
pointers that are read are determined for an airspy, and for a plutosdr that transmits from
the command line.  Whether samples are pushed or pulled is determined for an airspy only. -/
theorem record_determined_iff {env : ConfigEnv} {args : List String} {config : ParsedConfig}
    (h : appConfigCreate env args = .ok config) :
    (Determined (config.settings .sdrType) config.mode.reads ↔
      config.settings .sdrType = .airspy ∨
        config.settings .sdrType = .plutosdr ∧ config.mode = .cliTx) ∧
    (config.mode ≠ .cliTx →
      ((∀ heap heap' : DeviceRecord,
        config.mode.receives (sdrDeviceRecord heap (config.settings .sdrType)) =
          config.mode.receives (sdrDeviceRecord heap' (config.settings .sdrType))) ↔
        config.settings .sdrType = .airspy)) := by
  have hdevice := (admitted_of_create h).device
  generalize config.settings .sdrType = type at hdevice ⊢
  generalize config.mode = mode at hdevice ⊢
  rw [determined_iff]
  constructor
  · rcases hdevice with rfl | ⟨rfl, hmode⟩ | ⟨rfl, hmode⟩
    · cases mode <;> decide
    · cases mode with
      | server => decide
      | cliRx => decide
      | cliTx => exact absurd rfl hmode
    · cases mode with
      | server => exact absurd rfl hmode
      | cliRx => decide
      | cliTx => decide
  · intro hreceives
    constructor
    · intro hsame
      rcases hdevice with rfl | ⟨rfl, -⟩ | ⟨rfl, hmode⟩
      · have heq := hsame (fun _ => .null) fun _ => .garbage 0
        cases mode with
        | server => cases heq
        | cliRx => cases heq
        | cliTx => exact absurd rfl hreceives
      · rfl
      · have heq := hsame (fun _ => .null) fun _ => .garbage 0
        cases mode with
        | server => exact absurd rfl hmode
        | cliRx => cases heq
        | cliTx => exact absurd rfl hreceives
    · rintro rfl heap heap'
      cases mode with
      | server => rfl
      | cliRx => rfl
      | cliTx => exact absurd rfl hreceives

/-- A server with an airspy. -/
def airspyOptions : List (Setting × String) :=
  [(.bindAddress, "127.0.0.1"), (.sdrType, "airspy"), (.maxFrameSize, "2048")]

theorem record_determined_airspy :
    ∃ config, appConfigCreate queueEnv (optionArgs airspyOptions) = .ok config ∧
      config.settings .sdrType = .airspy ∧
      Determined (config.settings .sdrType) config.mode.reads := by
  have htype : (appConfigCreate queueEnv (optionArgs airspyOptions)).map
      (fun config => config.settings .sdrType) = .ok .airspy := by decide
  obtain ⟨config, hconfig, hairspy⟩ := map_ok.mp htype
  exact ⟨config, hconfig, hairspy, (record_determined_iff hconfig).1.mpr (Or.inl hairspy)⟩

/-- A server with a plutosdr: what was in memory decides whether a callback is
registered. -/
theorem plutosdr_callback_by_chance :
    (appConfigCreate queueEnv (optionArgs (serverOptions "8093"))).map
      (fun config => (config.mode, config.settings .sdrType)) = .ok (.server, .plutosdr) ∧
    .sdrSetRxCallback ∈ RunMode.server.reads ∧
    sdrDeviceRecord (fun _ => .null) .plutosdr .sdrSetRxCallback ≠
      sdrDeviceRecord (fun _ => .garbage 0xdeadbeef) .plutosdr .sdrSetRxCallback ∧
    RunMode.server.receives (sdrDeviceRecord (fun _ => .null) .plutosdr) = (false, true) ∧
    RunMode.server.receives (sdrDeviceRecord (fun _ => .garbage 0xdeadbeef) .plutosdr) =
      (true, true) := by
  decide

end SdrModem
