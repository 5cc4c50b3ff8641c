import SdrModem.Lifecycle
import SdrModem.Config

/-!
# What a device is made of

The devices: `plutosdr_create`, `airspy_create`, `sdr_file_create` and their `destroy` functions.
What libiio and libairspy hand out is `hardware`.  A check that fails, and a call of a library that
fails and hands out nothing, is a refused request like any other.
-/
namespace SdrModem
open Ledger

variable {shared : Multiset (Thing ResourceKind)}

/-- Calls that may fail, one after the other.  Nobody looks at the code of the one that did. -/
def checks : Nat → Program ResourceKind (Except Int Unit)
  | 0 => pure (.ok ())
  | n + 1 => do
    if ← attempt then checks n else return .error (-1)

theorem checks_spec (n : Nat) : Spec shared 0 (checks n) (held fun _ => 0) := by
  induction n with
  | zero => exact Spec.pure rfl
  | succ n ih =>
    refine Spec.attempt.bind fun ok => ?_
    cases ok with
    | true => exact ih
    | false => exact Spec.pure rfl

/-- Something of a library, or `NULL`. -/
def openHardware : Program ResourceKind (Except Int (Handle ResourceKind.hardware)) :=
  request .hardware (-1)

theorem openHardware_spec : Spec shared 0 openHardware (held fun h => things [h.thing]) :=
  request_spec _ _

/-- A request that is made only under a condition. -/
def onlyIf {α : Type} (b : Bool) (request : Program ResourceKind (Except Int α)) :
    Program ResourceKind (Except Int (Option α)) :=
  if b then do return (← request).map some else return .ok none

theorem onlyIf_spec {α : Type} {A : α → Holding ResourceKind} (b : Bool)
    {request : Program ResourceKind (Except Int α)} (h : Spec shared 0 request (held A)) :
    Spec shared 0 (onlyIf b request) (held fun o => ifAny o A) := by
  cases b with
  | true =>
    refine h.bind fun r => Spec.pure ?_
    cases r <;> rfl
  | false => exact Spec.pure rfl

/-! ## `airspy.c` -/

/-- `struct airspy_t`. -/
structure AirspyBlocks where
  self : Handle ResourceKind.memory
  staging : Option (Handle ResourceKind.memory)
  device : Option (Handle ResourceKind.hardware)
  sampleRates : Option (Handle ResourceKind.memory)

namespace AirspyBlocks
variable (dev : AirspyBlocks)

def blocks : List (Thing ResourceKind) :=
  handleIf dev.device ++ (handleIf dev.staging ++ (handleIf dev.sampleRates ++ [dev.self.thing]))

/-- `airspy_destroy`. -/
def destroy : Program ResourceKind Unit := do
  releaseIf dev.device
  releaseIf dev.staging
  releaseIf dev.sampleRates
  release dev.self

theorem destroy_spec : Spec shared (things dev.blocks) dev.destroy fun _ => 0 :=
  then_spec (releaseIf_spec _)
    (then_spec (releaseIf_spec _) (then_spec (releaseIf_spec _) (Spec.release _)))

end AirspyBlocks

/-! ## `plutosdr.c` -/

/-- `struct plutosdr_t`. -/
structure PlutosdrBlocks where
  self : Handle ResourceKind.memory
  uri : Option (Handle ResourceKind.memory)
  iioCtx : Option (Handle ResourceKind.hardware)
  output : Option (Handle ResourceKind.memory)
  rxBuffer : Option (Handle ResourceKind.hardware)
  txBuffer : Option (Handle ResourceKind.hardware)

namespace PlutosdrBlocks
variable (pluto : PlutosdrBlocks)

/-- What `plutosdr_create` allocates. -/
def blocks : List (Thing ResourceKind) :=
  handleIf pluto.output ++ (handleIf pluto.iioCtx ++ (handleIf pluto.uri ++ [pluto.self.thing]))

/-- What is allocated when the device is used. -/
def buffers : List (Thing ResourceKind) := handleIf pluto.txBuffer ++ handleIf pluto.rxBuffer

def all : List (Thing ResourceKind) := pluto.buffers ++ pluto.blocks

/-- `plutosdr_destroy`. -/
def destroy : Program ResourceKind Unit := do
  releaseIf pluto.txBuffer
  releaseIf pluto.rxBuffer
  releaseIf pluto.output
  releaseIf pluto.iioCtx
  releaseIf pluto.uri
  release pluto.self

theorem destroy_spec : Spec shared (things pluto.all) pluto.destroy fun _ => 0 := by
  rw [all, buffers, List.append_assoc]
  exact then_spec (releaseIf_spec _) (then_spec (releaseIf_spec _) (then_spec (releaseIf_spec _)
    (then_spec (releaseIf_spec _) (then_spec (releaseIf_spec _) (Spec.release _)))))

/-- `plutosdr_find_default_uri`. -/
def findDefaultUri : Program ResourceKind (Option (Handle ResourceKind.memory)) := do
  match ← acquire .hardware with
  | none => return none
  | some scanCtx =>
    match ← acquire .hardware with
    | none =>
      release scanCtx
      return none
    | some info =>
      let result ← acquire .memory
      release info
      release scanCtx
      return result

theorem findDefaultUri_spec : Spec shared 0 findDefaultUri got := by
  refine (Spec.acquire _).bind fun scanCtx => ?_
  cases scanCtx with
  | none => exact Spec.pure rfl
  | some scanCtx =>
    refine (((Spec.acquire _).frame (closed_things _)).of_eq (zero_add _).symm fun _ => rfl).bind
      fun info => ?_
    have hscan : Closed shared (things [scanCtx.thing]) := closed_things _
    cases info with
    | none =>
      have hrelease : Spec shared (things [scanCtx.thing])
          (do release scanCtx; return (none : Option (Handle ResourceKind.memory))) got :=
        (Spec.release scanCtx).bind fun _ => Spec.pure rfl
      exact hrelease.of_eq (zero_add _) fun _ => rfl
    | some info =>
      have hinfo : Closed shared (things [info.thing]) := closed_things _
      refine (((Spec.acquire .memory).frame (hinfo.add hscan)).of_eq (zero_add _).symm
        fun _ => rfl).bind fun result => ?_
      have hresult : Closed shared (got result) := closed_things _
      refine (((Spec.release info).frame (hscan.add hresult)).of_eq ?_ fun _ => zero_add _).bind
        fun _ => ?_
      · abel
      · exact (((Spec.release scanCtx).frame hresult).of_eq rfl fun _ => zero_add _).bind
          fun _ => Spec.pure rfl

end PlutosdrBlocks

/-! ## `sdr_file.c` -/

/-- How `sdr_file_create` opens a file. -/
inductive StreamName where
  | standard
  | gz
  | plain

/-- `has_gz_suffix`. -/
def hasGzSuffix (filename : String) : Bool :=
  let name := filename.toList
  3 < name.length && name.drop (name.length - 3) == ['.', 'g', 'z']

def StreamName.ofFile (filename : String) : StreamName :=
  if filename = "-" then .standard else if hasGzSuffix filename then .gz else .plain

/-- `fopen`. -/
def openFile : Program ResourceKind (Except Int (Handle ResourceKind.file)) := request .file (-1)

theorem openFile_spec : Spec shared 0 openFile (held fun h => things [h.thing]) := request_spec _ _

/-- A stream that is open, one way or the other. -/
structure StreamBlocks where
  file : Option (Handle ResourceKind.file)
  gz : Option (Handle ResourceKind.gzFile)

/-- A file of the settings is opened.  `stdin` and `stdout` are there and are closed like it. -/
def openStream (filename : Option String) : Program ResourceKind (Except Int StreamBlocks) :=
  match filename.map StreamName.ofFile with
  | none => return .ok ⟨none, none⟩
  | some .standard => do return .ok ⟨some (← adopt .file), none⟩
  | some .gz => do return (← request .gzFile (-1)).map fun gz => ⟨none, some gz⟩
  | some .plain => do return (← openFile).map fun file => ⟨some file, none⟩

def StreamBlocks.blocks (b : StreamBlocks) : List (Thing ResourceKind) :=
  handleIf b.file ++ handleIf b.gz

theorem openStream_spec (filename : Option String) :
    Spec shared 0 (openStream filename) (held fun b => things b.blocks) := by
  unfold openStream
  split
  · exact Spec.pure rfl
  · exact (Spec.adopt _).bind fun file => Spec.pure rfl
  · refine (request_spec _ _).bind fun gz => Spec.pure ?_
    cases gz with
    | ok gz => rfl
    | error code => rfl
  · refine openFile_spec.bind fun file => Spec.pure ?_
    cases file with
    | ok file => exact congrArg things (List.append_nil _).symm
    | error code => rfl

/-- `struct file_device_t`. -/
structure FileBlocks where
  self : Handle ResourceKind.memory
  temp : Option (Handle ResourceKind.memory)
  rawTemp : Option (Handle ResourceKind.memory)
  txRawTemp : Option (Handle ResourceKind.memory)
  rx : StreamBlocks
  tx : StreamBlocks

namespace FileBlocks
variable (device : FileBlocks)

def blocks : List (Thing ResourceKind) :=
  handleIf device.rx.file ++ (handleIf device.tx.file ++ (handleIf device.rx.gz ++
    (handleIf device.tx.gz ++ (handleIf device.temp ++ (handleIf device.txRawTemp ++
      (handleIf device.rawTemp ++ [device.self.thing]))))))

/-- `sdr_file_destroy`. -/
def destroy : Program ResourceKind Unit := do
  releaseIf device.rx.file
  releaseIf device.tx.file
  releaseIf device.rx.gz
  releaseIf device.tx.gz
  releaseIf device.temp
  releaseIf device.txRawTemp
  releaseIf device.rawTemp
  release device.self

theorem destroy_spec : Spec shared (things device.blocks) device.destroy fun _ => 0 :=
  then_spec (releaseIf_spec _) (then_spec (releaseIf_spec _) (then_spec (releaseIf_spec _)
    (then_spec (releaseIf_spec _) (then_spec (releaseIf_spec _) (then_spec (releaseIf_spec _)
      (then_spec (releaseIf_spec _) (Spec.release _)))))))

end FileBlocks

/-! ## `sdr_utils.c` -/

/-- What `plugin` points to. -/
inductive PluginBlocks where
  | plutosdr (pluto : PlutosdrBlocks)
  | airspy (dev : AirspyBlocks)
  | file (device : FileBlocks)

/-- `struct sdr_device_t`. -/
structure DeviceBlocks where
  self : Handle ResourceKind.memory
  plugin : PluginBlocks

namespace PluginBlocks

def blocks : PluginBlocks → List (Thing ResourceKind)
  | plutosdr pluto => pluto.blocks
  | airspy dev => dev.blocks
  | file device => device.blocks

def buffers : PluginBlocks → List (Thing ResourceKind)
  | plutosdr pluto => pluto.buffers
  | airspy _ => []
  | file _ => []

/-- `destroy` of the device. -/
def destroy : PluginBlocks → Program ResourceKind Unit
  | plutosdr pluto => pluto.destroy
  | airspy dev => dev.destroy
  | file device => device.destroy

theorem destroy_spec (p : PluginBlocks) :
    Spec shared (things (p.buffers ++ p.blocks)) p.destroy fun _ => 0 := by
  cases p with
  | plutosdr pluto => exact pluto.destroy_spec
  | airspy dev => exact dev.destroy_spec
  | file device => exact device.destroy_spec

end PluginBlocks

namespace DeviceBlocks
variable (d : DeviceBlocks)

/-- What the device consists of, whoever uses it. -/
def blocks : List (Thing ResourceKind) := d.plugin.blocks ++ [d.self.thing]

def buffers : List (Thing ResourceKind) := d.plugin.buffers

def holding : Holding ResourceKind := things (d.buffers ++ d.blocks)

/-- `sdr_device_destroy`. -/
def destroy : Program ResourceKind Unit := do
  d.plugin.destroy
  release d.self

theorem destroy_spec : Spec shared d.holding d.destroy fun _ => 0 := by
  rw [holding, blocks, ← List.append_assoc]
  exact then_spec d.plugin.destroy_spec (Spec.release _)

theorem closed : Closed shared d.holding := closed_things _

/-- Whether there are a `sdr_process_tx` and a `set_tx_parameters`. -/
def canTransmit : Bool :=
  match d.plugin with
  | .plutosdr _ => true
  | .airspy _ => false
  | .file _ => true

end DeviceBlocks

/-- A device that can transmit, or one that cannot. -/
abbrev SdrDevice (canTransmit : Bool) := { d : DeviceBlocks // d.canTransmit = canTransmit }

namespace SdrDevice
variable (self : Handle ResourceKind.memory)

def plutosdr (pluto : PlutosdrBlocks) : SdrDevice true := ⟨⟨self, .plutosdr pluto⟩, rfl⟩

def airspy (dev : AirspyBlocks) : SdrDevice false := ⟨⟨self, .airspy dev⟩, rfl⟩

def file (device : FileBlocks) : SdrDevice true := ⟨⟨self, .file device⟩, rfl⟩

def holding {canTransmit : Bool} (d : SdrDevice canTransmit) : Holding ResourceKind := d.1.holding

end SdrDevice

/-- The `uri` of `plutosdr_create`: that of the settings, or that of the first device. -/
def plutosdrUri (configured : Bool) :
    Program ResourceKind (Except Int (Option (Handle ResourceKind.memory))) := do
  if configured then
    -- nobody looks whether `strdup` fails
    return .ok (← acquire .memory)
  else
    match ← PlutosdrBlocks.findDefaultUri with
    | none => return .error (-1)
    | some uri => return .ok (some uri)

theorem plutosdrUri_spec (configured : Bool) :
    Spec shared 0 (plutosdrUri configured) (held fun uri => things (handleIf uri)) := by
  cases configured with
  | true => exact (Spec.acquire _).bind fun uri => Spec.pure rfl
  | false =>
    refine PlutosdrBlocks.findDefaultUri_spec.bind fun uri => ?_
    cases uri with
    | none => exact Spec.pure rfl
    | some uri => exact Spec.pure rfl

/-- `plutosdr_create`, with which settings there are. -/
def plutosdrCreateBlocks (uri calibMode sampleRate : Bool) :
    Program ResourceKind (Except Int (SdrDevice true)) :=
  orUndo malloc pure fun self =>
  let pluto : PlutosdrBlocks := ⟨self, none, none, none, none, none⟩
  orUndo (plutosdrUri uri) (fun code => do pluto.destroy; return code) fun uri =>
  let pluto := { pluto with uri := uri }
  orUndo openHardware (fun code => do pluto.destroy; return code) fun iioCtx =>
  let pluto := { pluto with iioCtx := some iioCtx }
  -- control device, timeout, calibration and gain mode, then the rx chain
  orUndo (checks (if calibMode then 10 else 9)) (fun code => do pluto.destroy; return code) fun _ =>
  orUndo malloc (fun code => do pluto.destroy; return code) fun output =>
  let pluto := { pluto with output := some output }
  -- ranges of the rx chain, then the tx chain
  orUndo (checks (if sampleRate then 12 else 11)) (fun code => do pluto.destroy; return code)
    fun _ =>
  orUndo malloc (fun code => do pluto.destroy; return code) fun result =>
  pure (.ok (.plutosdr result pluto))

theorem plutosdrCreateBlocks_spec (uri calibMode sampleRate : Bool) :
    Spec shared 0 (plutosdrCreateBlocks uri calibMode sampleRate) (held SdrDevice.holding) := by
  have hclosed : ∀ p : PlutosdrBlocks, Closed shared (things p.all) := fun p => closed_things _
  refine Spec.first (fun self => things (PlutosdrBlocks.all ⟨self, none, none, none, none, none⟩))
    malloc_spec (fun _ => rfl) fun self => ?_
  refine Spec.step (fun uri => things (PlutosdrBlocks.all ⟨self, uri, none, none, none, none⟩))
    (plutosdrUri_spec uri) (hclosed _) (PlutosdrBlocks.destroy_spec _) (fun _ => ?_) fun uri => ?_
  · simp [PlutosdrBlocks.all, PlutosdrBlocks.buffers, PlutosdrBlocks.blocks, things_append]
  refine Spec.step
    (fun iioCtx => things (PlutosdrBlocks.all ⟨self, uri, some iioCtx, none, none, none⟩))
    openHardware_spec (hclosed _) (PlutosdrBlocks.destroy_spec _) (fun _ => ?_) fun iioCtx => ?_
  · simp [PlutosdrBlocks.all, PlutosdrBlocks.buffers, PlutosdrBlocks.blocks, things_append,
      things_cons, things_nil]
  refine Spec.step (fun _ => things (PlutosdrBlocks.all ⟨self, uri, some iioCtx, none, none, none⟩))
    (checks_spec _) (hclosed _) (PlutosdrBlocks.destroy_spec _) (fun _ => (zero_add _).symm)
    fun _ => ?_
  refine Spec.step
    (fun output => things (PlutosdrBlocks.all ⟨self, uri, some iioCtx, some output, none, none⟩))
    malloc_spec (hclosed _) (PlutosdrBlocks.destroy_spec _) (fun _ => ?_) fun output => ?_
  · simp [PlutosdrBlocks.all, PlutosdrBlocks.buffers, PlutosdrBlocks.blocks, things_cons,
      things_nil]
  refine Spec.step
    (fun _ => things (PlutosdrBlocks.all ⟨self, uri, some iioCtx, some output, none, none⟩))
    (checks_spec _) (hclosed _) (PlutosdrBlocks.destroy_spec _) (fun _ => (zero_add _).symm)
    fun _ => ?_
  refine Spec.step
    (fun result => DeviceBlocks.holding
      ⟨result, .plutosdr ⟨self, uri, some iioCtx, some output, none, none⟩⟩)
    malloc_spec (hclosed _) (PlutosdrBlocks.destroy_spec _) (fun _ => ?_)
    fun result => Spec.pure rfl
  rw [DeviceBlocks.holding, DeviceBlocks.blocks, ← List.append_assoc, things_append, add_comm]
  rfl

/-- `airspy_create`, with whether its settings are accepted and whether there is a rate. -/
def airspyCreateBlocks (valid sampleRate : Bool) :
    Program ResourceKind (Except Int (SdrDevice false)) :=
  if !valid then pure (.error (-1))
  else
    orUndo malloc pure fun self =>
    let dev : AirspyBlocks := ⟨self, none, none, none⟩
    orUndo malloc (fun code => do dev.destroy; return code) fun staging =>
    let dev := { dev with staging := some staging }
    orUndo openHardware (fun _ => do dev.destroy; return -1) fun device =>
    let dev := { dev with device := some device }
    -- the sample type, and how many rates there are
    orUndo (checks 3) (fun _ => do dev.destroy; return -1) fun _ =>
    orUndo malloc (fun _ => do dev.destroy; return -1) fun sampleRates =>
    let dev := { dev with sampleRates := some sampleRates }
    orUndo (checks (if sampleRate then 3 else 2)) (fun _ => do dev.destroy; return -1) fun _ =>
    orUndo malloc (fun code => do dev.destroy; return code) fun result =>
    pure (.ok (.airspy result dev))

theorem airspyCreateBlocks_spec (valid sampleRate : Bool) :
    Spec shared 0 (airspyCreateBlocks valid sampleRate) (held SdrDevice.holding) := by
  unfold airspyCreateBlocks
  split
  · exact Spec.pure rfl
  have hclosed : ∀ dev : AirspyBlocks, Closed shared (things dev.blocks) := fun p => closed_things _
  refine Spec.first (fun self => things (AirspyBlocks.blocks ⟨self, none, none, none⟩))
    malloc_spec (fun _ => rfl) fun self => ?_
  refine Spec.step (fun staging => things (AirspyBlocks.blocks ⟨self, some staging, none, none⟩))
    malloc_spec (hclosed _) (AirspyBlocks.destroy_spec _) (fun _ => ?_) fun staging => ?_
  · simp [AirspyBlocks.blocks, things_cons, things_nil]
  refine Spec.step
    (fun device => things (AirspyBlocks.blocks ⟨self, some staging, some device, none⟩))
    openHardware_spec (hclosed _) (AirspyBlocks.destroy_spec _) (fun _ => ?_) fun device => ?_
  · simp [AirspyBlocks.blocks, things_cons, things_nil]
  refine Spec.step (fun _ => things (AirspyBlocks.blocks ⟨self, some staging, some device, none⟩))
    (checks_spec _) (hclosed _) (AirspyBlocks.destroy_spec _) (fun _ => (zero_add _).symm)
    fun _ => ?_
  refine Spec.step (fun sampleRates =>
      things (AirspyBlocks.blocks ⟨self, some staging, some device, some sampleRates⟩))
    malloc_spec (hclosed _) (AirspyBlocks.destroy_spec _) (fun _ => ?_) fun sampleRates => ?_
  · simp only [AirspyBlocks.blocks, handleIf_some, handleIf_none, List.cons_append,
      List.nil_append, things_cons, things_nil]
    abel
  refine Spec.step
    (fun _ => things (AirspyBlocks.blocks ⟨self, some staging, some device, some sampleRates⟩))
    (checks_spec _) (hclosed _) (AirspyBlocks.destroy_spec _) (fun _ => (zero_add _).symm)
    fun _ => ?_
  refine Spec.step
    (fun result => DeviceBlocks.holding
      ⟨result, .airspy ⟨self, some staging, some device, some sampleRates⟩⟩)
    malloc_spec (hclosed _) (AirspyBlocks.destroy_spec _) (fun _ => ?_) fun result => Spec.pure rfl
  rw [DeviceBlocks.holding, DeviceBlocks.blocks, ← List.append_assoc, things_append, add_comm]
  rfl

/-- The settings of a file. -/
structure FileSettings where
  rxFile : Option String
  rxFileFormat : SdrFileFormat
  txFile : Option String
  txFileFormat : SdrFileFormat

/-- Whether a format has samples of other than 32 bits. -/
def SdrFileFormat.isRaw (format : SdrFileFormat) : Bool := format == .cu8 || format == .cs16

/-- `sdr_file_create`. -/
def sdrFileCreate (settings : FileSettings) :
    Program ResourceKind (Except Int (SdrDevice true)) :=
  orUndo malloc pure fun self =>
  let device : FileBlocks := ⟨self, none, none, none, ⟨none, none⟩, ⟨none, none⟩⟩
  orUndo malloc (fun code => do device.destroy; return code) fun temp =>
  let device := { device with temp := some temp }
  orUndo (onlyIf (settings.rxFileFormat.isRaw || settings.txFileFormat.isRaw) malloc)
    (fun code => do device.destroy; return code) fun rawTemp =>
  let device := { device with rawTemp := rawTemp }
  orUndo (onlyIf settings.txFileFormat.isRaw malloc) (fun code => do device.destroy; return code)
    fun txRawTemp =>
  let device := { device with txRawTemp := txRawTemp }
  orUndo (openStream settings.rxFile) (fun code => do device.destroy; return code) fun rx =>
  let device := { device with rx := rx }
  orUndo (openStream settings.txFile) (fun code => do device.destroy; return code) fun tx =>
  let device := { device with tx := tx }
  orUndo malloc (fun code => do device.destroy; return code) fun result =>
  pure (.ok (.file result device))

theorem things_handleIf {k : ResourceKind} (h : Option (Handle k)) :
    things (handleIf h) = ifAny h fun h => things [h.thing] := by
  cases h <;> rfl

/-- The blocks of a file, one by one. -/
theorem FileBlocks.things_blocks (device : FileBlocks) :
    things device.blocks = things device.rx.blocks + things device.tx.blocks +
      things (handleIf device.temp) + things (handleIf device.rawTemp) +
        things (handleIf device.txRawTemp) + things [device.self.thing] := by
  simp only [blocks, StreamBlocks.blocks, things_append]
  abel

theorem sdrFileCreate_spec (settings : FileSettings) :
    Spec shared 0 (sdrFileCreate settings) (held SdrDevice.holding) := by
  have hclosed : ∀ device : FileBlocks, Closed shared (things device.blocks) :=
    fun _ => closed_things _
  refine Spec.first
    (fun self => things (FileBlocks.blocks ⟨self, none, none, none, ⟨none, none⟩, ⟨none, none⟩⟩))
    malloc_spec (fun _ => rfl) fun self => ?_
  refine Spec.step (fun temp =>
      things (FileBlocks.blocks ⟨self, some temp, none, none, ⟨none, none⟩, ⟨none, none⟩⟩))
    malloc_spec (hclosed _) (FileBlocks.destroy_spec _) (fun _ => ?_) fun temp => ?_
  · exact things_append [_] [_]
  refine Spec.step (fun rawTemp =>
      things (FileBlocks.blocks ⟨self, some temp, rawTemp, none, ⟨none, none⟩, ⟨none, none⟩⟩))
    (onlyIf_spec _ malloc_spec) (hclosed _) (FileBlocks.destroy_spec _) (fun _ => ?_)
    fun rawTemp => ?_
  · rw [← things_handleIf, FileBlocks.things_blocks, FileBlocks.things_blocks]
    simp only [handleIf_none, things_nil, add_zero]
    abel
  refine Spec.step (fun txRawTemp =>
      things (FileBlocks.blocks ⟨self, some temp, rawTemp, txRawTemp, ⟨none, none⟩, ⟨none, none⟩⟩))
    (onlyIf_spec _ malloc_spec) (hclosed _) (FileBlocks.destroy_spec _) (fun _ => ?_)
    fun txRawTemp => ?_
  · rw [← things_handleIf, FileBlocks.things_blocks, FileBlocks.things_blocks]
    simp only [handleIf_none, things_nil, add_zero]
    abel
  refine Spec.step (fun rx =>
      things (FileBlocks.blocks ⟨self, some temp, rawTemp, txRawTemp, rx, ⟨none, none⟩⟩))
    (openStream_spec _) (hclosed _) (FileBlocks.destroy_spec _) (fun _ => ?_) fun rx => ?_
  · rw [FileBlocks.things_blocks, FileBlocks.things_blocks]
    simp only [StreamBlocks.blocks, handleIf_none, things_append, things_nil, add_zero, zero_add]
    abel
  refine Spec.step (fun tx =>
      things (FileBlocks.blocks ⟨self, some temp, rawTemp, txRawTemp, rx, tx⟩))
    (openStream_spec _) (hclosed _) (FileBlocks.destroy_spec _) (fun _ => ?_) fun tx => ?_
  · rw [FileBlocks.things_blocks, FileBlocks.things_blocks]
    simp only [StreamBlocks.blocks, handleIf_none, things_append, things_nil, add_zero]
    abel
  refine Spec.step
    (fun result => DeviceBlocks.holding
      ⟨result, .file ⟨self, some temp, rawTemp, txRawTemp, rx, tx⟩⟩)
    malloc_spec (hclosed _) (FileBlocks.destroy_spec _) (fun _ => ?_) fun result => Spec.pure rfl
  rw [DeviceBlocks.holding, DeviceBlocks.blocks, ← List.append_assoc, things_append, add_comm]
  rfl

/-- The devices, with what their settings decide about the requests. -/
inductive DeviceSettings where
  | plutosdr (uri calibMode sampleRate : Bool)
  | airspy (valid sampleRate : Bool)
  | file (settings : FileSettings)

/-- Whether such a device can transmit. -/
def DeviceSettings.canTransmit : DeviceSettings → Bool
  | .plutosdr _ _ _ => true
  | .airspy _ _ => false
  | .file _ => true

namespace DeviceBlocks

/-- `sdr_device_create`. -/
def create : (settings : DeviceSettings) →
    Program ResourceKind (Except Int (SdrDevice settings.canTransmit))
  | .plutosdr uri calibMode sampleRate => plutosdrCreateBlocks uri calibMode sampleRate
  | .airspy valid sampleRate => airspyCreateBlocks valid sampleRate
  | .file settings => sdrFileCreate settings

theorem create_spec (settings : DeviceSettings) :
    Spec shared 0 (create settings) (held SdrDevice.holding) := by
  cases settings with
  | plutosdr uri calibMode sampleRate => exact plutosdrCreateBlocks_spec uri calibMode sampleRate
  | airspy valid sampleRate => exact airspyCreateBlocks_spec valid sampleRate
  | file settings => exact sdrFileCreate_spec settings

/-- A device with the same blocks, which transmits if the other does. -/
abbrev Same (d : DeviceBlocks) :=
  { d' : DeviceBlocks // d'.blocks = d.blocks ∧ d'.canTransmit = d.canTransmit }

def same (d : DeviceBlocks) : d.Same := ⟨d, rfl, rfl⟩

/-- A plutosdr with other buffers. -/
def withBuffers (self : Handle ResourceKind.memory) (pluto : PlutosdrBlocks)
    (rxBuffer txBuffer : Option (Handle ResourceKind.hardware)) :
    Same ⟨self, .plutosdr pluto⟩ :=
  ⟨⟨self, .plutosdr { pluto with rxBuffer := rxBuffer, txBuffer := txBuffer }⟩, rfl, rfl⟩

/-- `start_rx`. -/
def startRx : (d : DeviceBlocks) → Program ResourceKind d.Same
  | ⟨self, .plutosdr pluto⟩ => do
    releaseIf pluto.rxBuffer
    let rxBuffer ← acquire .hardware
    return withBuffers self pluto rxBuffer pluto.txBuffer
  | ⟨self, .airspy dev⟩ => do
    let _ ← attempt
    return same ⟨self, .airspy dev⟩
  | ⟨self, .file device⟩ => return same ⟨self, .file device⟩

/-- `stop_rx`. -/
def stopRx : (d : DeviceBlocks) → Program ResourceKind d.Same
  | ⟨self, .plutosdr pluto⟩ => do
    releaseIf pluto.rxBuffer
    return withBuffers self pluto none pluto.txBuffer
  | ⟨self, .airspy dev⟩ => do
    let _ ← attempt
    return same ⟨self, .airspy dev⟩
  | ⟨self, .file device⟩ => return same ⟨self, .file device⟩

/-- `set_rx_parameters`: whether it returns 0.  It does nothing to a file. -/
def setRxParameters (d : DeviceBlocks) : Program ResourceKind (Bool × d.Same) := do
  match d.plugin with
  | .file _ => return (true, d.same)
  | _ => return (← attempt, d.same)

/-- `set_tx_parameters` of a device that has one: whether it returns 0. -/
def setTxParameters : (d : DeviceBlocks) → d.canTransmit = true →
    Program ResourceKind (Bool × d.Same)
  | ⟨self, .plutosdr pluto⟩, _ => do
    if ← attempt then
      releaseIf pluto.txBuffer
      let txBuffer ← acquire .hardware
      return (txBuffer.isSome, withBuffers self pluto pluto.rxBuffer txBuffer)
    else return (false, same ⟨self, .plutosdr pluto⟩)
  | ⟨_, .airspy _⟩, h => absurd h Bool.false_ne_true
  | ⟨self, .file device⟩, _ => return (true, same ⟨self, .file device⟩)

variable (d : DeviceBlocks)

theorem startRx_spec :
    Spec shared (things d.buffers) d.startRx fun d' => things d'.1.buffers := by
  obtain ⟨self, pluto | dev | device⟩ := d
  · have hclosed : Closed shared (things (handleIf pluto.txBuffer)) := closed_things _
    refine (((releaseIf_spec pluto.rxBuffer).frame hclosed).of_eq
      ((things_append _ _).trans (add_comm _ _)) fun _ => zero_add _).bind fun _ => ?_
    refine (((Spec.acquire _).frame hclosed).of_eq (zero_add _).symm fun _ => rfl).bind
      fun rxBuffer => Spec.pure ?_
    exact (add_comm _ _).trans (things_append _ _).symm
  · exact Spec.attempt.bind fun _ => Spec.pure rfl
  · exact Spec.pure rfl

theorem stopRx_spec :
    Spec shared (things d.buffers) d.stopRx fun d' => things d'.1.buffers := by
  obtain ⟨self, pluto | dev | device⟩ := d
  · refine (((releaseIf_spec pluto.rxBuffer).frame (closed_things _)).of_eq
      ((things_append _ _).trans (add_comm _ _)) fun _ => zero_add _).bind fun _ => Spec.pure ?_
    exact congrArg things (List.append_nil _).symm
  · exact Spec.attempt.bind fun _ => Spec.pure rfl
  · exact Spec.pure rfl

theorem setRxParameters_spec :
    Spec shared (things d.buffers) d.setRxParameters fun r => things r.2.1.buffers := by
  unfold setRxParameters
  split
  · exact Spec.pure rfl
  · exact ((Spec.attempt.frame (closed_things _)).of_eq (zero_add _).symm
      fun _ => zero_add _).bind fun _ => Spec.pure rfl

theorem setTxParameters_spec (h : d.canTransmit = true) :
    Spec shared (things d.buffers) (d.setTxParameters h) fun r => things r.2.1.buffers := by
  obtain ⟨self, pluto | dev | device⟩ := d
  · refine ((Spec.attempt.frame (closed_things _)).of_eq (zero_add _).symm fun _ => zero_add _).bind
      fun ok => ?_
    cases ok with
    | false => exact Spec.pure rfl
    | true =>
      have hclosed : Closed shared (things (handleIf pluto.rxBuffer)) := closed_things _
      refine (((releaseIf_spec pluto.txBuffer).frame hclosed).of_eq (things_append _ _)
        fun _ => zero_add _).bind fun _ => ?_
      refine (((Spec.acquire _).frame hclosed).of_eq (zero_add _).symm fun _ => rfl).bind
        fun txBuffer => Spec.pure ?_
      exact (things_append _ _).symm
  · exact absurd h Bool.false_ne_true
  · exact Spec.pure rfl

end DeviceBlocks
end SdrModem
