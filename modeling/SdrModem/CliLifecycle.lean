import SdrModem.DeviceLifecycle

/-!
# What the command line leaves behind

`cli_create` and `cli_destroy`: whatever is refused, and however the device is used in between,
everything is given back once.
-/
namespace SdrModem
open Ledger

variable {shared : Multiset (Thing ResourceKind)}

/-- `struct cli_t`. -/
structure CliBlocks where
  self : Handle ResourceKind.memory
  wakePipe : Option (Handle ResourceKind.descriptor × Handle ResourceKind.descriptor)
  modem : Option (Handle ResourceKind.modem)
  sdr : Option DeviceBlocks
  outputFile : Option (Handle ResourceKind.file)
  inputFile : Option (Handle ResourceKind.file)
  inputTemp : Option (Handle ResourceKind.memory)

/-- `pipe`: two descriptors or none. -/
def openPipe : Program ResourceKind
    (Except Int (Handle ResourceKind.descriptor × Handle ResourceKind.descriptor)) := do
  if ← attempt then
    let readEnd ← adopt .descriptor
    let writeEnd ← adopt .descriptor
    return .ok (readEnd, writeEnd)
  else return .error (-1)

/-- Both ends are closed. -/
def closePipe (ends : Handle ResourceKind.descriptor × Handle ResourceKind.descriptor) :
    Program ResourceKind Unit := do
  release ends.1
  release ends.2

def pipeBlocks (ends : Handle ResourceKind.descriptor × Handle ResourceKind.descriptor) :
    Holding ResourceKind :=
  things [ends.1.thing, ends.2.thing]

theorem openPipe_spec : Spec shared 0 openPipe (held pipeBlocks) := by
  refine Spec.attempt.bind fun ok => ?_
  cases ok with
  | false => exact Spec.pure rfl
  | true =>
    refine (Spec.adopt _).bind fun readEnd => ?_
    have hread : Closed shared (things [readEnd.thing]) := closed_things _
    refine (((Spec.adopt _).frame hread).of_eq (zero_add _).symm fun _ => add_comm _ _).bind
      fun writeEnd => Spec.pure ?_
    exact (things_append [_] [_]).symm

theorem closePipe_spec (ends : Handle ResourceKind.descriptor × Handle ResourceKind.descriptor) :
    Spec shared (pipeBlocks ends) (closePipe ends) fun _ => 0 :=
  then_spec (l := [_]) (Spec.release _) (Spec.release _)

/-- `sdr_modem_create`. -/
def createModem : Program ResourceKind (Except Int (Handle ResourceKind.modem)) :=
  request .modem (-1)

theorem createModem_spec : Spec shared 0 createModem (held fun h => things [h.thing]) :=
  request_spec _ _

/-- The settings that decide about the requests of the command line.  `app_config_validate` lets
through no other direction than the two, and no airspy that is to transmit. -/
structure CliSettings where
  device : DeviceSettings
  direction : Direction
  transmits : direction ≠ .rx → device.canTransmit = true

namespace CliBlocks
variable (c : CliBlocks)

/-- All that was created but the device, in the order of `cli_destroy`. -/
def rest : Holding ResourceKind :=
  things (handleIf c.outputFile) + (things (handleIf c.inputFile) + (things (handleIf c.modem) +
    (things (handleIf c.inputTemp) + (ifAny c.wakePipe pipeBlocks + things [c.self.thing]))))

def holding : Holding ResourceKind := ifAny c.sdr DeviceBlocks.holding + c.rest

/-- `cli_destroy`. -/
def destroy : Program ResourceKind Unit := do
  doIf c.sdr DeviceBlocks.destroy
  releaseIf c.outputFile
  releaseIf c.inputFile
  releaseIf c.modem
  releaseIf c.inputTemp
  doIf c.wakePipe closePipe
  release c.self

/-- `cli_create` for receiving, from the parameters of the device on. -/
def setupRx (result : CliBlocks) (sdr : DeviceBlocks) :
    Program ResourceKind (Except Int CliBlocks) := do
  let (ok, sdr) ← sdr.setRxParameters
  let result := { result with sdr := some sdr.1 }
  if !ok then
    result.destroy
    return .error (-1)
  else
    orUndo openFile (fun _ => do result.destroy; return -1) fun outputFile =>
    pure (.ok { result with outputFile := some outputFile })

/-- `cli_create` for transmitting, from the parameters of the device on. -/
def setupTx (result : CliBlocks) (sdr : DeviceBlocks) (h : sdr.canTransmit = true) :
    Program ResourceKind (Except Int CliBlocks) := do
  let (ok, sdr) ← sdr.setTxParameters h
  let result := { result with sdr := some sdr.1 }
  if !ok then
    result.destroy
    return .error (-1)
  else
    orUndo openFile (fun _ => do result.destroy; return -1) fun inputFile =>
    let result := { result with inputFile := some inputFile }
    orUndo malloc (fun _ => do result.destroy; return -1) fun inputTemp =>
    pure (.ok { result with inputTemp := some inputTemp })

/-- `cli_create`. -/
def create (config : CliSettings) : Program ResourceKind (Except Int CliBlocks) :=
  orUndo malloc pure fun self =>
  let result : CliBlocks := ⟨self, none, none, none, none, none, none⟩
  orUndo openPipe (fun _ => do result.destroy; return -1) fun wakePipe =>
  let result := { result with wakePipe := some wakePipe }
  -- `cli_create_modem`: the modem type, the modem and its debug files
  orUndo (checks 1) (fun _ => do result.destroy; return -1) fun _ =>
  orUndo createModem (fun _ => do result.destroy; return -1) fun modem =>
  let result := { result with modem := some modem }
  orUndo (checks (if config.direction = .rx then 4 else 2)) (fun _ => do result.destroy; return -1)
    fun _ =>
  orUndo (DeviceBlocks.create config.device) (fun _ => do result.destroy; return -1) fun sdr =>
  let result := { result with sdr := some sdr.1 }
  if h : config.direction = .rx then setupRx result sdr.1
  else setupTx result sdr.1 (sdr.2.trans (config.transmits h))

theorem rest_closed : Closed shared c.rest := by
  refine (closed_things _).add ((closed_things _).add ((closed_things _).add
    ((closed_things _).add (Closed.add ?_ (closed_things _)))))
  cases c.wakePipe with
  | none => exact closed_things []
  | some ends => exact closed_things _

theorem closed : Closed shared c.holding := by
  refine Closed.add ?_ c.rest_closed
  cases c.sdr with
  | none => exact closed_things []
  | some d => exact d.closed

theorem destroy_spec : Spec shared c.holding c.destroy fun _ => 0 := by
  have hself : Closed shared (things [c.self.thing]) := closed_things _
  have hpipe : Closed shared (ifAny c.wakePipe pipeBlocks + things [c.self.thing]) := by
    refine Closed.add ?_ hself
    cases c.wakePipe with
    | none => exact closed_things []
    | some ends => exact closed_things _
  refine (Spec.doIf DeviceBlocks.destroy_spec _).andThen ?_ c.rest_closed
  refine (releaseIf_spec _).andThen ?_
    ((closed_things _).add ((closed_things _).add ((closed_things _).add hpipe)))
  refine (releaseIf_spec _).andThen ?_ ((closed_things _).add ((closed_things _).add hpipe))
  refine (releaseIf_spec _).andThen ?_ ((closed_things _).add hpipe)
  refine (releaseIf_spec _).andThen ?_ hpipe
  exact (Spec.doIf closePipe_spec _).andThen (Spec.release _) hself

/-- A step that fails leaves nothing. -/
theorem step_spec {ε α : Type} {request : Program ResourceKind (Except ε α)} {code : ε → Int}
    {next : α → Program ResourceKind (Except Int CliBlocks)} {A : α → Holding ResourceKind}
    (T : α → CliBlocks) (hrequest : Spec shared 0 request (held A))
    (hT : ∀ a, (T a).holding = A a + c.holding)
    (hnext : ∀ a, Spec shared (T a).holding (next a) (held holding)) :
    Spec shared c.holding
      (orUndo request (fun e => c.destroy >>= fun _ => pure (code e)) next) (held holding) :=
  Spec.step (fun a => (T a).holding) hrequest c.closed c.destroy_spec hT hnext

/-- The buffers of the device beside all the rest. -/
theorem holding_of_sdr (d : DeviceBlocks) :
    holding { c with sdr := some d } = things d.buffers + (things d.blocks + c.rest) := by
  rw [holding, ifAny_some, DeviceBlocks.holding, things_append, add_assoc]
  rfl

/-- A call of the device, whose blocks stay. -/
theorem onDevice_spec {α : Type} {d : DeviceBlocks} {call : Program ResourceKind α}
    (device : α → d.Same) (hcall : Spec shared (things d.buffers) call
      fun a => things (device a).1.buffers) :
    Spec shared (holding { c with sdr := some d }) call
      fun a => holding { c with sdr := some (device a).1 } := by
  refine (hcall.frame ((closed_things d.blocks).add c.rest_closed)).of_eq (c.holding_of_sdr d)
    fun a => ?_
  rw [holding_of_sdr, (device a).2.1]

theorem setupRx_spec (d : DeviceBlocks) (houtput : c.outputFile = none) :
    Spec shared (holding { c with sdr := some d }) (setupRx { c with sdr := some d } d)
      (held holding) := by
  refine (c.onDevice_spec Prod.snd d.setRxParameters_spec).bind fun r => ?_
  obtain ⟨ok, sdr⟩ := r
  cases ok with
  | false => exact (destroy_spec _).bind fun _ => Spec.pure rfl
  | true =>
    refine step_spec _
      (fun outputFile => { c with sdr := some sdr.1, outputFile := some outputFile })
      openFile_spec (fun _ => ?_) fun _ => Spec.pure rfl
    simp only [holding, rest, houtput, handleIf_some, handleIf_none, things_nil, zero_add]
    abel

theorem setupTx_spec (d : DeviceBlocks) (h : d.canTransmit = true) (hinput : c.inputFile = none)
    (htemp : c.inputTemp = none) :
    Spec shared (holding { c with sdr := some d }) (setupTx { c with sdr := some d } d h)
      (held holding) := by
  refine (c.onDevice_spec Prod.snd (d.setTxParameters_spec h)).bind fun r => ?_
  obtain ⟨ok, sdr⟩ := r
  cases ok with
  | false => exact (destroy_spec _).bind fun _ => Spec.pure rfl
  | true =>
    refine step_spec _ (fun inputFile => { c with sdr := some sdr.1, inputFile := some inputFile })
      openFile_spec (fun _ => ?_) fun inputFile => ?_
    · simp only [holding, rest, hinput, handleIf_some, handleIf_none, things_nil, zero_add]
      abel
    refine step_spec _ (fun inputTemp =>
        { c with sdr := some sdr.1, inputFile := some inputFile, inputTemp := some inputTemp })
      malloc_spec (fun _ => ?_) fun _ => Spec.pure rfl
    simp only [holding, rest, htemp, handleIf_some, handleIf_none, things_nil, zero_add]
    abel

/-- **A command line that was not created leaves nothing.** -/
theorem create_spec (config : CliSettings) : Spec shared 0 (create config) (held holding) := by
  refine Spec.first (fun self => holding ⟨self, none, none, none, none, none, none⟩) malloc_spec
    (fun _ => ?_) fun self => ?_
  · simp only [holding, rest, ifAny_none, handleIf_none, things_nil, zero_add]
  refine step_spec _ (fun wakePipe => ⟨self, some wakePipe, none, none, none, none, none⟩)
    openPipe_spec (fun _ => ?_) fun wakePipe => ?_
  · simp only [holding, rest, ifAny_none, ifAny_some, handleIf_none, things_nil, zero_add]
  refine step_spec _ (fun _ => _) (checks_spec 1) (fun _ => (zero_add _).symm) fun _ => ?_
  refine step_spec _ (fun modem => ⟨self, some wakePipe, some modem, none, none, none, none⟩)
    createModem_spec (fun _ => ?_) fun modem => ?_
  · simp only [holding, rest, ifAny_none, ifAny_some, handleIf_none, handleIf_some, things_nil,
      zero_add]
  refine step_spec _ (fun _ => _) (checks_spec _) (fun _ => (zero_add _).symm) fun _ => ?_
  refine step_spec _ (fun sdr => ⟨self, some wakePipe, some modem, some sdr.1, none, none, none⟩)
    (DeviceBlocks.create_spec _) (fun _ => ?_) fun sdr => ?_
  · simp only [holding, rest, ifAny_none, ifAny_some, handleIf_none, handleIf_some, things_nil,
      zero_add]
    rfl
  split
  · exact setupRx_spec ⟨self, some wakePipe, some modem, none, none, none, none⟩ sdr.1 rfl
  · exact setupTx_spec ⟨self, some wakePipe, some modem, none, none, none, none⟩ sdr.1 _ rfl rfl

end CliBlocks

/-! ## The use of the command line -/

/-- What `cli_process` does to the blocks of the device. -/
inductive CliUse where
  | rxStart
  | rxStop

/-- The function of the device that is called. -/
def CliUse.call : CliUse → (d : DeviceBlocks) → Program ResourceKind d.Same
  | .rxStart => DeviceBlocks.startRx
  | .rxStop => DeviceBlocks.stopRx

theorem CliUse.call_spec (u : CliUse) (d : DeviceBlocks) :
    Spec shared (things d.buffers) (u.call d) fun d' => things d'.1.buffers := by
  cases u with
  | rxStart => exact d.startRx_spec
  | rxStop => exact d.stopRx_spec

namespace CliBlocks

/-- `start_rx` and `stop_rx`, if there is a device. -/
def use (c : CliBlocks) (u : CliUse) : Program ResourceKind CliBlocks :=
  match c.sdr with
  | none => return c
  | some d => do
    let sdr ← u.call d
    return { c with sdr := some sdr.1 }

theorem use_spec (c : CliBlocks) (u : CliUse) : Spec shared c.holding (c.use u) holding := by
  unfold use
  split
  · exact Spec.pure rfl
  · rename_i d hd
    obtain ⟨self, wakePipe, modem, sdr, outputFile, inputFile, inputTemp⟩ := c
    obtain rfl : sdr = some d := hd
    exact (onDevice_spec ⟨self, wakePipe, modem, none, outputFile, inputFile, inputTemp⟩ id
      (u.call_spec d)).bind fun _ => Spec.pure rfl

/-- One use after the other. -/
def useAll (c : CliBlocks) (us : List CliUse) : Program ResourceKind CliBlocks := us.foldlM use c

theorem useAll_spec (c : CliBlocks) (us : List CliUse) :
    Spec shared c.holding (c.useAll us) holding := by
  induction us generalizing c with
  | nil => exact Spec.pure rfl
  | cons u us ih =>
    rw [useAll, List.foldlM_cons]
    exact (c.use_spec u).bind fun c' => ih c'

end CliBlocks

/-- The command line from its beginning to its end. -/
def cliRun (config : CliSettings) (us : List CliUse) : Program ResourceKind Unit := do
  match ← CliBlocks.create config with
  | .error _ => return ()
  | .ok cli =>
    let cli ← cli.useAll us
    cli.destroy

theorem cliRun_spec (config : CliSettings) (us : List CliUse) :
    Spec shared 0 (cliRun config us) fun _ => 0 := by
  refine (CliBlocks.create_spec config).bind fun r => ?_
  cases r with
  | error code => exact Spec.pure rfl
  | ok cli => exact (cli.useAll_spec us).bind fun cli => cli.destroy_spec

/-- **Nothing is left.**  Whatever requests are refused, and however the device is started and
stopped, `cli_create` and `cli_destroy` give back everything once. -/
theorem cli_leaves_nothing (refuses : Nat → Bool) (config : CliSettings) (us : List CliUse) :
    ∃ t, cliRun config us ⟨refuses, 0, 0⟩ = some ((), t) ∧ t.holding = 0 := by
  have hrun : Spec (0 : Multiset (Thing ResourceKind)) 0 (cliRun config us) fun _ => 0 :=
    cliRun_spec config us
  obtain ⟨_, t, ht, hholding⟩ := hrun.fromNothing refuses
  exact ⟨t, ht, hholding⟩

end SdrModem
