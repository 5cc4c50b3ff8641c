import SdrModem.DemodulatorStream
import SdrModem.RxWorkerModem

/-!
# The soft bits of the receiving thread

The threads of the rx worker with the modems behind their numbers and the samples that a
callback is called with.  A call of `sdr_rx_callback` takes its samples through the modem that
is current when it holds the mutex, and what the modem makes of them is sent behind the mutex.

The exchange of a modem cuts the stream of the device, and between two exchanges the threads
send what one call of `sdr_modem_demodulate` would make of the whole part.
-/
namespace SdrModem
open Machine Mealy

/-- What a step gets from the device: the results of its functions, with the samples. -/
inductive RxInput where
  | nothing
  | setRxParameters (ok : Bool)
  | startRx (streaming : Bool)
  | processRx (code : Int) (output : List Iq)
  /-- the thread of a push device calls `sdr_rx_callback` -/
  | call (input : List Iq)

/-- A modem, and the settings it was created with. -/
structure RxModem where
  settings : SdrModemSettings
  modem : SdrModemRx

/-- The worker with its modems, and the arguments of the callbacks.  `calls` are the samples of
all callbacks, and `taken` those that have been through a modem; they record what happened. -/
structure RxStream where
  run : RxRun
  modems : Nat → Option RxModem
  workerInput : List Iq
  deviceInput : List Iq
  calls : List (List Iq)
  taken : List (Option Nat × List Iq)

/-- What can happen to the worker, with the samples. -/
inductive RxStreamLabel where
  | put (c : Item RxCommand)
  | interrupt
  | worker (r : RxInput)
  | device (r : RxInput)

namespace RxStream

/-- `sdr_modem_create`.  `derive` is what it makes of the settings: the objects of `liquid-dsp`
and their lengths. -/
def createModem (derive : SdrModemSettings → Option SdrModemRxConfig) (sdrBufferLen : UInt32)
    (settings : SdrModemSettings) : Option RxModem :=
  (derive settings).bind fun config =>
    (SdrModemRx.create config sdrBufferLen).map fun modem => ⟨settings, modem⟩

/-- The beginning of `sdr_rx_worker_handle_message`, and the modem it creates. -/
def handle (derive : SdrModemSettings → Option SdrModemRxConfig) (sdrBufferLen : UInt32)
    (s : RxStream) (c : Item RxCommand) : RxResult × RxStream :=
  match c.val with
  | .commParameters _ buffer =>
      match apiDecodeCommSettings buffer with
      | none => (.nothing, s)
      | some settings =>
          match createModem derive sdrBufferLen settings.modemSettings with
          | none => (.modemCreate false, s)
          | some m =>
              (.modemCreate true,
                { s with modems := Function.update s.modems s.run.worker.nextModem (some m) })
  | .start _ | .stop _ => (.nothing, s)

/-- `sdr_modem_demodulate`, called in the callback if there is a modem. -/
def demodulate (s : RxStream) (input : List Iq) : Option (RxResult × RxStream) :=
  match s.run.worker.modem with
  | none => some (.nothing, { s with taken := s.taken ++ [(none, input)] })
  | some n =>
      -- nothing is known of a modem that was destroyed
      if n ∈ s.run.worker.destroyed then none
      else
        (s.modems n).bind fun m => (m.modem.demodulate input).map fun (modem, output) =>
          (.demodulate (output.map fun bits => bits.map Int8.toUInt8),
            { s with
              modems := Function.update s.modems n (some { m with modem := modem })
              taken := s.taken ++ [(some n, input)] })

/-- `sdr_process_rx` has returned, and unless it has failed the callback is called. -/
def sampled (s : RxStream) (code : Int) (output : List Iq) : RxStream :=
  if code < -1 ∨ (code ≠ 0 ∧ output = []) then s
  else { s with workerInput := output, calls := s.calls ++ [output] }

/-- What the worker gets at its next step. -/
def fromWorker (derive : SdrModemSettings → Option SdrModemRxConfig) (sdrBufferLen : UInt32)
    (s : RxStream) (r : RxInput) : Option (RxResult × RxStream) :=
  match s.run.worker.pc, r with
  | .handle c, .nothing => some (s.handle derive sdrBufferLen c)
  | .handle _, .startRx streaming => some (.startRx streaming, s)
  | .setParameters _ _, .setRxParameters ok => some (.setRxParameters ok, s)
  | .checkRx, .processRx code output => some (.processRx code output.length, s.sampled code output)
  | .callback .demodulate, .nothing => s.demodulate s.workerInput
  | _, .nothing => some (.nothing, s)
  | _, _ => none

/-- What the thread of the device gets at its next step. -/
def fromDevice (s : RxStream) (r : RxInput) : Option (RxResult × RxStream) :=
  match s.run.worker.device, r with
  | none, .call input =>
      some (.nothing, { s with deviceInput := input, calls := s.calls ++ [input] })
  | some .demodulate, .nothing => s.demodulate s.deviceInput
  | some _, .nothing => some (.nothing, s)
  | _, _ => none

/-- The step of the worker behind a step. -/
def below (derive : SdrModemSettings → Option SdrModemRxConfig) (sdrBufferLen : UInt32)
    (s : RxStream) : RxStreamLabel → Option (RxLabel × RxStream)
  | .put c => some (.put c, s)
  | .interrupt => some (.interrupt, s)
  | .worker r => (s.fromWorker derive sdrBufferLen r).map fun (r, t) => (.worker r, t)
  | .device r => (s.fromDevice r).map fun (r, t) => (.device r, t)

/-- One step of the worker, of the thread of the device or of the threads that use the queue. -/
def step (derive : SdrModemSettings → Option SdrModemRxConfig) (sdrBufferLen : UInt32)
    (bufferSize : Nat) (s : RxStream) (l : RxStreamLabel) : Option RxStream :=
  (s.below derive sdrBufferLen l).bind fun (l, t) =>
    (t.run.step bufferSize l).map fun run => { t with run := run }

/-- A new worker. -/
def start (pull : Bool) : RxStream :=
  { run := RxRun.start pull
    modems := fun _ => none
    workerInput := []
    deviceInput := []
    calls := []
    taken := [] }

/-- **What the device promises, and what the worker has to**: no more samples than the modems were
created for, and no exchange while the thread of the device copies bits. -/
def Keeps (sdrBufferLen : UInt32) (s : RxStream) : RxStreamLabel → Prop
  | .worker (.processRx _ output) => output.length ≤ sdrBufferLen.toNat
  | .device (.call input) => input.length ≤ sdrBufferLen.toNat
  | .worker .nothing => s.run.worker.pull = false → s.run.worker.SwapSafe
  | _ => True

instance (sdrBufferLen : UInt32) (s : RxStream) :
    ∀ l : RxStreamLabel, Decidable (s.Keeps sdrBufferLen l)
  | .worker (.processRx _ _) | .device (.call _) => inferInstanceAs (Decidable (_ ≤ _))
  | .worker .nothing => inferInstanceAs (Decidable (_ → _))
  | .put _ | .interrupt | .worker (.setRxParameters _) | .worker (.startRx _) | .worker (.call _)
  | .device .nothing | .device (.setRxParameters _) | .device (.startRx _)
  | .device (.processRx _ _) => instDecidableTrue

end RxStream

/-! ## The stream behind the threads -/

/-- The bits of the modem `n` that a callback holds. -/
def CallbackPc.bitsOf (n : Nat) : CallbackPc → List UInt8
  | .unlock (some (m, bits)) | .send m bits => if m = n then bits else []
  | .lock | .demodulate | .unlock none => []

/-- A callback whose samples have not been through a modem. -/
def CallbackPc.waits : CallbackPc → Bool
  | .lock | .demodulate => true
  | .unlock _ | .send _ _ => false

/-- The bits of the modem `n` in a message. -/
def Sent.bitsOf (n : Nat) : Sent → List UInt8
  | ⟨.softBits _ bits, _, some m, _⟩ => if m = n then bits else []
  | _ => []

/-- The number of a message with soft bits. -/
def Sent.softBitsId : Sent → Option UInt32
  | ⟨.softBits id _, _, _, _⟩ => some id
  | _ => none

/-- **What is left of the threads**: one callback at a time, whichever thread it is in, and the
modems that it may find. -/
@[ext] structure RxFlow where
  callback : Option (CallbackPc × List Iq)
  modems : Nat → Option RxModem
  current : Option Nat
  nextModem : Nat
  requestId : UInt32
  calls : List (List Iq)
  taken : List (Option Nat × List Iq)
  log : List Sent

/-- The command that is answered with a new modem. -/
def RxPc.exchange? : RxPc → Option (Item RxCommand × Nat)
  | .setParameters c n | .lock c n | .swap c n | .unlock c n _ | .destroyOld c n _
  | .respond c _ _ (some n) => some (c, n)
  | .loop | .handle _ | .respond _ _ _ none | .complete _ | .checkRx | .callback _ | .finished =>
    none

namespace RxFlow

/-- The soft bits of the modem `n` that were sent. -/
def sentBy (n : Nat) (v : RxFlow) : List UInt8 := v.log.flatMap (Sent.bitsOf n)

/-- The soft bits of the modem `n` that are about to be sent. -/
def inHand (n : Nat) (v : RxFlow) : List UInt8 := v.callback.elim [] fun c => c.1.bitsOf n

/-- The samples of a callback that have not been through a modem. -/
def waiting (v : RxFlow) : List (List Iq) :=
  v.callback.elim [] fun c => if c.1.waits = true then [c.2] else []

/-- The samples that the modem `n` was given. -/
def takenBy (n : Nat) (v : RxFlow) : List (List Iq) :=
  v.taken.filterMap fun c => if c.1 = some n then some c.2 else none

/-- One step. -/
inductive Step (derive : SdrModemSettings → Option SdrModemRxConfig) (sdrBufferLen : UInt32)
    (v : RxFlow) : RxFlow → Prop where
  | idle : Step derive sdrBufferLen v v
  | answered (id : UInt32) (status : ResponseStatus) (details : ResponseDetails)
      (tag : Option Tag) (modem : Option Nat) :
      Step derive sdrBufferLen v
        { v with log := v.log ++ [⟨.response id status details, tag, modem, none⟩] }
  | created (m : RxModem)
      (hm : RxStream.createModem derive sdrBufferLen m.settings = some m) :
      Step derive sdrBufferLen v
        { v with
          modems := Function.update v.modems v.nextModem (some m)
          nextModem := v.nextModem + 1 }
  | exchanged (n : Nat) (hn : ∀ m, v.current = some m → m ≤ n) :
      Step derive sdrBufferLen v { v with current := some n }
  | called (input : List Iq) (hcallback : v.callback = none)
      (hlimit : input.length ≤ sdrBufferLen.toNat) :
      Step derive sdrBufferLen v
        { v with callback := some (.lock, input), calls := v.calls ++ [input] }
  | locked (input : List Iq) (hcallback : v.callback = some (.lock, input)) :
      Step derive sdrBufferLen v { v with callback := some (.demodulate, input) }
  | skipped (input : List Iq) (hcallback : v.callback = some (.demodulate, input))
      (hcurrent : v.current = none) :
      Step derive sdrBufferLen v
        { v with callback := some (.unlock none, input), taken := v.taken ++ [(none, input)] }
  | demodulated (input : List Iq) (n : Nat) (m : RxModem) (modem : SdrModemRx)
      (output : Option (List Int8)) (hcallback : v.callback = some (.demodulate, input))
      (hcurrent : v.current = some n) (hm : v.modems n = some m)
      (hdemodulate : m.modem.demodulate input = some (modem, output)) :
      Step derive sdrBufferLen v
        { v with
          callback :=
            some (.unlock (output.map fun bits => (n, bits.map Int8.toUInt8)), input)
          modems := Function.update v.modems n (some { m with modem := modem })
          taken := v.taken ++ [(some n, input)] }
  | unlocked (input : List Iq) (output : Option (Nat × List UInt8))
      (hcallback : v.callback = some (.unlock output, input)) :
      Step derive sdrBufferLen v
        { v with callback := output.map fun c => (.send c.1 c.2, input) }
  | sent (input : List Iq) (owner : Nat) (bits : List UInt8)
      (hcallback : v.callback = some (.send owner bits, input)) :
      Step derive sdrBufferLen v
        { v with
          callback := none
          requestId := v.requestId + 1
          log := v.log ++ [⟨.softBits v.requestId bits, none, some owner, none⟩] }

variable {derive : SdrModemSettings → Option SdrModemRxConfig} {sdrBufferLen : UInt32}
variable {u v v' : RxFlow} {n : Nat}

theorem Step.to_eq (h : Step derive sdrBufferLen u v) (heq : v' = v) :
    Step derive sdrBufferLen u v' := heq ▸ h

/-- What a modem has made of its samples, sent or in hand. -/
structure Made (derive : SdrModemSettings → Option SdrModemRxConfig) (sdrBufferLen : UInt32)
    (v : RxFlow) (n : Nat) (m : RxModem) (config : SdrModemRxConfig) (modem : SdrModemRx)
    (bits : List Int8) : Prop where
  derived : derive m.settings = some config
  created : SdrModemRx.create config sdrBufferLen = some modem
  calls : callsTo (accepted SdrModemRx.demodulate) modem (v.takenBy n) = some (m.modem, bits)
  bits : bits.map Int8.toUInt8 = v.sentBy n ++ v.inHand n

/-- **The invariant**: nothing is lost between the callbacks, the modems and the messages. -/
structure Streams (derive : SdrModemSettings → Option SdrModemRxConfig) (sdrBufferLen : UInt32)
    (v : RxFlow) : Prop where
  known : ∀ n, (∃ m, v.modems n = some m) ↔ n < v.nextModem
  made : ∀ n m, v.modems n = some m → ∃ config modem bits,
    v.Made derive sdrBufferLen n m config modem bits
  fresh : ∀ n, v.modems n = none → v.takenBy n = [] ∧ v.sentBy n ++ v.inHand n = []
  calls : v.calls = v.taken.map Prod.snd ++ v.waiting
  limit : ∀ input ∈ v.calls, input.length ≤ sdrBufferLen.toNat
  order : (v.taken.filterMap Prod.fst).Pairwise (· ≤ ·)
  current : ∀ n ∈ v.taken.filterMap Prod.fst, ∃ m, v.current = some m ∧ n ≤ m
  numbers : ∃ k, v.log.filterMap Sent.softBitsId = (List.range k).map UInt32.ofNat ∧
    v.requestId = UInt32.ofNat k

/-- A step that leaves the modems alone, and moves bits at most from the hand into the log. -/
theorem Streams.moved (hv : v.Streams derive sdrBufferLen) (hmodems : v'.modems = v.modems)
    (hnext : v'.nextModem = v.nextModem) (htaken : ∀ n, v'.takenBy n = v.takenBy n)
    (hbits : ∀ n, v'.sentBy n ++ v'.inHand n = v.sentBy n ++ v.inHand n)
    (hcalls : v'.calls = v'.taken.map Prod.snd ++ v'.waiting)
    (hlimit : ∀ input ∈ v'.calls, input.length ≤ sdrBufferLen.toNat)
    (horder : v'.taken.filterMap Prod.fst = v.taken.filterMap Prod.fst)
    (hcurrent : ∀ m, v.current = some m → ∃ m', v'.current = some m' ∧ m ≤ m')
    (hnumbers : ∃ k, v'.log.filterMap Sent.softBitsId = (List.range k).map UInt32.ofNat ∧
      v'.requestId = UInt32.ofNat k) : v'.Streams derive sdrBufferLen := by
  refine ⟨fun n => ?_, fun n m hm => ?_, fun n hn => ?_, hcalls, hlimit, ?_, fun n hn => ?_,
    hnumbers⟩
  · rw [hmodems, hnext]
    exact hv.known n
  · rw [hmodems] at hm
    obtain ⟨config, modem, bits, hmade⟩ := hv.made n m hm
    exact ⟨config, modem, bits, hmade.derived, hmade.created,
      by rw [htaken]; exact hmade.calls, by rw [hbits]; exact hmade.bits⟩
  · rw [hmodems] at hn
    rw [htaken, hbits]
    exact hv.fresh n hn
  · rw [horder]
    exact hv.order
  · rw [horder] at hn
    obtain ⟨m, hm, hle⟩ := hv.current n hn
    obtain ⟨m', hm', hle'⟩ := hcurrent m hm
    exact ⟨m', hm', hle.trans hle'⟩

/-- No modem was given too many samples at once. -/
theorem Streams.takenBy_limit (hv : v.Streams derive sdrBufferLen) {input : List Iq}
    (hinput : input ∈ v.takenBy n) : input.length ≤ sdrBufferLen.toNat := by
  obtain ⟨c, hc, heq⟩ := List.mem_filterMap.mp hinput
  refine hv.limit input ?_
  rw [hv.calls]
  refine List.mem_append_left _ (List.mem_map.mpr ⟨c, hc, ?_⟩)
  split at heq
  · exact Option.some.inj heq
  · cases heq

/-- The modem takes one call more. -/
theorem Streams.accepts (hv : v.Streams derive sdrBufferLen) {m : RxModem}
    (hm : v.modems n = some m) {input : List Iq} (hinput : input ∈ v.waiting) :
    ∃ modem bits, m.modem.demodulate input = some (modem, some bits) := by
  obtain ⟨config, first, bits, hmade⟩ := hv.made n m hm
  have hlimit : ∀ block ∈ v.takenBy n ++ [input], block.length ≤ sdrBufferLen.toNat := by
    intro block hblock
    rcases List.mem_append.mp hblock with htaken | hnew
    · exact hv.takenBy_limit htaken
    · rw [List.mem_singleton.mp hnew]
      refine hv.limit input ?_
      rw [hv.calls]
      exact List.mem_append_right _ hinput
  obtain ⟨stage, R, state, hrefines, hstate⟩ := SdrModemRx.streams hmade.created
  have hall := hrefines.calls_eq hstate hlimit
  rw [calls_eq_callsTo, callsTo_concat hmade.calls] at hall
  obtain ⟨_, hlast, -⟩ := Option.map_eq_some_iff.mp hall
  obtain ⟨⟨modem, output⟩, hcall, -⟩ := Option.map_eq_some_iff.mp hlast
  obtain ⟨⟨modem', output'⟩, hdemodulate, haccepted⟩ := Option.bind_eq_some_iff.mp hcall
  obtain ⟨made, rfl, -⟩ := Option.map_eq_some_iff.mp haccepted
  exact ⟨modem', made, hdemodulate⟩

/-- A modem that was just created has made nothing of no samples. -/
theorem Streams.created (hv : v.Streams derive sdrBufferLen) {m : RxModem}
    (hm : RxStream.createModem derive sdrBufferLen m.settings = some m) :
    Streams derive sdrBufferLen
      { v with
        modems := Function.update v.modems v.nextModem (some m)
        nextModem := v.nextModem + 1 } := by
  have hnew : v.modems v.nextModem = none := by
    cases hold : v.modems v.nextModem with
    | none => rfl
    | some old => exact absurd ((hv.known _).mp ⟨old, hold⟩) (Nat.lt_irrefl _)
  refine ⟨fun n => ?_, fun n m' hm' => ?_, fun n hn => ?_, hv.calls, hv.limit, hv.order,
    hv.current, hv.numbers⟩
  · by_cases hn : n = v.nextModem
    · subst hn
      exact iff_of_true ⟨m, Function.update_self ..⟩ (Nat.lt_succ_self _)
    · dsimp only
      rw [Function.update_of_ne hn, hv.known n, Nat.lt_succ_iff]
      exact ⟨Nat.le_of_lt, fun hle => Nat.lt_of_le_of_ne hle hn⟩
  · by_cases hn : n = v.nextModem
    · subst hn
      dsimp only at hm'
      rw [Function.update_self] at hm'
      cases hm'
      obtain ⟨config, hconfig, hcreate⟩ := Option.bind_eq_some_iff.mp hm
      obtain ⟨modem, hmodem, heq⟩ := Option.map_eq_some_iff.mp hcreate
      obtain ⟨htaken, hbits⟩ := hv.fresh _ hnew
      refine ⟨config, modem, [], hconfig, hmodem, ?_, hbits.symm⟩
      change callsTo _ modem (v.takenBy v.nextModem) = _
      rw [htaken, callsTo, ← heq]
    · dsimp only at hm'
      rw [Function.update_of_ne hn] at hm'
      obtain ⟨config, modem, bits, hmade⟩ := hv.made n m' hm'
      exact ⟨config, modem, bits, hmade.derived, hmade.created, hmade.calls, hmade.bits⟩
  · refine hv.fresh n ?_
    by_cases heq : n = v.nextModem
    · exact heq ▸ hnew
    · dsimp only at hn
      rwa [Function.update_of_ne heq] at hn

/-- **A modem takes the samples of a callback**, and its bits are in hand. -/
theorem Streams.demodulated (hv : v.Streams derive sdrBufferLen) {input : List Iq} {m : RxModem}
    {modem : SdrModemRx} {output : Option (List Int8)}
    (hcallback : v.callback = some (.demodulate, input)) (hcurrent : v.current = some n)
    (hm : v.modems n = some m) (hdemodulate : m.modem.demodulate input = some (modem, output)) :
    Streams derive sdrBufferLen
      { v with
        callback := some (.unlock (output.map fun bits => (n, bits.map Int8.toUInt8)), input)
        modems := Function.update v.modems n (some { m with modem := modem })
        taken := v.taken ++ [(some n, input)] } := by
  have hwaiting : v.waiting = [input] := by
    rw [waiting, hcallback]
    rfl
  obtain ⟨modem', bits, haccepts⟩ := hv.accepts hm (hwaiting ▸ List.mem_cons_self)
  rw [hdemodulate] at haccepts
  cases haccepts
  have hnothing : ∀ k, v.inHand k = [] := by
    intro k
    rw [inHand, hcallback]
    rfl
  have hothers : ∀ k, k ≠ n →
      (v.taken ++ [(some n, input)]).filterMap
        (fun c => if c.1 = some k then some c.2 else none) = v.takenBy k := by
    intro k hk
    rw [List.filterMap_append, List.filterMap_cons_none]
    · exact List.append_nil _
    · exact if_neg fun heq => hk (Option.some.inj heq).symm
  have hhand : ∀ k, k ≠ n →
      CallbackPc.bitsOf k (.unlock (some (n, bits.map Int8.toUInt8))) = [] :=
    fun k hk => if_neg fun heq => hk heq.symm
  refine ⟨fun k => ?_, fun k m' hm' => ?_, fun k hk => ?_, ?_, hv.limit, ?_, fun k hk => ?_,
    hv.numbers⟩
  · by_cases hk : k = n
    · subst hk
      exact iff_of_true ⟨_, Function.update_self ..⟩ ((hv.known k).mp ⟨m, hm⟩)
    · dsimp only
      rw [Function.update_of_ne hk]
      exact hv.known k
  · by_cases hk : k = n
    · subst hk
      dsimp only at hm'
      rw [Function.update_self] at hm'
      cases hm'
      obtain ⟨config, first, made, hmade⟩ := hv.made k m hm
      refine ⟨config, first, made ++ bits, hmade.derived, hmade.created, ?_, ?_⟩
      · have htaken : (v.taken ++ [(some k, input)]).filterMap
            (fun c => if c.1 = some k then some c.2 else none) = v.takenBy k ++ [input] := by
          simp [takenBy]
        dsimp only [takenBy]
        rw [htaken, callsTo_concat hmade.calls, accepted, hdemodulate]
        rfl
      · have hbits := hmade.bits
        rw [hnothing, List.append_nil] at hbits
        rw [List.map_append, hbits]
        exact congrArg (v.sentBy k ++ ·) (if_pos rfl).symm
    · dsimp only at hm'
      rw [Function.update_of_ne hk] at hm'
      obtain ⟨config, first, made, hmade⟩ := hv.made k m' hm'
      refine ⟨config, first, made, hmade.derived, hmade.created, ?_, ?_⟩
      · rw [takenBy, hothers k hk]
        exact hmade.calls
      · rw [hmade.bits, hnothing]
        exact congrArg (v.sentBy k ++ ·) (hhand k hk).symm
  · have hne : k ≠ n := by
      rintro rfl
      dsimp only at hk
      rw [Function.update_self] at hk
      cases hk
    dsimp only at hk
    rw [Function.update_of_ne hne] at hk
    obtain ⟨htaken, hsent⟩ := hv.fresh k hk
    refine ⟨(hothers k hne).trans htaken, ?_⟩
    rw [hnothing] at hsent
    exact (congrArg (v.sentBy k ++ ·) (hhand k hne)).trans hsent
  · have hcalls := hv.calls
    rw [hwaiting] at hcalls
    rw [hcalls, List.map_append]
    exact (List.append_nil _).symm
  · dsimp only
    rw [List.filterMap_append]
    refine List.pairwise_append.mpr ⟨hv.order, List.pairwise_singleton _ _, fun a ha b hb => ?_⟩
    rw [List.mem_singleton.mp hb]
    obtain ⟨current, heq, hle⟩ := hv.current a ha
    rw [hcurrent] at heq
    exact Option.some.inj heq ▸ hle
  · dsimp only at hk
    rw [List.filterMap_append] at hk
    rcases List.mem_append.mp hk with hold | hnew
    · exact hv.current k hold
    · exact ⟨n, hcurrent, le_of_eq (List.mem_singleton.mp hnew)⟩

/-- A modem keeps its settings. -/
theorem Step.settings (h : Step derive sdrBufferLen v v') (hv : v.Streams derive sdrBufferLen)
    {m : RxModem} (hm : v.modems n = some m) :
    ∃ m', v'.modems n = some m' ∧ m'.settings = m.settings := by
  cases h with
  | created new hnew =>
    have hne : n ≠ v.nextModem := Nat.ne_of_lt ((hv.known n).mp ⟨m, hm⟩)
    exact ⟨m, (Function.update_of_ne hne ..).trans hm, rfl⟩
  | demodulated input k m' modem output _ _ hm' =>
    by_cases hk : n = k
    · subst hk
      rw [hm] at hm'
      cases hm'
      exact ⟨_, Function.update_self .., rfl⟩
    · exact ⟨m, (Function.update_of_ne hk ..).trans hm, rfl⟩
  | _ => exact ⟨m, hm, rfl⟩

/-- **What one step keeps.** -/
theorem Step.streams (h : Step derive sdrBufferLen v v') (hv : v.Streams derive sdrBufferLen) :
    v'.Streams derive sdrBufferLen := by
  have hgrows : ∀ m, v.current = some m → ∃ m', v.current = some m' ∧ m ≤ m' :=
    fun m hm => ⟨m, hm, le_refl m⟩
  cases h with
  | idle => exact hv
  | answered id status details tag modem =>
    refine hv.moved rfl rfl (fun _ => rfl) (fun n => ?_) hv.calls hv.limit rfl hgrows ?_
    · rw [sentBy, List.flatMap_append]
      exact congrArg (· ++ _) (List.append_nil _)
    · rw [List.filterMap_append]
      obtain ⟨k, hk, hid⟩ := hv.numbers
      exact ⟨k, (List.append_nil _).trans hk, hid⟩
  | created m hm => exact hv.created hm
  | exchanged k hk =>
    exact hv.moved rfl rfl (fun _ => rfl) (fun _ => rfl) hv.calls hv.limit rfl
      (fun m hm => ⟨k, rfl, hk m hm⟩) hv.numbers
  | called input hcallback hlimit =>
    have hcalls := hv.calls
    have hlimits := hv.limit
    refine hv.moved rfl rfl (fun _ => rfl) (fun n => ?_) ?_ ?_ rfl hgrows hv.numbers
    · simp only [inHand, hcallback]
      rfl
    · rw [waiting, hcallback] at hcalls
      rw [hcalls, Option.elim_none, List.append_nil]
      rfl
    · intro block hblock
      rcases List.mem_append.mp hblock with hold | hnew
      · exact hlimits block hold
      · rw [List.mem_singleton.mp hnew]
        exact hlimit
  | locked input hcallback =>
    have hcalls := hv.calls
    refine hv.moved rfl rfl (fun _ => rfl) (fun n => ?_) ?_ hv.limit rfl hgrows hv.numbers
    · simp only [inHand, hcallback]
      rfl
    · rw [waiting, hcallback] at hcalls
      exact hcalls
  | skipped input hcallback hcurrent =>
    have hcalls := hv.calls
    refine hv.moved rfl rfl (fun n => ?_) (fun n => ?_) ?_ hv.limit ?_ hgrows hv.numbers
    · rw [takenBy, List.filterMap_append]
      exact List.append_nil _
    · simp only [inHand, hcallback]
      rfl
    · rw [waiting, hcallback] at hcalls
      rw [hcalls, List.map_append]
      exact (List.append_nil _).symm
    · rw [List.filterMap_append]
      exact List.append_nil _
  | demodulated input n m modem output hcallback hcurrent hm hdemodulate =>
    exact hv.demodulated hcallback hcurrent hm hdemodulate
  | unlocked input output hcallback =>
    have hcalls := hv.calls
    refine hv.moved rfl rfl (fun _ => rfl) (fun n => ?_) ?_ hv.limit rfl hgrows hv.numbers
    · simp only [inHand, hcallback]
      cases output <;> rfl
    · rw [waiting, hcallback] at hcalls
      rw [hcalls]
      cases output <;> rfl
  | sent input owner bits hcallback =>
    have hcalls := hv.calls
    obtain ⟨k, hk, hid⟩ := hv.numbers
    refine hv.moved rfl rfl (fun _ => rfl) (fun n => ?_) ?_ hv.limit rfl hgrows ⟨k + 1, ?_, ?_⟩
    · simp only [sentBy, inHand, hcallback, List.flatMap_append, List.flatMap_singleton,
        Option.elim_none, Option.elim_some, List.append_nil]
      rfl
    · rw [waiting, hcallback] at hcalls
      exact hcalls
    · rw [List.filterMap_append, hk, List.range_succ, List.map_append, hid]
      rfl
    · rw [hid, ← UInt32.ofNat_one, ← UInt32.ofNat_add]

end RxFlow

/-! ## The threads are the stream -/

namespace RxStream
variable {derive : SdrModemSettings → Option SdrModemRxConfig} {sdrBufferLen : UInt32}
variable {bufferSize : Nat} {s t : RxStream}

/-- What is left of the threads. -/
def flow (s : RxStream) : RxFlow where
  callback :=
    match s.run.worker.pc with
    | .callback pc => some (pc, s.workerInput)
    | _ => s.run.worker.device.map fun pc => (pc, s.deviceInput)
  modems := s.modems
  current := s.run.worker.modem
  nextModem := s.run.worker.nextModem
  requestId := s.run.worker.requestId
  calls := s.calls
  taken := s.taken
  log := s.run.log

/-- Outside the callback of the worker there is the one of the device. -/
theorem flow_callback (h : ∀ pc, s.run.worker.pc ≠ .callback pc) :
    s.flow.callback = s.run.worker.device.map fun pc => (pc, s.deviceInput) := by
  unfold flow
  split
  · exact absurd ‹_› (h _)
  · rfl

/-- **Only one thread calls the callback**: the worker if the device is to be pulled. -/
structure OneThread (w : RxWorker) : Prop where
  pull : w.pull = true → w.device = none
  push : w.pull = false → ∀ pc, w.pc ≠ .callback pc

/-- A call of the modem in the callback. -/
theorem demodulate_cases {input : List Iq} {r : RxResult} (h : s.demodulate input = some (r, t)) :
    (s.run.worker.modem = none ∧ r = .nothing ∧
      t = { s with taken := s.taken ++ [(none, input)] }) ∨
    ∃ n m modem output, s.run.worker.modem = some n ∧ s.modems n = some m ∧
      m.modem.demodulate input = some (modem, output) ∧
      r = .demodulate (output.map fun bits => bits.map Int8.toUInt8) ∧
      t = { s with
        modems := Function.update s.modems n (some { m with modem := modem })
        taken := s.taken ++ [(some n, input)] } := by
  unfold demodulate at h
  split at h
  · cases h
    exact Or.inl ⟨‹_›, rfl, rfl⟩
  · split at h
    · cases h
    · obtain ⟨m, hm, hcall⟩ := Option.bind_eq_some_iff.mp h
      obtain ⟨⟨modem, output⟩, hdemodulate, heq⟩ := Option.map_eq_some_iff.mp hcall
      cases heq
      exact Or.inr ⟨_, m, modem, output, ‹_›, hm, hdemodulate, rfl, rfl⟩

/-- What the callback gets at `pc`: only the call of the modem does something. -/
def Gets (s : RxStream) (pc : CallbackPc) (input : List Iq) (r : RxResult) (u : RxStream) : Prop :=
  if pc = .demodulate then s.demodulate input = some (r, u) else u = s

/-- **A step of the callback**, in whichever thread. -/
theorem callback_flow {u : RxStream} {user : ModemUser} {pc : CallbackPc} {input : List Iq}
    {r : RxResult} {w : RxWorker} {pc' : Option CallbackPc} {sent : Option Sent}
    (hgets : s.Gets pc input r u) (hcallback : s.flow.callback = some (pc, input))
    (h : s.run.worker.callbackStep user pc r = some (w, pc', sent)) :
    RxFlow.Step derive sdrBufferLen s.flow
      { u.flow with
        callback := pc'.map fun pc => (pc, input)
        requestId := w.requestId
        log := s.run.log ++ sent.toList } := by
  have hlog : s.run.log ++ (none : Option Sent).toList = s.run.log := List.append_nil _
  have heff := RxWorker.callbackStep_effect h
  unfold Gets at hgets
  split at hgets
  · rename_i hpc
    subst hpc
    rcases demodulate_cases hgets with
      ⟨hnone, rfl, rfl⟩ | ⟨n, m, modem, output, hn, hm, hd, rfl, rfl⟩
    · cases heff with
      | noModem =>
        rw [hlog]
        exact .skipped input hcallback hnone
    · cases heff with
      | demodulate owner _ howner =>
        rw [hn] at howner
        cases howner
        rw [hlog, Option.map_map]
        exact .demodulated input n m modem output hcallback hn hm hd
  · rename_i hpc
    subst hgets
    cases heff with
    | lock hm =>
      rw [hlog]
      exact .locked input hcallback
    | noModem => exact absurd rfl hpc
    | demodulate => exact absurd rfl hpc
    | unlock output =>
      rw [hlog, Option.map_map]
      exact .unlocked input output hcallback
    | send owner bits => exact .sent input owner bits hcallback

/-- The modems and their samples change in what a step gets, and nothing else does. -/
theorem demodulate_run {input : List Iq} {r : RxResult} (h : s.demodulate input = some (r, t)) :
    t.run = s.run ∧ t.workerInput = s.workerInput ∧ t.deviceInput = s.deviceInput := by
  rcases demodulate_cases h with ⟨-, -, rfl⟩ | ⟨_, _, _, _, -, -, -, -, rfl⟩
  · exact ⟨rfl, rfl, rfl⟩
  · exact ⟨rfl, rfl, rfl⟩

theorem Gets.run {pc : CallbackPc} {input : List Iq} {r : RxResult} (h : s.Gets pc input r t) :
    t.run = s.run ∧ t.workerInput = s.workerInput ∧ t.deviceInput = s.deviceInput := by
  unfold Gets at h
  split at h
  · exact demodulate_run h
  · subst h
    exact ⟨rfl, rfl, rfl⟩

/-- **A step of the thread of the device.** -/
theorem device_flow {u : RxStream} {r : RxInput} {r' : RxResult} {w : RxWorker}
    {sent : Option Sent} (hl : s.Keeps sdrBufferLen (.device r)) (hs : OneThread s.run.worker)
    (hfrom : s.fromDevice r = some (r', u))
    (h : s.run.worker.deviceStep r' = some (w, sent)) :
    RxFlow.Step derive sdrBufferLen s.flow
      (flow { u with run := ⟨w, s.run.log ++ sent.toList⟩ }) := by
  unfold RxWorker.deviceStep at h
  cases hdevice : s.run.worker.device with
  | none =>
    rw [hdevice] at h
    dsimp only at h
    split at h
    · rename_i hpush
      cases h
      have houtside := hs.push hpush.1
      unfold fromDevice at hfrom
      rw [hdevice] at hfrom
      cases r with
      | call input =>
        cases hfrom
        have hnone : s.flow.callback = none := by
          rw [flow_callback houtside, hdevice]
          rfl
        exact (RxFlow.Step.called input hnone hl).to_eq
          (RxFlow.ext (flow_callback houtside) rfl rfl rfl rfl rfl rfl (List.append_nil _))
      | _ => cases hfrom
    · cases h
  | some pc =>
    rw [hdevice] at h
    obtain ⟨⟨w', pc', sent'⟩, hcb, heq⟩ := Option.map_eq_some_iff.mp h
    cases heq
    have houtside := hs.push (Bool.eq_false_iff.mpr fun hpull => by
      rw [hs.pull hpull] at hdevice
      cases hdevice)
    have hcallback : s.flow.callback = some (pc, s.deviceInput) := by
      rw [flow_callback houtside, hdevice]
      rfl
    have hgets : s.Gets pc s.deviceInput r' u := by
      unfold fromDevice at hfrom
      rw [hdevice] at hfrom
      unfold Gets
      cases r <;> cases pc <;> first | exact hfrom | (cases hfrom <;> rfl)
    obtain ⟨hrun, -, hinput⟩ := hgets.run
    have hframe := RxWorker.callbackStep_frame hcb
    refine (callback_flow hgets hcallback hcb).to_eq (RxFlow.ext ?_ rfl ?_ ?_ rfl rfl rfl rfl)
    · rw [flow_callback]
      · exact congrArg (fun i => pc'.map fun pc => (pc, i)) hinput
      · dsimp only
        rw [hframe]
        exact houtside
    · dsimp only [flow]
      rw [hframe, hrun]
    · dsimp only [flow]
      rw [hframe, hrun]

/-- A modem knows its settings. -/
theorem createModem_settings {settings : SdrModemSettings} {m : RxModem}
    (h : createModem derive sdrBufferLen settings = some m) : m.settings = settings := by
  obtain ⟨_, -, hcreate⟩ := Option.bind_eq_some_iff.mp h
  obtain ⟨_, -, rfl⟩ := Option.map_eq_some_iff.mp hcreate
  rfl

/-- Either there is a new modem, or nothing has changed. -/
theorem handle_cases {c : Item RxCommand} {r : RxResult}
    (h : s.handle derive sdrBufferLen c = (r, t)) :
    (t = s ∧ r ≠ .modemCreate true) ∨
    ∃ id buffer settings m, c.val = .commParameters id buffer ∧
      apiDecodeCommSettings buffer = some settings ∧
      createModem derive sdrBufferLen settings.modemSettings = some m ∧
      r = .modemCreate true ∧
      t = { s with modems := Function.update s.modems s.run.worker.nextModem (some m) } := by
  unfold handle at h
  split at h
  · split at h
    · cases h
      exact Or.inl ⟨rfl, nofun⟩
    · split at h
      · cases h
        exact Or.inl ⟨rfl, nofun⟩
      · cases h
        exact Or.inr ⟨_, _, _, _, ‹_›, ‹_›, ‹_›, rfl, rfl⟩
  · cases h
    exact Or.inl ⟨rfl, nofun⟩
  · cases h
    exact Or.inl ⟨rfl, nofun⟩

/-- What the worker gets while it handles a command. -/
theorem fromWorker_handle {c : Item RxCommand} {r : RxInput} {r' : RxResult}
    (hpc : s.run.worker.pc = .handle c) (h : s.fromWorker derive sdrBufferLen r = some (r', t)) :
    (t = s ∧ r' ≠ .modemCreate true) ∨ s.handle derive sdrBufferLen c = (r', t) := by
  unfold fromWorker at h
  rw [hpc] at h
  cases r with
  | nothing => exact Or.inr (Option.some.inj h)
  | startRx streaming =>
    cases h
    exact Or.inl ⟨rfl, nofun⟩
  | _ => cases h

/-- What the worker gets elsewhere changes nothing. -/
theorem fromWorker_same {r : RxInput} {r' : RxResult} (hhandle : ∀ c, s.run.worker.pc ≠ .handle c)
    (hcheck : s.run.worker.pc ≠ .checkRx) (hcallback : ∀ pc, s.run.worker.pc ≠ .callback pc)
    (h : s.fromWorker derive sdrBufferLen r = some (r', t)) : t = s := by
  unfold fromWorker at h
  split at h
  · exact absurd ‹_› (hhandle _)
  · exact absurd ‹_› (hhandle _)
  · cases h
    rfl
  · exact absurd ‹_› hcheck
  · exact absurd ‹_› (hcallback _)
  · cases h
    rfl
  · cases h

/-- A step of the worker outside the callback. -/
theorem step_outside {w : RxWorker} {log : List Sent} {v : RxFlow}
    (h : RxFlow.Step derive sdrBufferLen s.flow v) (hold : ∀ pc, s.run.worker.pc ≠ .callback pc)
    (hnew : ∀ pc, w.pc ≠ .callback pc) (hdevice : w.device = s.run.worker.device)
    (hv : v = { s.flow with
      current := w.modem, nextModem := w.nextModem, requestId := w.requestId, log := log }) :
    RxFlow.Step derive sdrBufferLen s.flow (flow { s with run := ⟨w, log⟩ }) := by
  subst hv
  refine h.to_eq (RxFlow.ext ?_ rfl rfl rfl rfl rfl rfl rfl)
  rw [flow_callback hnew]
  dsimp only
  rw [flow_callback hold, hdevice]

/-- Without a new modem, the beginning of a command leaves the modems and the callbacks alone. -/
theorem handleStep_same {w w' : RxWorker} {c : Item RxCommand} {r : RxResult}
    (h : w.handleStep c r = some w') (hr : r ≠ .modemCreate true) :
    ∃ status details rxEnabled streaming,
      w' = { w with
        pc := .respond c status details none, rxEnabled := rxEnabled, streaming := streaming } := by
  unfold RxWorker.handleStep at h
  split at h
  · split at h
    · cases h
      exact ⟨_, _, _, _, rfl⟩
    · cases h
  · split at h
    · cases h
    · split at h
      · rename_i hok
        exact absurd (congrArg RxResult.modemCreate hok) hr
      · cases h
        exact ⟨_, _, _, _, rfl⟩
  · split at h
    · cases h
      exact ⟨_, _, _, _, rfl⟩
    · cases h
  · split at h
    · cases h
    · cases h
      exact ⟨_, _, _, _, rfl⟩
  · split at h
    · split at h
      · cases h
        exact ⟨_, _, _, _, rfl⟩
      · cases h
    · cases h
      exact ⟨_, _, _, _, rfl⟩
  · cases h

/-- **The beginning of a command.** -/
theorem handle_flow {u : RxStream} {c : Item RxCommand} {r : RxInput} {r' : RxResult}
    {w : RxWorker} {sent : Option Sent} (hpc : s.run.worker.pc = .handle c)
    (hfrom : s.fromWorker derive sdrBufferLen r = some (r', u))
    (h : s.run.worker.workerStep r' = some (w, sent)) :
    RxFlow.Step derive sdrBufferLen s.flow
      (flow { u with run := ⟨w, s.run.log ++ sent.toList⟩ }) := by
  have hold : ∀ pc, s.run.worker.pc ≠ .callback pc := by
    rw [hpc]
    exact nofun
  have hstep : s.run.worker.handleStep c r' = some w ∧ sent = none := by
    unfold RxWorker.workerStep at h
    rw [hpc] at h
    obtain ⟨w', hw, heq⟩ := Option.map_eq_some_iff.mp h
    cases heq
    exact ⟨hw, rfl⟩
  obtain ⟨hw, rfl⟩ := hstep
  have hidle : r' ≠ .modemCreate true → RxFlow.Step derive sdrBufferLen s.flow
      (flow { s with run := ⟨w, s.run.log ++ (none : Option Sent).toList⟩ }) := by
    intro hr
    obtain ⟨status, details, rxEnabled, streaming, rfl⟩ := handleStep_same hw hr
    refine step_outside .idle hold ?_ rfl ?_
    · exact nofun
    · exact RxFlow.ext rfl rfl rfl rfl rfl rfl rfl (List.append_nil _).symm
  rcases fromWorker_handle hpc hfrom with ⟨rfl, hr⟩ | hhandle
  · exact hidle hr
  · rcases handle_cases hhandle with
      ⟨rfl, hr⟩ | ⟨id, buffer, settings, m, hval, hdecode, hm, rfl, rfl⟩
    · exact hidle hr
    · unfold RxWorker.handleStep at hw
      rw [hval] at hw
      dsimp only at hw
      rw [hdecode, if_neg nofun, if_pos rfl] at hw
      cases hw
      have hsettings := createModem_settings hm
      refine (RxFlow.Step.created m (hsettings ▸ hm)).to_eq (RxFlow.ext ?_ rfl rfl rfl rfl rfl rfl
        (List.append_nil _))
      refine (flow_callback ?_).trans (flow_callback hold).symm
      exact nofun

/-- **The end of an iteration.** -/
theorem checkRx_flow {u : RxStream} {r : RxInput} {r' : RxResult} {w : RxWorker}
    {sent : Option Sent} (hl : s.Keeps sdrBufferLen (.worker r)) (hs : OneThread s.run.worker)
    (hpc : s.run.worker.pc = .checkRx) (hfrom : s.fromWorker derive sdrBufferLen r = some (r', u))
    (h : s.run.worker.workerStep r' = some (w, sent)) :
    RxFlow.Step derive sdrBufferLen s.flow
      (flow { u with run := ⟨w, s.run.log ++ sent.toList⟩ }) := by
  have hold : ∀ pc, s.run.worker.pc ≠ .callback pc := by
    rw [hpc]
    exact nofun
  have hidle : ∀ pc : RxPc, (∀ p, pc ≠ .callback p) → RxFlow.Step derive sdrBufferLen s.flow
      (flow { s with
        run := ⟨{ s.run.worker with pc := pc }, s.run.log ++ (none : Option Sent).toList⟩ }) := by
    intro pc hnew
    refine step_outside .idle hold hnew rfl ?_
    exact RxFlow.ext rfl rfl rfl rfl rfl rfl rfl (List.append_nil _).symm
  unfold RxWorker.workerStep at h
  rw [hpc] at h
  obtain ⟨w', hw, heq⟩ := Option.map_eq_some_iff.mp h
  cases heq
  unfold RxWorker.checkRxStep at hw
  unfold fromWorker at hfrom
  rw [hpc] at hfrom
  cases r with
  | nothing =>
    cases hfrom
    split at hw
    · cases hw
    · cases hw
      exact hidle _ nofun
  | processRx code output =>
    cases hfrom
    split at hw
    · rename_i hrx
      unfold sampled
      dsimp only at hw
      split at hw
      · cases hw
        rw [if_pos (Or.inl ‹_›)]
        exact hidle _ nofun
      · split at hw
        · rename_i herror
          cases hw
          rw [if_pos (Or.inr ⟨herror.1, List.length_eq_zero_iff.mp herror.2⟩)]
          exact hidle _ nofun
        · rename_i hcode herror
          cases hw
          rw [if_neg fun hfails => ?_]
          · have hnone : s.flow.callback = none := by
              rw [flow_callback hold, hs.pull hrx.2]
              rfl
            exact (RxFlow.Step.called output hnone hl).to_eq
              (RxFlow.ext rfl rfl rfl rfl rfl rfl rfl (List.append_nil _))
          · rcases hfails with htimeout | ⟨hne, hnil⟩
            · exact hcode htimeout
            · exact herror ⟨hne, List.length_eq_zero_iff.mpr hnil⟩
    · cases hw
  | _ => cases hfrom

/-- **A step of the worker.** -/
theorem worker_flow {u : RxStream} {r : RxInput} {r' : RxResult} {w : RxWorker}
    {sent : Option Sent} (hl : s.Keeps sdrBufferLen (.worker r)) (hs : OneThread s.run.worker)
    (hmodem : s.run.worker.ModemInv)
    (hfrom : s.fromWorker derive sdrBufferLen r = some (r', u))
    (h : s.run.worker.workerStep r' = some (w, sent)) :
    RxFlow.Step derive sdrBufferLen s.flow
      (flow { u with run := ⟨w, s.run.log ++ sent.toList⟩ }) := by
  have hidle : ∀ w' : RxWorker, (∀ p, s.run.worker.pc ≠ .callback p) →
      (∀ c, s.run.worker.pc ≠ .handle c) → s.run.worker.pc ≠ .checkRx →
      (∀ p, w'.pc ≠ .callback p) → w'.device = s.run.worker.device →
      w'.modem = s.run.worker.modem → w'.nextModem = s.run.worker.nextModem →
      w'.requestId = s.run.worker.requestId →
      RxFlow.Step derive sdrBufferLen s.flow
        (flow { u with run := ⟨w', s.run.log ++ (none : Option Sent).toList⟩ }) := by
    intro w' hold hhandle hcheck hnew hdevice hcurrent hnext hid
    obtain rfl := fromWorker_same hhandle hcheck hold hfrom
    refine step_outside .idle hold hnew hdevice ?_
    exact RxFlow.ext rfl rfl hcurrent.symm hnext.symm hid.symm rfl rfl (List.append_nil _).symm
  have hother : ∀ pc : RxPc, s.run.worker.pc = pc → (∀ p, pc ≠ .callback p) →
      (∀ c, pc ≠ .handle c) → pc ≠ .checkRx →
      (∀ p, s.run.worker.pc ≠ .callback p) ∧ (∀ c, s.run.worker.pc ≠ .handle c) ∧
        s.run.worker.pc ≠ .checkRx :=
    fun pc hpc hcallback hhandle hcheck => hpc ▸ ⟨hcallback, hhandle, hcheck⟩
  cases RxWorker.workerStep_effect h with
  | answer _ c status details rxEnabled streaming hpc => exact handle_flow hpc hfrom h
  | created c id buffer hpc => exact handle_flow hpc hfrom h
  | again _ hpc => exact checkRx_flow hl hs hpc hfrom h
  | deviceError _ _ hpc => exact checkRx_flow hl hs hpc hfrom h
  | samples _ hpc => exact checkRx_flow hl hs hpc hfrom h
  | swap c n hpc =>
    obtain ⟨hold, hhandle, hcheck⟩ := hother _ hpc nofun nofun nofun
    obtain rfl := fromWorker_same hhandle hcheck hold hfrom
    have hnew := hmodem.pc
    rw [hpc] at hnew
    refine step_outside (.exchanged n fun m hm => Nat.le_of_lt (hnew.2.2 m hm)) hold ?_ rfl ?_
    · exact nofun
    · exact RxFlow.ext rfl rfl rfl rfl rfl rfl rfl (List.append_nil _).symm
  | respond c status details modem hpc =>
    obtain ⟨hold, hhandle, hcheck⟩ := hother _ hpc nofun nofun nofun
    obtain rfl := fromWorker_same hhandle hcheck hold hfrom
    refine step_outside (.answered c.val.requestId status details c.tag modem) hold ?_ rfl ?_
    · exact nofun
    · rfl
  | callback _ pc w' pc' sent hpc hcb =>
    have hcallback : s.flow.callback = some (pc, s.workerInput) := by
      unfold flow
      rw [hpc]
    have hgets : s.Gets pc s.workerInput r' u := by
      unfold fromWorker at hfrom
      rw [hpc] at hfrom
      unfold Gets
      cases r <;> cases pc <;> first | exact hfrom | (cases hfrom <;> rfl)
    have hpull : s.run.worker.device = none := by
      cases hp : s.run.worker.pull with
      | true => exact hs.pull hp
      | false => exact absurd hpc (hs.push hp pc)
    obtain ⟨hrun, hinput, -⟩ := hgets.run
    have hframe := RxWorker.callbackStep_frame hcb
    refine (callback_flow hgets hcallback hcb).to_eq (RxFlow.ext ?_ rfl ?_ ?_ rfl rfl rfl rfl)
    · cases pc' with
      | some p => exact congrArg (fun i => some (p, i)) hinput
      | none =>
        refine (flow_callback ?_).trans ?_
        · exact nofun
        · dsimp only
          rw [hframe, hpull]
          rfl
    · dsimp only [flow]
      rw [hframe, hrun]
    · dsimp only [flow]
      rw [hframe, hrun]
  | _ =>
    have hpc := ‹s.run.worker.pc = _›
    obtain ⟨hold, hhandle, hcheck⟩ := hother _ hpc nofun nofun nofun
    exact hidle _ hold hhandle hcheck nofun rfl rfl rfl rfl

/-! ## Runs -/

/-- A step leaves the other thread outside the callback. -/
theorem oneThread_worker {w w' : RxWorker} {r : RxResult} {sent : Option Sent}
    (h : w.workerStep r = some (w', sent)) (hw : OneThread w) : OneThread w' := by
  have hframe : w'.pull = w.pull ∧ w'.device = w.device := by
    cases RxWorker.workerStep_effect h with
    | callback _ pc v pc' _ _ hcb =>
      have hframe := RxWorker.callbackStep_frame hcb
      dsimp only
      rw [hframe]
      exact ⟨rfl, rfl⟩
    | _ => exact ⟨rfl, rfl⟩
  obtain ⟨hpull, hdevice⟩ := hframe
  refine ⟨fun hp => ?_, fun hp pc hpc => ?_⟩
  · rw [hpull] at hp
    rw [hdevice]
    exact hw.pull hp
  · rw [hpull] at hp
    cases RxWorker.workerStep_effect h with
    | samples _ hcheck hrx =>
      unfold RxWorker.workerStep RxWorker.checkRxStep at h
      rw [hcheck] at h
      dsimp only at h
      rw [if_neg fun hrx => by rw [hp] at hrx; cases hrx.2] at h
      cases r <;> cases h
    | callback _ pc _ _ _ hcallback => exact hw.push hp pc hcallback
    | _ => cases hpc

theorem oneThread_device {w w' : RxWorker} {r : RxResult} {sent : Option Sent}
    (h : w.deviceStep r = some (w', sent)) (hw : OneThread w) : OneThread w' := by
  have hframe := RxWorker.deviceStep_frame h
  refine ⟨fun hp => ?_, fun hp => ?_⟩
  · rw [hframe] at hp
    unfold RxWorker.deviceStep at h
    rw [hw.pull hp] at h
    dsimp only at h
    rw [if_neg fun hpush => by rw [hp] at hpush; cases hpush.1] at h
    cases h
  · rw [hframe] at hp ⊢
    exact hw.push hp

/-- The modem `n` was created for this command. -/
def Configures (s : RxStream) (c : RxCommand) (n : Nat) : Prop :=
  ∃ id buffer settings m, c = .commParameters id buffer ∧
    apiDecodeCommSettings buffer = some settings ∧ s.modems n = some m ∧
    m.settings = settings.modemSettings

/-- **Positive answers are true**: the modem that the worker is about to put in place, or has
confirmed, was created for the command that is answered. -/
structure Confirmed (s : RxStream) : Prop where
  queue : s.run.worker.QueueInv
  pc : ∀ c n, s.run.worker.pc.exchange? = some (c, n) → s.Configures c.val n
  log : ∀ e ∈ s.run.log, ∀ n, e.success? = some n → ∃ c ∈ s.run.worker.accepted, ∃ details,
    e.message = .response c.val.requestId .success details ∧ s.Configures c.val n

/-- **The invariant of the threads and of the stream behind them.** -/
structure Inv (derive : SdrModemSettings → Option SdrModemRxConfig) (sdrBufferLen : UInt32)
    (s : RxStream) : Prop where
  run : s.run.LogInv
  oneThread : OneThread s.run.worker
  flow : s.flow.Streams derive sdrBufferLen
  confirmed : s.Confirmed

/-- What a step gets does not touch the threads. -/
theorem fromWorker_run {r : RxInput} {r' : RxResult}
    (h : s.fromWorker derive sdrBufferLen r = some (r', t)) : t.run = s.run := by
  unfold fromWorker at h
  split at h
  · rcases handle_cases (Option.some.inj h) with ⟨rfl, -⟩ | ⟨_, _, _, _, -, -, -, -, rfl⟩ <;> rfl
  · cases h
    rfl
  · cases h
    rfl
  · cases h
    unfold sampled
    split <;> rfl
  · exact (demodulate_run h).1
  · cases h
    rfl
  · cases h

theorem fromDevice_run {r : RxInput} {r' : RxResult} (h : s.fromDevice r = some (r', t)) :
    t.run = s.run := by
  unfold fromDevice at h
  split at h
  · cases h
    rfl
  · exact (demodulate_run h).1
  · cases h
    rfl
  · cases h

/-- **What one step can do.** -/
inductive Effect (derive : SdrModemSettings → Option SdrModemRxConfig) (sdrBufferLen : UInt32)
    (bufferSize : Nat) (s : RxStream) : RxStreamLabel → RxStream → Prop where
  | put (c : Item RxCommand) (w : RxWorker) (h : s.run.worker.put bufferSize c = some w) :
      Effect derive sdrBufferLen bufferSize s (.put c) { s with run := ⟨w, s.run.log⟩ }
  | interrupt :
      Effect derive sdrBufferLen bufferSize s .interrupt
        { s with run := ⟨s.run.worker.interrupt, s.run.log⟩ }
  | worker (r : RxInput) (r' : RxResult) (u : RxStream) (w : RxWorker) (sent : Option Sent)
      (hfrom : s.fromWorker derive sdrBufferLen r = some (r', u))
      (h : s.run.worker.workerStep r' = some (w, sent)) :
      Effect derive sdrBufferLen bufferSize s (.worker r)
        { u with run := ⟨w, s.run.log ++ sent.toList⟩ }
  | device (r : RxInput) (r' : RxResult) (u : RxStream) (w : RxWorker) (sent : Option Sent)
      (hfrom : s.fromDevice r = some (r', u)) (h : s.run.worker.deviceStep r' = some (w, sent)) :
      Effect derive sdrBufferLen bufferSize s (.device r)
        { u with run := ⟨w, s.run.log ++ sent.toList⟩ }

theorem step_effect {l : RxStreamLabel} (h : s.step derive sdrBufferLen bufferSize l = some t) :
    s.Effect derive sdrBufferLen bufferSize l t := by
  obtain ⟨⟨l', u⟩, hbelow, hstep⟩ := Option.bind_eq_some_iff.mp h
  obtain ⟨run, hrun, rfl⟩ := Option.map_eq_some_iff.mp hstep
  cases l with
  | put c =>
    cases hbelow
    obtain ⟨w, hw, rfl⟩ := Option.map_eq_some_iff.mp hrun
    exact .put c w hw
  | interrupt =>
    cases hbelow
    cases hrun
    exact .interrupt
  | worker r =>
    obtain ⟨⟨r', v⟩, hfrom, heq⟩ := Option.map_eq_some_iff.mp hbelow
    cases heq
    rw [fromWorker_run hfrom] at hrun
    obtain ⟨⟨w, sent⟩, hw, rfl⟩ := Option.map_eq_some_iff.mp hrun
    exact .worker r r' u w sent hfrom hw
  | device r =>
    obtain ⟨⟨r', v⟩, hfrom, heq⟩ := Option.map_eq_some_iff.mp hbelow
    cases heq
    rw [fromDevice_run hfrom] at hrun
    obtain ⟨⟨w, sent⟩, hw, rfl⟩ := Option.map_eq_some_iff.mp hrun
    exact .device r r' u w sent hfrom hw

/-- **A step of the threads is a step of the stream.** -/
theorem Effect.flow {l : RxStreamLabel} (h : s.Effect derive sdrBufferLen bufferSize l t)
    (hl : s.Keeps sdrBufferLen l) (hs : s.Inv derive sdrBufferLen) :
    RxFlow.Step derive sdrBufferLen s.flow t.flow := by
  cases h with
  | put c w hw =>
    rcases RxWorker.put_cases hw with ⟨-, -, rfl⟩ | ⟨-, rfl⟩
    · exact .idle
    · exact .idle
  | interrupt => exact .idle
  | worker r r' u w sent hfrom hstep => exact worker_flow hl hs.oneThread hs.run.modem hfrom hstep
  | device r r' u w sent hfrom hstep => exact device_flow hl hs.oneThread hfrom hstep

/-- **A step of the threads is one of the worker without samples**, and exchanges the modem at a
safe time. -/
theorem Effect.run {l : RxStreamLabel} (h : s.Effect derive sdrBufferLen bufferSize l t)
    (hl : s.Keeps sdrBufferLen l) (hs : OneThread s.run.worker) :
    ∃ l', s.run.SwapsSafely l' ∧ s.run.step bufferSize l' = some t.run := by
  cases h with
  | put c w hw => exact ⟨.put c, trivial, by rw [RxRun.step, hw]; rfl⟩
  | interrupt => exact ⟨.interrupt, trivial, rfl⟩
  | worker r r' u w sent hfrom hstep =>
    refine ⟨.worker r', fun hswap => ?_, by rw [RxRun.step, hstep]; rfl⟩
    by_cases hpull : s.run.worker.pull = true
    · rw [hs.pull hpull]
      rfl
    · unfold fromWorker at hfrom
      cases hpc : s.run.worker.pc with
      | swap c n =>
        rw [hpc] at hfrom
        cases r with
        | nothing => exact hl (Bool.eq_false_iff.mpr hpull) hswap
        | _ => cases hfrom
      | _ =>
        rw [hpc] at hswap
        cases hswap
  | device r r' u w sent hfrom hstep => exact ⟨.device r', trivial, by rw [RxRun.step, hstep]; rfl⟩

theorem Effect.oneThread {l : RxStreamLabel} (h : s.Effect derive sdrBufferLen bufferSize l t)
    (hs : OneThread s.run.worker) : OneThread t.run.worker := by
  cases h with
  | put c w hw =>
    rcases RxWorker.put_cases hw with ⟨-, -, rfl⟩ | ⟨-, rfl⟩
    · exact ⟨hs.pull, hs.push⟩
    · exact hs
  | interrupt => exact ⟨hs.pull, hs.push⟩
  | worker r r' u w sent hfrom hstep => exact oneThread_worker hstep hs
  | device r r' u w sent hfrom hstep => exact oneThread_device hstep hs

theorem Configures.mono {c : RxCommand} {n : Nat} (h : s.Configures c n)
    (hsettings : ∀ n m, s.modems n = some m →
      ∃ m', t.modems n = some m' ∧ m'.settings = m.settings) :
    t.Configures c n := by
  obtain ⟨id, buffer, settings, m, hc, hdecode, hm, heq⟩ := h
  obtain ⟨m', hm', heq'⟩ := hsettings n m hm
  exact ⟨id, buffer, settings, m', hc, hdecode, hm', heq'.trans heq⟩

/-- A modem that is being put in place is a new one, or it was before. -/
theorem exchange_worker {w w' : RxWorker} {r : RxResult} {sent : Option Sent}
    (h : RxWorker.Effect w r w' sent) {c : Item RxCommand} {n : Nat}
    (hexchange : w'.pc.exchange? = some (c, n)) :
    w.pc.exchange? = some (c, n) ∨
      (r = .modemCreate true ∧ w.pc = .handle c ∧ n = w.nextModem) := by
  cases h with
  | created c' id buffer hpc =>
    cases hexchange
    exact Or.inr ⟨rfl, hpc, rfl⟩
  | parametersSet c' n' hpc =>
    cases hexchange
    exact Or.inl (by rw [hpc]; rfl)
  | lock c' n' hpc =>
    cases hexchange
    exact Or.inl (by rw [hpc]; rfl)
  | swap c' n' hpc =>
    cases hexchange
    exact Or.inl (by rw [hpc]; rfl)
  | unlock c' n' old hpc =>
    cases hexchange
    exact Or.inl (by rw [hpc]; rfl)
  | destroyOld c' n' old hpc =>
    cases hexchange
    exact Or.inl (by rw [hpc]; rfl)
  | callback _ pc v pc' => cases pc' <;> cases hexchange
  | _ => cases hexchange

/-- What a positive answer says. -/
theorem answer_worker {w w' : RxWorker} {r : RxResult} {e : Sent}
    (h : RxWorker.Effect w r w' (some e)) {n : Nat} (he : e.success? = some n) :
    ∃ c details, w.pc.command? = some c ∧ w.pc.exchange? = some (c, n) ∧
      e.message = .response c.val.requestId .success details := by
  cases h with
  | respond c status details modem hpc =>
    cases status with
    | failure => cases he
    | success =>
      obtain rfl : modem = some n := he
      exact ⟨c, details, by rw [hpc]; rfl, by rw [hpc]; rfl, rfl⟩
  | callback _ pc v pc' _ hpc hcb =>
    cases RxWorker.callbackStep_effect hcb
    cases he

theorem accepted_worker {w w' : RxWorker} {r : RxResult} {sent : Option Sent}
    (h : RxWorker.Effect w r w' sent) : w'.accepted = w.accepted := by
  cases h with
  | callback _ pc v pc' _ hpc hcb =>
    have hframe := RxWorker.callbackStep_frame hcb
    dsimp only
    rw [hframe]
  | _ => rfl

theorem answer_device {w w' : RxWorker} {r : RxResult} {e : Sent}
    (h : w.deviceStep r = some (w', some e)) : e.success? = none := by
  unfold RxWorker.deviceStep at h
  split at h
  · split at h <;> cases h
  · obtain ⟨⟨v, pc', sent⟩, hcb, heq⟩ := Option.map_eq_some_iff.mp h
    cases heq
    cases RxWorker.callbackStep_effect hcb
    rfl

/-- What was confirmed stays confirmed. -/
theorem Confirmed.old (hs : s.Confirmed) {accepted : List (Item RxCommand)}
    (haccepted : ∀ c ∈ s.run.worker.accepted, c ∈ accepted)
    (hsettings : ∀ n m, s.modems n = some m →
      ∃ m', t.modems n = some m' ∧ m'.settings = m.settings) {e : Sent} (he : e ∈ s.run.log)
    {n : Nat} (hn : e.success? = some n) :
    ∃ c ∈ accepted, ∃ details,
      e.message = .response c.val.requestId .success details ∧ t.Configures c.val n := by
  obtain ⟨c, hc, details, hmessage, hconfigures⟩ := hs.log e he n hn
  exact ⟨c, haccepted c hc, details, hmessage, hconfigures.mono hsettings⟩

/-- **The worker answers truly.** -/
theorem Confirmed.worker {u : RxStream} {r : RxInput} {r' : RxResult} {w : RxWorker}
    {sent : Option Sent} (hs : s.Confirmed)
    (hfrom : s.fromWorker derive sdrBufferLen r = some (r', u))
    (h : s.run.worker.workerStep r' = some (w, sent))
    (hsettings : ∀ n m, s.modems n = some m →
      ∃ m', u.modems n = some m' ∧ m'.settings = m.settings) :
    Confirmed { u with run := ⟨w, s.run.log ++ sent.toList⟩ } := by
  have heff := RxWorker.workerStep_effect h
  have haccepted := accepted_worker heff
  refine ⟨heff.queueInv hs.queue, fun c n hexchange => ?_, fun e he n hn => ?_⟩
  · rcases exchange_worker heff hexchange with hold | ⟨rfl, hpc, rfl⟩
    · exact (hs.pc c n hold).mono hsettings
    · rcases fromWorker_handle hpc hfrom with ⟨-, hne⟩ | hhandle
      · exact absurd rfl hne
      · rcases handle_cases hhandle with
          ⟨-, hne⟩ | ⟨id, buffer, settings, m, hval, hdecode, hm, -, rfl⟩
        · exact absurd rfl hne
        · exact ⟨id, buffer, settings, m, hval, hdecode, Function.update_self ..,
            createModem_settings hm⟩
  · rcases List.mem_append.mp he with hold | hnew
    · exact hs.old (fun c hc => haccepted.symm ▸ hc) hsettings hold hn
    · obtain rfl := Option.mem_toList.mp hnew
      obtain ⟨c, details, hcommand, hexchange, hmessage⟩ := answer_worker heff hn
      refine ⟨c, ?_, details, hmessage, (hs.pc c n hexchange).mono hsettings⟩
      dsimp only
      rw [haccepted, hs.queue.accounted, hs.queue.inFlight, hcommand]
      simp

/-- **What one step keeps of the answers.** -/
theorem Effect.confirmed {l : RxStreamLabel} (h : s.Effect derive sdrBufferLen bufferSize l t)
    (hs : s.Confirmed) (hsettings : ∀ n m, s.modems n = some m →
      ∃ m', t.modems n = some m' ∧ m'.settings = m.settings) : t.Confirmed := by
  cases h with
  | put c w hw =>
    rcases RxWorker.put_cases hw with ⟨-, -, rfl⟩ | ⟨-, rfl⟩
    · refine ⟨⟨hs.queue.inFlight, ?_⟩, hs.pc, fun e he n hn =>
        hs.old (fun c hc => List.mem_append_left _ hc) hsettings he hn⟩
      dsimp only
      rw [hs.queue.accounted, List.append_assoc]
    · exact hs
  | interrupt => exact ⟨⟨hs.queue.inFlight, hs.queue.accounted⟩, hs.pc, hs.log⟩
  | worker r r' u w sent hfrom hstep => exact hs.worker hfrom hstep hsettings
  | device r r' u w sent hfrom hstep =>
    have hframe := RxWorker.deviceStep_frame hstep
    have hsame : w.queue = s.run.worker.queue ∧ w.pc = s.run.worker.pc ∧
        w.accepted = s.run.worker.accepted ∧ w.handled = s.run.worker.handled := by
      rw [hframe]
      exact ⟨rfl, rfl, rfl, rfl⟩
    obtain ⟨hqueue, hpc, haccepted, hhandled⟩ := hsame
    refine ⟨⟨?_, ?_⟩, fun c n hexchange => ?_, fun e he n hn => ?_⟩
    · exact hqueue ▸ hpc ▸ hs.queue.inFlight
    · dsimp only
      rw [haccepted, hhandled, hqueue]
      exact hs.queue.accounted
    · exact (hs.pc c n (hpc ▸ hexchange)).mono hsettings
    · rcases List.mem_append.mp he with hold | hnew
      · exact hs.old (fun c hc => haccepted.symm ▸ hc) hsettings hold hn
      · obtain rfl := Option.mem_toList.mp hnew
        rw [answer_device hstep] at hn
        cases hn

/-- **What one step keeps.** -/
theorem step_inv {l : RxStreamLabel} (hl : s.Keeps sdrBufferLen l)
    (h : s.step derive sdrBufferLen bufferSize l = some t) (hs : s.Inv derive sdrBufferLen) :
    t.Inv derive sdrBufferLen := by
  have heffect := step_effect h
  obtain ⟨l', hl', hrun⟩ := heffect.run hl hs.oneThread
  have hflow := heffect.flow hl hs
  exact ⟨RxRun.step_logInv hl' hrun hs.run, heffect.oneThread hs.oneThread,
    hflow.streams hs.flow, heffect.confirmed hs.confirmed fun _ _ hm => hflow.settings hs.flow hm⟩

theorem start_inv (pull : Bool) : (start pull).Inv derive sdrBufferLen := by
  refine ⟨RxRun.start_logInv pull, ⟨fun _ => rfl, fun _ _ => nofun⟩, ?_,
    ⟨⟨rfl, rfl⟩, nofun, fun _ => nofun⟩⟩
  refine ⟨fun n => iff_of_false (fun ⟨m, hm⟩ => by cases hm) (Nat.not_lt_zero n), fun n m hm => ?_,
    fun n hn => ⟨rfl, rfl⟩, rfl, fun _ => nofun, List.Pairwise.nil, fun _ => nofun, 0, rfl, rfl⟩
  cases hm

end RxStream

end SdrModem
