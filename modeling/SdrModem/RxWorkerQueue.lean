import SdrModem.RxWorker

/-!
# The receiving thread and its commands

The step of the worker is inverted once (`RxWorker.Effect`), and so is that of the
callback (`RxWorker.CallbackEffect`).  From that follows, for every run, that the
commands are accounted for.  Does the worker stay alive until it is told to stop?
It does unless `sdr_process_rx` fails without samples: this leaves the loop, and
the commands that come later are never handled.
-/
namespace SdrModem
open BoundedFifo Machine

namespace RxWorker

/-- What handling a command does to `rx_enabled` and the device. -/
inductive Switch (w : RxWorker) : RxCommand → Bool → Bool → Prop where
  | parameters (id : UInt32) (buffer : List UInt8) :
      Switch w (.commParameters id buffer) w.rxEnabled w.streaming
  | alreadyOn (id : UInt32) (hrx : w.rxEnabled = true) :
      Switch w (.start id) w.rxEnabled w.streaming
  | on (id : UInt32) (streaming : Bool) (hrx : w.rxEnabled = false) :
      Switch w (.start id) true streaming
  /-- `stop_rx` returns when the thread of the device is outside the callback. -/
  | off (id : UInt32) (hrx : w.rxEnabled = true) (hdevice : w.device = none) :
      Switch w (.stop id) false false
  | alreadyOff (id : UInt32) (hrx : w.rxEnabled = false) :
      Switch w (.stop id) w.rxEnabled w.streaming

/-- **What one step of `sdr_rx_worker_callback` can do.** -/
inductive Effect (w : RxWorker) : RxResult → RxWorker → Option Sent → Prop where
  | receive (c : Item RxCommand) (rest : List (Item RxCommand)) (hpc : w.pc = .loop)
      (hq : w.queue.pending = c :: rest) : Effect w .nothing (w.receive c rest) none
  | peakMiss (hpc : w.pc = .loop) (hq : w.queue.pending = []) (hrx : w.rxEnabled ∧ w.pull) :
      Effect w .nothing { w with pc := .checkRx } none
  | stopped (hpc : w.pc = .loop) (hq : w.queue.pending = []) (hclosed : w.queue.closed = true) :
      Effect w .nothing { w with pc := .finished } none
  | answer (r) (c : Item RxCommand) (status : ResponseStatus) (details : ResponseDetails)
      (rxEnabled streaming : Bool) (hpc : w.pc = .handle c)
      (hswitch : Switch w c.val rxEnabled streaming) :
      Effect w r { w with
        pc := .respond c status details none, rxEnabled := rxEnabled, streaming := streaming } none
  | created (c : Item RxCommand) (id : UInt32) (buffer : List UInt8) (hpc : w.pc = .handle c)
      (hval : c.val = .commParameters id buffer) :
      Effect w (.modemCreate true)
        { w with pc := .setParameters c w.nextModem, nextModem := w.nextModem + 1 } none
  | parametersSet (c : Item RxCommand) (newModem : Nat) (hpc : w.pc = .setParameters c newModem) :
      Effect w (.setRxParameters true) { w with pc := .lock c newModem } none
  | parametersFailed (c : Item RxCommand) (newModem : Nat)
      (hpc : w.pc = .setParameters c newModem) :
      Effect w (.setRxParameters false)
        { w with
          pc := .respond c .failure .invalidRequest none, destroyed := newModem :: w.destroyed } none
  | lock (c : Item RxCommand) (newModem : Nat) (hpc : w.pc = .lock c newModem)
      (hm : w.mutex = none) :
      Effect w .nothing { w with mutex := some .worker, pc := .swap c newModem } none
  | swap (c : Item RxCommand) (newModem : Nat) (hpc : w.pc = .swap c newModem) :
      Effect w .nothing { w with modem := some newModem, pc := .unlock c newModem w.modem } none
  | unlock (c : Item RxCommand) (newModem : Nat) (oldModem : Option Nat)
      (hpc : w.pc = .unlock c newModem oldModem) :
      Effect w .nothing { w with mutex := none, pc := .destroyOld c newModem oldModem } none
  | destroyOld (c : Item RxCommand) (newModem : Nat) (oldModem : Option Nat)
      (hpc : w.pc = .destroyOld c newModem oldModem) :
      Effect w .nothing
        { w with
          destroyed := oldModem.toList ++ w.destroyed
          pc := .respond c .success .noDetails (some newModem) } none
  | respond (c : Item RxCommand) (status : ResponseStatus) (details : ResponseDetails)
      (modem : Option Nat) (hpc : w.pc = .respond c status details modem) :
      Effect w .nothing { w with pc := .complete c }
        (some ⟨.response c.val.requestId status details, c.tag, modem, none⟩)
  | complete (c : Item RxCommand) (hpc : w.pc = .complete c) :
      Effect w .nothing
        { w with
          queue := { w.queue with inFlight := none }, handled := w.handled ++ [c], pc := .checkRx }
        none
  | again (r) (hpc : w.pc = .checkRx) : Effect w r { w with pc := .loop } none
  | deviceError (code : Int) (outputLen : Nat) (hpc : w.pc = .checkRx) (hcode : ¬ code < -1)
      (herror : code ≠ 0 ∧ outputLen = 0) :
      Effect w (.processRx code outputLen) { w with pc := .finished } none
  | samples (r) (hpc : w.pc = .checkRx) (hrx : w.rxEnabled = true) :
      Effect w r { w with pc := .callback .lock } none
  | callback (r) (pc : CallbackPc) (w' : RxWorker) (pc' : Option CallbackPc) (sent : Option Sent)
      (hpc : w.pc = .callback pc) (hcb : w.callbackStep .worker pc r = some (w', pc', sent)) :
      Effect w r { w' with pc := .ofCallback pc' } sent

theorem loopStep_effect {w w' : RxWorker} (hpc : w.pc = .loop) (h : w.loopStep = some w') :
    Effect w .nothing w' none := by
  unfold loopStep at h
  split at h
  · cases h; exact .receive _ _ hpc ‹_›
  · split at h
    · cases h; exact .peakMiss hpc ‹_› ‹_›
    · split at h
      · cases h; exact .stopped hpc ‹_› ‹_›
      · cases h

theorem handleStep_effect {w w' : RxWorker} {c : Item RxCommand} {r : RxResult}
    (hpc : w.pc = .handle c) (h : w.handleStep c r = some w') : Effect w r w' none := by
  have hanswer : ∀ {rxEnabled streaming : Bool} {r : RxResult} (cmd : RxCommand), c.val = cmd →
      Switch w cmd rxEnabled streaming → ∀ status details, Effect w r { w with
        pc := .respond c status details none, rxEnabled := rxEnabled, streaming := streaming } none :=
    fun cmd hval hswitch status details => .answer _ c status details _ _ hpc (hval ▸ hswitch)
  unfold handleStep at h
  split at h
  · rename_i id buffer hval
    split at h
    · cases h; exact hanswer _ hval (.parameters id buffer) _ _
    · cases h
  · rename_i id buffer ok hval
    split at h
    · cases h
    · split at h
      · rename_i hok
        rw [hok]
        cases h
        exact .created c id buffer hpc hval
      · cases h; exact hanswer _ hval (.parameters id buffer) _ _
  · rename_i id hval
    split at h
    · cases h; exact hanswer _ hval (.alreadyOn id ‹_›) _ _
    · cases h
  · rename_i id streaming hval
    split at h
    · cases h
    · cases h; exact hanswer _ hval (.on id streaming (Bool.not_eq_true _ ▸ ‹_›)) _ _
  · rename_i id hval
    split at h
    · split at h
      · cases h; exact hanswer _ hval (.off id ‹_› ‹_›) _ _
      · cases h
    · cases h; exact hanswer _ hval (.alreadyOff id (Bool.not_eq_true _ ▸ ‹_›)) _ _
  · cases h

theorem checkRxStep_effect {w w' : RxWorker} {r : RxResult} (hpc : w.pc = .checkRx)
    (h : w.checkRxStep r = some w') : Effect w r w' none := by
  unfold checkRxStep at h
  split at h
  · rename_i hrx
    split at h
    · split at h
      · cases h; exact .again _ hpc
      · split at h
        · cases h; exact .deviceError _ _ hpc ‹_› ‹_›
        · cases h; exact .samples _ hpc hrx.1
    · cases h
  · split at h
    · cases h; exact .again _ hpc
    · cases h

/-- Every step of the worker has one of these effects. -/
theorem workerStep_effect {w w' : RxWorker} {r : RxResult} {sent : Option Sent}
    (h : w.workerStep r = some (w', sent)) : Effect w r w' sent := by
  unfold workerStep at h
  split at h
  · rename_i hpc
    obtain ⟨v, hv, he⟩ := Option.map_eq_some_iff.mp h
    cases he
    exact loopStep_effect hpc hv
  · rename_i c hpc
    obtain ⟨v, hv, he⟩ := Option.map_eq_some_iff.mp h
    cases he
    exact handleStep_effect hpc hv
  · rename_i c m ok hpc
    split at h
    · rename_i hok
      rw [hok]
      cases h; exact .parametersSet c m hpc
    · rename_i hok
      rw [Bool.not_eq_true] at hok
      rw [hok]
      cases h; exact .parametersFailed c m hpc
  · split at h
    · cases h; exact .lock _ _ ‹_› ‹_›
    · cases h
  · cases h; exact .swap _ _ ‹_›
  · cases h; exact .unlock _ _ _ ‹_›
  · cases h; exact .destroyOld _ _ _ ‹_›
  · cases h; exact .respond _ _ _ _ ‹_›
  · cases h; exact .complete _ ‹_›
  · rename_i hpc
    obtain ⟨v, hv, he⟩ := Option.map_eq_some_iff.mp h
    cases he
    exact checkRxStep_effect hpc hv
  · rename_i pc hpc
    obtain ⟨⟨v, pc', sent'⟩, hv, he⟩ := Option.map_eq_some_iff.mp h
    cases he
    exact .callback _ pc v pc' _ hpc hv
  · cases h

/-- What a step of the callback can do. -/
inductive CallbackEffect (user : ModemUser) (w : RxWorker) :
    CallbackPc → RxResult → RxWorker → Option CallbackPc → Option Sent → Prop where
  | lock (hm : w.mutex = none) :
      CallbackEffect user w .lock .nothing { w with mutex := some user } (some .demodulate) none
  | noModem (hm : w.modem = none) :
      CallbackEffect user w .demodulate .nothing w (some (.unlock none)) none
  | demodulate (m : Nat) (output : Option (List UInt8)) (hm : w.modem = some m) :
      CallbackEffect user w .demodulate (.demodulate output) w
        (some (.unlock (output.map fun bits => (m, bits)))) none
  | unlock (output : Option (Nat × List UInt8)) :
      CallbackEffect user w (.unlock output) .nothing { w with mutex := none }
        (output.map fun (m, bits) => .send m bits) none
  | send (owner : Nat) (bits : List UInt8) :
      CallbackEffect user w (.send owner bits) .nothing { w with requestId := w.requestId + 1 } none
        (some ⟨.softBits w.requestId bits, none, some owner, none⟩)

theorem callbackStep_effect {user : ModemUser} {w w' : RxWorker} {pc : CallbackPc} {r : RxResult}
    {pc' : Option CallbackPc} {sent : Option Sent}
    (h : w.callbackStep user pc r = some (w', pc', sent)) :
    CallbackEffect user w pc r w' pc' sent := by
  unfold callbackStep at h
  split at h
  · split at h
    · cases h; exact .lock ‹_›
    · cases h
  · split at h
    · cases h; exact .noModem ‹_›
    · cases h
  · obtain ⟨m, hm, he⟩ := Option.map_eq_some_iff.mp h
    cases he; exact .demodulate m _ hm
  · cases h; exact .unlock _
  · cases h; exact .send _ _
  · cases h

/-- **The callback touches only the mutex and the number of the next soft bits.** -/
theorem callbackStep_frame {user : ModemUser} {w w' : RxWorker} {pc : CallbackPc} {r : RxResult}
    {pc' : Option CallbackPc} {sent : Option Sent}
    (h : w.callbackStep user pc r = some (w', pc', sent)) :
    w' = { w with mutex := w'.mutex, requestId := w'.requestId } := by
  cases callbackStep_effect h <;> rfl

/-! ## The queue of the worker -/

end RxWorker

/-- The command the worker has taken and not yet completed. -/
def RxPc.command? : RxPc → Option (Item RxCommand)
  | .handle c | .setParameters c _ | .lock c _ | .swap c _ | .unlock c _ _ | .destroyOld c _ _
  | .respond c _ _ _ | .complete c => some c
  | .loop | .checkRx | .callback _ | .finished => none

namespace RxWorker

/-- **The commands are accounted for**: the one in processing is the one the queue
has in flight, and what was accepted is what was handled, that one, and what is
pending. -/
structure QueueInv (w : RxWorker) : Prop where
  inFlight : w.queue.inFlight = w.pc.command?
  accounted : w.accepted = w.handled ++ w.queue.inFlight.toList ++ w.queue.pending

@[simp] theorem command?_ofCallback (pc : Option CallbackPc) :
    (RxPc.ofCallback pc).command? = none := by
  cases pc <;> rfl

theorem Effect.queueInv {w w' : RxWorker} {r : RxResult} {sent : Option Sent}
    (h : Effect w r w' sent) (hw : w.QueueInv) : w'.QueueInv := by
  obtain ⟨hf, ha⟩ := hw
  cases h with
  | receive c rest hpc hq =>
    rw [hpc] at hf
    refine ⟨rfl, ?_⟩
    show w.accepted = w.handled ++ [c] ++ rest
    rw [ha, hf, hq]
    simp [RxPc.command?]
  | complete c hpc =>
    rw [hpc] at hf
    refine ⟨rfl, ?_⟩
    show w.accepted = w.handled ++ [c] ++ [] ++ w.queue.pending
    rw [ha, hf]
    simp [RxPc.command?]
  | callback _ pc w' pc' _ hpc hcb =>
    have hframe := callbackStep_frame hcb
    rw [hpc] at hf
    have hq : w'.queue = w.queue := by rw [hframe]
    have hacc : w'.accepted = w.accepted := by rw [hframe]
    have hh : w'.handled = w.handled := by rw [hframe]
    refine ⟨?_, ?_⟩
    · show w'.queue.inFlight = (RxPc.ofCallback pc').command?
      rw [hq, hf, command?_ofCallback]
      rfl
    · show w'.accepted = w'.handled ++ w'.queue.inFlight.toList ++ w'.queue.pending
      rw [hacc, hh, hq]
      exact ha
  | _ => exact ⟨by rw [hf, ‹w.pc = _›]; rfl, ha⟩

/-- A step that leaves the loop: the queue is closed and empty, or the device has
failed without samples. -/
theorem Effect.finished {w w' : RxWorker} {r : RxResult} {sent : Option Sent}
    (h : Effect w r w' sent) (hfin : w'.pc = .finished) :
    w.pc ≠ .finished ∧ w'.queue = w.queue ∧
      ((w.queue.pending = [] ∧ w.queue.closed = true) ∨
        ∃ code outputLen, r = .processRx code outputLen ∧ ¬ code < -1 ∧ code ≠ 0 ∧ outputLen = 0) := by
  cases h with
  | stopped hpc hq hclosed => exact ⟨by rw [hpc]; exact nofun, rfl, Or.inl ⟨hq, hclosed⟩⟩
  | deviceError code len hpc hcode herror =>
    exact ⟨by rw [hpc]; exact nofun, rfl, Or.inr ⟨code, len, rfl, hcode, herror⟩⟩
  | callback _ pc w' pc' _ hpc hcb =>
    cases pc' <;> cases hfin
  | _ => cases hfin

theorem deviceStep_frame {w w' : RxWorker} {r : RxResult} {sent : Option Sent}
    (h : w.deviceStep r = some (w', sent)) :
    w' = { w with mutex := w'.mutex, requestId := w'.requestId, device := w'.device } := by
  unfold deviceStep at h
  split at h
  · split at h
    · cases h; rfl
    · cases h
  · obtain ⟨⟨v, pc', sent'⟩, hv, he⟩ := Option.map_eq_some_iff.mp h
    cases he
    have hframe := callbackStep_frame hv
    rw [hframe]

/-- What `queue_put` can do to the worker. -/
theorem put_cases {bufferSize : Nat} {w w' : RxWorker} {c : Item RxCommand}
    (h : w.put bufferSize c = some w') :
    (w.queue.closed = false ∧ fitsRx bufferSize c = true ∧
      w' = { w with
        queue := { w.queue with pending := w.queue.pending ++ [c] }
        accepted := w.accepted ++ [c] }) ∨
    ((w.queue.closed = true ∨ fitsRx bufferSize c = false) ∧ w' = w) := by
  unfold put at h
  split at h
  · rename_i q hq
    cases h
    obtain ⟨hc, hf, -, rfl⟩ := step_put hq
    exact Or.inl ⟨hc, hf, rfl⟩
  · obtain ⟨q, hq, rfl⟩ := Option.map_eq_some_iff.mp h
    simp only [BoundedFifo.step] at hq
    split at hq
    · cases hq; exact Or.inr ⟨‹_›, rfl⟩
    · cases hq

end RxWorker

namespace RxRun

/-- What is true of a worker in every run: its commands are accounted for, and it
has finished only if its queue is closed and empty. -/
structure Alive (s : RxRun) : Prop where
  queue : s.worker.QueueInv
  finished : s.worker.pc = .finished → s.worker.queue.closed = true ∧ s.worker.queue.pending = []

/-- **The device does not fail without samples**, unless the worker has nothing
left to do anyway. -/
def DeviceWorks (s : RxRun) (l : RxLabel) : Prop :=
  ∀ code outputLen, l = .worker (.processRx code outputLen) →
    code < -1 ∨ code = 0 ∨ outputLen ≠ 0 ∨
      (s.worker.queue.closed = true ∧ s.worker.queue.pending = [])

theorem step_alive {bufferSize : Nat} {s t : RxRun} {l : RxLabel} (hl : s.DeviceWorks l)
    (h : s.step bufferSize l = some t) (hs : s.Alive) : t.Alive := by
  obtain ⟨hq, hfin⟩ := hs
  cases l with
  | put c =>
    obtain ⟨w, hw, rfl⟩ := Option.map_eq_some_iff.mp h
    rcases RxWorker.put_cases hw with ⟨hopen, -, rfl⟩ | ⟨-, rfl⟩
    · refine ⟨⟨hq.inFlight, ?_⟩, fun hf => ?_⟩
      · show s.worker.accepted ++ [c] = s.worker.handled ++ s.worker.queue.inFlight.toList ++
          (s.worker.queue.pending ++ [c])
        rw [hq.accounted]
        simp
      · rw [(hfin hf).1] at hopen
        cases hopen
    · exact ⟨hq, hfin⟩
  | interrupt =>
    cases h
    exact ⟨⟨hq.inFlight, hq.accounted⟩, fun hf => ⟨rfl, (hfin hf).2⟩⟩
  | worker r =>
    obtain ⟨⟨w, sent⟩, hw, rfl⟩ := Option.map_eq_some_iff.mp h
    have he := RxWorker.workerStep_effect hw
    refine ⟨he.queueInv hq, fun hf => ?_⟩
    obtain ⟨-, hsame, hwhy⟩ := he.finished hf
    show w.queue.closed = true ∧ w.queue.pending = []
    rw [hsame]
    rcases hwhy with ⟨hp, hc⟩ | ⟨code, len, rfl, hcode, hne, hlen⟩
    · exact ⟨hc, hp⟩
    · rcases hl code len rfl with h1 | h1 | h1 | h1
      · exact absurd h1 hcode
      · exact absurd h1 hne
      · exact absurd hlen h1
      · exact h1
  | device r =>
    obtain ⟨⟨w, sent⟩, hw, rfl⟩ := Option.map_eq_some_iff.mp h
    have hframe := RxWorker.deviceStep_frame hw
    show Alive ⟨w, _⟩
    rw [hframe]
    exact ⟨⟨hq.inFlight, hq.accounted⟩, hfin⟩

theorem start_alive (pull : Bool) : (start pull).Alive := ⟨⟨rfl, rfl⟩, fun h => by cases h⟩

end RxRun

/-- **The worker does not die while the server is up**: in every run in which the
device never fails without samples, a worker that has left its loop was
interrupted and has handled every command its queue accepted. -/
theorem rx_worker_finishes_after_interrupt {bufferSize : Nat} {pull : Bool} {ls : List RxLabel}
    {s : RxRun} (hrun : Run (RxRun.step bufferSize) RxRun.DeviceWorks (RxRun.start pull) ls s)
    (hfin : s.worker.pc = .finished) :
    s.worker.queue.closed = true ∧ s.worker.handled = s.worker.accepted := by
  have halive := hrun.invariant
    (fun _ _ _ hl hstep hs => RxRun.step_alive hl hstep hs) (RxRun.start_alive pull)
  obtain ⟨hclosed, hpending⟩ := halive.finished hfin
  refine ⟨hclosed, ?_⟩
  rw [halive.queue.accounted, halive.queue.inFlight, hfin, hpending]
  simp [RxPc.command?]

/-- A pull device is started, times out, delivers four samples, for which there is
no modem yet, and is stopped; then the worker is interrupted. -/
theorem rx_worker_finishes_after_stop :
    ∃ s, exec (RxRun.step 64) (RxRun.start true)
        [.put ⟨.start 1, none⟩, .worker .nothing, .worker (.startRx true), .worker .nothing,
          .worker .nothing, .worker (.processRx (-110) 0), .worker .nothing,
          .worker (.processRx 0 4), .worker .nothing, .worker .nothing, .worker .nothing,
          .put ⟨.stop 2, none⟩, .worker .nothing, .worker .nothing, .worker .nothing,
          .worker .nothing, .interrupt, .worker .nothing, .worker .nothing] = some s ∧
      s.worker.queue.closed = true ∧ s.worker.handled = s.worker.accepted := by
  refine exists_exec rfl fun s hs => ?_
  refine rx_worker_finishes_after_interrupt (run_of_labels ?_ hs) ?_
  · intro l hl t code len he
    subst he
    simp at hl
    omega
  · cases hs
    rfl

/-- **A device error kills the worker**: `sdr_process_rx` returns -1 without
samples, the worker leaves its loop although nobody interrupted it, and the
command put afterwards is never handled. -/
theorem rx_worker_dies_on_device_error :
    ∃ s, exec (RxRun.step 64) (RxRun.start true)
        [.put ⟨.start 1, none⟩, .worker .nothing, .worker (.startRx false), .worker .nothing,
          .worker .nothing, .worker (.processRx (-1) 0), .put ⟨.stop 2, none⟩] = some s ∧
      s.worker.pc = .finished ∧ s.worker.queue.closed = false ∧
      s.worker.handled ≠ s.worker.accepted := by
  refine ⟨_, rfl, rfl, rfl, ?_⟩
  decide

end SdrModem
