import SdrModem.Cli
import SdrModem.DemodulatorStream
import SdrModem.Machine

/-!
# Receiving from a device that calls back

The main thread sleeps until `cli_stop` was called, by a signal handler or by the callback
itself.  The byte in the pipe is behind `do_exit`, so whenever the main thread finds the pipe
empty and goes to sleep although `do_exit` is set, the byte is still to come.

The callback writes what the modem makes of each block, and after `do_exit` it does nothing.
-/
namespace SdrModem
open Machine Mealy

namespace Cli
namespace Push
variable {nco : MixNco} {capacity : Nat} {s t : Push nco} {l : PushLabel} {ls : List PushLabel}

/-- **A run**: one step after the other. -/
abbrev run (capacity : Nat) (ls : List PushLabel) (s : Push nco) : Option (Push nco) :=
  ls.foldlM (step capacity) s

/-! ## Inversion -/

/-- **What one step can do.** -/
inductive Effect (capacity : Nat) (s : Push nco) : PushLabel → Push nco → Prop where
  | signal : Effect capacity s .signal { s with doExit := true, handlers := s.handlers + 1 }
  | handlerWrite (hpos : 0 < s.handlers) (hroom : s.wakePipe < capacity) :
      Effect capacity s .handlerWrite
        { s with handlers := s.handlers - 1, wakePipe := s.wakePipe + 1 }
  | ignored (input : List Iq) (room : Nat) (hexit : s.doExit = true) :
      Effect capacity s (.callback input room) s
  | written (input : List Iq) (room : Nat) (modem : ModemRx nco) (output : Option (List Int8))
      (hexit : s.doExit = false) (hcallback : s.callbackStop = false)
      (hdemodulate : s.modem.demodulate input = some (modem, output))
      (hroom : (output.getD []).length ≤ room) :
      Effect capacity s (.callback input room)
        { s with
          modem := modem
          outputFile := s.outputFile ++ output.getD []
          delivered := s.delivered ++ [input] }
  | short (input : List Iq) (room : Nat) (modem : ModemRx nco) (output : Option (List Int8))
      (hexit : s.doExit = false) (hcallback : s.callbackStop = false)
      (hdemodulate : s.modem.demodulate input = some (modem, output))
      (hroom : room < (output.getD []).length) :
      Effect capacity s (.callback input room)
        { s with
          modem := modem
          outputFile := s.outputFile ++ (output.getD []).take room
          delivered := s.delivered ++ [input]
          doExit := true
          callbackStop := true
          short := true }
  | callbackWrite (hcallback : s.callbackStop = true) (hroom : s.wakePipe < capacity) :
      Effect capacity s .callbackWrite
        { s with callbackStop := false, wakePipe := s.wakePipe + 1 }
  | told (r : WakeRead) (hmain : s.main = .check) (hexit : s.doExit = true) :
      Effect capacity s (.main r) { s with main := .stopping }
  | sleeps (r : WakeRead) (hmain : s.main = .check) (hexit : s.doExit = false) :
      Effect capacity s (.main r) { s with main := .reading }
  | wakes (hmain : s.main = .reading) (hpipe : 0 < s.wakePipe) :
      Effect capacity s (.main .byte) { s with main := .check, wakePipe := s.wakePipe - 1 }
  | interrupted (hmain : s.main = .reading) :
      Effect capacity s (.main .interrupted) { s with main := .check }
  | failed (hmain : s.main = .reading) :
      Effect capacity s (.main .failed) { s with main := .stopping }
  | stopped (r : WakeRead) (hmain : s.main = .stopping) (hcallback : s.callbackStop = false) :
      Effect capacity s (.main r) { s with main := .finished }

theorem effect_of_rxCallback {input : List Iq} {room : Nat} (hcallback : s.callbackStop = false)
    (h : s.rxCallback input room = some t) : Effect capacity s (.callback input room) t := by
  unfold rxCallback at h
  split at h
  · cases h
    exact .ignored input room ‹_›
  · rename_i hexit
    obtain ⟨⟨modem, output⟩, hdemodulate, rfl⟩ := Option.map_eq_some_iff.mp h
    have hexit : s.doExit = false := Bool.eq_false_iff.mpr hexit
    rcases Nat.lt_or_ge room (output.getD []).length with hroom | hroom
    · have hshort : decide (((output.getD []).take room).length ≠ (output.getD []).length) =
          true := by
        rw [List.length_take]
        exact decide_eq_true (by omega)
      dsimp only
      rw [hshort, Bool.or_true, Bool.or_true]
      exact .short input room modem output hexit hcallback hdemodulate hroom
    · have hlong : decide (((output.getD []).take room).length ≠ (output.getD []).length) =
          false := by
        rw [List.take_of_length_le hroom]
        exact decide_eq_false (not_not.mpr rfl)
      dsimp only
      rw [hlong, Bool.or_false, Bool.or_false, List.take_of_length_le hroom]
      rw [← hcallback]
      exact .written input room modem output hexit hcallback hdemodulate hroom

theorem step_effect (h : s.step capacity l = some t) : Effect capacity s l t := by
  cases l with
  | signal =>
    cases h
    exact .signal
  | handlerWrite =>
    rw [step] at h
    split at h
    · rename_i hboth
      cases h
      exact .handlerWrite hboth.1 hboth.2
    · cases h
  | callback input room =>
    rw [step] at h
    split at h
    · rename_i hboth
      exact effect_of_rxCallback hboth.2 h
    · cases h
  | callbackWrite =>
    rw [step] at h
    split at h
    · rename_i hboth
      cases h
      exact .callbackWrite hboth.1 hboth.2
    · cases h
  | main r =>
    change s.mainStep r = some t at h
    unfold mainStep at h
    cases hmain : s.main with
    | check =>
      rw [hmain] at h
      dsimp only at h
      by_cases hexit : s.doExit = true
      · rw [if_pos hexit] at h
        cases h
        exact .told r hmain hexit
      · rw [if_neg hexit] at h
        cases h
        exact .sleeps r hmain (Bool.eq_false_iff.mpr hexit)
    | reading =>
      rw [hmain] at h
      cases r with
      | byte =>
        dsimp only at h
        split at h
        · cases h
        · cases h
          exact .wakes hmain (Nat.pos_of_ne_zero ‹_›)
      | interrupted =>
        cases h
        exact .interrupted hmain
      | failed =>
        cases h
        exact .failed hmain
    | stopping =>
      rw [hmain] at h
      dsimp only at h
      split at h
      · cases h
      · cases h
        exact .stopped r hmain (Bool.eq_false_iff.mpr ‹_›)
    | finished =>
      rw [hmain] at h
      cases h

/-! ## Nobody sleeps through a stop -/

/-- The bytes in the pipe, and those that are still to come. -/
def load (s : Push nco) : Nat := s.wakePipe + s.handlers + s.callbackStop.toNat

/-- **The invariant of the pipe.** -/
structure Woken (s : Push nco) : Prop where
  /-- asleep although it is to stop: there is a byte, or one is on its way -/
  byte : s.doExit = true → s.main = .reading → 0 < s.load
  short : s.short = true → s.doExit = true

theorem Effect.woken (h : Effect capacity s l t) (hs : s.Woken) : t.Woken := by
  obtain ⟨hbyte, hshort⟩ := hs
  cases h with
  | signal =>
    refine ⟨fun _ _ => ?_, fun _ => rfl⟩
    dsimp only [load]
    omega
  | handlerWrite hpos hroom =>
    refine ⟨fun _ _ => ?_, hshort⟩
    dsimp only [load]
    omega
  | ignored => exact ⟨hbyte, hshort⟩
  | written => exact ⟨hbyte, hshort⟩
  | short =>
    refine ⟨fun _ _ => ?_, fun _ => rfl⟩
    dsimp only [load, Bool.toNat_true]
    omega
  | callbackWrite =>
    refine ⟨fun _ _ => ?_, hshort⟩
    dsimp only [load]
    omega
  | sleeps r hmain hexit =>
    exact ⟨fun h => absurd h (by rw [hexit]; exact Bool.false_ne_true), hshort⟩
  | told => exact ⟨nofun, hshort⟩
  | wakes => exact ⟨nofun, hshort⟩
  | interrupted => exact ⟨nofun, hshort⟩
  | failed => exact ⟨nofun, hshort⟩
  | stopped => exact ⟨nofun, hshort⟩

theorem woken_start (modem : ModemRx nco) : (start modem).Woken := ⟨nofun, nofun⟩

/-- The main thread is behind its loop because it was told to stop. -/
def Told (s : Push nco) : Prop := s.main = .stopping ∨ s.main = .finished → s.doExit = true

theorem Effect.told_of_ne_failed (h : Effect capacity s l t) (hl : l ≠ .main .failed)
    (hs : s.Told) : t.Told := by
  cases h with
  | signal => exact fun _ => rfl
  | short => exact fun _ => rfl
  | told r hmain hexit => exact fun _ => hexit
  | sleeps => exact nofun
  | wakes => exact nofun
  | interrupted => exact nofun
  | failed => exact absurd rfl hl
  | stopped r hmain => exact fun _ => hs (Or.inl hmain)
  | _ => exact hs

/-! ## How many bytes there are -/

/-- **Every byte is of a call of `cli_stop`**: of a signal, or of the callback, which makes one
call at most. -/
theorem Effect.load_le (h : Effect capacity s l t) (hs : s.Woken) :
    t.load + s.short.toNat ≤ s.load + t.short.toNat + if l = .signal then 1 else 0 := by
  cases h with
  | signal =>
    rw [if_pos rfl]
    dsimp only [load]
    omega
  | short _ _ _ _ hexit hcallback =>
    have hnever : s.short = false :=
      Bool.eq_false_iff.mpr fun h => absurd (hs.short h) (by rw [hexit]; exact Bool.false_ne_true)
    dsimp only [load]
    rw [hnever, hcallback, Bool.toNat_true, Bool.toNat_false]
    omega
  | callbackWrite hcallback =>
    dsimp only [load]
    rw [hcallback, Bool.toNat_true, Bool.toNat_false]
    omega
  | _ =>
    dsimp only [load]
    omega

theorem load_le_of_run (hrun : run capacity ls s = some t) (hs : s.Woken) :
    t.load + s.short.toNat ≤ s.load + t.short.toNat + ls.count .signal := by
  induction ls generalizing s with
  | nil =>
    cases hrun
    exact Nat.le_add_right _ _
  | cons l ls ih =>
    obtain ⟨u, hu, hrest⟩ := foldlM_cons_some hrun
    have hfirst := (step_effect hu).load_le hs
    have hlater := ih hrest ((step_effect hu).woken hs)
    rw [List.count_cons]
    simp only [beq_iff_eq]
    omega

/-! ## How long the main thread takes -/

/-- The steps of the main thread until it is finished. -/
def stepsLeft : MainPc → Nat
  | .reading => 3
  | .check => 2
  | .stopping => 1
  | .finished => 0

/-- The steps of the main thread. -/
def isMain : PushLabel → Bool
  | .main _ => true
  | _ => false

theorem Effect.stepsLeft_le (h : Effect capacity s l t) (hs : s.doExit = true) :
    t.doExit = true ∧
      stepsLeft t.main + (if isMain l = true then 1 else 0) ≤ stepsLeft s.main := by
  cases h with
  | sleeps r hmain hexit => rw [hs] at hexit; cases hexit
  | short _ _ _ _ hexit => rw [hs] at hexit; cases hexit
  | signal => exact ⟨rfl, le_refl _⟩
  | told r hmain hexit => exact ⟨hexit, by rw [hmain]; exact le_refl _⟩
  | wakes hmain => exact ⟨hs, by rw [hmain]; exact le_refl _⟩
  | interrupted hmain => exact ⟨hs, by rw [hmain]; exact le_refl _⟩
  | failed hmain => exact ⟨hs, by rw [hmain]; exact Nat.le_succ _⟩
  | stopped r hmain => exact ⟨hs, by rw [hmain]; exact le_refl _⟩
  | _ => exact ⟨hs, le_refl _⟩

theorem countP_isMain_le (hrun : run capacity ls s = some t) (hs : s.doExit = true) :
    ls.countP isMain ≤ stepsLeft s.main := by
  induction ls generalizing s with
  | nil => exact Nat.zero_le _
  | cons l ls ih =>
    obtain ⟨u, hu, hrest⟩ := foldlM_cons_some hrun
    obtain ⟨hexit, hfirst⟩ := (step_effect hu).stepsLeft_le hs
    have hlater := ih hrest hexit
    rw [List.countP_cons]
    omega

end Push

/-- **A stop reaches the main thread.**  Take any run of the threads.  If the pipe has room for a
byte of every signal and one more, no call of `cli_stop` ever waits.  Once `do_exit` is set, the
main thread takes at most three more steps, and as soon as no call of `cli_stop` is under way its
next step can be taken without `EINTR`: if it is asleep there is a byte to wake it.  And unless
`read` fails, it is not behind its loop before `do_exit` is set. -/
theorem cli_stop_wakes {nco : MixNco} {capacity : Nat} {modem : ModemRx nco}
    {ls : List PushLabel} {s : Push nco}
    (hrun : (Push.start modem).run capacity ls = some s) :
    (ls.count .signal + 1 ≤ capacity → 0 < s.handlers ∨ s.callbackStop = true →
      s.wakePipe < capacity) ∧
    (s.doExit = true →
      (∀ more t, s.run capacity more = some t → more.countP Push.isMain ≤ 3) ∧
      (s.handlers = 0 → s.callbackStop = false → s.main ≠ .finished →
        ∃ t, s.step capacity (.main .byte) = some t)) ∧
    ((∀ l ∈ ls, l ≠ .main .failed) → s.main = .stopping ∨ s.main = .finished →
      s.doExit = true) := by
  have hwoken := foldlM_invariant
    (fun _ _ _ _ hstep hs => (Push.step_effect hstep).woken hs) hrun (Push.woken_start modem)
  refine ⟨fun hsignals hstopping => ?_, fun hexit => ⟨fun more t hmore => ?_, ?_⟩, fun hread => ?_⟩
  · have hload := Push.load_le_of_run hrun (Push.woken_start modem)
    have hshort := Bool.toNat_le s.short
    dsimp only [Push.load, Push.start, Bool.toNat_false] at hload
    rcases hstopping with hhandlers | hcallback
    · omega
    · rw [hcallback, Bool.toNat_true] at hload
      omega
  · refine (Push.countP_isMain_le hmore hexit).trans ?_
    cases s.main <;> decide
  · intro hhandlers hcallback hmain
    cases hpc : s.main with
    | check =>
      refine ⟨{ s with main := .stopping }, ?_⟩
      simp only [Push.step, Push.mainStep, hpc]
      rw [if_pos hexit]
    | reading =>
      have hbyte := hwoken.byte hexit hpc
      rw [Push.load, hhandlers, hcallback, Bool.toNat_false] at hbyte
      refine ⟨{ s with main := .check, wakePipe := s.wakePipe - 1 }, ?_⟩
      simp only [Push.step, Push.mainStep, hpc]
      exact if_neg (by omega)
    | stopping =>
      refine ⟨{ s with main := .finished }, ?_⟩
      simp only [Push.step, Push.mainStep, hpc, hcallback]
      rfl
    | finished => exact absurd hpc hmain
  · exact foldlM_invariant
      (fun _ l hl _ hstep hs => (Push.step_effect hstep).told_of_ne_failed (hread l hl) hs)
      hrun nofun

/-- A signal comes when the main thread has gone to sleep, and its byte wakes it. -/
theorem cli_stop_wakes_sleeping :
    ∃ m, ModemRx.create FreqOffset.stillNco directRxConfig none 0 4 = some m ∧
      ∃ s, (Push.start m).run 65536 [.main .byte, .signal, .handlerWrite] = some s ∧
        s.main = .reading ∧ (∃ t, s.step 65536 (.main .byte) = some t) ∧
        ∀ more t, s.run 65536 more = some t → more.countP Push.isMain ≤ 3 := by
  obtain ⟨m, hm⟩ : ∃ m, ModemRx.create FreqOffset.stillNco directRxConfig none 0 4 = some m :=
    ⟨_, rfl⟩
  obtain ⟨s, hs⟩ : ∃ s, (Push.start m).run 65536 [.main .byte, .signal, .handlerWrite] = some s :=
    ⟨_, rfl⟩
  obtain ⟨-, hstops, -⟩ := cli_stop_wakes hs
  cases hs
  obtain ⟨hfew, hwakes⟩ := hstops rfl
  exact ⟨m, hm, _, rfl, rfl, hwakes rfl rfl nofun, hfew⟩

/-! ## What is written -/

namespace Push
variable {nco : MixNco} {stage : Stage.{1} Iq Int8} {R : ModemRx nco → stage.State → Prop}
variable {limit : Nat} {start : stage.State} {capacity : Nat} {s t : Push nco} {l : PushLabel}

/-- **The file is what the stage makes of the blocks**, unless `fwrite` failed. -/
structure Writes (R : ModemRx nco → stage.State → Prop) (limit : Nat) (start : stage.State)
    (s : Push nco) : Prop where
  modem : R s.modem (stage.run start s.delivered.flatten).1
  begun : s.outputFile <+: (stage.run start s.delivered.flatten).2
  whole : s.short = false → s.outputFile = (stage.run start s.delivered.flatten).2
  short : s.short = true → s.doExit = true
  limit : ∀ input ∈ s.delivered, input.length ≤ limit

/-- The blocks of the callbacks of a run. -/
def blocks (ls : List PushLabel) : List (List Iq) :=
  ls.filterMap fun
    | .callback input _ => some input
    | _ => none

/-- One block more. -/
theorem Writes.demodulate (hrefines : Refines (accepted ModemRx.demodulate) limit stage R)
    (hs : s.Writes R limit start) {input : List Iq} (hinput : input.length ≤ limit)
    {modem : ModemRx nco} {output : Option (List Int8)}
    (hdemodulate : s.modem.demodulate input = some (modem, output)) :
    R modem (stage.run start (s.delivered ++ [input]).flatten).1 ∧
      (stage.run start (s.delivered ++ [input]).flatten).2 =
        (stage.run start s.delivered.flatten).2 ++ output.getD [] := by
  obtain ⟨m, hcall, hmt⟩ := hrefines _ _ hs.modem input hinput
  rw [accepted, hdemodulate, Option.bind_some] at hcall
  obtain ⟨bits, rfl, hbits⟩ := Option.map_eq_some_iff.mp hcall
  obtain ⟨rfl, rfl⟩ := Prod.mk.inj hbits
  rw [List.flatten_append, List.flatten_singleton, stage.streaming.append]
  exact ⟨hmt, rfl⟩

/-- The modem takes every block. -/
theorem Writes.rxCallback (hrefines : Refines (accepted ModemRx.demodulate) limit stage R)
    (hs : s.Writes R limit start) {input : List Iq} (hinput : input.length ≤ limit) (room : Nat) :
    ∃ t, s.rxCallback input room = some t := by
  unfold Push.rxCallback
  split
  · exact ⟨s, rfl⟩
  · obtain ⟨m, hcall, -⟩ := hrefines _ _ hs.modem input hinput
    obtain ⟨output, houtput, -⟩ := Option.bind_eq_some_iff.mp hcall
    rw [houtput]
    exact ⟨_, rfl⟩

theorem Effect.writes (hrefines : Refines (accepted ModemRx.demodulate) limit stage R)
    (h : Effect capacity s l t) (hl : ∀ input room, l = .callback input room → input.length ≤ limit)
    (hs : s.Writes R limit start) : t.Writes R limit start := by
  have hlimit : ∀ input, input.length ≤ limit →
      ∀ block ∈ s.delivered ++ [input], block.length ≤ limit := by
    intro input hinput block hblock
    rcases List.mem_append.mp hblock with hold | hnew
    · exact hs.limit block hold
    · rw [List.mem_singleton.mp hnew]
      exact hinput
  cases h with
  | signal => exact ⟨hs.modem, hs.begun, hs.whole, fun _ => rfl, hs.limit⟩
  | written input room modem output hexit hcallback hdemodulate hroom =>
    have hinput := hl input room rfl
    obtain ⟨hmodem, houtput⟩ := hs.demodulate hrefines hinput hdemodulate
    have hwhole := hs.whole (Bool.eq_false_iff.mpr fun h =>
      absurd (hs.short h) (by rw [hexit]; exact Bool.false_ne_true))
    have hwritten : s.outputFile ++ output.getD [] =
        (stage.run start (s.delivered ++ [input]).flatten).2 := by
      rw [houtput, hwhole]
    exact ⟨hmodem, hwritten ▸ List.prefix_refl _, fun _ => hwritten, hs.short, hlimit input hinput⟩
  | short input room modem output hexit hcallback hdemodulate hroom =>
    have hinput := hl input room rfl
    obtain ⟨hmodem, houtput⟩ := hs.demodulate hrefines hinput hdemodulate
    have hwhole := hs.whole (Bool.eq_false_iff.mpr fun h =>
      absurd (hs.short h) (by rw [hexit]; exact Bool.false_ne_true))
    refine ⟨hmodem, ?_, nofun, fun _ => rfl, hlimit input hinput⟩
    dsimp only
    rw [houtput, hwhole]
    exact (List.prefix_append_right_inj _).mpr (List.take_prefix _ _)
  | _ => exact ⟨hs.modem, hs.begun, hs.whole, hs.short, hs.limit⟩

/-- A block is demodulated unless the run is to stop. -/
theorem Effect.delivered (h : Effect capacity s l t) :
    (s.doExit = true → t.doExit = true ∧ t.delivered = s.delivered) ∧
    (s.doExit = false → t.delivered = s.delivered ++ blocks [l]) := by
  have hnil : s.delivered = s.delivered ++ [] := (List.append_nil _).symm
  cases h with
  | signal => exact ⟨fun _ => ⟨rfl, rfl⟩, fun _ => hnil⟩
  | ignored input room hexit =>
    refine ⟨fun _ => ⟨hexit, rfl⟩, fun h => ?_⟩
    rw [hexit] at h
    cases h
  | written input room modem output hexit =>
    refine ⟨fun h => ?_, fun _ => rfl⟩
    rw [hexit] at h
    cases h
  | short input room modem output hexit =>
    refine ⟨fun h => ?_, fun _ => rfl⟩
    rw [hexit] at h
    cases h
  | _ => exact ⟨fun h => ⟨h, rfl⟩, fun _ => hnil⟩

/-- **No block is lost before the stop.** -/
theorem delivered_run {ls : List PushLabel} (hrun : run capacity ls s = some t) :
    ∃ more, t.delivered = s.delivered ++ more ∧ more <+: blocks ls ∧
      (s.doExit = true → more = [] ∧ t.doExit = true) ∧
      (t.doExit = false → more = blocks ls) := by
  induction ls generalizing s with
  | nil =>
    cases hrun
    exact ⟨[], (List.append_nil _).symm, List.nil_prefix, fun h => ⟨rfl, h⟩, fun _ => rfl⟩
  | cons l ls ih =>
    obtain ⟨u, hu, hrest⟩ := foldlM_cons_some hrun
    obtain ⟨hstopped, hrunning⟩ := (step_effect hu).delivered
    obtain ⟨more, hmore, hprefix, hexit, hall⟩ := ih hrest
    have hblocks : blocks (l :: ls) = blocks [l] ++ blocks ls := List.filterMap_append (l := [l])
    cases hs : s.doExit with
    | true =>
      obtain ⟨hexit', hsame⟩ := hstopped hs
      obtain ⟨rfl, ht⟩ := hexit hexit'
      refine ⟨[], by rw [hmore, hsame], List.nil_prefix, fun _ => ⟨rfl, ht⟩, fun h => ?_⟩
      rw [ht] at h
      cases h
    | false =>
      refine ⟨blocks [l] ++ more, ?_, ?_, fun h => (by cases h), fun h => ?_⟩
      · rw [hmore, hrunning hs, List.append_assoc]
      · rw [hblocks]
        exact (List.prefix_append_right_inj _).mpr hprefix
      · rw [hall h, hblocks]

end Push

/-- **The callback writes the soft bits of the stream**, without a file with frequency offsets.  In
every run of the threads the callback takes every block, up to the byte of `cli_stop`, and the
blocks that were demodulated are the first ones that the device delivered, and all of them as long
as `do_exit` is not set.  What is in the file is the beginning of their soft bits, and all of them
unless `fwrite` failed; and these are the same however the samples are cut into blocks. -/
theorem cli_callbacks_write_stream {nco : MixNco} {config : SdrModemRxConfig} {n : Nat}
    {bufferSize : UInt32} {modem : ModemRx nco}
    (hm : ModemRx.create nco config none n bufferSize = some modem) {capacity : Nat}
    {ls : List PushLabel} {s : Push nco} (hrun : (Push.start modem).run capacity ls = some s)
    (hblocks : ∀ input ∈ Push.blocks ls, input.length ≤ bufferSize.toNat) :
    (∀ input room, input.length ≤ bufferSize.toNat → s.main ≠ .finished → s.callbackStop = false →
      ∃ t, s.step capacity (.callback input room) = some t) ∧
    s.delivered <+: Push.blocks ls ∧ (s.doExit = false → s.delivered = Push.blocks ls) ∧
    ∃ bits, s.outputFile <+: bits ∧ (s.short = false → s.outputFile = bits) ∧
      ∀ inputs : List (List Iq), (∀ input ∈ inputs, input.length ≤ bufferSize.toNat) →
        inputs.flatten = s.delivered.flatten →
          modem.modem.demodulateCalls inputs = some bits := by
  obtain ⟨rx, hrx, rfl⟩ := ModemRx.create_none hm
  obtain ⟨more, hmore, hprefix, -, hall⟩ := Push.delivered_run hrun
  rw [Push.start, List.nil_append] at hmore
  subst hmore
  obtain ⟨stage, R, state, hstream, hmt⟩ := SdrModemRx.streams hrx
  have hrefines := @ModemRx.refines nco _ _ _ hstream
  have hstart : (Push.start (⟨none, rx⟩ : ModemRx nco)).Writes
      (fun m t => m.freqOffset = none ∧ R m.modem t) bufferSize.toNat state := by
    have hnil := stage.streaming.nil state
    refine ⟨?_, List.nil_prefix, fun _ => ?_, nofun, nofun⟩
    · rw [Push.start, List.flatten_nil, hnil]
      exact ⟨rfl, hmt⟩
    · rw [Push.start, List.flatten_nil, hnil]
  have hwrites : s.Writes (fun m t => m.freqOffset = none ∧ R m.modem t) bufferSize.toNat
      state := by
    refine foldlM_invariant (fun s l hl t hstep hs => ?_) hrun hstart
    refine (Push.step_effect hstep).writes hrefines (fun input room heq => hblocks input ?_) hs
    exact List.mem_filterMap.mpr ⟨l, hl, by rw [heq]⟩
  refine ⟨fun input room hinput hmain hcallback => ?_, hprefix, hall, _, hwrites.begun,
    hwrites.whole, fun inputs hinputs hsame => ?_⟩
  · rw [Push.step, if_pos ⟨hmain, hcallback⟩]
    exact hwrites.rxCallback hrefines hinput room
  · rw [← hsame]
    exact hstream.calls_eq hmt hinputs

/-- The main thread is asleep, and a block of two samples comes: there is a soft bit. -/
theorem cli_callbacks_write_two_samples :
    ∃ m, ModemRx.create FreqOffset.stillNco directRxConfig none 0 4 = some m ∧
      ∃ s, (Push.start m).run 65536 [.main .byte, .callback [⟨1, 0⟩, ⟨0, 1⟩] 100] = some s ∧
        ∃ bits, bits.length = 1 ∧ s.outputFile = bits ∧
          m.modem.demodulateCalls [[⟨1, 0⟩], [], [⟨0, 1⟩]] = some bits := by
  obtain ⟨m, hm⟩ : ∃ m, ModemRx.create FreqOffset.stillNco directRxConfig none 0 4 = some m :=
    ⟨_, rfl⟩
  have hsleeps : (Push.start m).run 65536 [.main .byte] =
      some { Push.start m with main := .reading } := rfl
  obtain ⟨hreturns, -⟩ := cli_callbacks_write_stream hm hsleeps nofun
  obtain ⟨s, hs⟩ := hreturns [⟨1, 0⟩, ⟨0, 1⟩] 100 (by decide) nofun rfl
  have hrun : (Push.start m).run 65536 [.main .byte, .callback [⟨1, 0⟩, ⟨0, 1⟩] 100] = some s := by
    change (Push.step 65536 { Push.start m with main := .reading } _).bind some = some s
    rw [hs]
    rfl
  obtain ⟨-, -, -, bits, -, hwhole, hbits⟩ := cli_callbacks_write_stream hm hrun (by decide)
  have hdelivered : s.delivered = [[⟨1, 0⟩, ⟨0, 1⟩]] := (Push.step_effect hs).delivered.2 rfl
  have hcalls := hbits [[⟨1, 0⟩], [], [⟨0, 1⟩]] (by decide) (by rw [hdelivered]; rfl)
  have hlength : (m.modem.demodulateCalls [[⟨1, 0⟩], [], [⟨0, 1⟩]]).map List.length = some 1 := by
    cases hm
    decide +kernel
  rw [hcalls] at hlength
  have hshort : (some s).map Push.short = some false := by
    rw [← hs]
    cases hm
    decide +kernel
  exact ⟨m, hm, s, hrun, bits, Option.some.inj hlength, hwhole (Option.some.inj hshort), hcalls⟩

end Cli
end SdrModem
