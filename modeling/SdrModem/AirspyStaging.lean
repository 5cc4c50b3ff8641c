import SdrModem.Memcpy

/-!
# The samples of the airspy: `airspy_rx_callback`

`libairspy` hands over blocks of any length, and the driver collects them in `staging` until
there are `sdr_buffer_len` samples for its own callback.  What is in `staging` when the
device is started again is forgotten.

The functions return `none` where the code would write behind `staging`, or where its loop
would not end.
-/
namespace SdrModem
open Memcpy

/-- `AIRSPY_LIB_SAMPLE_FLOAT32_IQ`. -/
def airspyLibSampleFloat32Iq : Int := 0

/-- `airspy_lib_transfer`.  There are as many samples as it says, if it says that there are
any. -/
structure AirspyTransfer (α : Type) where
  samples : List α
  sampleCount : Int
  sampleType : Int
  enough : sampleCount.toNat ≤ samples.length

/-- The fields of `struct airspy_t` that samples go through. -/
structure AirspyStaging (α : Type) where
  sdrBufferLen : Nat
  staging : List α
  stagingLen : Nat

namespace AirspyStaging
variable {α : Type}

/-- The check of `airspy_create`, and the buffer.  What is in the memory does not matter. -/
def create (sdrBufferLen : UInt32) (memory : Vector α sdrBufferLen.toNat) :
    Option (AirspyStaging α) :=
  if sdrBufferLen = 0 ∨ sdrBufferLen > 0xffffffff / 8 then none
  else some ⟨sdrBufferLen.toNat, memory.toList, 0⟩

/-- The loop of `airspy_rx_callback` with the samples that remain: the device, and the buffers
for the callback. -/
def rxLoop : Nat → AirspyStaging α → List α → Option (AirspyStaging α × List (List α))
  | _, dev, [] => some (dev, [])
  | 0, _, _ :: _ => none
  | fuel + 1, dev, x :: xs =>
    if dev.stagingLen ≤ dev.sdrBufferLen then
      let len := min (dev.sdrBufferLen - dev.stagingLen) (x :: xs).length
      (memcpyAt dev.staging dev.stagingLen ((x :: xs).take len)).bind fun staging =>
      if dev.stagingLen + len = dev.sdrBufferLen then
        (rxLoop fuel { dev with staging := staging, stagingLen := 0 } ((x :: xs).drop len)).map
          fun (last, buffers) => (last, staging.take dev.sdrBufferLen :: buffers)
      else
        rxLoop fuel { dev with staging := staging, stagingLen := dev.stagingLen + len }
          ((x :: xs).drop len)
    else none

/-- `airspy_rx_callback`. -/
def rxCallback (dev : AirspyStaging α) (transfer : AirspyTransfer α) :
    Option (AirspyStaging α × List (List α)) :=
  if transfer.sampleType ≠ airspyLibSampleFloat32Iq ∨ transfer.sampleCount ≤ 0 then some (dev, [])
  else rxLoop transfer.sampleCount.toNat dev (transfer.samples.take transfer.sampleCount.toNat)

/-- `airspy_start_rx`, whether or not the device starts. -/
def startRx (dev : AirspyStaging α) : AirspyStaging α := { dev with stagingLen := 0 }

/-- What has been collected. -/
def pending (dev : AirspyStaging α) : List α := dev.staging.take dev.stagingLen

/-- **Between transfers** there is room in the buffer. -/
structure Ready (dev : AirspyStaging α) : Prop where
  length : dev.staging.length = dev.sdrBufferLen
  room : dev.stagingLen < dev.sdrBufferLen

end AirspyStaging

/-- The samples of a transfer, if they are of the right type. -/
def AirspyTransfer.valid {α : Type} (transfer : AirspyTransfer α) : List α :=
  if transfer.sampleType = airspyLibSampleFloat32Iq ∧ 0 < transfer.sampleCount then
    transfer.samples.take transfer.sampleCount.toNat
  else []

/-! ## A transfer -/

namespace AirspyStaging
variable {α : Type} {dev : AirspyStaging α}

theorem ready_create {sdrBufferLen : UInt32} {memory : Vector α sdrBufferLen.toNat}
    (h : create sdrBufferLen memory = some dev) :
    dev.Ready ∧ dev.sdrBufferLen = sdrBufferLen.toNat ∧ dev.stagingLen = 0 := by
  unfold create at h
  split at h
  · cases h
  · rename_i hcheck
    obtain rfl := Option.some.inj h
    have hne : sdrBufferLen.toNat ≠ 0 := fun hzero =>
      hcheck (Or.inl (UInt32.toNat_inj.mp hzero))
    exact ⟨⟨Vector.length_toList, Nat.pos_of_ne_zero hne⟩, rfl, rfl⟩

/-- **The loop**: it ends, and nothing is lost, duplicated or moved. -/
theorem Ready.rxLoop (h : dev.Ready) {fuel : Nat} {input : List α} (hfuel : input.length ≤ fuel) :
    ∃ last buffers, rxLoop fuel dev input = some (last, buffers) ∧ last.Ready ∧
      last.sdrBufferLen = dev.sdrBufferLen ∧
      (∀ buffer ∈ buffers, buffer.length = dev.sdrBufferLen) ∧
      buffers.flatten ++ last.pending = dev.pending ++ input := by
  induction fuel generalizing dev input with
  | zero =>
    obtain rfl := List.length_eq_zero_iff.mp (Nat.le_zero.mp hfuel)
    exact ⟨dev, [], by rw [AirspyStaging.rxLoop], h, rfl, nofun, (List.append_nil _).symm⟩
  | succ fuel ih =>
    match input with
    | [] => exact ⟨dev, [], by rw [AirspyStaging.rxLoop], h, rfl, nofun, (List.append_nil _).symm⟩
    | x :: xs =>
      have hroom := h.room
      have hpos : 0 < (x :: xs).length := by simp
      rw [AirspyStaging.rxLoop, if_pos (Nat.le_of_lt hroom)]
      dsimp only
      generalize hlen : min (dev.sdrBufferLen - dev.stagingLen) (x :: xs).length = len
      have htake : ((x :: xs).take len).length = len := by
        rw [List.length_take]
        omega
      have hdrop : ((x :: xs).drop len).length ≤ fuel := by
        rw [List.length_drop]
        omega
      have hfits : dev.stagingLen + ((x :: xs).take len).length ≤ dev.staging.length := by
        rw [h.length]
        omega
      have hlength := length_overwrite hfits
      have hinitial := take_overwrite hfits
      rw [memcpyAt_eq hfits, Option.bind_some]
      generalize overwrite dev.staging dev.stagingLen ((x :: xs).take len) = staging
        at hlength hinitial
      rw [htake] at hinitial
      by_cases hfull : dev.stagingLen + len = dev.sdrBufferLen
      · -- a buffer is complete
        rw [if_pos hfull]
        have hready : Ready { dev with staging := staging, stagingLen := 0 } :=
          ⟨hlength.trans h.length, by dsimp only; omega⟩
        obtain ⟨last, buffers, hloop, hlast, hsame, hbuffers, hflatten⟩ := ih hready hdrop
        refine ⟨last, staging.take dev.sdrBufferLen :: buffers, ?_, hlast, hsame, ?_, ?_⟩
        · rw [hloop, Option.map_some]
        · intro buffer hmem
          rcases List.mem_cons.mp hmem with rfl | hmem
          · rw [List.length_take, hlength, h.length, Nat.min_self]
          · exact hbuffers buffer hmem
        · have hempty : pending { dev with staging := staging, stagingLen := 0 } = [] :=
            List.take_zero
          rw [hempty, List.nil_append] at hflatten
          rw [List.flatten_cons, List.append_assoc, hflatten, ← hfull, hinitial, List.append_assoc,
            List.take_append_drop]
          rfl
      · rw [if_neg hfull]
        have hready : Ready { dev with staging := staging, stagingLen := dev.stagingLen + len } :=
          ⟨hlength.trans h.length, by dsimp only; omega⟩
        obtain ⟨last, buffers, hloop, hlast, hsame, hbuffers, hflatten⟩ := ih hready hdrop
        refine ⟨last, buffers, hloop, hlast, hsame, hbuffers, ?_⟩
        rw [hflatten, pending, hinitial, List.append_assoc, List.take_append_drop]
        rfl

/-- **A transfer**, of whatever type and length. -/
theorem Ready.rxCallback (h : dev.Ready) (transfer : AirspyTransfer α) :
    ∃ last buffers, dev.rxCallback transfer = some (last, buffers) ∧ last.Ready ∧
      last.sdrBufferLen = dev.sdrBufferLen ∧
      (∀ buffer ∈ buffers, buffer.length = dev.sdrBufferLen) ∧
      buffers.flatten ++ last.pending = dev.pending ++ transfer.valid := by
  unfold AirspyStaging.rxCallback AirspyTransfer.valid
  by_cases hvalid : transfer.sampleType = airspyLibSampleFloat32Iq ∧ 0 < transfer.sampleCount
  · have hnot : ¬ (transfer.sampleType ≠ airspyLibSampleFloat32Iq ∨ transfer.sampleCount ≤ 0) :=
      fun hor => hor.elim (fun hne => hne hvalid.1) (fun hle => by have := hvalid.2; omega)
    rw [if_neg hnot, if_pos hvalid]
    refine h.rxLoop ?_
    rw [List.length_take]
    exact Nat.min_le_left _ _
  · have hor : transfer.sampleType ≠ airspyLibSampleFloat32Iq ∨ transfer.sampleCount ≤ 0 := by
      by_contra hnot
      exact hvalid ⟨not_not.mp fun hne => hnot (Or.inl hne), by
        have := fun hle => hnot (Or.inr hle)
        omega⟩
    rw [if_pos hor, if_neg hvalid]
    exact ⟨dev, [], rfl, h, rfl, nofun, (List.append_nil _).symm⟩

end AirspyStaging

/-! ## Transfers, starts and stops -/

/-- What happens to the driver. -/
inductive AirspyEvent (α : Type) where
  | startRx
  | stopRx
  | transfer (t : AirspyTransfer α)

/-- The device, and the buffers that were delivered since it was last started. -/
structure AirspySession (α : Type) where
  dev : AirspyStaging α
  delivered : List (List α)

namespace AirspySession
variable {α : Type}

/-- The next event. -/
def step (s : AirspySession α) : AirspyEvent α → Option (AirspySession α)
  | .startRx => some ⟨s.dev.startRx, []⟩
  | .stopRx => some s
  | .transfer t => (s.dev.rxCallback t).map fun (dev, buffers) => ⟨dev, s.delivered ++ buffers⟩

/-- A sequence of events. -/
def run : AirspySession α → List (AirspyEvent α) → Option (AirspySession α)
  | s, [] => some s
  | s, e :: es => (s.step e).bind fun s => s.run es

end AirspySession

/-- The samples that have arrived since the last start, with those before the events. -/
def receivedSinceStart {α : Type} : List α → List (AirspyEvent α) → List α
  | samples, [] => samples
  | _, .startRx :: es => receivedSinceStart [] es
  | samples, .stopRx :: es => receivedSinceStart samples es
  | samples, .transfer t :: es => receivedSinceStart (samples ++ t.valid) es

namespace AirspySession
variable {α : Type} {s : AirspySession α}

/-- **Everything that has arrived is delivered or waits for its buffer.** -/
structure Exact (sdrBufferLen : Nat) (samples : List α) (s : AirspySession α) : Prop where
  ready : s.dev.Ready
  length_eq : s.dev.sdrBufferLen = sdrBufferLen
  buffers : ∀ buffer ∈ s.delivered, buffer.length = sdrBufferLen
  conserved : s.delivered.flatten ++ s.dev.pending = samples

/-- **One event.** -/
theorem Exact.step {sdrBufferLen : Nat} {samples : List α} (h : s.Exact sdrBufferLen samples)
    (e : AirspyEvent α) :
    ∃ next, s.step e = some next ∧ next.Exact sdrBufferLen (receivedSinceStart samples [e]) := by
  have hroom := h.ready.room
  cases e with
  | startRx =>
    refine ⟨_, rfl, ⟨h.ready.length, ?_⟩, h.length_eq, nofun, ?_⟩
    · exact Nat.lt_of_le_of_lt (Nat.zero_le _) hroom
    · exact List.take_zero (l := s.dev.staging)
  | stopRx => exact ⟨s, rfl, h⟩
  | transfer t =>
    obtain ⟨dev, buffers, hcallback, hready, hlength, hbuffers, hflatten⟩ := h.ready.rxCallback t
    refine ⟨⟨dev, s.delivered ++ buffers⟩, ?_, hready, hlength.trans h.length_eq, ?_, ?_⟩
    · rw [AirspySession.step, hcallback, Option.map_some]
    · intro buffer hmem
      rcases List.mem_append.mp hmem with hmem | hmem
      · exact h.buffers buffer hmem
      · rw [← h.length_eq]
        exact hbuffers buffer hmem
    · change (s.delivered ++ buffers).flatten ++ dev.pending = samples ++ t.valid
      rw [List.flatten_append, List.append_assoc, hflatten, ← List.append_assoc, h.conserved]

/-- **A run.** -/
theorem Exact.run {sdrBufferLen : Nat} {samples : List α} (h : s.Exact sdrBufferLen samples)
    (events : List (AirspyEvent α)) :
    ∃ last, s.run events = some last ∧
      last.Exact sdrBufferLen (receivedSinceStart samples events) := by
  induction events generalizing s samples with
  | nil => exact ⟨s, rfl, h⟩
  | cons e es ih =>
    obtain ⟨next, hstep, hnext⟩ := h.step e
    obtain ⟨last, hrun, hlast⟩ := ih hnext
    refine ⟨last, ?_, ?_⟩
    · rw [AirspySession.run, hstep, Option.bind_some, hrun]
    · cases e with
      | startRx => exact hlast
      | stopRx => exact hlast
      | transfer t => exact hlast

end AirspySession

/-- **The airspy loses, duplicates and reorders nothing.**  After any sequence of transfers,
starts and stops every call has returned, every buffer had `sdr_buffer_len` samples, there is
room in `staging`, and the buffers since the last start together with what is in `staging`
are the samples that have arrived since then. -/
theorem airspy_delivers_what_arrives {α : Type} {sdrBufferLen : UInt32}
    {memory : Vector α sdrBufferLen.toNat} {dev : AirspyStaging α}
    (h : AirspyStaging.create sdrBufferLen memory = some dev) (events : List (AirspyEvent α)) :
    ∃ s, (AirspySession.mk dev []).run events = some s ∧
      (∀ buffer ∈ s.delivered, buffer.length = sdrBufferLen.toNat) ∧
      s.delivered.flatten ++ s.dev.staging.take s.dev.stagingLen =
        receivedSinceStart [] events ∧
      s.dev.stagingLen < sdrBufferLen.toNat := by
  obtain ⟨hready, hlength, hempty⟩ := AirspyStaging.ready_create h
  have hstart : (AirspySession.mk dev []).Exact sdrBufferLen.toNat [] := by
    refine ⟨hready, hlength, nofun, ?_⟩
    change dev.staging.take dev.stagingLen = []
    rw [hempty, List.take_zero]
  obtain ⟨s, hrun, hexact⟩ := hstart.run events
  exact ⟨s, hrun, hexact.buffers, hexact.conserved, hexact.length_eq ▸ hexact.ready.room⟩

/-- Two buffers and a part of one, and a new start. -/
theorem airspy_delivers_after_restart :
    (AirspyStaging.create 3 #v[0, 0, 0]).isSome ∧
    ∀ dev, AirspyStaging.create 3 #v[0, 0, 0] = some dev →
      ∃ s, (AirspySession.mk dev []).run
          [.startRx, .transfer ⟨[1, 2, 3, 4], 4, 0, by decide⟩, .stopRx, .startRx,
           .transfer ⟨[5, 6], -1, 0, by decide⟩,
           .transfer ⟨[5, 6, 7, 8, 9, 10, 11], 7, 0, by decide⟩] = some s ∧
        (∀ buffer ∈ s.delivered, buffer.length = UInt32.toNat 3) ∧
        s.delivered.flatten ++ s.dev.staging.take s.dev.stagingLen = [5, 6, 7, 8, 9, 10, 11] ∧
        s.dev.stagingLen < UInt32.toNat 3 :=
  ⟨rfl, fun _ hdev => airspy_delivers_what_arrives hdev _⟩

end SdrModem
