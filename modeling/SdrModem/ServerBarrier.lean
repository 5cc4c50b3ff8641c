import SdrModem.ServerTrace
import SdrModem.ServerAnswers
import SdrModem.RxWorkerSwitch

/-!
# RX_STOP is a barrier for samples

Soft bits and responses are put into the client queue by different threads, and they
meet nowhere else.  Still no soft bits come behind the RESPONSE to an RX_STOP, unless
an RX_START was handled in between: soft bits are sent while `rx_enabled` is true, by
the worker itself or by the thread of the device, for which `stop_rx` waits; and the
RESPONSE is sent while it is false.
-/
namespace SdrModem
open BoundedFifo Machine

/-- A SOFT_BITS message. -/
def Sent.isSoftBits (m : Sent) : Bool :=
  match m.message with
  | .softBits _ _ => true
  | _ => false

/-- `b` does not follow `a`: soft bits behind the RESPONSE to an RX_STOP, with no
RX_START handled in between. -/
def Entry.Barred (a b : Entry) : Prop :=
  a.stop = true → b.sent.isSoftBits = true → a.starts < b.starts

instance : DecidableRel Entry.Barred :=
  fun a b => inferInstanceAs (Decidable (_ → _ → a.starts < b.starts))

namespace Server
variable {s t : Server} {l : ServerLabel}

/-- Soft bits come from the device, which is on. -/
theorem WorkerStep.softBits {rx : RxWorker} {tx : Option TxWorker} {m : Sent}
    (h : s.WorkerStep l rx tx (some m)) (hs : s.rx.Quiet) (hm : m.isSoftBits = true) :
    s.rx.rxEnabled = true ∧ s.answersStop l = false := by
  cases h with
  | rx r _ _ h =>
    cases RxWorker.workerStep_effect h with
    | respond c status details modem hpc => cases hm
    | callback _ pc v pc' _ hpc hcb =>
      have hon := hs.pc
      rw [hpc] at hon
      refine ⟨hon, ?_⟩
      rw [answersStop, hpc]
  | device r _ _ h => exact ⟨(RxWorker.deviceStep_quiet h hs).2, rfl⟩
  | tx r w w' _ hw h =>
    cases TxWorker.step_effect h with
    | report c status details t hpc => cases hm
    | respond c status details hpc => cases hm

/-- **What a step does to the device and the soft bits.** -/
structure Switching (s : Server) (l : ServerLabel) (t : Server) : Prop where
  quiet : t.rx.Quiet
  softBits : ∀ m ∈ s.added t, m.isSoftBits = true → s.rx.rxEnabled = true ∧ s.answersStop l = false
  stops : s.answersStop l = true → t.rx.rxEnabled = false
  starts : t.rx.rxEnabled = true → s.rx.rxEnabled = true ∨ s.handlesStart l = true

/-- A step of another thread leaves the rx worker alone. -/
theorem Switching.other (hs : s.rx.Quiet) (hl : ∀ r, l ≠ .rx r) (hpc : t.rx.pc = s.rx.pc)
    (hrx : t.rx.rxEnabled = s.rx.rxEnabled) (hstreaming : t.rx.streaming = s.rx.streaming)
    (hdevice : t.rx.device = s.rx.device)
    (hsoft : ∀ m ∈ s.added t, m.isSoftBits = false) : s.Switching l t := by
  refine ⟨⟨?_, ?_⟩, ?_, ?_, ?_⟩
  · rw [hpc, hrx]
    exact hs.pc
  · rw [hrx, hstreaming, hdevice]
    exact hs.device
  · intro m hm hsoft'
    rw [hsoft m hm] at hsoft'
    cases hsoft'
  · intro hstop
    cases l with
    | rx r => exact absurd rfl (hl r)
    | _ => cases hstop
  · intro hon
    exact Or.inl (hrx ▸ hon)

theorem WorkerCall.rx_pc {a : Item ServerAct} {rx : RxWorker} {tx : Option TxWorker}
    (h : s.WorkerCall a rx tx) :
    rx.pc = s.rx.pc ∧ rx.rxEnabled = s.rx.rxEnabled ∧ rx.streaming = s.rx.streaming ∧
      rx.device = s.rx.device := by
  cases h with
  | rx c _ hc h =>
    rcases RxWorker.put_cases h with ⟨-, -, rfl⟩ | ⟨-, rfl⟩
    · exact ⟨rfl, rfl, rfl, rfl⟩
    · exact ⟨rfl, rfl, rfl, rfl⟩
  | tx c w w' hc hw h => exact ⟨rfl, rfl, rfl, rfl⟩

/-- The acceptor thread sends no soft bits. -/
theorem not_softBits_of_message? {a : Item ServerAct} {m : Sent} (h : a.message? = some m) :
    m.isSoftBits = false := by
  obtain ⟨val, tag⟩ := a
  cases val <;> cases h <;> rfl

theorem WorkerStep.switching {rx : RxWorker} {tx : Option TxWorker} {sent : Option Sent}
    (h : s.WorkerStep l rx tx sent) (hs : s.rx.Quiet) (ht : t.rx = rx)
    (hadded : ∀ m ∈ s.added t, sent = some m) : s.Switching l t := by
  have hsoft : ∀ m ∈ s.added t, m.isSoftBits = true →
      s.rx.rxEnabled = true ∧ s.answersStop l = false := by
    intro m hm hbits
    obtain rfl := hadded m hm
    exact h.softBits hs hbits
  cases h with
  | rx r _ _ h =>
    have heffect := RxWorker.workerStep_effect h
    refine ⟨?_, hsoft, ?_, ?_⟩
    · rw [ht]
      exact heffect.quiet hs
    · intro hstop
      rw [ht]
      have hpc := hs.pc
      unfold answersStop at hstop
      simp only at hstop
      split at hstop
      · rename_i hrespond
        rw [hrespond] at hpc
        rw [RxWorker.workerStep_respond hrespond h]
        exact hpc
      · cases hstop
    · intro hon
      rw [ht] at hon
      cases hrx : s.rx.rxEnabled with
      | true => exact Or.inl rfl
      | false =>
        obtain ⟨id, tag, hpc⟩ := heffect.switchedOn hrx hon
        refine Or.inr ?_
        rw [handlesStart, hpc]
  | device r _ _ h =>
    obtain ⟨hquiet, hon⟩ := RxWorker.deviceStep_quiet h hs
    exact ⟨ht ▸ hquiet, hsoft, nofun, fun _ => Or.inl hon⟩
  | tx r w w' _ hw h => exact ⟨ht ▸ hs, hsoft, nofun, fun hon => Or.inl (ht ▸ hon)⟩

theorem Effect.switching (h : Effect s l t) (hs : s.rx.Quiet) : s.Switching l t := by
  cases h with
  | callClient a rest m htodo hm =>
    refine Switching.other hs nofun rfl rfl rfl rfl ?_
    intro m' hm'
    rw [mem_added_of_put rfl hm']
    exact not_softBits_of_message? hm
  | callWorker a rest rx tx htodo hcall =>
    obtain ⟨hpc, hrx, hstreaming, hdevice⟩ := hcall.rx_pc
    refine Switching.other hs nofun hpc hrx hstreaming hdevice ?_
    exact fun m hm => absurd hm (not_mem_added rfl m)
  | worker _ rx tx sent hstep =>
    refine hstep.switching hs rfl ?_
    intro m hm
    cases sent with
    | none => exact absurd hm (not_mem_added rfl m)
    | some m' => rw [mem_added_of_put rfl hm]
  | clientTx l w out hallowed hstep =>
    refine Switching.other hs nofun rfl rfl rfl rfl ?_
    intro m hm
    rw [added_of_step (t := { s with clientTx := w, written := s.record out }) hstep] at hm
    cases hm
  | _ =>
    refine Switching.other hs nofun rfl rfl rfl rfl ?_
    exact fun m hm => absurd hm (not_mem_added rfl m)

end Server

namespace Traced
variable {s t : Traced} {l : ServerLabel}

/-- **What holds in every state**: while the device is on, an RX_START was handled after
the RESPONSE to any RX_STOP. -/
structure Stopped (s : Traced) : Prop where
  quiet : s.server.rx.Quiet
  starts : ∀ e ∈ s.accepted, e.starts ≤ s.starts
  on : s.server.rx.rxEnabled = true → ∀ e ∈ s.accepted, e.stop = true → e.starts < s.starts
  order : s.accepted.Pairwise Entry.Barred

theorem Stopped.step (hs : s.Stopped) (h : s.step l = some t) : t.Stopped := by
  obtain ⟨heffect, hstarts, haccepted⟩ := step_effect h
  obtain ⟨hquiet, hsoft, hstops, hon⟩ := heffect.switching hs.quiet
  have hle : s.starts ≤ t.starts := by
    rw [hstarts]
    split
    · exact Nat.le_succ _
    · exact Nat.le_refl _
  refine ⟨hquiet, ?_, ?_, ?_⟩
  · intro e he
    rw [haccepted] at he
    rcases List.mem_append.mp he with he | he
    · exact Nat.le_trans (hs.starts e he) hle
    · obtain ⟨m, -, rfl⟩ := List.mem_map.mp he
      exact hle
  · intro hrx e he hstop
    rw [haccepted] at he
    rcases List.mem_append.mp he with he | he
    · rcases hon hrx with hold | hstart
      · exact Nat.lt_of_lt_of_le (hs.on hold e he hstop) hle
      · rw [hstarts, if_pos hstart]
        exact Nat.lt_succ_of_le (hs.starts e he)
    · -- the RESPONSE is sent while the device is off
      obtain ⟨m, -, rfl⟩ := List.mem_map.mp he
      rw [hstops hstop] at hrx
      cases hrx
  · rw [haccepted, List.pairwise_append]
    refine ⟨hs.order, ?_, ?_⟩
    · refine List.pairwise_map.mpr (List.pairwise_of_forall_mem_list fun m _ m' hm' => ?_)
      intro hstop hbits
      have hno := (hsoft m' hm' hbits).2
      rw [show s.server.answersStop l = true from hstop] at hno
      cases hno
    · intro a ha b hb hstop hbits
      obtain ⟨m, hm, rfl⟩ := List.mem_map.mp hb
      exact hs.on (hsoft m hm hbits).1 a ha hstop

end Traced

/-- **RX_STOP is a barrier for samples.**  In every run, of a pull or a push device, no
SOFT_BITS message is taken from the client queue after the RESPONSE to an RX_STOP
unless an RX_START was handled in between; and what was taken is the beginning of
what was put into the queue, of which the end is still waiting. -/
theorem stop_is_barrier {config : AppConfig} {ls : List ServerLabel} {s : Traced}
    (hrun : Run Traced.step (fun _ _ => True) (Traced.create config) ls s) :
    s.taken.Pairwise Entry.Barred ∧
      ∃ waiting, s.accepted = s.taken ++ waiting ∧ waiting.map Entry.sent = s.pending := by
  have hnone : (Traced.create config).accepted = [] := rfl
  have hcreate : (Traced.create config).Stopped := by
    refine ⟨RxWorker.create_quiet _, ?_, fun _ => ?_, ?_⟩
    · rw [hnone]
      exact List.forall_mem_nil _
    · rw [hnone]
      exact List.forall_mem_nil _
    · rw [hnone]
      exact List.Pairwise.nil
  have hstopped : s.Stopped := hrun.invariant (fun _ _ _ _ hstep hs => hs.step hstep) hcreate
  obtain ⟨waiting, hsplit, hwaiting⟩ := (Traced.run_recorded hrun).taken_append
  refine ⟨?_, waiting, hsplit, hwaiting⟩
  have horder := hstopped.order
  rw [hsplit, List.pairwise_append] at horder
  exact horder.1

/-- Switching the receiver on. -/
def rxStart : Message := ⟨⟨0, 7, 2, 0⟩, [], List.length_nil⟩

/-- Switching the receiver off. -/
def rxStop : Message := ⟨⟨0, 8, 3, 0⟩, [], List.length_nil⟩

/-- The rx worker switches the receiver on, answers, and completes. -/
def switchOn : List ServerLabel :=
  [.rx .nothing, .rx (.startRx true), .rx .nothing, .rx .nothing]

/-- The rx worker reads samples and sends soft bits. -/
def receiveSamples : List ServerLabel :=
  [.rx (.processRx 0 4), .rx .nothing, .rx (.demodulate (some [1, 2])), .rx .nothing, .rx .nothing]

/-- The rx worker switches the receiver off, answers, and completes. -/
def switchOff : List ServerLabel :=
  [.rx .nothing, .rx .nothing, .rx .nothing, .rx .nothing, .rx .nothing]

/-- The receiver is switched on, off and on again. -/
def onOffOn : List ServerLabel :=
  readFirst [rxSettings, rxStart, rxStop, rxStart] ++ exchangeRxModem ++ confirmRxSettings ++
    readNext ++ switchOn ++ receiveSamples ++ readNext ++ switchOff ++ readNext ++ switchOn ++
    receiveSamples ++ skipMessage ++ writeMessage ++ writeMessage ++ writeMessage ++ writeMessage ++
    writeMessage ++ writeMessage

/-- Soft bits come in front of the RESPONSE to the RX_STOP, and behind it after the next
RX_START. -/
theorem samples_around_stop :
    ∃ s, exec Traced.step (Traced.create smallConfig) onOffOn = some s ∧
      s.taken.map (fun e => (e.sent.isSoftBits, e.stop, e.starts)) =
        [(false, false, 0), (false, false, 0), (false, false, 1), (true, false, 1),
          (false, true, 1), (false, false, 2), (true, false, 2)] ∧
      s.taken.Pairwise Entry.Barred := by
  refine exists_exec rfl fun s hs => ?_
  refine ⟨?_, (stop_is_barrier (run_of_labels (fun _ _ _ => trivial) hs)).1⟩
  cases hs
  rfl

end SdrModem
