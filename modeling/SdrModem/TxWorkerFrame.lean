import SdrModem.TxWorker

/-!
# What becomes of a frame

The step of the tx worker is inverted once (`TxWorker.Effect`).  A frame is
reported as transmitted although it was not in one kind of run: `sdr_modem_modulate`
returns `NULL`, and `sdr_process_tx` has nothing to do and returns 0, or the tail
is missing in the same way.  Where this does not happen, a success that is
reported is one (`Effect.truthful`).
-/
namespace SdrModem
open BoundedFifo

namespace TxWorker

/-- **What one step of `sdr_tx_worker_callback` can do.** -/
inductive Effect (w : TxWorker) : TxResult → TxWorker → Option Sent → Prop where
  | receive (c : Item TxCommand) (rest : List (Item TxCommand)) (hpc : w.pc = .take)
      (hq : w.queue.pending = c :: rest) :
      Effect w .nothing
        { w with queue := { w.queue with pending := rest, inFlight := some c }, pc := .handle c } none
  | stopped (hpc : w.pc = .take) (hclosed : w.queue.closed = true) :
      Effect w .nothing { w with pc := .finished } none
  | noModem (c : Item TxCommand) (id : UInt32) (buffer : List UInt8) (hpc : w.pc = .handle c)
      (hc : c.val = .frame id buffer) (hm : w.modem = none) :
      Effect w .nothing { w with pc := .complete } none
  | modulate (c : Item TxCommand) (id : UInt32) (buffer : List UInt8) (m m' : TxModem)
      (modulated interpolated output : Option (List Sample)) (hpc : w.pc = .handle c)
      (hc : c.val = .frame id buffer) (hm : w.modem = some m)
      (hout : sdrModemModulate buffer.length modulated interpolated m = (m', output)) :
      Effect w (.modulate modulated interpolated)
        { w with modem := some m', pc := .processFrame c ⟨output, false, none, []⟩ } none
  | refused (r) (c : Item TxCommand) (id : UInt32) (buffer : List UInt8) (hpc : w.pc = .handle c)
      (hc : c.val = .commParameters id buffer) :
      Effect w r { w with pc := .respond c .failure .invalidRequest } none
  | created (c : Item TxCommand) (id : UInt32) (buffer : List UInt8) (hpc : w.pc = .handle c)
      (hc : c.val = .commParameters id buffer) :
      Effect w (.modemCreate true) { w with pc := .setParameters c } none
  | frameTaken (c : Item TxCommand) (t : Transmission) (hpc : w.pc = .processFrame c t) :
      Effect w (.processTx 0)
        { w with pc := .flush c { t with handed := t.handed ++ [t.modulated.getD []] } } none
  | frameFailed (code : Int) (c : Item TxCommand) (t : Transmission) (hpc : w.pc = .processFrame c t) :
      Effect w (.processTx code) { w with pc := .report c .failure .invalidRequest t } none
  | tail (c : Item TxCommand) (t : Transmission) (m m' : TxModem) (tail : List Sample)
      (modulated interpolated : Option (List Sample)) (hpc : w.pc = .flush c t)
      (hm : w.modem = some m)
      (hout : sdrModemModulateFlush modulated interpolated m = (m', some tail)) :
      Effect w (.modulate modulated interpolated)
        { w with
          modem := some m'
          pc := .processTail c { t with tailDue := m.txPending, tail := some tail } tail } none
  | noTail (c : Item TxCommand) (t : Transmission) (m m' : TxModem)
      (modulated interpolated : Option (List Sample)) (hpc : w.pc = .flush c t)
      (hm : w.modem = some m)
      (hout : sdrModemModulateFlush modulated interpolated m = (m', none)) :
      Effect w (.modulate modulated interpolated)
        { w with
          modem := some m'
          pc := .report c .success .noDetails { t with tailDue := m.txPending, tail := none } } none
  | tailTaken (c : Item TxCommand) (t : Transmission) (tail : List Sample)
      (hpc : w.pc = .processTail c t tail) :
      Effect w (.processTx 0)
        { w with pc := .report c .success .noDetails { t with handed := t.handed ++ [tail] } } none
  | tailFailed (code : Int) (c : Item TxCommand) (t : Transmission) (tail : List Sample)
      (hpc : w.pc = .processTail c t tail) :
      Effect w (.processTx code) { w with pc := .report c .failure .invalidRequest t } none
  | report (c : Item TxCommand) (status : ResponseStatus) (details : ResponseDetails)
      (t : Transmission) (hpc : w.pc = .report c status details t) :
      Effect w .nothing { w with pc := .complete }
        (some ⟨.complete c.val.requestId status details, c.tag, none, some t⟩)
  | parametersSet (c : Item TxCommand) (hpc : w.pc = .setParameters c) :
      Effect w (.setTxParameters true)
        { w with modem := some ⟨false⟩, pc := .respond c .success .noDetails } none
  | parametersFailed (c : Item TxCommand) (hpc : w.pc = .setParameters c) :
      Effect w (.setTxParameters false) { w with pc := .respond c .failure .invalidRequest } none
  | respond (c : Item TxCommand) (status : ResponseStatus) (details : ResponseDetails)
      (hpc : w.pc = .respond c status details) :
      Effect w .nothing { w with pc := .complete }
        (some ⟨.response c.val.requestId status details, c.tag, none, none⟩)
  | complete (hpc : w.pc = .complete) :
      Effect w .nothing { w with queue := { w.queue with inFlight := none }, pc := .take } none

theorem takeStep_effect {w w' : TxWorker} (hpc : w.pc = .take) (h : w.takeStep = some w') :
    Effect w .nothing w' none := by
  unfold takeStep at h
  split at h
  · cases h; exact .receive _ _ hpc ‹_›
  · split at h
    · cases h; exact .stopped hpc ‹_›
    · cases h

theorem handleStep_effect {w w' : TxWorker} {c : Item TxCommand} {r : TxResult}
    (hpc : w.pc = .handle c) (h : w.handleStep c r = some w') : Effect w r w' none := by
  unfold handleStep at h
  split at h
  · split at h
    · cases h; exact .noModem c _ _ hpc ‹_› ‹_›
    · cases h
  · obtain ⟨m, hm, rfl⟩ := Option.map_eq_some_iff.mp h
    exact .modulate c _ _ m _ _ _ _ hpc ‹_› hm rfl
  · split at h
    · cases h; exact .refused _ c _ _ hpc ‹_›
    · cases h
  · rename_i ok hc
    split at h
    · cases h
    · split at h
      · rename_i hok
        rw [hok]
        cases h
        exact .created c _ _ hpc hc
      · cases h; exact .refused _ c _ _ hpc hc
  · cases h

theorem flushStep_effect {w w' : TxWorker} {c : Item TxCommand} {t : Transmission}
    {modulated interpolated : Option (List Sample)} (hpc : w.pc = .flush c t)
    (h : w.flushStep c t modulated interpolated = some w') :
    Effect w (.modulate modulated interpolated) w' none := by
  obtain ⟨m, hm, rfl⟩ := Option.map_eq_some_iff.mp h
  cases hout : sdrModemModulateFlush modulated interpolated m with
  | mk m' output =>
    cases output with
    | some tail => exact .tail c t m m' tail _ _ hpc hm hout
    | none => exact .noTail c t m m' _ _ hpc hm hout

/-- Every step of the worker has one of these effects. -/
theorem step_effect {w w' : TxWorker} {r : TxResult} {sent : Option Sent}
    (h : w.step r = some (w', sent)) : Effect w r w' sent := by
  unfold step at h
  split at h
  · rename_i hpc
    obtain ⟨v, hv, he⟩ := Option.map_eq_some_iff.mp h
    cases he
    exact takeStep_effect hpc hv
  · rename_i c hpc
    obtain ⟨v, hv, he⟩ := Option.map_eq_some_iff.mp h
    cases he
    exact handleStep_effect hpc hv
  · rename_i c t code hpc
    split at h
    · rename_i hcode
      rw [hcode]
      cases h
      exact .frameTaken c t hpc
    · cases h; exact .frameFailed code c t hpc
  · rename_i c t modulated interpolated hpc
    obtain ⟨v, hv, he⟩ := Option.map_eq_some_iff.mp h
    cases he
    exact flushStep_effect hpc hv
  · rename_i c t tail code hpc
    split at h
    · rename_i hcode
      rw [hcode]
      cases h
      exact .tailTaken c t tail hpc
    · cases h; exact .tailFailed code c t tail hpc
  · cases h; exact .report _ _ _ _ ‹_›
  · rename_i c ok hpc
    split at h
    · rename_i hok
      rw [hok]
      cases h
      exact .parametersSet c hpc
    · rename_i hok
      rw [Bool.not_eq_true] at hok
      rw [hok]
      cases h
      exact .parametersFailed c hpc
  · cases h; exact .respond _ _ _ ‹_›
  · cases h; exact .complete ‹_›
  · cases h

/-- No step closes the queue. -/
theorem Effect.closed {w w' : TxWorker} {r : TxResult} {sent : Option Sent}
    (h : Effect w r w' sent) : w'.queue.closed = w.queue.closed := by
  cases h <;> rfl

end TxWorker

/-! ## Reporting the truth -/

/-- **The whole frame went out**: what `sdr_modem_modulate` returned was handed to
the device with result 0, and so was the tail if there was one to flush. -/
def Transmission.Complete (t : Transmission) : Prop :=
  ∃ frame, t.modulated = some frame ∧
    if t.tailDue then ∃ tail, t.tail = some tail ∧ t.handed = [frame, tail] else t.handed = [frame]

/-- A message that reports the success of a transmission speaks of a whole frame. -/
def Sent.Truthful (m : Sent) : Prop :=
  ∀ id details, m.message = .complete id .success details →
    ∃ t, m.transmission = some t ∧ t.Complete

/-- What is known of a frame at each point of its processing. -/
def TxPc.Truthful : TxPc → Prop
  | .processFrame _ t => t.handed = []
  | .flush _ t => ∃ frame, t.modulated = some frame ∧ t.handed = [frame]
  | .processTail _ t tail =>
      ∃ frame, t.modulated = some frame ∧ t.handed = [frame] ∧ t.tailDue = true ∧
        t.tail = some tail
  | .report _ .success _ t => t.Complete
  | _ => True

/-- **No `NULL` passes for a transmission**: `sdr_process_tx` does not return 0
for a frame that could not be modulated, and a tail that is due can be
modulated. -/
def TxWorker.nullReported (w : TxWorker) : TxResult → Bool
  | .processTx code =>
      match w.pc with
      | .processFrame _ t => decide (code ≠ 0) || t.modulated.isSome
      | _ => true
  | .modulate modulated interpolated =>
      match w.pc, w.modem with
      | .flush _ _, some m =>
          !m.txPending || (sdrModemModulateFlush modulated interpolated m).2.isSome
      | _, _ => true
  | _ => true

namespace TxWorker

/-- A tail comes out of a flush that was due. -/
theorem txPending_of_tail {modulated interpolated : Option (List Sample)} {m m' : TxModem}
    {tail : List Sample} (h : sdrModemModulateFlush modulated interpolated m = (m', some tail)) :
    m.txPending = true := by
  unfold sdrModemModulateFlush at h
  split at h
  · assumption
  · cases h

/-- **Success is reported of whole frames only**, by one step. -/
theorem Effect.truthful {w w' : TxWorker} {r : TxResult} {sent : Option Sent}
    (h : Effect w r w' sent) (hnull : w.nullReported r = true) (hw : w.pc.Truthful) :
    w'.pc.Truthful ∧ ∀ m ∈ sent, m.Truthful := by
  cases h with
  | modulate c id buffer m m' modulated interpolated output hpc hc hm hout => exact ⟨rfl, by simp⟩
  | frameTaken c t hpc =>
    rw [hpc] at hw
    have hhanded : t.handed = [] := hw
    -- the device took it, so by the condition it is a frame and not `NULL`
    rw [nullReported, hpc] at hnull
    obtain ⟨frame, hframe⟩ := Option.isSome_iff_exists.mp hnull
    refine ⟨⟨frame, hframe, ?_⟩, by simp⟩
    show t.handed ++ [t.modulated.getD []] = [frame]
    rw [hhanded, hframe]
    rfl
  | tail c t m m' tail modulated interpolated hpc hm hout =>
    rw [hpc] at hw
    obtain ⟨frame, hframe, hhanded⟩ := hw
    exact ⟨⟨frame, hframe, hhanded, txPending_of_tail hout, rfl⟩, by simp⟩
  | noTail c t m m' modulated interpolated hpc hm hout =>
    rw [hpc] at hw
    obtain ⟨frame, hframe, hhanded⟩ := hw
    -- no tail came out, so by the condition none was due
    have hdue : m.txPending = false := by
      rw [nullReported, hpc, hm] at hnull
      simpa [hout] using hnull
    refine ⟨⟨frame, hframe, ?_⟩, by simp⟩
    show if m.txPending = true then _ else t.handed = [frame]
    rw [hdue]
    exact hhanded
  | tailTaken c t tail hpc =>
    rw [hpc] at hw
    obtain ⟨frame, hframe, hhanded, hdue, htail⟩ := hw
    refine ⟨⟨frame, hframe, ?_⟩, by simp⟩
    show if t.tailDue = true then ∃ tail', t.tail = some tail' ∧ t.handed ++ [tail] = [frame, tail']
      else _
    rw [hdue]
    exact ⟨tail, htail, by rw [hhanded]; rfl⟩
  | report c status details t hpc =>
    rw [hpc] at hw
    refine ⟨trivial, ?_⟩
    intro m hm id details' hmessage
    cases hm
    cases hmessage
    exact ⟨t, rfl, hw⟩
  | respond c status details hpc =>
    refine ⟨trivial, ?_⟩
    intro m hm id details' hmessage
    cases hm
    cases hmessage
  | _ => exact ⟨trivial, by simp⟩

end TxWorker
end SdrModem
