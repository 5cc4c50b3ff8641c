import SdrModem.RxWorkerQueue

/-!
# The modem of the receiving thread

The callback of the device demodulates with the mutex held and copies the bits
out of the buffer of the modem after it has released it.  The worker exchanges
the modem with the mutex held and destroys the old one afterwards.  The bits sent
are those of the current modem as long as no exchange falls between the release
and the copy.
-/
namespace SdrModem
open BoundedFifo Machine

/-- Inside the critical section of `sdr_rx_callback`. -/
def CallbackPc.holdsMutex : CallbackPc → Bool
  | .demodulate | .unlock _ => true
  | .lock | .send _ _ => false

/-- Inside a critical section of the worker. -/
def RxPc.holdsMutex : RxPc → Bool
  | .swap _ _ | .unlock _ _ _ => true
  | .callback pc => pc.holdsMutex
  | _ => false

/-- Between the release of the mutex and the end of the copy. -/
def CallbackPc.isSend : CallbackPc → Bool
  | .send _ _ => true
  | _ => false

/-- About to exchange the modem. -/
def RxPc.isSwap : RxPc → Bool
  | .swap _ _ => true
  | _ => false

namespace RxWorker

/-- The bits a callback holds belong to the current modem. -/
def BitsCurrent (w : RxWorker) : CallbackPc → Prop
  | .unlock (some (m, _)) | .send m _ => w.modem = some m
  | .lock | .demodulate | .unlock none => True

/-- What the worker knows about the modem it is putting in place. -/
def PcOk (w : RxWorker) : RxPc → Prop
  | .setParameters _ n | .lock _ n | .swap _ n =>
      n < w.nextModem ∧ n ∉ w.destroyed ∧ ∀ m, w.modem = some m → m < n
  | .unlock _ n old | .destroyOld _ n old =>
      w.modem = some n ∧ ∀ m, old = some m → m < n
  | .respond _ _ _ (some n) => w.modem = some n
  | .callback pc => w.BitsCurrent pc
  | _ => True

/-- **The invariant of the modem**: the mutex is held by whoever is in a critical
section, the current modem exists and is the youngest, and whoever holds bits
holds those of the current modem. -/
structure ModemInv (w : RxWorker) : Prop where
  mutex_worker : w.mutex = some .worker ↔ w.pc.holdsMutex = true
  mutex_device : w.mutex = some .device ↔ ∃ pc, w.device = some pc ∧ pc.holdsMutex = true
  modem_lt : ∀ m, w.modem = some m → m < w.nextModem ∧ m ∉ w.destroyed
  destroyed_lt : ∀ m ∈ w.destroyed, m < w.nextModem
  pc : w.PcOk w.pc
  device : ∀ pc, w.device = some pc → w.BitsCurrent pc

/-- **The modem is not exchanged while the device thread holds bits of it**, that
is between its release of the mutex and the end of its copy. -/
def SwapSafe (w : RxWorker) : Prop :=
  w.pc.isSwap = true → w.device.elim false CallbackPc.isSend = false

instance (w : RxWorker) : Decidable w.SwapSafe := inferInstanceAs (Decidable (_ → _))

/-- Whether a callback that goes on at `pc` holds the mutex. -/
def holdsMutexAt (pc : Option CallbackPc) : Bool := pc.elim false CallbackPc.holdsMutex

/-- How a step of the callback treats the mutex. -/
theorem CallbackEffect.mutex {user : ModemUser} {w w' : RxWorker} {pc : CallbackPc} {r : RxResult}
    {pc' : Option CallbackPc} {sent : Option Sent} (h : CallbackEffect user w pc r w' pc' sent) :
    (w'.mutex = w.mutex ∧ holdsMutexAt pc' = pc.holdsMutex) ∨
    (w.mutex = none ∧ w'.mutex = some user ∧ pc.holdsMutex = false ∧ holdsMutexAt pc' = true) ∨
    (w'.mutex = none ∧ pc.holdsMutex = true ∧ holdsMutexAt pc' = false) := by
  cases h with
  | lock hm => exact Or.inr (Or.inl ⟨hm, rfl, rfl, rfl⟩)
  | noModem hm => exact Or.inl ⟨rfl, rfl⟩
  | demodulate m output hm => exact Or.inl ⟨rfl, rfl⟩
  | unlock output => exact Or.inr (Or.inr ⟨rfl, rfl, by cases output <;> rfl⟩)
  | send owner bits => exact Or.inl ⟨rfl, rfl⟩

/-- A step of the callback keeps hold of the bits of the current modem. -/
theorem CallbackEffect.bitsCurrent {user : ModemUser} {w w' : RxWorker} {pc : CallbackPc}
    {r : RxResult} {pc' : Option CallbackPc} {sent : Option Sent}
    (h : CallbackEffect user w pc r w' pc' sent) (hb : w.BitsCurrent pc) :
    ∀ p, pc' = some p → w.BitsCurrent p := by
  cases h with
  | lock hm => rintro p ⟨⟩; trivial
  | noModem hm => rintro p ⟨⟩; trivial
  | demodulate m output hm =>
    rintro p ⟨⟩
    cases output with
    | none => trivial
    | some bits => exact hm
  | unlock output =>
    cases output with
    | none => nofun
    | some mb => rintro p ⟨⟩; exact hb
  | send owner bits => nofun

theorem holdsMutex_ofCallback (pc : Option CallbackPc) :
    (RxPc.ofCallback pc).holdsMutex = holdsMutexAt pc := by
  cases pc <;> rfl

/-- A step that leaves the modems, the mutex and the device alone. -/
theorem ModemInv.move {w w' : RxWorker} (h : w.ModemInv) (hmodem : w'.modem = w.modem)
    (hnext : w'.nextModem = w.nextModem) (hdestroyed : w'.destroyed = w.destroyed)
    (hmutex : w'.mutex = w.mutex) (hdevice : w'.device = w.device)
    (hold : w'.pc.holdsMutex = w.pc.holdsMutex) (hpc : w'.PcOk w'.pc) : w'.ModemInv := by
  obtain ⟨h1, h2, h3, h4, -, h6⟩ := h
  have hbits : ∀ pc, w.BitsCurrent pc → w'.BitsCurrent pc := by
    intro pc hb
    unfold BitsCurrent at hb ⊢
    rw [hmodem]
    exact hb
  exact ⟨by rw [hmutex, hold]; exact h1, by rw [hmutex, hdevice]; exact h2,
    by rw [hmodem, hnext, hdestroyed]; exact h3, by rw [hdestroyed, hnext]; exact h4, hpc,
    fun pc hd => hbits pc (h6 pc (hdevice ▸ hd))⟩

/-- The device thread is in no critical section unless it holds the mutex. -/
theorem ModemInv.device_outside {w : RxWorker} (hw : w.ModemInv) (hm : w.mutex ≠ some .device) :
    ¬ ∃ pc, w.device = some pc ∧ pc.holdsMutex = true :=
  fun hd => hm (hw.mutex_device.mpr hd)

/-- Nor is the worker. -/
theorem ModemInv.worker_outside {w : RxWorker} (hw : w.ModemInv) (hm : w.mutex ≠ some .worker) :
    ¬ w.pc.holdsMutex = true :=
  fun hd => hm (hw.mutex_worker.mpr hd)

/-- **One step of the worker keeps the bits current.** -/
theorem Effect.modemInv {w w' : RxWorker} {r : RxResult} {sent : Option Sent}
    (h : Effect w r w' sent) (hsafe : w.SwapSafe) (hw : w.ModemInv) : w'.ModemInv := by
  have hpc := hw.pc
  have hmutex := hw.mutex_worker
  cases h with
  | receive c rest hp hq => exact hw.move rfl rfl rfl rfl rfl (by rw [hp]; rfl) trivial
  | peakMiss hp hq hrx => exact hw.move rfl rfl rfl rfl rfl (by rw [hp]; rfl) trivial
  | stopped hp hq hc => exact hw.move rfl rfl rfl rfl rfl (by rw [hp]; rfl) trivial
  | answer _ c st det en str hp => exact hw.move rfl rfl rfl rfl rfl (by rw [hp]; rfl) trivial
  | created c id buffer hp =>
    rw [hp] at hmutex
    refine ⟨hmutex, hw.mutex_device, fun m hm => ?_, fun m hm => ?_, ?_, hw.device⟩
    · exact ⟨Nat.lt_succ_of_lt (hw.modem_lt m hm).1, (hw.modem_lt m hm).2⟩
    · exact Nat.lt_succ_of_lt (hw.destroyed_lt m hm)
    · -- the new modem is younger than every modem there was
      exact ⟨Nat.lt_succ_self _, fun hm => Nat.lt_irrefl _ (hw.destroyed_lt _ hm),
        fun m hm => (hw.modem_lt m hm).1⟩
  | parametersSet c n hp =>
    rw [hp] at hpc
    exact hw.move rfl rfl rfl rfl rfl (by rw [hp]; rfl) hpc
  | parametersFailed c n hp =>
    rw [hp] at hpc hmutex
    obtain ⟨hn, hnd, hlt⟩ := hpc
    refine ⟨hmutex, hw.mutex_device, fun m hm => ⟨(hw.modem_lt m hm).1, ?_⟩, fun m hm => ?_,
      trivial, hw.device⟩
    · intro hmem
      rcases List.mem_cons.mp hmem with rfl | hmem
      · exact Nat.lt_irrefl _ (hlt m hm)
      · exact (hw.modem_lt m hm).2 hmem
    · rcases List.mem_cons.mp hm with rfl | hm
      · exact hn
      · exact hw.destroyed_lt m hm
  | lock c n hp hm =>
    rw [hp] at hpc
    have hdevice := hw.device_outside (by rw [hm]; nofun)
    exact ⟨iff_of_true rfl rfl, iff_of_false nofun hdevice, hw.modem_lt, hw.destroyed_lt, hpc,
      hw.device⟩
  | swap c n hp =>
    rw [hp] at hpc hmutex
    obtain ⟨hn, hnd, hlt⟩ := hpc
    have hheld : w.mutex = some .worker := hmutex.mpr rfl
    refine ⟨hmutex, hw.mutex_device, ?_, hw.destroyed_lt, ⟨rfl, hlt⟩, ?_⟩
    · rintro m ⟨⟩
      exact ⟨hn, hnd⟩
    · -- the device thread holds no bits: before its release the mutex is not ours, and after
      -- it the condition excludes the exchange
      intro pc hd
      match pc with
      | .lock | .demodulate | .unlock none => trivial
      | .unlock (some mb) => exact absurd ⟨_, hd, rfl⟩ (hw.device_outside (by rw [hheld]; nofun))
      | .send owner bits =>
        have hsend := hsafe (by rw [hp]; rfl)
        rw [hd] at hsend
        cases hsend
  | unlock c n old hp =>
    rw [hp] at hpc hmutex
    have hheld : w.mutex = some .worker := hmutex.mpr rfl
    have hdevice := hw.device_outside (by rw [hheld]; nofun)
    exact ⟨iff_of_false nofun nofun, iff_of_false nofun hdevice, hw.modem_lt, hw.destroyed_lt, hpc,
      hw.device⟩
  | destroyOld c n old hp =>
    rw [hp] at hpc hmutex
    obtain ⟨hmodem, hlt⟩ := hpc
    refine ⟨hmutex, hw.mutex_device, fun m hm => ⟨(hw.modem_lt m hm).1, ?_⟩, fun m hm => ?_,
      hmodem, hw.device⟩
    · have hmn : m = n := by
        rw [hmodem] at hm
        exact (Option.some.inj hm).symm
      intro hmem
      rcases List.mem_append.mp hmem with hold | hmem
      · exact Nat.lt_irrefl n (hlt n (hmn ▸ Option.mem_toList.mp hold))
      · exact (hw.modem_lt m hm).2 hmem
    · rcases List.mem_append.mp hm with hold | hm
      · exact Nat.lt_trans (hlt m (Option.mem_toList.mp hold)) (hw.modem_lt n hmodem).1
      · exact hw.destroyed_lt m hm
  | respond c st det m hp => exact hw.move rfl rfl rfl rfl rfl (by rw [hp]; rfl) trivial
  | complete c hp => exact hw.move rfl rfl rfl rfl rfl (by rw [hp]; rfl) trivial
  | again _ hp => exact hw.move rfl rfl rfl rfl rfl (by rw [hp]; rfl) trivial
  | deviceError code len hp hcode he =>
    exact hw.move rfl rfl rfl rfl rfl (by rw [hp]; rfl) trivial
  | samples _ hp => exact hw.move rfl rfl rfl rfl rfl (by rw [hp]; rfl) trivial
  | callback _ pc v pc' _ hp hcb =>
    rw [hp] at hpc hmutex
    have heff := callbackStep_effect hcb
    have hframe := callbackStep_frame hcb
    have hstep := heff.mutex
    generalize hmu : v.mutex = mu at hstep hframe
    rw [hframe]
    have hhold : (RxPc.ofCallback pc').holdsMutex = holdsMutexAt pc' := holdsMutex_ofCallback pc'
    have hok : w.PcOk (.ofCallback pc') := by
      cases pc' with
      | none => trivial
      | some p => exact heff.bitsCurrent hpc p rfl
    refine ⟨?_, ?_, hw.modem_lt, hw.destroyed_lt, hok, hw.device⟩
    · show _ ↔ (RxPc.ofCallback pc').holdsMutex = true
      rw [hhold]
      rcases hstep with ⟨hm, hsame⟩ | ⟨-, hm, -, hafter⟩ | ⟨hm, -, hafter⟩
      · rw [hm, hsame]; exact hmutex
      · rw [hm, hafter]; exact iff_of_true rfl rfl
      · rw [hm, hafter]; exact iff_of_false nofun nofun
    · rcases hstep with ⟨hm, -⟩ | ⟨hfree, hm, -⟩ | ⟨hm, hbefore, -⟩
      · rw [hm]; exact hw.mutex_device
      · rw [hm]
        exact iff_of_false nofun (hw.device_outside (by rw [hfree]; nofun))
      · have hheld : w.mutex = some .worker := hmutex.mpr hbefore
        rw [hm]
        exact iff_of_false nofun (hw.device_outside (by rw [hheld]; nofun))

/-- **One step of the device keeps the bits current.** -/
theorem deviceStep_modemInv {w w' : RxWorker} {r : RxResult} {sent : Option Sent}
    (h : w.deviceStep r = some (w', sent)) (hw : w.ModemInv) : w'.ModemInv := by
  unfold deviceStep at h
  have hmutex := hw.mutex_device
  split at h
  · rename_i hd
    split at h
    · cases h
      refine ⟨hw.mutex_worker, ?_, hw.modem_lt, hw.destroyed_lt, hw.pc, ?_⟩
      · rw [hd] at hmutex
        refine hmutex.trans ⟨fun ⟨pc, hpc, _⟩ => by (cases hpc), ?_⟩
        rintro ⟨pc, ⟨⟩, hpc⟩
        cases hpc
      · rintro pc ⟨⟩
        trivial
    · cases h
  · rename_i pc hd
    obtain ⟨⟨v, pc', sent'⟩, hv, he⟩ := Option.map_eq_some_iff.mp h
    cases he
    have heff := callbackStep_effect hv
    have hframe := callbackStep_frame hv
    have hstep := heff.mutex
    generalize hmu : v.mutex = mu at hstep hframe
    rw [hframe]
    rw [hd] at hmutex
    have hhold : ∀ p : Option CallbackPc,
        (∃ q, p = some q ∧ q.holdsMutex = true) ↔ holdsMutexAt p = true := by
      intro p
      cases p with
      | none => exact iff_of_false (fun ⟨q, hq, _⟩ => by cases hq) nofun
      | some q => exact ⟨fun ⟨q, hq, hh⟩ => by cases hq; exact hh, fun hh => ⟨q, rfl, hh⟩⟩
    rw [hhold] at hmutex
    refine ⟨?_, ?_, hw.modem_lt, hw.destroyed_lt, hw.pc, heff.bitsCurrent (hw.device pc hd)⟩
    · rcases hstep with ⟨hm, -⟩ | ⟨hfree, hm, -⟩ | ⟨hm, hbefore, -⟩
      · rw [hm]; exact hw.mutex_worker
      · rw [hm]
        exact iff_of_false nofun (hw.worker_outside (by rw [hfree]; nofun))
      · have hheld : w.mutex = some .device := hmutex.mpr hbefore
        rw [hm]
        exact iff_of_false nofun (hw.worker_outside (by rw [hheld]; nofun))
    · show _ ↔ ∃ q, pc' = some q ∧ q.holdsMutex = true
      rw [hhold]
      rcases hstep with ⟨hm, hsame⟩ | ⟨-, hm, -, hafter⟩ | ⟨hm, -, hafter⟩
      · rw [hm, hsame]; exact hmutex
      · rw [hm, hafter]; exact iff_of_true rfl rfl
      · rw [hm, hafter]; exact iff_of_false nofun nofun

end RxWorker

/-- The modem that a positive answer to `RX_COMM_PARAMETERS` has put in place. -/
def Sent.success? : Sent → Option Nat
  | ⟨.response _ .success _, _, modem, _⟩ => modem
  | _ => none

/-- The modem that demodulated the soft bits of a message. -/
def Sent.softBits? : Sent → Option Nat
  | ⟨.softBits _ _, _, modem, _⟩ => modem
  | _ => none

/-- Soft bits come from the modem of every positive answer before them, or from a
younger one. -/
def SoftBitsFresh (log : List Sent) : Prop :=
  log.Pairwise fun a b => ∀ n ∈ a.success?, ∀ o ∈ b.softBits?, n ≤ o

instance (log : List Sent) : Decidable (SoftBitsFresh log) :=
  inferInstanceAs (Decidable (List.Pairwise _ _))

namespace RxRun

/-- The invariant of the messages sent: those about modems are about the current
one or older ones. -/
structure LogInv (s : RxRun) : Prop where
  modem : s.worker.ModemInv
  bounded : ∀ e ∈ s.log, ∀ n, e.success? = some n → ∃ m, s.worker.modem = some m ∧ n ≤ m
  fresh : SoftBitsFresh s.log

/-- A message the worker or the device can send: an answer about the current modem
or bits of the current modem. -/
def SentOk (w : RxWorker) (e : Sent) : Prop :=
  (∀ n, e.success? = some n → w.modem = some n) ∧ (∀ o, e.softBits? = some o → w.modem = some o)

theorem callback_sentOk {user : ModemUser} {w w' : RxWorker} {pc : CallbackPc} {r : RxResult}
    {pc' : Option CallbackPc} {e : Sent}
    (h : RxWorker.CallbackEffect user w pc r w' pc' (some e)) (hb : w.BitsCurrent pc) :
    SentOk w e := by
  cases h with
  | send owner bits => exact ⟨nofun, fun o ho => by cases ho; exact hb⟩

theorem worker_sentOk {w w' : RxWorker} {r : RxResult} {e : Sent}
    (h : RxWorker.Effect w r w' (some e)) (hw : w.ModemInv) : SentOk w e := by
  have hpc := hw.pc
  cases h with
  | respond c status details modem hp =>
    rw [hp] at hpc
    refine ⟨fun n hn => ?_, nofun⟩
    cases status with
    | failure => cases hn
    | success =>
      obtain rfl : modem = some n := hn
      exact hpc
  | callback _ pc v pc' _ hp hcb =>
    rw [hp] at hpc
    exact callback_sentOk (RxWorker.callbackStep_effect hcb) hpc

/-- The step of the worker or of the device keeps the log in order. -/
theorem LogInv.extend {s : RxRun} {w' : RxWorker} {sent : Option Sent} (hs : s.LogInv)
    (hw' : w'.ModemInv) (hsent : ∀ e, sent = some e → SentOk s.worker e)
    (hsame : ∀ e, sent = some e → w'.modem = s.worker.modem)
    (hgrow : ∀ m, s.worker.modem = some m → ∃ m', w'.modem = some m' ∧ m ≤ m') :
    LogInv ⟨w', s.log ++ sent.toList⟩ := by
  refine ⟨hw', fun e he n hn => ?_, ?_⟩
  · rcases List.mem_append.mp he with he | he
    · obtain ⟨m, hm, hle⟩ := hs.bounded e he n hn
      obtain ⟨m', hm', hle'⟩ := hgrow m hm
      exact ⟨m', hm', Nat.le_trans hle hle'⟩
    · have he := Option.mem_toList.mp he
      exact ⟨n, (hsame e he).trans ((hsent e he).1 n hn), Nat.le_refl n⟩
  · refine List.pairwise_append.mpr ⟨hs.fresh, ?_, ?_⟩
    · cases sent with
      | none => exact List.Pairwise.nil
      | some e => exact List.pairwise_singleton _ e
    · intro a ha b hb n hn o ho
      obtain ⟨m, hm, hle⟩ := hs.bounded a ha n hn
      have hcur := (hsent b (Option.mem_toList.mp hb)).2 o ho
      rw [hm] at hcur
      cases hcur
      exact hle

/-- **The worker never exchanges the modem while the device thread holds bits of
it.** -/
def SwapsSafely (s : RxRun) : RxLabel → Prop
  | .worker _ => s.worker.SwapSafe
  | _ => True

instance (s : RxRun) : ∀ l : RxLabel, Decidable (s.SwapsSafely l)
  | .worker _ => inferInstanceAs (Decidable s.worker.SwapSafe)
  | .put _ | .interrupt | .device _ => instDecidableTrue

theorem step_logInv {bufferSize : Nat} {s t : RxRun} {l : RxLabel} (hl : s.SwapsSafely l)
    (h : s.step bufferSize l = some t) (hs : s.LogInv) : t.LogInv := by
  cases l with
  | put c =>
    obtain ⟨w, hw, rfl⟩ := Option.map_eq_some_iff.mp h
    rcases RxWorker.put_cases hw with ⟨-, -, rfl⟩ | ⟨-, rfl⟩
    · obtain ⟨h1, h2, h3, h4, h5, h6⟩ := hs.modem
      exact ⟨⟨h1, h2, h3, h4, h5, h6⟩, hs.bounded, hs.fresh⟩
    · exact hs
  | interrupt =>
    cases h
    obtain ⟨h1, h2, h3, h4, h5, h6⟩ := hs.modem
    exact ⟨⟨h1, h2, h3, h4, h5, h6⟩, hs.bounded, hs.fresh⟩
  | worker r =>
    obtain ⟨⟨w, sent⟩, hw, rfl⟩ := Option.map_eq_some_iff.mp h
    have he := RxWorker.workerStep_effect hw
    refine hs.extend (he.modemInv hl hs.modem) ?_ ?_ ?_
    · rintro e rfl
      exact worker_sentOk he hs.modem
    · rintro e rfl
      cases he with
      | respond c status details modem hp => rfl
      | callback _ pc v pc' _ hp hcb => rw [RxWorker.callbackStep_frame hcb]
    · intro m hm
      have hpc := hs.modem.pc
      cases he with
      | swap c n hp =>
        rw [hp] at hpc
        exact ⟨n, rfl, Nat.le_of_lt (hpc.2.2 m hm)⟩
      | callback _ pc v pc' _ hp hcb =>
        rw [RxWorker.callbackStep_frame hcb]
        exact ⟨m, hm, Nat.le_refl m⟩
      | _ => exact ⟨m, hm, Nat.le_refl m⟩
  | device r =>
    obtain ⟨⟨w, sent⟩, hw, rfl⟩ := Option.map_eq_some_iff.mp h
    have hframe := RxWorker.deviceStep_frame hw
    have hmodem : w.modem = s.worker.modem := by rw [hframe]
    refine hs.extend (RxWorker.deviceStep_modemInv hw hs.modem) ?_ (fun _ _ => hmodem)
      fun m hm => ⟨m, hmodem.trans hm, Nat.le_refl m⟩
    rintro e rfl
    unfold RxWorker.deviceStep at hw
    split at hw
    · split at hw <;> cases hw
    · rename_i pc hd
      obtain ⟨⟨v, pc', sent'⟩, hv, he⟩ := Option.map_eq_some_iff.mp hw
      cases he
      exact callback_sentOk (RxWorker.callbackStep_effect hv) (hs.modem.device pc hd)

theorem start_logInv (pull : Bool) : (start pull).LogInv := by
  refine ⟨⟨iff_of_false nofun nofun, iff_of_false nofun ?_, nofun, ?_, trivial, nofun⟩, ?_,
    List.Pairwise.nil⟩
  · rintro ⟨pc, hpc, -⟩
    cases hpc
  · exact fun m hm => absurd hm List.not_mem_nil
  · exact fun e he => absurd he List.not_mem_nil

end RxRun

/-- **Soft bits come from the current modem** in every run in which the modem is
never exchanged while the device thread holds bits of it: at the copy, the modem
that owns the bits is the current one and exists, and no bits of an older modem
follow the positive answer for a newer one. -/
theorem soft_bits_from_current_modem {bufferSize : Nat} {pull : Bool} {ls : List RxLabel}
    {s : RxRun} (hrun : Run (RxRun.step bufferSize) RxRun.SwapsSafely (RxRun.start pull) ls s) :
    (∀ owner bits, s.worker.device = some (.send owner bits) →
      s.worker.modem = some owner ∧ owner ∉ s.worker.destroyed) ∧ SoftBitsFresh s.log := by
  have hinv := hrun.invariant
    (fun _ _ _ hl hstep hs => RxRun.step_logInv hl hstep hs) (RxRun.start_logInv pull)
  refine ⟨fun owner bits hd => ?_, hinv.fresh⟩
  have hcur : s.worker.modem = some owner := hinv.modem.device _ hd
  exact ⟨hcur, (hinv.modem.modem_lt owner hcur).2⟩

/-- Settings of a GFSK modem, all zero. -/
def gfskBuffer : List UInt8 := List.replicate apiSdrSize 0 ++ 1 :: List.replicate apiGfskSize 0

theorem gfskBuffer_length : gfskBuffer.length = 62 := rfl

/-- The steps of the worker that handle valid settings. -/
def exchangeModem : List RxLabel :=
  [.worker .nothing, .worker (.modemCreate true), .worker (.setRxParameters true), .worker .nothing,
    .worker .nothing, .worker .nothing, .worker .nothing, .worker .nothing, .worker .nothing,
    .worker .nothing]

/-- A push device is started. -/
def startDevice : List RxLabel :=
  [.put ⟨.start 2, none⟩, .worker .nothing, .worker (.startRx true), .worker .nothing,
    .worker .nothing, .worker .nothing]

/-- A callback demodulates bits and releases the mutex. -/
def demodulateBits : List RxLabel :=
  [.device .nothing, .device .nothing, .device (.demodulate (some [1])), .device .nothing]

/-- A push device is set up and started, and a callback has demodulated bits of
the first modem and released the mutex. -/
def bitsInHand : List RxLabel :=
  .put ⟨.commParameters 1 gfskBuffer, none⟩ :: (exchangeModem ++ startDevice ++ demodulateBits)

/-- The callback copies its bits before new settings are handled. -/
theorem soft_bits_copied_first :
    ∃ s, exec (restrict (RxRun.step 64) RxRun.SwapsSafely) (RxRun.start false)
        (bitsInHand ++ [.device .nothing, .put ⟨.commParameters 3 gfskBuffer, none⟩] ++
          exchangeModem) = some s ∧
      s.worker.modem = some 1 ∧ SoftBitsFresh s.log := by
  refine exists_exec rfl fun s hs => ⟨?_, (soft_bits_from_current_modem (run_of_exec hs)).2⟩
  cases hs
  rfl

/-- **Bits of a destroyed modem are sent**: the device thread has released the
mutex, the modem is exchanged and destroyed and the new settings are confirmed,
and then the bits in the buffer of the old modem are copied. -/
theorem soft_bits_from_destroyed_modem :
    ∃ s, exec (RxRun.step 64) (RxRun.start false)
        (bitsInHand ++ [.put ⟨.commParameters 3 gfskBuffer, none⟩] ++ exchangeModem) = some s ∧
      s.worker.device = some (.send 0 [1]) ∧ s.worker.modem = some 1 ∧ 0 ∈ s.worker.destroyed ∧
      ∃ t, s.step 64 (.device .nothing) = some t ∧ ¬ SoftBitsFresh t.log := by
  exact ⟨_, rfl, rfl, rfl, by decide, _, rfl, by decide⟩

end SdrModem
