import SdrModem.Plutosdr

/-!
# What the driver of the plutosdr remembers

One `current_sample_rate` stands for the rates of both channels, for their bandwidths
and for the filter, and when it is the requested one, none of these is written.  How
far a change of the rate gets is one of five stages (`RateProgress`), and everything
that a call makes of the rates and of the filter can be read off it.
-/
namespace SdrModem
open StepwiseUpdate

instance (ret : IioCall → Int) : Decidable (FirSwitched ret) :=
  inferInstanceAs (Decidable (_ ∨ _))

/-- The filter of the device: its decimation, if it is enabled. -/
def Plutosdr.fir (p : Plutosdr) : Option Nat :=
  if p.attrs .filterFirEn = 0 then none else some (p.attrs .filterFirConfig).toNat

/-- The filter is the one that `plutosdr_select_fir_filter_config` asks for. -/
def Plutosdr.FirFits (p : Plutosdr) (sampleRate : UInt64) : Prop :=
  plutosdrSelectFirFilterConfig sampleRate = some p.fir

/-! ## How far a change of the rate gets -/

/-- The last thing that `plutosdr_set_sample_rate` has written. -/
inductive RateProgress where
  | untouched
  | filterConfigured
  | filterEnabled
  /-- the rate, but a later call has failed -/
  | rateWritten
  | done
deriving DecidableEq, Repr

namespace RateProgress

/-- The rate was written. -/
def wroteRate : RateProgress → Bool
  | rateWritten | done => true
  | _ => false

/-- The filter behind it, where `taps` is the one to be loaded. -/
def firAfter (taps fir : Option Nat) : RateProgress → Option Nat
  | untouched => fir
  | filterConfigured => fir.map taps.getD
  | filterEnabled => taps.or fir
  | rateWritten => taps.or fir
  | done => taps

end RateProgress

/-- The filter that a rate needs. -/
def rateTaps (sampleRate : UInt64) : Option Nat :=
  (plutosdrSelectFirFilterConfig sampleRate).getD none

/-- How far `plutosdr_set_sample_rate` gets. -/
def rateProgress (ret : IioCall → Int) (sampleRate : UInt64) (chn : IioChannel) : RateProgress :=
  match plutosdrSelectFirFilterConfig sampleRate with
  | none => .untouched
  | some none =>
    if ret (.write (.samplingFrequency chn)) < 0 then .untouched
    else if FirSwitched ret then .done
    else .rateWritten
  | some (some _) =>
    if ret .malloc < 0 ∨ ret (.write .filterFirConfig) < 0 then .untouched
    else if ¬ FirSwitched ret then .filterConfigured
    else if ret (.write (.samplingFrequency chn)) < 0 then .filterEnabled
    else if ret (.write (.rfBandwidth chn)) < 0 then .rateWritten
    else .done

namespace Plutosdr
variable {ret : IioCall → Int} {sampleRate : UInt64} {chn : IioChannel}

theorem loadFirFilter_eq (ret : IioCall → Int) (decimation : Nat) (p : Plutosdr) :
    ((ret .malloc < 0 ∨ ret (.write .filterFirConfig) < 0) ∧
      (p.loadFirFilter ret (some decimation)).1 ≠ 0 ∧
      (p.loadFirFilter ret (some decimation)).2 = p) ∨
    (¬ (ret .malloc < 0 ∨ ret (.write .filterFirConfig) < 0) ∧ ¬ FirSwitched ret ∧
      (p.loadFirFilter ret (some decimation)).1 ≠ 0 ∧
      (p.loadFirFilter ret (some decimation)).2 = p.set .filterFirConfig (.ofNat decimation)) ∨
    (¬ (ret .malloc < 0 ∨ ret (.write .filterFirConfig) < 0) ∧ FirSwitched ret ∧
      p.loadFirFilter ret (some decimation) =
        (0, (p.set .filterFirConfig (.ofNat decimation)).set .filterFirEn 1)) := by
  rw [loadFirFilter]
  by_cases hmalloc : ret .malloc < 0
  · rw [if_pos hmalloc]
    exact Or.inl ⟨Or.inl hmalloc, by simp, rfl⟩
  · rw [if_neg hmalloc]
    by_cases hconfig : 0 ≤ ret (.write .filterFirConfig)
    · rw [write_of_ok hconfig, andThen_of_ok rfl]
      rcases (p.set .filterFirConfig (.ofNat decimation)).enableFirFilter_eq ret true with
        ⟨hok, heq⟩ | ⟨hfailed, hcode, heq⟩
      · exact Or.inr (Or.inr ⟨by omega, hok, heq⟩)
      · exact Or.inr (Or.inl ⟨by omega, hfailed, hcode, heq⟩)
    · have hcode : (p.write ret .filterFirConfig (.ofNat decimation)).1 ≠ 0 := mt write_code.mp hconfig
      rw [andThen_of_failed hcode, write_of_failed hconfig]
      exact Or.inl ⟨Or.inr (by omega), by dsimp only; omega, rfl⟩

/-- The bandwidth, if it can be written. -/
def setBandwidthIf (ret : IioCall → Int) (sampleRate : UInt64) (chn : IioChannel) (p : Plutosdr) :
    Plutosdr :=
  if ret (.write (.rfBandwidth chn)) < 0 then p else p.set (.rfBandwidth chn) sampleRate

/-- A filter of this decimation, if there has to be one. -/
def withFilter (taps : Option Nat) (p : Plutosdr) : Plutosdr :=
  match taps with
  | none => p
  | some d => (p.set .filterFirConfig (.ofNat d)).set .filterFirEn 1

/-- The device at each stage of a change of the rate. -/
def atStage (ret : IioCall → Int) (sampleRate : UInt64) (chn : IioChannel) (taps : Option Nat)
    (p : Plutosdr) : RateProgress → Plutosdr
  | .untouched => p
  | .filterConfigured =>
      match taps with
      | none => p
      | some d => p.set .filterFirConfig (.ofNat d)
  | .filterEnabled => p.withFilter taps
  | .rateWritten =>
      match taps with
      | none => (p.set (.samplingFrequency chn) sampleRate).setBandwidthIf ret sampleRate chn
      | some _ => (p.withFilter taps).set (.samplingFrequency chn) sampleRate
  | .done =>
      match taps with
      | none =>
          ((p.set (.samplingFrequency chn) sampleRate).setBandwidthIf ret sampleRate chn).set
            .filterFirEn 0
      | some _ =>
          ((p.withFilter taps).set (.samplingFrequency chn) sampleRate).set (.rfBandwidth chn)
            sampleRate

/-- `plutosdr_set_sample_rate` ends at its stage. -/
theorem setSampleRate_atStage (p : Plutosdr) :
    (p.setSampleRate ret sampleRate chn).2 =
      p.atStage ret sampleRate chn (rateTaps sampleRate) (rateProgress ret sampleRate chn) := by
  unfold setSampleRate rateProgress rateTaps
  rcases plutosdrSelectFirFilterConfig sampleRate with _ | _ | d
  · rfl
  · dsimp only [Option.getD_some]
    rw [loadFirFilter, andThen_of_ok rfl]
    by_cases hrate : 0 ≤ ret (.write (.samplingFrequency chn))
    · rw [write_of_ok hrate, andThen_of_ok rfl, if_neg (by omega)]
      have hwrite : ((p.set (.samplingFrequency chn) sampleRate).write ret (.rfBandwidth chn)
          sampleRate).2 = (p.set (.samplingFrequency chn) sampleRate).setBandwidthIf ret sampleRate
            chn := rfl
      rw [setBandwidth]
      dsimp only
      rw [if_pos rfl, hwrite]
      rcases ((p.set (.samplingFrequency chn) sampleRate).setBandwidthIf ret sampleRate
          chn).enableFirFilter_eq ret false with ⟨hok, heq⟩ | ⟨hfailed, -, heq⟩
      · rw [heq, if_pos hok]
        rfl
      · rw [heq, if_neg hfailed]
        rfl
    · rw [if_pos (by omega), andThen_of_failed (mt write_code.mp hrate), write_of_failed hrate]
      rfl
  · dsimp only [Option.getD_some]
    rcases p.loadFirFilter_eq ret d with ⟨hno, hcode, heq⟩ | ⟨hyes, hno, hcode, heq⟩ |
      ⟨hyes, hok, heq⟩
    · rw [andThen_of_failed hcode, heq, if_pos hno]
      rfl
    · rw [andThen_of_failed hcode, heq, if_neg hyes, if_pos hno]
      rfl
    · rw [heq, andThen_of_ok rfl, if_neg hyes, if_neg (not_not.mpr hok)]
      by_cases hrate : 0 ≤ ret (.write (.samplingFrequency chn))
      · rw [write_of_ok hrate, andThen_of_ok rfl, if_neg (by omega), setBandwidth]
        dsimp only
        rw [if_neg (by simp)]
        by_cases hband : 0 ≤ ret (.write (.rfBandwidth chn))
        · rw [write_of_ok hband, if_neg (by omega)]
          rfl
        · rw [write_of_failed hband, if_pos (by omega)]
          rfl
      · rw [if_pos (by omega), andThen_of_failed (mt write_code.mp hrate), write_of_failed hrate]
        rfl

theorem setSampleRate_code_stage {p : Plutosdr} :
    (p.setSampleRate ret sampleRate chn).1 = 0 ↔ rateProgress ret sampleRate chn = .done := by
  rw [setSampleRate_code, RateSet, rateProgress]
  rcases plutosdrSelectFirFilterConfig sampleRate with _ | _ | d
  · simp
  · by_cases hrate : 0 ≤ ret (.write (.samplingFrequency chn))
    · by_cases hfir : FirSwitched ret
      · simp [FirLoaded, BandwidthSet, hrate, hfir, Int.not_lt.mpr hrate]
      · simp [FirLoaded, BandwidthSet, hfir, Int.not_lt.mpr hrate]
    · simp [FirLoaded, hrate, Int.not_le.mp hrate]
  · by_cases hload : ret .malloc < 0 ∨ ret (.write .filterFirConfig) < 0
    · have hno : ¬ (0 ≤ ret .malloc ∧ 0 ≤ ret (.write .filterFirConfig)) := by omega
      simp only [FirLoaded, Option.some.injEq, exists_eq_left', if_pos hload]
      exact iff_of_false (fun h => hno ⟨h.1.1, h.1.2.1⟩) (by decide)
    · have hyes : 0 ≤ ret .malloc ∧ 0 ≤ ret (.write .filterFirConfig) := by omega
      by_cases hfir : FirSwitched ret
      · by_cases hrate : 0 ≤ ret (.write (.samplingFrequency chn))
        · by_cases hband : 0 ≤ ret (.write (.rfBandwidth chn))
          · simp [FirLoaded, BandwidthSet, hload, hyes, hfir, hrate, hband, Int.not_lt.mpr hrate,
              Int.not_lt.mpr hband]
          · simp [FirLoaded, BandwidthSet, hload, hfir, hband, Int.not_lt.mpr hrate,
              Int.not_le.mp hband]
        · simp [FirLoaded, hload, hfir, hrate, Int.not_le.mp hrate]
      · simp [FirLoaded, hload, hfir]

/-! ## What a stage leaves -/

theorem withFilter_other {taps : Option Nat} {a : IioAttr} (hconfig : a ≠ .filterFirConfig)
    (hen : a ≠ .filterFirEn) (p : Plutosdr) : (p.withFilter taps).attrs a = p.attrs a := by
  cases taps with
  | none => rfl
  | some d => rw [withFilter, set_other hen, set_other hconfig]

theorem setBandwidthIf_other {a : IioAttr} (ha : a ≠ .rfBandwidth chn) (p : Plutosdr) :
    (p.setBandwidthIf ret sampleRate chn).attrs a = p.attrs a := by
  unfold setBandwidthIf
  split
  · rfl
  · exact set_other ha p sampleRate

/-- The rate of the addressed channel is the new one from the stage on at which it is
written; that of the other one is not touched. -/
theorem atStage_sampling (taps : Option Nat) (stage : RateProgress) (c : IioChannel)
    (p : Plutosdr) :
    (p.atStage ret sampleRate chn taps stage).attrs (.samplingFrequency c) =
      if c = chn ∧ stage.wroteRate = true then sampleRate else p.attrs (.samplingFrequency c) := by
  have hset : ∀ q : Plutosdr, (q.set (.samplingFrequency chn) sampleRate).attrs
      (.samplingFrequency c) = if c = chn then sampleRate else q.attrs (.samplingFrequency c) := by
    intro q
    by_cases hc : c = chn
    · rw [hc, set_self, if_pos rfl]
    · rw [set_other (by rintro ⟨⟩; exact hc rfl), if_neg hc]
  cases stage with
  | untouched => simp [atStage, RateProgress.wroteRate]
  | filterConfigured =>
    cases taps with
    | none => simp [atStage, RateProgress.wroteRate]
    | some d => simp [atStage, RateProgress.wroteRate, set_other]
  | filterEnabled =>
    rw [atStage, withFilter_other (by nofun) (by nofun)]
    simp [RateProgress.wroteRate]
  | rateWritten =>
    cases taps with
    | none =>
      rw [atStage, setBandwidthIf_other (by nofun), hset]
      simp [RateProgress.wroteRate]
    | some d =>
      rw [atStage, hset, withFilter_other (by nofun) (by nofun)]
      simp [RateProgress.wroteRate]
  | done =>
    cases taps with
    | none =>
      rw [atStage, set_other (by nofun), setBandwidthIf_other (by nofun), hset]
      simp [RateProgress.wroteRate]
    | some d =>
      rw [atStage, set_other (by nofun), hset, withFilter_other (by nofun) (by nofun)]
      simp [RateProgress.wroteRate]

/-- The filters that are asked for. -/
theorem rateTaps_small {sampleRate : UInt64} {d : Nat} (h : rateTaps sampleRate = some d) :
    d < 2 ^ 64 := by
  unfold rateTaps plutosdrSelectFirFilterConfig at h
  repeat' split at h
  all_goals simp at h
  all_goals omega

theorem fir_congr {p q : Plutosdr} (hconfig : p.attrs .filterFirConfig = q.attrs .filterFirConfig)
    (hen : p.attrs .filterFirEn = q.attrs .filterFirEn) : p.fir = q.fir := by
  rw [fir, fir, hconfig, hen]

theorem fir_set_other {a : IioAttr} (hconfig : .filterFirConfig ≠ a) (hen : .filterFirEn ≠ a)
    (p : Plutosdr) (value : UInt64) : (p.set a value).fir = p.fir :=
  fir_congr (set_other hconfig p value) (set_other hen p value)

theorem fir_withFilter {taps : Option Nat} (hsmall : ∀ d, taps = some d → d < 2 ^ 64)
    (p : Plutosdr) : (p.withFilter taps).fir = taps.or p.fir := by
  cases taps with
  | none => rfl
  | some d =>
    rw [withFilter, fir, set_self, set_other (by nofun), set_self, if_neg (by decide)]
    simpa using hsmall d rfl

/-- The filter at each stage. -/
theorem atStage_fir (ret : IioCall → Int) (chn : IioChannel) (sampleRate : UInt64)
    (stage : RateProgress) (p : Plutosdr) :
    (p.atStage ret sampleRate chn (rateTaps sampleRate) stage).fir =
      stage.firAfter (rateTaps sampleRate) p.fir := by
  have hsmall : ∀ d, rateTaps sampleRate = some d → d < 2 ^ 64 := fun d => rateTaps_small
  generalize rateTaps sampleRate = taps at hsmall ⊢
  have hband : ∀ q : Plutosdr, (q.setBandwidthIf ret sampleRate chn).fir = q.fir := fun q =>
    fir_congr (setBandwidthIf_other (by nofun) q) (setBandwidthIf_other (by nofun) q)
  cases stage with
  | untouched => rfl
  | filterConfigured =>
    cases taps with
    | none =>
      rw [atStage, RateProgress.firAfter]
      cases p.fir <;> rfl
    | some d =>
      rw [atStage, RateProgress.firAfter, fir, fir, set_self, set_other (by nofun)]
      split
      · rfl
      · simpa using hsmall d rfl
  | filterEnabled => exact fir_withFilter hsmall p
  | rateWritten =>
    cases taps with
    | none =>
      rw [atStage, hband, fir_set_other (by nofun) (by nofun)]
      rfl
    | some d =>
      rw [atStage, fir_set_other (by nofun) (by nofun)]
      exact fir_withFilter hsmall p
  | done =>
    cases taps with
    | none =>
      rw [atStage, fir, set_self, if_pos rfl]
      rfl
    | some d =>
      rw [atStage, fir_set_other (by nofun) (by nofun), fir_set_other (by nofun) (by nofun),
        fir_withFilter hsmall]
      rfl

/-- `q` has the rates, the bandwidths and the filter of `p`. -/
def SameRate (p q : Plutosdr) : Prop := ∀ a, a.isTuning = false → q.attrs a = p.attrs a

theorem SameRate.set {p q : Plutosdr} (h : SameRate p q) (a : IioAttr) (value : UInt64) :
    SameRate (p.set a value) (q.set a value) := by
  intro b hb
  by_cases hba : b = a
  · rw [hba, set_self, set_self]
  · rw [set_other hba, set_other hba, h b hb]

theorem SameRate.atStage {p q : Plutosdr} (h : SameRate p q) (taps : Option Nat)
    (stage : RateProgress) :
    SameRate (p.atStage ret sampleRate chn taps stage) (q.atStage ret sampleRate chn taps stage) := by
  have hfilter : SameRate (p.withFilter taps) (q.withFilter taps) := by
    cases taps with
    | none => exact h
    | some d => exact (h.set _ _).set _ _
  have hband : SameRate ((p.set (.samplingFrequency chn) sampleRate).setBandwidthIf ret sampleRate chn)
      ((q.set (.samplingFrequency chn) sampleRate).setBandwidthIf ret sampleRate chn) := by
    unfold setBandwidthIf
    split
    · exact h.set _ _
    · exact (h.set _ _).set _ _
  cases stage with
  | untouched => exact h
  | filterConfigured =>
    cases taps with
    | none => exact h
    | some d => exact h.set _ _
  | filterEnabled => exact hfilter
  | rateWritten =>
    cases taps with
    | none => exact hband
    | some d => exact hfilter.set _ _
  | done =>
    cases taps with
    | none => exact hband.set _ _
    | some d => exact (hfilter.set _ _).set _ _

end Plutosdr

/-! ## What a call makes of it -/

namespace PlutosdrDirection
variable {profile : PlutosdrProfile} {ret : IioCall → Int} {config : SdrChannelConfig}
  {p : Plutosdr} {dir : PlutosdrDirection}

instance (ret : IioCall → Int) : (dir : PlutosdrDirection) → Decidable (dir.Leads ret)
  | .rx => inferInstanceAs (Decidable True)
  | .tx => inferInstanceAs (Decidable (0 ≤ _))

/-- The call gets as far as `plutosdr_set_sample_rate`. -/
def ChangesRate (profile : PlutosdrProfile) (ret : IioCall → Int) (config : SdrChannelConfig)
    (p : Plutosdr) (dir : PlutosdrDirection) : Prop :=
  (profile.accepts (dir.gainRange profile) config = true ∧ dir.Leads ret) ∧
  0 ≤ ret (.write (.frequency dir.lo)) ∧ p.currentSampleRate ≠ config.sampleRate

instance : Decidable (dir.ChangesRate profile ret config p) :=
  inferInstanceAs (Decidable ((_ ∧ _) ∧ _ ∧ _))

/-- How far a call gets with the rate. -/
def stage (profile : PlutosdrProfile) (ret : IioCall → Int) (config : SdrChannelConfig)
    (p : Plutosdr) (dir : PlutosdrDirection) : RateProgress :=
  if dir.ChangesRate profile ret config p then rateProgress ret config.sampleRate dir.chn
  else .untouched

theorem sameRate_lead : p.SameRate (dir.lead ret p).2 := by
  intro a ha
  cases dir with
  | rx => rfl
  | tx => exact Plutosdr.write_other (by rintro rfl; cases ha) _ _

/-- A call leaves the rates, the bandwidths and the filter at its stage. -/
theorem setParameters_sameRate :
    (p.atStage ret config.sampleRate dir.chn (rateTaps config.sampleRate)
      (dir.stage profile ret config p)).SameRate (dir.setParameters profile ret config p).2 := by
  by_cases hbegin : dir.Begins profile ret config
  · intro a ha
    rw [setParameters_attrs hbegin (by rintro rfl; cases ha)]
    by_cases hfreq : 0 ≤ ret (.write (.frequency dir.lo))
    · have hset : p.SameRate
          ((dir.lead ret p).2.set (.frequency dir.lo) config.frequency) := by
        intro b hb
        rw [Plutosdr.set_other (by rintro rfl; cases hb)]
        exact sameRate_lead b hb
      rw [Plutosdr.tune_of_ok hfreq, Plutosdr.changeSampleRate, Plutosdr.set_currentSampleRate,
        lead_current]
      by_cases hne : p.currentSampleRate ≠ config.sampleRate
      · have hstage : dir.stage profile ret config p = rateProgress ret config.sampleRate dir.chn :=
          if_pos ⟨hbegin, hfreq, hne⟩
        rw [if_pos hne, hstage]
        refine andThen_keeps (P := fun q : Plutosdr => q.attrs a = _) ?_ id
        rw [Plutosdr.setSampleRate_atStage]
        exact hset.atStage _ _ a ha
      · have hstage : dir.stage profile ret config p = .untouched := if_neg fun h => hne h.2.2
        rw [if_neg hne, hstage]
        exact hset a ha
    · have hstage : dir.stage profile ret config p = .untouched := if_neg fun h => hfreq h.2.1
      rw [Plutosdr.tune_of_failed hfreq, hstage]
      exact sameRate_lead a ha
  · have hstage : dir.stage profile ret config p = .untouched := if_neg fun h => hbegin h.1
    rw [hstage, setParameters_eq]
    split
    · rename_i haccept
      have hlead : (dir.lead ret p).1 ≠ 0 := fun hc => hbegin ⟨haccept, lead_code.mp hc⟩
      rw [andThen_of_failed hlead, andThen_of_failed hlead]
      exact sameRate_lead
    · exact fun _ _ => rfl

/-- It remembers the new rate exactly if it gets to the last stage. -/
theorem setParameters_current_stage :
    (dir.setParameters profile ret config p).2.currentSampleRate =
      if dir.stage profile ret config p = .done then config.sampleRate else p.currentSampleRate := by
  by_cases hbegin : dir.Begins profile ret config
  · rw [setParameters_current hbegin]
    by_cases hchange : dir.ChangesRate profile ret config p
    · have htuned : p.Tuned ret dir.lo dir.chn config ↔ dir.stage profile ret config p = .done := by
        rw [stage, if_pos hchange, ← Plutosdr.setSampleRate_code_stage (p := p),
          Plutosdr.setSampleRate_code]
        exact ⟨fun h => h.2.resolve_left hchange.2.2, fun h => ⟨hchange.2.1, Or.inr h⟩⟩
      split
      · rename_i hdone
        exact Plutosdr.tune_current (tuned_lead.mpr (htuned.mpr hdone))
      · rename_i hdone
        rw [Plutosdr.tune_current_of_failed fun h => hdone (htuned.mp (tuned_lead.mp h)),
          lead_current]
    · have hstage : dir.stage profile ret config p = .untouched := if_neg hchange
      rw [hstage, if_neg (by decide)]
      by_cases htuned : p.Tuned ret dir.lo dir.chn config
      · have hcur : p.currentSampleRate = config.sampleRate := by
          by_contra hne
          exact hchange ⟨hbegin, htuned.1, hne⟩
        rw [Plutosdr.tune_current (tuned_lead.mpr htuned), hcur]
      · rw [Plutosdr.tune_current_of_failed (mt tuned_lead.mp htuned), lead_current]
  · have hstage : dir.stage profile ret config p = .untouched := if_neg fun h => hbegin h.1
    rw [hstage, if_neg (by decide)]
    exact (setParameters_of_not_begins hbegin).2.2

theorem setParameters_sampling (d : PlutosdrDirection) :
    (dir.setParameters profile ret config p).2.attrs (.samplingFrequency d.chn) =
      if d = dir ∧ (dir.stage profile ret config p).wroteRate = true then config.sampleRate
      else p.attrs (.samplingFrequency d.chn) := by
  have hchn : d.chn = dir.chn ↔ d = dir := by
    cases d <;> cases dir <;> simp [chn]
  rw [setParameters_sameRate _ rfl, Plutosdr.atStage_sampling]
  simp only [hchn]

theorem setParameters_fir :
    (dir.setParameters profile ret config p).2.fir =
      (dir.stage profile ret config p).firAfter (rateTaps config.sampleRate) p.fir := by
  rw [← Plutosdr.atStage_fir ret dir.chn]
  exact Plutosdr.fir_congr (setParameters_sameRate _ rfl) (setParameters_sameRate _ rfl)

end PlutosdrDirection
end SdrModem
