import SdrModem.PlutosdrRate

/-!
# Sequences of calls to the plutosdr

`plutosdr_create` and then any calls of `plutosdr_set_rx_parameters` and
`plutosdr_set_tx_parameters`.  Is the channel that a call addresses configured when the
call returns 0, are errors of writes reported, and does the driver know what the device
holds?  What is in the way of all three is `current_sample_rate`: it is shared by the two
channels, and it is not reset by a change of the rate that fails half way.
-/
namespace SdrModem
open StepwiseUpdate

/-- A call, with the results of the calls to `libiio` that it makes. -/
structure PlutosdrCall where
  dir : PlutosdrDirection
  config : SdrChannelConfig
  ret : IioCall → Int

namespace PlutosdrCall

/-- The code of the call, and the device behind it. -/
def perform (profile : PlutosdrProfile) (c : PlutosdrCall) (p : Plutosdr) : Int × Plutosdr :=
  c.dir.setParameters profile c.ret c.config p

/-- How far the call gets with the rate. -/
def stage (profile : PlutosdrProfile) (c : PlutosdrCall) (p : Plutosdr) : RateProgress :=
  c.dir.stage profile c.ret c.config p

/-- Every state of a sequence of calls. -/
def EveryState (profile : PlutosdrProfile) (P : Plutosdr → Prop) : Plutosdr → List PlutosdrCall → Prop
  | p, [] => P p
  | p, c :: cs => P p ∧ EveryState profile P (c.perform profile p).2 cs

/-- Every call of a sequence, with the state that it starts in. -/
def EveryCall (profile : PlutosdrProfile) (Q : PlutosdrCall → Plutosdr → Prop) :
    Plutosdr → List PlutosdrCall → Prop
  | _, [] => True
  | p, c :: cs => Q c p ∧ EveryCall profile Q (c.perform profile p).2 cs

/-- What a call keeps is kept if and only if it is there at the start. -/
theorem everyState_iff {profile : PlutosdrProfile} {P : Plutosdr → Prop}
    {Q : PlutosdrCall → Plutosdr → Prop}
    (hstep : ∀ c p, P p → (P (c.perform profile p).2 ↔ Q c p)) (p : Plutosdr)
    (cs : List PlutosdrCall) :
    EveryState profile P p cs ↔ P p ∧ EveryCall profile Q p cs := by
  induction cs generalizing p with
  | nil => exact (and_iff_left trivial).symm
  | cons c cs ih =>
    rw [EveryState, EveryCall, ih]
    constructor
    · rintro ⟨hp, hnext, hrest⟩
      exact ⟨hp, (hstep c p hp).mp hnext, hrest⟩
    · rintro ⟨hp, hq, hrest⟩
      exact ⟨hp, (hstep c p hp).mpr hq, hrest⟩

theorem everyCall_congr {profile : PlutosdrProfile} {Q Q' : PlutosdrCall → Plutosdr → Prop}
    (h : ∀ c p, Q c p ↔ Q' c p) (p : Plutosdr) (cs : List PlutosdrCall) :
    EveryCall profile Q p cs ↔ EveryCall profile Q' p cs := by
  induction cs generalizing p with
  | nil => exact Iff.rfl
  | cons c cs ih => exact and_congr (h c p) (ih _)

end PlutosdrCall

/-! ## Does the driver know the rate? -/

namespace PlutosdrDirection
variable {profile : PlutosdrProfile} {p : Plutosdr} {d : PlutosdrDirection}

/-- **The driver knows what a channel holds**: the remembered rate is that of the
channel, and the filter fits it. -/
structure Knows (d : PlutosdrDirection) (p : Plutosdr) : Prop where
  rate : p.currentSampleRate = p.attrs (.samplingFrequency d.chn)
  filter : p.FirFits p.currentSampleRate

/-- **A call spoils nothing for a channel**: it writes nothing about the rate, or all of it
and for this channel.  If it fails in between, then the filters that it has replaced are
the same, and the rate that it has written is that of the other channel. -/
def Spares (profile : PlutosdrProfile) (d : PlutosdrDirection) (c : PlutosdrCall) (p : Plutosdr) :
    Prop :=
  let old := rateTaps p.currentSampleRate
  let new := rateTaps c.config.sampleRate
  match c.stage profile p with
  | .untouched => True
  | .filterConfigured => old = none ∨ old = new
  | .filterEnabled => old = new
  | .rateWritten => d ≠ c.dir ∧ (new = none ∨ old = new)
  | .done => d = c.dir

theorem rateTaps_of_firFits {sampleRate : UInt64} (h : p.FirFits sampleRate) :
    rateTaps sampleRate = p.fir := by
  rw [rateTaps, h, Option.getD_some]

/-- The filter is the right one for another rate too, if that needs the same. -/
theorem firFits_iff {q : Plutosdr} {sampleRate : UInt64} (h : p.FirFits sampleRate) :
    q.FirFits sampleRate ↔ q.fir = rateTaps sampleRate := by
  rw [rateTaps_of_firFits h, Plutosdr.FirFits, h, Option.some.injEq]
  exact eq_comm

/-- There is a filter to load unless the rate does without. -/
theorem rateTaps_of_stage (profile : PlutosdrProfile) (c : PlutosdrCall) (p : Plutosdr)
    (h : c.stage profile p = .filterConfigured ∨ c.stage profile p = .filterEnabled) :
    ∃ taps, rateTaps c.config.sampleRate = some taps := by
  unfold PlutosdrCall.stage stage rateProgress at h
  unfold rateTaps
  split at h
  · split at h
    · simp at h
    · repeat' split at h
      all_goals simp at h
    · rename_i d hd
      exact ⟨d, by rw [hd]; rfl⟩
  · simp at h

/-- At the last stage there is a filter for the rate, or none is needed. -/
theorem select_of_stage {c : PlutosdrCall} (h : (c.stage profile p).wroteRate = true) :
    plutosdrSelectFirFilterConfig c.config.sampleRate = some (rateTaps c.config.sampleRate) ∧
    p.currentSampleRate ≠ c.config.sampleRate := by
  unfold PlutosdrCall.stage stage at h
  split at h
  · rename_i hchange
    refine ⟨?_, hchange.2.2⟩
    unfold rateProgress at h
    unfold rateTaps
    split at h
    · cases h
    · rename_i hs
      rw [hs, Option.getD_some]
    · rename_i d hs
      rw [hs, Option.getD_some]
  · cases h

/-- **What one call does to what the driver knows.** -/
theorem knows_perform_iff (c : PlutosdrCall) (h : d.Knows p) :
    d.Knows (c.perform profile p).2 ↔ d.Spares profile c p := by
  have hcurrent : (c.perform profile p).2.currentSampleRate = _ := setParameters_current_stage
  have hsampling : (c.perform profile p).2.attrs (.samplingFrequency d.chn) = _ :=
    setParameters_sampling d
  have hfir : (c.perform profile p).2.fir = _ := setParameters_fir
  have hold := rateTaps_of_firFits h.filter
  have hnew : (c.dir.stage profile c.ret c.config p).wroteRate = true → _ ∧ _ := select_of_stage
  have htaps := rateTaps_of_stage profile c p
  unfold Spares
  unfold PlutosdrCall.stage at htaps ⊢
  dsimp only
  -- one case for each stage; the rate, the channel and the filter are read off it
  generalize c.dir.stage profile c.ret c.config p = stage at hcurrent hsampling hfir hnew htaps ⊢
  cases stage with
  | untouched =>
    refine iff_of_true ⟨?_, ?_⟩ trivial
    · rw [hcurrent, hsampling]
      simpa [RateProgress.wroteRate] using h.rate
    · rw [hcurrent, if_neg (by decide), firFits_iff h.filter, hfir, hold]
      rfl
  | filterConfigured =>
    obtain ⟨new, hnew⟩ := htaps (Or.inl rfl)
    rw [hnew, RateProgress.firAfter] at hfir
    rw [hnew, hold]
    constructor
    · intro hknows
      have hfilter := hknows.filter
      rw [hcurrent, if_neg (by decide), firFits_iff h.filter, hfir, hold] at hfilter
      cases hp : p.fir with
      | none => exact Or.inl rfl
      | some old =>
        rw [hp] at hfilter
        exact Or.inr hfilter.symm
    · intro hsame
      refine ⟨?_, ?_⟩
      · rw [hcurrent, hsampling]
        simpa [RateProgress.wroteRate] using h.rate
      · rw [hcurrent, if_neg (by decide), firFits_iff h.filter, hfir, hold]
        rcases hsame with hsame | hsame
        · rw [hsame]
          rfl
        · rw [hsame]
          rfl
  | filterEnabled =>
    obtain ⟨new, hnew⟩ := htaps (Or.inr rfl)
    rw [hnew, RateProgress.firAfter] at hfir
    rw [hnew, hold]
    constructor
    · intro hknows
      have hfilter := hknows.filter
      rw [hcurrent, if_neg (by decide), firFits_iff h.filter, hfir, hold] at hfilter
      exact hfilter.symm
    · intro hsame
      refine ⟨?_, ?_⟩
      · rw [hcurrent, hsampling]
        simpa [RateProgress.wroteRate] using h.rate
      · rw [hcurrent, if_neg (by decide), firFits_iff h.filter, hfir, hold]
        exact hsame.symm
  | rateWritten =>
    obtain ⟨-, hne⟩ := hnew rfl
    rw [RateProgress.firAfter] at hfir
    rw [hold]
    rw [if_neg (by decide)] at hcurrent
    simp only [RateProgress.wroteRate, and_true] at hsampling
    constructor
    · intro hknows
      have hother : d ≠ c.dir := by
        intro hd
        have hrate := hknows.rate
        rw [hcurrent, hsampling, if_pos hd] at hrate
        exact hne hrate
      refine ⟨hother, ?_⟩
      have hfilter := hknows.filter
      rw [hcurrent, firFits_iff h.filter, hfir, hold] at hfilter
      cases hnew : rateTaps c.config.sampleRate with
      | none => exact Or.inl rfl
      | some new =>
        rw [hnew] at hfilter
        exact Or.inr hfilter.symm
    · rintro ⟨hother, hsame⟩
      refine ⟨?_, ?_⟩
      · rw [hcurrent, hsampling, if_neg hother]
        exact h.rate
      · rw [hcurrent, firFits_iff h.filter, hfir, hold]
        rcases hsame with hsame | hsame
        · rw [hsame]
          rfl
        · rw [← hsame, Option.or_self]
  | done =>
    obtain ⟨hselect, hne⟩ := hnew rfl
    rw [RateProgress.firAfter] at hfir
    rw [if_pos rfl] at hcurrent
    simp only [RateProgress.wroteRate, and_true] at hsampling
    constructor
    · intro hknows
      by_contra hother
      have hrate := hknows.rate
      rw [hcurrent, hsampling, if_neg hother, ← h.rate] at hrate
      exact hne hrate.symm
    · intro hd
      refine ⟨?_, ?_⟩
      · rw [hcurrent, hsampling, if_pos hd]
      · rw [hcurrent, Plutosdr.FirFits, hfir]
        exact hselect

/-- The device as `plutosdr_create` finds it. -/
def found (attrs : IioAttr → UInt64) : Plutosdr :=
  ⟨attrs, attrs (.samplingFrequency .rx0Chn), false, false⟩

/-- The settings ask for another rate than the one that is found. -/
def AsksForRate (sampleRate : UInt64) (attrs : IioAttr → UInt64) : Prop :=
  sampleRate ≠ 0 ∧ sampleRate ≠ attrs (.samplingFrequency .rx0Chn)

instance (sampleRate : UInt64) (attrs : IioAttr → UInt64) :
    Decidable (AsksForRate sampleRate attrs) := inferInstanceAs (Decidable (_ ∧ _))

/-- **The device is found so that the driver knows it**: the rate of the settings is set
for the receiver and the transmitter has it already; or nothing is set, the channel
has the rate of the receiver and the filter fits it. -/
def FoundKnown (d : PlutosdrDirection) (sampleRate : UInt64) (attrs : IioAttr → UInt64) : Prop :=
  (AsksForRate sampleRate attrs ∧ (d = .rx ∨ attrs (.samplingFrequency .tx0Chn) = sampleRate)) ∨
  (¬ AsksForRate sampleRate attrs ∧
    attrs (.samplingFrequency .rx0Chn) = attrs (.samplingFrequency d.chn) ∧
    (found attrs).FirFits (attrs (.samplingFrequency .rx0Chn)))

/-- What `plutosdr_create` makes of the device. -/
theorem create_cases {ret : IioCall → Int} {sampleRate : UInt64} {attrs : IioAttr → UInt64}
    (h : plutosdrCreate ret sampleRate attrs = some p) :
    (AsksForRate sampleRate attrs ∧ rateProgress ret sampleRate .rx0Chn = .done ∧
      p = { (found attrs).atStage ret sampleRate .rx0Chn (rateTaps sampleRate) .done with
        currentSampleRate := sampleRate }) ∨
    (¬ AsksForRate sampleRate attrs ∧ p = found attrs) := by
  unfold plutosdrCreate at h
  dsimp only at h
  split at h
  · rename_i hasks
    split at h
    · cases h
    · rename_i hcode
      have hdone := Plutosdr.setSampleRate_code_stage.mp (not_not.mp hcode)
      cases h
      refine Or.inl ⟨hasks, hdone, ?_⟩
      rw [Plutosdr.setSampleRate_atStage, hdone]
      rfl
  · rename_i hasks
    cases h
    exact Or.inr ⟨hasks, rfl⟩

theorem select_of_done {ret : IioCall → Int} {sampleRate : UInt64} {chn : IioChannel}
    (h : rateProgress ret sampleRate chn = .done) :
    plutosdrSelectFirFilterConfig sampleRate = some (rateTaps sampleRate) := by
  unfold rateProgress at h
  unfold rateTaps
  split at h
  · cases h
  · rename_i hs
    rw [hs, Option.getD_some]
  · rename_i d hs
    rw [hs, Option.getD_some]

theorem knows_create_iff {ret : IioCall → Int} {sampleRate : UInt64} {attrs : IioAttr → UInt64}
    (h : plutosdrCreate ret sampleRate attrs = some p) :
    d.Knows p ↔ d.FoundKnown sampleRate attrs := by
  rcases create_cases h with ⟨hasks, hdone, rfl⟩ | ⟨hasks, rfl⟩
  · have hsampling : ((found attrs).atStage ret sampleRate .rx0Chn (rateTaps sampleRate)
        .done).attrs (.samplingFrequency d.chn) = _ := Plutosdr.atStage_sampling _ _ _ _
    have hfits : Plutosdr.FirFits { (found attrs).atStage ret sampleRate .rx0Chn
        (rateTaps sampleRate) .done with currentSampleRate := sampleRate } sampleRate := by
      have hfir := Plutosdr.atStage_fir ret .rx0Chn sampleRate .done (found attrs)
      exact (select_of_done hdone).trans (congrArg some hfir.symm)
    have hknows : d.Knows { (found attrs).atStage ret sampleRate .rx0Chn
        (rateTaps sampleRate) .done with currentSampleRate := sampleRate } ↔
        d = .rx ∨ attrs (.samplingFrequency .tx0Chn) = sampleRate := by
      constructor
      · intro hknows
        have hrate := hknows.rate
        cases d with
        | rx => exact Or.inl rfl
        | tx => exact Or.inr (hrate.trans hsampling).symm
      · intro hd
        refine ⟨?_, hfits⟩
        refine Eq.trans ?_ hsampling.symm
        cases d with
        | rx => rfl
        | tx => exact (hd.resolve_left (by nofun)).symm
    rw [hknows]
    exact ⟨fun hd => Or.inl ⟨hasks, hd⟩, fun hf => (hf.resolve_right fun hn => hn.1 hasks).2⟩
  · constructor
    · intro hknows
      exact Or.inr ⟨hasks, hknows.rate, hknows.filter⟩
    · intro hf
      obtain ⟨-, hrate, hfits⟩ := hf.resolve_left fun hn => hasks hn.1
      exact ⟨hrate, hfits⟩

end PlutosdrDirection
end SdrModem
