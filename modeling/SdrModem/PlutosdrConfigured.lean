import SdrModem.PlutosdrHistory

/-!
# What a successful call to the plutosdr leaves behind

Here every write succeeds.  A call that returns 0 has set the frequency and the gain of
the channel that it addresses; the rate, the bandwidth and the filter are only written if
the rate is not `current_sample_rate`.  Which rate was set last, and which one through
which channel, can be told from the calls (`RateHistory`), and with it whether the channel
has the requested one.
-/
namespace SdrModem
open StepwiseUpdate

/-- No write fails. -/
def WritesSucceed (ret : IioCall → Int) : Prop := ∀ a, 0 ≤ ret (.write a)

/-- **The channel is configured as a call has requested.** -/
structure PlutosdrCall.Configured (profile : PlutosdrProfile) (c : PlutosdrCall) (p : Plutosdr) :
    Prop where
  frequency : p.attrs (.frequency c.dir.lo) = c.config.frequency
  samplingFrequency : p.attrs (.samplingFrequency c.dir.chn) = c.config.sampleRate
  rfBandwidth : p.attrs (.rfBandwidth c.dir.chn) = c.config.sampleRate
  hardwaregain : c.dir.setsGain profile →
    p.attrs (.hardwaregain c.dir.chn) = c.config.gain.toUInt64
  fir : p.FirFits c.config.sampleRate

/-- The device after a sequence of calls. -/
def PlutosdrCall.performAll (profile : PlutosdrProfile) (p : Plutosdr) (calls : List PlutosdrCall) :
    Plutosdr :=
  calls.foldl (fun p c => (c.perform profile p).2) p

/-! ## The rates that were set -/

/-- The rate that was set or found last, and the one that was set last through each
channel, if any was. -/
structure RateHistory where
  last : UInt64
  through : PlutosdrDirection → Option UInt64

namespace RateHistory

/-- A rate was set through a channel. -/
def setThrough (d : PlutosdrDirection) (sampleRate : UInt64) (h : RateHistory) : RateHistory :=
  ⟨sampleRate, Function.update h.through d (some sampleRate)⟩

/-- The rate of the receiver is found, and replaced if the settings ask for another one. -/
def start (sampleRate : UInt64) (attrs : IioAttr → UInt64) : RateHistory :=
  let h : RateHistory := ⟨attrs (.samplingFrequency .rx0Chn), fun _ => none⟩
  if PlutosdrDirection.AsksForRate sampleRate attrs then h.setThrough .rx sampleRate else h

/-- The rate of a call is a new one that passes the checks, and there is memory for the
filter that it needs. -/
def Takes (profile : PlutosdrProfile) (h : RateHistory) (c : PlutosdrCall) : Prop :=
  profile.accepts (c.dir.gainRange profile) c.config = true ∧ c.config.sampleRate ≠ h.last ∧
  (rateTaps c.config.sampleRate = none ∨ 0 ≤ c.ret .malloc)

instance (profile : PlutosdrProfile) (h : RateHistory) (c : PlutosdrCall) :
    Decidable (h.Takes profile c) := inferInstanceAs (Decidable (_ ∧ _ ∧ _))

/-- What a call adds. -/
def add (profile : PlutosdrProfile) (h : RateHistory) (c : PlutosdrCall) : RateHistory :=
  if h.Takes profile c then h.setThrough c.dir c.config.sampleRate else h

def addAll (profile : PlutosdrProfile) (h : RateHistory) (calls : List PlutosdrCall) : RateHistory :=
  calls.foldl (add profile) h

/-- Some rate was set. -/
def Touched (h : RateHistory) : Prop := ∃ d, h.through d ≠ none

/-- **The channel gets or has the rate of a call**: it is another one than the last; or it was
the last to be set through this channel; or none was set through it, and the device was
found with this rate and bandwidth, and, if none was set at all, with the right filter. -/
def Reaches (attrs : IioAttr → UInt64) (h : RateHistory) (c : PlutosdrCall) : Prop :=
  c.config.sampleRate ≠ h.last ∨ h.through c.dir = some c.config.sampleRate ∨
  (h.through c.dir = none ∧ attrs (.samplingFrequency c.dir.chn) = c.config.sampleRate ∧
    attrs (.rfBandwidth c.dir.chn) = c.config.sampleRate ∧
    (h.Touched ∨ (PlutosdrDirection.found attrs).FirFits c.config.sampleRate))

/-- **What the history says about the device.** -/
structure Describes (attrs : IioAttr → UInt64) (h : RateHistory) (p : Plutosdr) : Prop where
  last : p.currentSampleRate = h.last
  sampling : ∀ d : PlutosdrDirection,
    p.attrs (.samplingFrequency d.chn) = (h.through d).getD (attrs (.samplingFrequency d.chn))
  bandwidth : ∀ d : PlutosdrDirection,
    p.attrs (.rfBandwidth d.chn) = (h.through d).getD (attrs (.rfBandwidth d.chn))
  touched : h.Touched → p.FirFits h.last
  untouched : ¬ h.Touched → p.fir = (PlutosdrDirection.found attrs).fir

@[simp] theorem setThrough_self (d : PlutosdrDirection) (sampleRate : UInt64) (h : RateHistory) :
    (h.setThrough d sampleRate).through d = some sampleRate := Function.update_self ..

theorem setThrough_other {d e : PlutosdrDirection} (hne : e ≠ d) (sampleRate : UInt64)
    (h : RateHistory) : (h.setThrough d sampleRate).through e = h.through e :=
  Function.update_of_ne hne ..

theorem touched_setThrough (d : PlutosdrDirection) (sampleRate : UInt64) (h : RateHistory) :
    (h.setThrough d sampleRate).Touched := ⟨d, by simp⟩

end RateHistory

/-! ## A rate that is set -/

theorem PlutosdrDirection.chn_inj {d e : PlutosdrDirection} : d.chn = e.chn ↔ d = e := by
  cases d <;> cases e <;> simp [chn]

namespace Plutosdr
variable {ret : IioCall → Int} {sampleRate : UInt64} {chn : IioChannel}

/-- The bandwidth, behind a rate that was set. -/
theorem atStage_done_bandwidth (h : 0 ≤ ret (.write (.rfBandwidth chn))) (taps : Option Nat)
    (c : IioChannel) (p : Plutosdr) :
    (p.atStage ret sampleRate chn taps .done).attrs (.rfBandwidth c) =
      if c = chn then sampleRate else p.attrs (.rfBandwidth c) := by
  have hset : ∀ q : Plutosdr, (q.set (.rfBandwidth chn) sampleRate).attrs (.rfBandwidth c) =
      if c = chn then sampleRate else q.attrs (.rfBandwidth c) := by
    intro q
    by_cases hc : c = chn
    · rw [hc, set_self, if_pos rfl]
    · rw [set_other (by rintro ⟨⟩; exact hc rfl), if_neg hc]
  cases taps with
  | none =>
    rw [atStage, set_other (by rintro ⟨⟩), setBandwidthIf, if_neg (Int.not_lt.mpr h), hset,
      set_other (by rintro ⟨⟩)]
  | some d => rw [atStage, hset, set_other (by rintro ⟨⟩), withFilter_other (by rintro ⟨⟩) (by rintro ⟨⟩)]

/-- When writes succeed, only memory can be missing. -/
theorem rateProgress_of_writes (hret : WritesSucceed ret) {taps : Option Nat}
    (hselect : plutosdrSelectFirFilterConfig sampleRate = some taps) :
    rateProgress ret sampleRate chn =
      if taps = none ∨ 0 ≤ ret .malloc then .done else .untouched := by
  have hwrite : ∀ a, ¬ ret (.write a) < 0 := fun a => Int.not_lt.mpr (hret a)
  have hfir : FirSwitched ret := Or.inl (hret _)
  cases taps with
  | none => simp [rateProgress, hselect, hwrite, hfir]
  | some d =>
    by_cases hmalloc : 0 ≤ ret .malloc
    · simp [rateProgress, hselect, hwrite, hfir, hmalloc, Int.not_lt.mpr hmalloc]
    · simp [rateProgress, hselect, hwrite, hmalloc, Int.not_le.mp hmalloc]

end Plutosdr

namespace RateHistory
variable {attrs : IioAttr → UInt64} {h : RateHistory} {p q : Plutosdr}

/-- A rate that is set through a channel. -/
theorem Describes.setThrough (hd : h.Describes attrs p) {ret : IioCall → Int} {sampleRate : UInt64}
    (dir : PlutosdrDirection) (hband : 0 ≤ ret (.write (.rfBandwidth dir.chn)))
    (hselect : plutosdrSelectFirFilterConfig sampleRate = some (rateTaps sampleRate))
    (hcurrent : q.currentSampleRate = sampleRate)
    (hq : (p.atStage ret sampleRate dir.chn (rateTaps sampleRate) .done).SameRate q) :
    (h.setThrough dir sampleRate).Describes attrs q := by
  have hthrough : ∀ (d : PlutosdrDirection) (found held : UInt64),
      held = (h.through d).getD found →
      (if d = dir then sampleRate else held) = ((h.setThrough dir sampleRate).through d).getD found := by
    intro d found held hheld
    by_cases hdir : d = dir
    · rw [if_pos hdir, hdir, setThrough_self, Option.getD_some]
    · rw [if_neg hdir, setThrough_other hdir, hheld]
  constructor
  · exact hcurrent
  · intro d
    rw [hq _ rfl, Plutosdr.atStage_sampling]
    simp only [PlutosdrDirection.chn_inj, RateProgress.wroteRate, and_true]
    exact hthrough d _ _ (hd.sampling d)
  · intro d
    rw [hq _ rfl, Plutosdr.atStage_done_bandwidth hband]
    simp only [PlutosdrDirection.chn_inj]
    exact hthrough d _ _ (hd.bandwidth d)
  · intro _
    have hfir : q.fir = rateTaps sampleRate :=
      (Plutosdr.fir_congr (hq _ rfl) (hq _ rfl)).trans
        (Plutosdr.atStage_fir ret dir.chn sampleRate .done p)
    rw [Plutosdr.FirFits, hfir]
    exact hselect
  · exact fun hno => absurd (touched_setThrough dir sampleRate h) hno

/-- Nothing about the rates changes. -/
theorem Describes.same (hd : h.Describes attrs p) (hcurrent : q.currentSampleRate = p.currentSampleRate)
    (hq : p.SameRate q) : h.Describes attrs q := by
  have hfir : q.fir = p.fir := Plutosdr.fir_congr (hq _ rfl) (hq _ rfl)
  constructor
  · rw [hcurrent, hd.last]
  · exact fun d => (hq _ rfl).trans (hd.sampling d)
  · exact fun d => (hq _ rfl).trans (hd.bandwidth d)
  · intro htouched
    rw [Plutosdr.FirFits, hfir]
    exact hd.touched htouched
  · exact fun hno => hfir.trans (hd.untouched hno)

/-- The history of a new driver. -/
theorem describes_start {ret : IioCall → Int} {sampleRate : UInt64} (hret : WritesSucceed ret)
    (hcreate : plutosdrCreate ret sampleRate attrs = some p) :
    (start sampleRate attrs).Describes attrs p := by
  have hfound : RateHistory.Describes attrs ⟨attrs (.samplingFrequency .rx0Chn), fun _ => none⟩
      (PlutosdrDirection.found attrs) :=
    ⟨rfl, fun _ => rfl, fun _ => rfl, fun ⟨_, h⟩ => absurd rfl h, fun _ => rfl⟩
  unfold start
  rcases PlutosdrDirection.create_cases hcreate with ⟨hasks, hdone, rfl⟩ | ⟨hasks, rfl⟩
  · rw [if_pos hasks]
    exact hfound.setThrough .rx (hret _) (PlutosdrDirection.select_of_done hdone) rfl
      fun _ _ => rfl
  · rw [if_neg hasks]
    exact hfound

/-- A rate that is accepted has a filter, or needs none. -/
theorem select_of_accepts {profile : PlutosdrProfile} {gain : PlutosdrRange UInt32}
    {config : SdrChannelConfig} (h : profile.accepts gain config = true) :
    plutosdrSelectFirFilterConfig config.sampleRate = some (rateTaps config.sampleRate) := by
  have hmin : ¬ config.sampleRate < minFirFilter := by
    intro hlow
    simp [PlutosdrProfile.accepts, hlow] at h
  unfold rateTaps plutosdrSelectFirFilterConfig
  rw [if_neg hmin]
  repeat' split
  all_goals rfl

/-- How far a call gets with the rate: all the way or nowhere. -/
theorem stage_of_writes {profile : PlutosdrProfile} {c : PlutosdrCall} (hret : WritesSucceed c.ret)
    (hlast : p.currentSampleRate = h.last) :
    c.stage profile p = if h.Takes profile c then .done else .untouched := by
  unfold PlutosdrCall.stage PlutosdrDirection.stage
  by_cases haccept : profile.accepts (c.dir.gainRange profile) c.config = true
  · have hlead : c.dir.Leads c.ret := by
      cases c.dir with
      | rx => trivial
      | tx => exact hret _
    rw [Plutosdr.rateProgress_of_writes hret (select_of_accepts haccept)]
    by_cases hne : c.config.sampleRate = h.last
    · rw [if_neg fun hc => hc.2.2 (hlast.trans hne.symm), if_neg fun ht => ht.2.1 hne]
    · rw [if_pos ⟨⟨haccept, hlead⟩, hret _, fun hc => hne (hc.symm.trans hlast)⟩]
      by_cases hload : rateTaps c.config.sampleRate = none ∨ 0 ≤ c.ret .malloc
      · rw [if_pos hload, if_pos ⟨haccept, hne, hload⟩]
      · rw [if_neg hload, if_neg fun ht => hload ht.2.2]
  · rw [if_neg fun hc => haccept hc.1.1, if_neg fun ht => haccept ht.1]

/-- **One call.** -/
theorem Describes.perform {profile : PlutosdrProfile} {c : PlutosdrCall} (hret : WritesSucceed c.ret)
    (hd : h.Describes attrs p) : (h.add profile c).Describes attrs (c.perform profile p).2 := by
  have hstage : c.dir.stage profile c.ret c.config p = _ := stage_of_writes hret hd.last
  have hsame : Plutosdr.SameRate _ (c.perform profile p).2 :=
    PlutosdrDirection.setParameters_sameRate
  have hcurrent : (c.perform profile p).2.currentSampleRate = _ :=
    PlutosdrDirection.setParameters_current_stage
  rw [hstage] at hsame hcurrent
  unfold add
  by_cases htakes : h.Takes profile c
  · rw [if_pos htakes] at hsame hcurrent ⊢
    exact hd.setThrough c.dir (hret _) (select_of_accepts htakes.1) hcurrent hsame
  · rw [if_neg htakes] at hsame hcurrent ⊢
    exact hd.same hcurrent hsame

/-- **A sequence of calls.** -/
theorem Describes.performAll {profile : PlutosdrProfile} {calls : List PlutosdrCall}
    (hret : ∀ c ∈ calls, WritesSucceed c.ret) (hd : h.Describes attrs p) :
    (h.addAll profile calls).Describes attrs (PlutosdrCall.performAll profile p calls) := by
  induction calls generalizing h p with
  | nil => exact hd
  | cons c calls ih =>
    exact ih (fun d hmem => hret d (List.mem_cons_of_mem c hmem))
      (hd.perform (hret c List.mem_cons_self))

end RateHistory

/-! ## A call that returns 0 -/

namespace PlutosdrCall
variable {profile : PlutosdrProfile} {c : PlutosdrCall} {p : Plutosdr}

/-- The frequency and the gain are always written. -/
theorem perform_tuned (hcode : (c.perform profile p).1 = 0) :
    (c.perform profile p).2.attrs (.frequency c.dir.lo) = c.config.frequency ∧
    (c.dir.setsGain profile →
      (c.perform profile p).2.attrs (.hardwaregain c.dir.chn) = c.config.gain.toUInt64) := by
  obtain ⟨hbegin, htuned, hgain, -⟩ := PlutosdrDirection.setParameters_code.mp hcode
  constructor
  · have hheld : c.dir.requested profile c.config .frequency = _ :=
      PlutosdrDirection.setParameters_written (p := p) ⟨hbegin, htuned.1⟩
    exact (Option.some.inj hheld).symm
  · intro hsets
    have hheld : c.dir.requested profile c.config .gain = _ :=
      PlutosdrDirection.setParameters_written ⟨hbegin, htuned, hsets, hgain hsets⟩
    rw [PlutosdrDirection.requested, if_pos hsets] at hheld
    exact (Option.some.inj hheld).symm

/-- What is left is the rate. -/
theorem configured_iff_rate (hcode : (c.perform profile p).1 = 0) :
    c.Configured profile (c.perform profile p).2 ↔
      (c.perform profile p).2.attrs (.samplingFrequency c.dir.chn) = c.config.sampleRate ∧
      (c.perform profile p).2.attrs (.rfBandwidth c.dir.chn) = c.config.sampleRate ∧
      (c.perform profile p).2.FirFits c.config.sampleRate := by
  obtain ⟨hfreq, hgain⟩ := perform_tuned hcode
  exact ⟨fun h => ⟨h.samplingFrequency, h.rfBandwidth, h.fir⟩,
    fun ⟨hrate, hband, hfir⟩ => ⟨hfreq, hrate, hband, hgain, hfir⟩⟩

/-- A call that returns 0 takes every new rate. -/
theorem takes_of_code {h : RateHistory} (hlast : p.currentSampleRate = h.last)
    (hcode : (c.perform profile p).1 = 0) (hne : c.config.sampleRate ≠ h.last) :
    h.Takes profile c := by
  obtain ⟨hbegin, htuned, -, -⟩ := PlutosdrDirection.setParameters_code.mp hcode
  refine ⟨hbegin.1, hne, ?_⟩
  obtain ⟨taps, hselect, hload, -, -⟩ := htuned.2.resolve_left fun hc => hne (hc.symm.trans hlast)
  have htaps : rateTaps c.config.sampleRate = taps := by rw [rateTaps, hselect, Option.getD_some]
  rw [htaps]
  cases taps with
  | none => exact Or.inl rfl
  | some d => exact Or.inr hload.1

/-- **After a call that returns 0**, the channel is configured if its rate is reached. -/
theorem configured_perform_iff {attrs : IioAttr → UInt64} {h : RateHistory}
    (hret : WritesSucceed c.ret) (hd : h.Describes attrs p) (hcode : (c.perform profile p).1 = 0) :
    c.Configured profile (c.perform profile p).2 ↔ h.Reaches attrs c := by
  have hafter : (h.add profile c).Describes attrs (c.perform profile p).2 := hd.perform hret
  rw [configured_iff_rate hcode, hafter.sampling, hafter.bandwidth]
  by_cases hne : c.config.sampleRate = h.last
  · -- the call writes nothing: the history tells what is there
    have hkept : h.add profile c = h := if_neg fun htakes => htakes.2.1 hne
    rw [hkept] at hafter ⊢
    have hfir : h.Touched → (c.perform profile p).2.FirFits c.config.sampleRate := fun htouched =>
      hne ▸ hafter.touched htouched
    cases hthrough : h.through c.dir with
    | some sampleRate =>
      have htouched : h.Touched := ⟨c.dir, by rw [hthrough]; exact Option.some_ne_none _⟩
      rw [Option.getD_some, Option.getD_some, RateHistory.Reaches, hthrough, Option.some.injEq]
      constructor
      · exact fun hheld => Or.inr (Or.inl hheld.1)
      · intro hreach
        rcases hreach with hnew | hsame | ⟨hnone, -⟩
        · exact absurd hne hnew
        · exact ⟨hsame, hsame, hfir htouched⟩
        · cases hnone
    | none =>
      rw [Option.getD_none, Option.getD_none, RateHistory.Reaches, hthrough]
      constructor
      · rintro ⟨hrate, hband, hfits⟩
        refine Or.inr (Or.inr ⟨rfl, hrate, hband, ?_⟩)
        by_cases htouched : h.Touched
        · exact Or.inl htouched
        · rw [Plutosdr.FirFits, hafter.untouched htouched] at hfits
          exact Or.inr hfits
      · intro hreach
        rcases hreach with hnew | hsome | ⟨-, hrate, hband, hfilter⟩
        · exact absurd hne hnew
        · cases hsome
        · refine ⟨hrate, hband, ?_⟩
          by_cases htouched : h.Touched
          · exact hfir htouched
          · rw [Plutosdr.FirFits, hafter.untouched htouched]
            exact hfilter.resolve_left htouched
  · have htakes : h.Takes profile c := takes_of_code hd.last hcode hne
    have hadd : h.add profile c = h.setThrough c.dir c.config.sampleRate := if_pos htakes
    rw [hadd] at hafter ⊢
    rw [RateHistory.setThrough_self, Option.getD_some, Option.getD_some]
    exact iff_of_true
      ⟨rfl, rfl, hafter.touched (RateHistory.touched_setThrough c.dir c.config.sampleRate h)⟩
      (Or.inl hne)

end PlutosdrCall

/-- **When a call that returns 0 has configured its channel.**  For every creation and every
sequence of calls in which all writes succeed: exactly if the channel gets or has the
rate that the call asks for, by the history of the calls before. -/
theorem configured_iff_reaches (profile : PlutosdrProfile) {ret : IioCall → Int}
    {sampleRate : UInt64} {attrs : IioAttr → UInt64} {p : Plutosdr}
    (hcreate : plutosdrCreate ret sampleRate attrs = some p) (hret : WritesSucceed ret)
    {before : List PlutosdrCall} (hbefore : ∀ c ∈ before, WritesSucceed c.ret)
    {c : PlutosdrCall} (hc : WritesSucceed c.ret)
    (hcode : (c.perform profile (PlutosdrCall.performAll profile p before)).1 = 0) :
    c.Configured profile (c.perform profile (PlutosdrCall.performAll profile p before)).2 ↔
      ((RateHistory.start sampleRate attrs).addAll profile before).Reaches attrs c :=
  PlutosdrCall.configured_perform_iff hc
    ((RateHistory.describes_start hret hcreate).performAll hbefore) hcode

/-- All attributes are 0. -/
def blankAttrs : IioAttr → UInt64 := fun _ => 0

/-- A call for a channel at 437 MHz with the gain 0, in which nothing fails. -/
def callAt437MHz (dir : PlutosdrDirection) (sampleRate : UInt64) : PlutosdrCall :=
  ⟨dir, ⟨437000000, sampleRate, 0⟩, fun _ => 0⟩

/-- The receiver gets the rate of the settings and another one by a call.  Then the
transmitter gets the rate of the settings. -/
theorem configured_other_rate :
    ∃ p : Plutosdr, plutosdrCreate (fun _ => 0) 2500000 blankAttrs = some p ∧
      (callAt437MHz .tx 2500000).Configured manualProfile
        ((callAt437MHz .tx 2500000).perform manualProfile
          (PlutosdrCall.performAll manualProfile p [callAt437MHz .rx 600000])).2 := by
  have hret : WritesSucceed fun _ => 0 := fun _ => Int.le_refl 0
  have hbefore : ∀ c ∈ [callAt437MHz .rx 600000], WritesSucceed c.ret :=
    List.forall_mem_singleton.mpr hret
  have hcreate : plutosdrCreate (fun _ => 0) 2500000 blankAttrs = some _ := rfl
  refine ⟨_, hcreate, ?_⟩
  exact (configured_iff_reaches manualProfile hcreate hret hbefore hret rfl).mpr
    (Or.inl (by decide))

/-- The receiver gets the rate of the settings.  A call for the transmitter with the same
rate returns 0, and the transmitter has neither the rate nor the bandwidth. -/
theorem transmitter_left_behind :
    ∃ p : Plutosdr, plutosdrCreate (fun _ => 0) 2500000 blankAttrs = some p ∧
      ((callAt437MHz .tx 2500000).perform manualProfile p).1 = 0 ∧
      ¬ (callAt437MHz .tx 2500000).Configured manualProfile
        ((callAt437MHz .tx 2500000).perform manualProfile p).2 := by
  refine ⟨_, rfl, rfl, fun hconfigured => ?_⟩
  have hrate := hconfigured.samplingFrequency
  revert hrate
  decide

end SdrModem
