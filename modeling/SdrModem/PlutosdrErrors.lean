import SdrModem.PlutosdrHistory

/-!
# Errors of writes to the plutosdr

A call returns the code of a write that fails, and then makes no other.  There is one
exception: `plutosdr_set_sample_rate` overwrites the code of the bandwidth when it
disables the filter.  And a change of the rate that fails half way is reported, but what
the driver remembers of the rate and of the filter is not corrected.
-/
namespace SdrModem
open StepwiseUpdate

/-! ## The writes of a call -/

/-- The writes of two calls, the second of which is made if the first succeeds. -/
def thenWrites (code : Int) (first rest : List IioAttr) : List IioAttr :=
  first ++ if code = 0 then rest else []

namespace Plutosdr

/-- The writes of `plutosdr_enable_fir_filter`. -/
def enableFirFilterWrites (ret : IioCall → Int) : List IioAttr :=
  .filterFirEn :: if ret (.write .filterFirEn) < 0 then [.outFilterFirEn] else []

def loadFirFilterWrites (ret : IioCall → Int) : Option Nat → List IioAttr
  | none => []
  | some _ =>
    if ret .malloc < 0 then []
    else
      thenWrites (plutosdrErrorCheck (ret (.write .filterFirConfig))) [.filterFirConfig]
        (enableFirFilterWrites ret)

def setBandwidthWrites (ret : IioCall → Int) (firFilterTaps : Option Nat) (chn : IioChannel) :
    List IioAttr :=
  .rfBandwidth chn :: if firFilterTaps = none then enableFirFilterWrites ret else []

/-- The writes of `plutosdr_set_sample_rate`. -/
def setSampleRateWrites (ret : IioCall → Int) (sampleRate : UInt64) (chn : IioChannel)
    (p : Plutosdr) : List IioAttr :=
  match plutosdrSelectFirFilterConfig sampleRate with
  | none => []
  | some firFilterTaps =>
    thenWrites (p.loadFirFilter ret firFilterTaps).1 (loadFirFilterWrites ret firFilterTaps) <|
    thenWrites (plutosdrErrorCheck (ret (.write (.samplingFrequency chn)))) [.samplingFrequency chn] <|
    setBandwidthWrites ret firFilterTaps chn

def changeSampleRateWrites (ret : IioCall → Int) (sampleRate : UInt64) (chn : IioChannel)
    (p : Plutosdr) : List IioAttr :=
  if p.currentSampleRate ≠ sampleRate then p.setSampleRateWrites ret sampleRate chn else []

end Plutosdr

namespace PlutosdrDirection

def leadWrites : PlutosdrDirection → List IioAttr
  | .rx => []
  | .tx => [.powerdown .tx0Lo]

/-- **The attributes that a call writes**, or tries to. -/
def writes (profile : PlutosdrProfile) (ret : IioCall → Int) (config : SdrChannelConfig)
    (p : Plutosdr) (dir : PlutosdrDirection) : List IioAttr :=
  if profile.accepts (dir.gainRange profile) config then
    thenWrites (dir.lead ret p).1 dir.leadWrites <|
    thenWrites (plutosdrErrorCheck (ret (.write (.frequency dir.lo)))) [.frequency dir.lo] <|
    thenWrites (p.changeSampleRate ret config.sampleRate dir.chn).1
      (p.changeSampleRateWrites ret config.sampleRate dir.chn) <|
    if dir.setsGain profile then [.hardwaregain dir.chn] else []
  else []

end PlutosdrDirection

/-! ## Nothing else is written -/

section Frame
variable {a : IioAttr} {p : Plutosdr} {ret : IioCall → Int}

theorem andThen_unwritten {r : Int × Plutosdr} {next : Plutosdr → Int × Plutosdr}
    {code : Int} {first rest : List IioAttr} (ha : a ∉ thenWrites code first rest)
    (hcode : r.1 = 0 → code = 0) (hfirst : a ∉ first → r.2.attrs a = p.attrs a)
    (hrest : a ∉ rest → (next r.2).2.attrs a = r.2.attrs a) :
    (andThen r next).2.attrs a = p.attrs a := by
  rw [thenWrites, List.mem_append, not_or] at ha
  by_cases hok : r.1 = 0
  · rw [if_pos (hcode hok)] at ha
    rw [andThen_of_ok hok, hrest ha.2, hfirst ha.1]
  · rw [andThen_of_failed hok, hfirst ha.1]

namespace Plutosdr

theorem write_unwritten {b : IioAttr} (ha : a ∉ [b]) (value : UInt64) :
    (p.write ret b value).2.attrs a = p.attrs a :=
  write_other (List.ne_of_not_mem_cons ha) value p

theorem enableFirFilter_unwritten (ha : a ∉ enableFirFilterWrites ret) (enable : Bool) :
    (p.enableFirFilter ret enable).2.attrs a = p.attrs a := by
  have hne : a ≠ .filterFirEn := List.ne_of_not_mem_cons ha
  rcases p.enableFirFilter_eq ret enable with ⟨-, heq⟩ | ⟨-, -, heq⟩
  · rw [heq]
    exact set_other hne p _
  · rw [heq]

theorem loadFirFilter_unwritten {taps : Option Nat} (ha : a ∉ loadFirFilterWrites ret taps) :
    (p.loadFirFilter ret taps).2.attrs a = p.attrs a := by
  cases taps with
  | none => rfl
  | some d =>
    rw [loadFirFilterWrites] at ha
    rw [loadFirFilter]
    by_cases hmalloc : ret .malloc < 0
    · rw [if_pos hmalloc]
    · rw [if_neg hmalloc] at ha ⊢
      exact andThen_unwritten ha id (fun h => write_unwritten h _)
        fun h => enableFirFilter_unwritten h true

theorem setBandwidth_unwritten {taps : Option Nat} {sampleRate : UInt64} {chn : IioChannel}
    (ha : a ∉ setBandwidthWrites ret taps chn) :
    (p.setBandwidth ret taps sampleRate chn).2.attrs a = p.attrs a := by
  have hne : a ≠ .rfBandwidth chn := List.ne_of_not_mem_cons ha
  have hwrite : (p.write ret (.rfBandwidth chn) sampleRate).2.attrs a = p.attrs a :=
    write_other hne sampleRate p
  cases taps with
  | none => exact (enableFirFilter_unwritten (List.not_mem_of_not_mem_cons ha) false).trans hwrite
  | some d => exact hwrite

theorem setSampleRate_untouched {sampleRate : UInt64} {chn : IioChannel} {q : Plutosdr}
    (ha : a ∉ q.setSampleRateWrites ret sampleRate chn) :
    (p.setSampleRate ret sampleRate chn).2.attrs a = p.attrs a := by
  unfold setSampleRateWrites at ha
  unfold setSampleRate
  cases hselect : plutosdrSelectFirFilterConfig sampleRate with
  | none => rfl
  | some taps =>
    rw [hselect] at ha
    refine andThen_unwritten ha (fun h => ?_) loadFirFilter_unwritten fun h => ?_
    · exact loadFirFilter_code.mpr (loadFirFilter_code.mp h)
    · exact andThen_unwritten h id (fun h => write_unwritten h _) setBandwidth_unwritten

theorem changeSampleRate_untouched {sampleRate : UInt64} {chn : IioChannel} {q : Plutosdr}
    (hq : q.currentSampleRate = p.currentSampleRate)
    (ha : a ∉ q.changeSampleRateWrites ret sampleRate chn) :
    (p.changeSampleRate ret sampleRate chn).2.attrs a = p.attrs a := by
  rw [changeSampleRateWrites, hq] at ha
  unfold changeSampleRate
  by_cases hne : p.currentSampleRate ≠ sampleRate
  · rw [if_pos hne] at ha ⊢
    exact andThen_keeps (P := fun q : Plutosdr => q.attrs a = p.attrs a)
      (setSampleRate_untouched ha) id
  · rw [if_neg hne]

end Plutosdr

namespace PlutosdrDirection
variable {profile : PlutosdrProfile} {config : SdrChannelConfig} {dir : PlutosdrDirection}

theorem lead_unwritten (ha : a ∉ dir.leadWrites) : (dir.lead ret p).2.attrs a = p.attrs a := by
  cases dir with
  | rx => rfl
  | tx => exact Plutosdr.write_unwritten ha _

theorem changeSampleRate_code_of_current {q : Plutosdr} {sampleRate : UInt64} {chn : IioChannel}
    (hq : q.currentSampleRate = p.currentSampleRate) :
    (q.changeSampleRate ret sampleRate chn).1 = 0 ↔ (p.changeSampleRate ret sampleRate chn).1 = 0 := by
  rw [Plutosdr.changeSampleRate_code, Plutosdr.changeSampleRate_code, Plutosdr.RateDone,
    Plutosdr.RateDone, hq]

/-- **An attribute that changes is one of those that the call writes.** -/
theorem setParameters_outside (ha : a ∉ dir.writes profile ret config p) :
    (dir.setParameters profile ret config p).2.attrs a = p.attrs a := by
  rw [writes] at ha
  rw [setParameters_eq]
  by_cases haccept : profile.accepts (dir.gainRange profile) config = true
  · rw [if_pos haccept] at ha ⊢
    rw [andThen_assoc]
    refine andThen_unwritten ha id lead_unwritten fun ha => ?_
    rw [Plutosdr.tune, andThen_assoc]
    refine andThen_unwritten ha id (fun ha => Plutosdr.write_unwritten ha _) fun ha => ?_
    have hcurrent : ((dir.lead ret p).2.write ret (.frequency dir.lo)
        config.frequency).2.currentSampleRate = p.currentSampleRate := by
      rw [Plutosdr.write_currentSampleRate, lead_current]
    refine andThen_unwritten ha (changeSampleRate_code_of_current hcurrent).mp
      (Plutosdr.changeSampleRate_untouched hcurrent.symm) fun ha => ?_
    rw [gain_finish_attrs, writeGain]
    by_cases hsets : dir.setsGain profile
    · rw [if_pos hsets] at ha ⊢
      exact Plutosdr.write_unwritten ha _
    · rw [if_neg hsets]
  · rw [if_neg haccept]

end PlutosdrDirection
end Frame

/-! ## Errors that are not reported -/

/-- The write has succeeded; the filter can be switched by another attribute too. -/
def WriteSucceeded (ret : IioCall → Int) (a : IioAttr) : Prop :=
  0 ≤ ret (.write a) ∨ (a = .filterFirEn ∧ 0 ≤ ret (.write .outFilterFirEn))

/-- **The error of the bandwidth is lost**: the rate changes to one that needs no filter,
and the bandwidth cannot be written. -/
def PlutosdrCall.LosesBandwidth (c : PlutosdrCall) (p : Plutosdr) : Prop :=
  p.currentSampleRate ≠ c.config.sampleRate ∧ rateTaps c.config.sampleRate = none ∧
  ¬ 0 ≤ c.ret (.write (.rfBandwidth c.dir.chn))

section Succeeded
variable {ret : IioCall → Int}

/-- Every write of a list has succeeded. -/
def AllSucceeded (ret : IioCall → Int) (l : List IioAttr) : Prop := ∀ a ∈ l, WriteSucceeded ret a

theorem allSucceeded_nil : AllSucceeded ret [] := List.forall_mem_nil _

theorem allSucceeded_cons {a : IioAttr} {l : List IioAttr} :
    AllSucceeded ret (a :: l) ↔ WriteSucceeded ret a ∧ AllSucceeded ret l := List.forall_mem_cons

theorem allSucceeded_thenWrites {code : Int} (h : code = 0) {first rest : List IioAttr} :
    AllSucceeded ret (thenWrites code first rest) ↔
      AllSucceeded ret first ∧ AllSucceeded ret rest := by
  rw [thenWrites, if_pos h]
  exact List.forall_mem_append

theorem writeSucceeded_iff {a : IioAttr} (h : a ≠ .filterFirEn) :
    WriteSucceeded ret a ↔ 0 ≤ ret (.write a) := or_iff_left fun hf => h hf.1

theorem enableFirFilter_succeeded (h : FirSwitched ret) :
    AllSucceeded ret (Plutosdr.enableFirFilterWrites ret) := by
  rw [Plutosdr.enableFirFilterWrites, allSucceeded_cons]
  by_cases hfirst : ret (.write .filterFirEn) < 0
  · have hsecond : 0 ≤ ret (.write .outFilterFirEn) := h.resolve_left (Int.not_le.mpr hfirst)
    rw [if_pos hfirst, allSucceeded_cons]
    exact ⟨Or.inr ⟨rfl, hsecond⟩, Or.inl hsecond, allSucceeded_nil⟩
  · rw [if_neg hfirst]
    exact ⟨Or.inl (Int.not_lt.mp hfirst), allSucceeded_nil⟩

theorem errorCheck_of_ok {a : IioAttr} (h : 0 ≤ ret (.write a)) :
    plutosdrErrorCheck (ret (.write a)) = 0 := if_neg (Int.not_lt.mpr h)

theorem loadFirFilter_succeeded {taps : Option Nat} (h : FirLoaded ret taps) :
    AllSucceeded ret (Plutosdr.loadFirFilterWrites ret taps) := by
  cases taps with
  | none => exact allSucceeded_nil
  | some d =>
    obtain ⟨hmalloc, hconfig, hswitch⟩ := h
    rw [Plutosdr.loadFirFilterWrites, if_neg (Int.not_lt.mpr hmalloc),
      allSucceeded_thenWrites (errorCheck_of_ok hconfig), allSucceeded_cons]
    exact ⟨⟨Or.inl hconfig, allSucceeded_nil⟩, enableFirFilter_succeeded hswitch⟩

/-- The bandwidth is the one write whose result can be missing from the code. -/
theorem setBandwidth_succeeded {taps : Option Nat} {chn : IioChannel}
    (h : BandwidthSet ret chn taps) :
    AllSucceeded ret (Plutosdr.setBandwidthWrites ret taps chn) ↔
      ¬ (taps = none ∧ ¬ 0 ≤ ret (.write (.rfBandwidth chn))) := by
  rw [Plutosdr.setBandwidthWrites, allSucceeded_cons, writeSucceeded_iff (by nofun)]
  cases taps with
  | none =>
    rw [if_pos rfl, and_iff_left (enableFirFilter_succeeded h)]
    simp
  | some d =>
    rw [if_neg (by nofun)]
    exact iff_of_true ⟨h, allSucceeded_nil⟩ (by nofun)

theorem setSampleRate_succeeded {sampleRate : UInt64} {chn : IioChannel} {p : Plutosdr}
    (h : RateSet ret sampleRate chn) :
    AllSucceeded ret (p.setSampleRateWrites ret sampleRate chn) ↔
      ¬ (rateTaps sampleRate = none ∧ ¬ 0 ≤ ret (.write (.rfBandwidth chn))) := by
  obtain ⟨taps, hselect, hload, hrate, hband⟩ := h
  have htaps : rateTaps sampleRate = taps := by rw [rateTaps, hselect, Option.getD_some]
  rw [Plutosdr.setSampleRateWrites, hselect, htaps, ← setBandwidth_succeeded hband,
    allSucceeded_thenWrites (Plutosdr.loadFirFilter_code.mpr hload),
    and_iff_right (loadFirFilter_succeeded hload),
    allSucceeded_thenWrites (errorCheck_of_ok hrate), allSucceeded_cons]
  exact and_iff_right ⟨Or.inl hrate, allSucceeded_nil⟩

/-- **A call that returns 0**: all its writes have succeeded, unless the error of the
bandwidth is lost. -/
theorem PlutosdrCall.perform_succeeded {profile : PlutosdrProfile} {c : PlutosdrCall} {p : Plutosdr}
    (h : (c.perform profile p).1 = 0) :
    AllSucceeded c.ret (c.dir.writes profile c.ret c.config p) ↔ ¬ c.LosesBandwidth p := by
  obtain ⟨⟨haccept, hlead⟩, ⟨hfreq, hrate⟩, hgain, -⟩ := PlutosdrDirection.setParameters_code.mp h
  have hleadWrites : AllSucceeded c.ret c.dir.leadWrites := by
    cases hdir : c.dir with
    | rx => exact allSucceeded_nil
    | tx =>
      rw [hdir] at hlead
      exact allSucceeded_cons.mpr ⟨Or.inl hlead, allSucceeded_nil⟩
  have hgainWrites : AllSucceeded c.ret
      (if c.dir.setsGain profile then [.hardwaregain c.dir.chn] else []) := by
    by_cases hsets : c.dir.setsGain profile
    · rw [if_pos hsets]
      exact allSucceeded_cons.mpr ⟨Or.inl (hgain hsets), allSucceeded_nil⟩
    · rw [if_neg hsets]
      exact allSucceeded_nil
  rw [PlutosdrDirection.writes, if_pos haccept,
    allSucceeded_thenWrites (PlutosdrDirection.lead_code.mpr hlead), and_iff_right hleadWrites,
    allSucceeded_thenWrites (errorCheck_of_ok hfreq), allSucceeded_cons,
    and_iff_right ⟨Or.inl hfreq, allSucceeded_nil⟩,
    allSucceeded_thenWrites (Plutosdr.changeSampleRate_code.mpr hrate), and_iff_left hgainWrites,
    Plutosdr.changeSampleRateWrites, LosesBandwidth]
  by_cases hne : p.currentSampleRate = c.config.sampleRate
  · rw [if_neg (not_not.mpr hne)]
    exact iff_of_true allSucceeded_nil fun hlost => hlost.1 hne
  · rw [if_pos hne, setSampleRate_succeeded (hrate.resolve_left hne)]
    exact not_congr (and_iff_right hne).symm

end Succeeded

/-! ## Sequences of calls -/

/-- A call that returns 0 has made no write that failed. -/
def PlutosdrCall.ReportsErrors (profile : PlutosdrProfile) (c : PlutosdrCall) (p : Plutosdr) : Prop :=
  (c.perform profile p).1 = 0 → AllSucceeded c.ret (c.dir.writes profile c.ret c.config p)

/-- **When errors are reported and the driver knows the device.**  After any creation and
for any failures: the calls that return 0 have made no write that failed if and only if
none of them changes to a rate without filter while the bandwidth cannot be written; and
the driver knows in every state what a channel holds if and only if the device was found
so and every call spares the channel. -/
theorem errors_reported_iff (profile : PlutosdrProfile) {ret : IioCall → Int} {sampleRate : UInt64}
    {attrs : IioAttr → UInt64} {p : Plutosdr} (h : plutosdrCreate ret sampleRate attrs = some p)
    (calls : List PlutosdrCall) :
    (PlutosdrCall.EveryCall profile (PlutosdrCall.ReportsErrors profile) p calls ↔
      PlutosdrCall.EveryCall profile
        (fun c p => (c.perform profile p).1 = 0 → ¬ c.LosesBandwidth p) p calls) ∧
    ∀ d : PlutosdrDirection,
      PlutosdrCall.EveryState profile d.Knows p calls ↔
        d.FoundKnown sampleRate attrs ∧ PlutosdrCall.EveryCall profile (d.Spares profile) p calls := by
  constructor
  · exact PlutosdrCall.everyCall_congr (fun c q => imp_congr_right PlutosdrCall.perform_succeeded) p
      calls
  · intro d
    rw [PlutosdrCall.everyState_iff (fun c q => PlutosdrDirection.knows_perform_iff c),
      PlutosdrDirection.knows_create_iff h]

/-- A device at 3 MHz, without filter. -/
def deviceAt3MHz : IioAttr → UInt64
  | .samplingFrequency _ => 3000000
  | _ => 0

/-- The driver, if the settings ask for no rate. -/
def driverAt3MHz : Plutosdr := ⟨deviceAt3MHz, 3000000, false, false⟩

/-- The writes of these attributes fail. -/
def failsAt (l : List IioAttr) : IioCall → Int
  | .write a => if a ∈ l then -5 else 0
  | _ => 0

/-- A change of the rate of the receiver, and a call for the transmitter in which the
frequency cannot be written. -/
def callsAt3MHz : List PlutosdrCall :=
  [⟨.rx, ⟨437000000, 2500000, 0⟩, fun _ => 0⟩,
    ⟨.tx, ⟨437000000, 2500000, 0⟩, failsAt [.frequency .tx0Lo]⟩]

/-- The error of the transmitter is reported, and the driver knows the receiver. -/
theorem errors_reported_at_3MHz :
    PlutosdrCall.EveryCall manualProfile (PlutosdrCall.ReportsErrors manualProfile) driverAt3MHz
        callsAt3MHz ∧
      PlutosdrCall.EveryState manualProfile PlutosdrDirection.rx.Knows driverAt3MHz
        callsAt3MHz := by
  have hcreate : plutosdrCreate (fun _ => 0) 0 deviceAt3MHz = some driverAt3MHz := rfl
  obtain ⟨hreports, hknows⟩ := errors_reported_iff manualProfile hcreate callsAt3MHz
  constructor
  · refine hreports.mpr ⟨fun _ hlost => ?_, fun hcode => ?_, trivial⟩
    · exact absurd hlost.2.2 (by decide)
    · exact absurd hcode (by decide)
  · exact (hknows .rx).mpr ⟨Or.inr ⟨by decide, rfl, rfl⟩, rfl, trivial, trivial⟩

/-- The bandwidth cannot be written and the call returns 0.  And when the filter cannot be
switched off, the call fails with the rate written: the next one, for the rate that was
there before, returns 0 and leaves the receiver at the wrong rate. -/
theorem bandwidth_error_lost :
    plutosdrCreate (fun _ => 0) 0 deviceAt3MHz = some driverAt3MHz ∧
    ¬ PlutosdrCall.EveryCall manualProfile (PlutosdrCall.ReportsErrors manualProfile) driverAt3MHz
      [⟨.rx, ⟨437000000, 2500000, 0⟩, failsAt [.rfBandwidth .rx0Chn]⟩] ∧
    ¬ PlutosdrCall.EveryState manualProfile PlutosdrDirection.rx.Knows driverAt3MHz
      [⟨.rx, ⟨437000000, 2500000, 0⟩, failsAt [.filterFirEn, .outFilterFirEn]⟩,
        ⟨.rx, ⟨437000000, 3000000, 0⟩, fun _ => 0⟩] := by
  refine ⟨rfl, ?_, ?_⟩
  · rintro ⟨hreports, -⟩
    have hlost := hreports rfl (.rfBandwidth .rx0Chn) (by decide)
    rw [writeSucceeded_iff (by nofun)] at hlost
    revert hlost
    decide
  · rintro ⟨-, -, hknows⟩
    have hrate := hknows.rate
    revert hrate
    decide

end SdrModem
