import Mathlib.Data.List.Nodup
import SdrModem.Config

/-!
# Where a setting comes from

A setting has the value of its last option on the command line, or else that of the file,
or else 0; then some settings that are 0 or empty get a default (`Setting.default`).  The
settings of a device are looked up in the file before the command line is known, so they
are only found if the file itself names the device.
-/
namespace SdrModem
open Libc

section Except
variable {ε α β : Type}

theorem bind_ok {x : Except ε α} {f : α → Except ε β} {b : β} :
    x.bind f = .ok b ↔ ∃ a, x = .ok a ∧ f a = .ok b := by
  cases x with
  | error e => exact ⟨nofun, fun ⟨_, h, _⟩ => nomatch h⟩
  | ok a => exact ⟨fun h => ⟨a, rfl, h⟩, fun ⟨_, ha, h⟩ => by cases ha; exact h⟩

theorem map_ok {x : Except ε α} {f : α → β} {b : β} :
    x.map f = .ok b ↔ ∃ a, x = .ok a ∧ f a = b := by
  cases x with
  | error e => exact ⟨nofun, fun ⟨_, h, _⟩ => nomatch h⟩
  | ok a =>
    constructor
    · exact fun h => ⟨a, rfl, Except.ok.inj h⟩
    · rintro ⟨_, ha, h⟩
      cases ha
      exact congrArg _ h

theorem mapError_ok {ε' : Type} {x : Except ε α} {f : ε → ε'} {a : α} :
    x.mapError f = .ok a ↔ x = .ok a := by
  cases x with
  | error e => exact ⟨nofun, nofun⟩
  | ok b => simp [Except.mapError]

theorem foldlM_cons_ok {f : β → α → Except ε β} {a : α} {l : List α} {b c : β} :
    (a :: l).foldlM f b = .ok c ↔ ∃ d, f b a = .ok d ∧ l.foldlM f d = .ok c := by
  rw [List.foldlM_cons]
  exact bind_ok

end Except

namespace AppSettings

@[simp] theorem set_self (c : AppSettings) (s : Setting) (v : s.Value) : (c.set s v) s = v :=
  Function.update_self ..

theorem set_other {s t : Setting} (h : t ≠ s) (c : AppSettings) (v : s.Value) :
    (c.set s v) t = c t := Function.update_of_ne h ..

/-! ## The command line -/

/-- The last value that the command line has for a setting. -/
def lastOption (s : Setting) : List (Setting × String) → Option String
  | [] => none
  | (t, optarg) :: l => (lastOption s l).or (if t = s then some optarg else none)

/-- A value that comes from a string, if there is one, and stays as it is otherwise. -/
def FromOption (atof : String → UInt32) {s : Setting} (old : s.Value) (optarg : Option String)
    (v : s.Value) : Prop :=
  match optarg with
  | none => v = old
  | some optarg => s.parse atof optarg = .ok v

variable {atof : String → UInt32} {c r : AppSettings}

/-- **One option** changes its setting. -/
theorem loadOption_ok {t : Setting} {optarg : String}
    (h : c.loadOption atof (some (t, optarg)) = .ok r) :
    ∃ v, t.parse atof optarg = .ok v ∧ r = c.set t v := by
  obtain ⟨v, hv, hr⟩ := map_ok.mp h
  exact ⟨v, mapError_ok.mp hv, hr.symm⟩

/-- **All options**: the last one of each name. -/
theorem loadOptions_ok {l : List (Setting × String)}
    (h : (l.map some).foldlM (loadOption atof) c = .ok r) (s : Setting) :
    FromOption atof (c s) (lastOption s l) (r s) := by
  induction l generalizing c with
  | nil =>
    cases h
    exact rfl
  | cons e l ih =>
    obtain ⟨t, optarg⟩ := e
    obtain ⟨d, hd, hrest⟩ := foldlM_cons_ok.mp h
    obtain ⟨v, hv, rfl⟩ := loadOption_ok hd
    have hlast := ih hrest
    rw [lastOption]
    cases hs : lastOption s l with
    | some later =>
      rw [hs] at hlast
      exact hlast
    | none =>
      rw [hs] at hlast
      by_cases hts : t = s
      · subst hts
        rw [if_pos rfl]
        have hrt : r t = v := hlast.trans (set_self c t v)
        rw [hrt]
        exact hv
      · rw [if_neg hts]
        exact hlast.trans (set_other (Ne.symm hts) c v)

end AppSettings

/-! ### The names of the options -/

namespace Setting

theorem mem_all (s : Setting) : s ∈ all := by
  cases s <;> decide

theorem name_injective : Function.Injective name := by
  have hnodup : (all.map name).Nodup := by simp [all, name]
  intro s t h
  exact List.inj_on_of_nodup_map hnodup (mem_all s) (mem_all t) h

theorem isName (s : Setting) : IsName s.name := by
  cases s <;> exact isName_ofList (by decide)

theorem findLong_name (s : Setting) :
    AppSettings.cliOptions.findLong s.name.toList = some s := by
  refine findLong_of_mem (List.mem_map.mpr ⟨s, mem_all s, rfl⟩) fun e he hname => ?_
  obtain ⟨t, -, rfl⟩ := List.mem_map.mp he
  exact name_injective hname

end Setting

/-- The arguments that a list of options is written as. -/
abbrev optionArgs (l : List (Setting × String)) : List String := pairArgs Setting.name l

theorem AppSettings.loadFromCli_ok {atof : String → UInt32} {c r : AppSettings}
    {l : List (Setting × String)} (h : c.loadFromCli atof (optionArgs l) = .ok r) (s : Setting) :
    FromOption atof (c s) (lastOption s l) (r s) := by
  rw [loadFromCli, scan_pairs Setting.isName Setting.findLong_name] at h
  exact loadOptions_ok h s

/-! ## The file -/

namespace AppSettings
variable {file : ConfigFile} {c r : AppSettings}

/-- A value that comes from the file, if it is there, and stays as it is otherwise. -/
def FromFile {s : Setting} (old : s.Value) (setting : Option FileValue) (v : s.Value) : Prop :=
  match setting with
  | none => v = old
  | some f => s.load f = .ok v

/-- The same, but the settings of another device are not looked up. -/
def Loaded (file : ConfigFile) (type : SdrDeviceType) {s : Setting} (old v : s.Value) : Prop :=
  if s.backend.all (· = type) then FromFile old (file s) v else v = old

/-- **One setting** of the file. -/
theorem loadSetting_ok {s : Setting} (h : c.loadSetting file s = .ok r) :
    ∃ v, r = c.set s v ∧ Loaded file (c .sdrType) (c s) v := by
  have hsame : c.set s (c s) = c := Function.update_eq_self s c
  unfold loadSetting at h
  unfold Loaded
  by_cases hlook : s.backend.all (· = c .sdrType) = true
  · rw [if_pos hlook] at h
    simp only [if_pos hlook]
    cases hfile : file s with
    | none =>
      rw [hfile] at h
      cases h
      exact ⟨c s, hsame.symm, rfl⟩
    | some f =>
      rw [hfile] at h
      obtain ⟨v, hv, hr⟩ := map_ok.mp h
      exact ⟨v, hr.symm, hv⟩
  · rw [if_neg hlook] at h
    simp only [if_neg hlook]
    cases h
    exact ⟨c s, hsame.symm, rfl⟩

/-- **Several settings**, where the type of the device is not among them or does not
matter. -/
theorem loadSettings_ok {l : List Setting} {type : SdrDeviceType} (hnodup : l.Nodup)
    (htype : (c .sdrType = type ∧ .sdrType ∉ l) ∨ ∀ s ∈ l, s.backend = none)
    (h : l.foldlM (loadSetting file) c = .ok r) (s : Setting) :
    (s ∉ l → r s = c s) ∧ (s ∈ l → Loaded file type (c s) (r s)) := by
  induction l generalizing c with
  | nil =>
    cases h
    exact ⟨fun _ => rfl, nofun⟩
  | cons t l ih =>
    obtain ⟨d, hd, hrest⟩ := foldlM_cons_ok.mp h
    obtain ⟨v, rfl, hv⟩ := loadSetting_ok hd
    obtain ⟨htl, hnodup⟩ := List.nodup_cons.mp hnodup
    have hnext : ((c.set t v) .sdrType = type ∧ .sdrType ∉ l) ∨ ∀ s ∈ l, s.backend = none := by
      rcases htype with ⟨htype, hnot⟩ | hnone
      · refine Or.inl ⟨?_, fun hmem => hnot (List.mem_cons_of_mem t hmem)⟩
        have hne : Setting.sdrType ≠ t := List.ne_of_not_mem_cons hnot
        rw [set_other hne, htype]
      · exact Or.inr fun s hs => hnone s (List.mem_cons_of_mem t hs)
    obtain ⟨hout, hin⟩ := ih hnodup hnext hrest
    constructor
    · intro hs
      rw [hout (List.not_mem_of_not_mem_cons hs), set_other (List.ne_of_not_mem_cons hs)]
    · intro hs
      by_cases hst : s = t
      · subst hst
        rw [hout htl, set_self]
        rcases htype with ⟨htype, -⟩ | hnone
        · rw [← htype]
          exact hv
        · have hnone := hnone s List.mem_cons_self
          unfold Loaded at hv ⊢
          rw [hnone] at hv ⊢
          exact hv
      · have hsl := (List.mem_cons.mp hs).resolve_left hst
        have hloaded := hin hsl
        rw [set_other hst] at hloaded
        exact hloaded

/-- **The file as a whole**, from nothing. -/
theorem loadFromFile_ok (h : zero.loadFromFile file = .ok r) (s : Setting) :
    (s ∉ Setting.fileHead ++ Setting.fileTail → r s = s.kind.zero) ∧
    (s ∈ Setting.fileHead ++ Setting.fileTail → Loaded file (r .sdrType) s.kind.zero (r s)) := by
  rw [loadFromFile, List.foldlM_append] at h
  obtain ⟨d, hhead, htail⟩ := bind_ok.mp h
  have hheadNone : ∀ s ∈ Setting.fileHead, s.backend = none := by decide
  have hdisjoint : ∀ s ∈ Setting.fileHead, s ∉ Setting.fileTail := by decide
  have hheadNodup : Setting.fileHead.Nodup := by decide
  have htailNodup : Setting.fileTail.Nodup := by decide
  have hnotTail : .sdrType ∉ Setting.fileTail := by decide
  have htype := (loadSettings_ok htailNodup (Or.inl ⟨rfl, hnotTail⟩) htail .sdrType).1 hnotTail
  have htail := loadSettings_ok htailNodup (Or.inl ⟨htype.symm, hnotTail⟩) htail s
  have hhead : ∀ s, (s ∉ Setting.fileHead → d s = zero s) ∧
      (s ∈ Setting.fileHead → Loaded file (r .sdrType) (zero s) (d s)) :=
    loadSettings_ok hheadNodup (Or.inr hheadNone) hhead
  constructor
  · intro hs
    obtain ⟨hs1, hs2⟩ := not_or.mp (mt List.mem_append.mpr hs)
    rw [htail.1 hs2, (hhead s).1 hs1]
    rfl
  · intro hs
    by_cases hs1 : s ∈ Setting.fileHead
    · rw [htail.1 (hdisjoint s hs1)]
      exact (hhead s).2 hs1
    · have hloaded := htail.2 ((List.mem_append.mp hs).resolve_left hs1)
      rw [(hhead s).1 hs1] at hloaded
      exact hloaded

end AppSettings

/-! ## The defaults -/

namespace Setting

/-- What a setting that is 0 or empty is replaced with, if anything: some defaults are for
one device only, and the format of a file is guessed from its name. -/
def default (c : AppSettings) : (s : Setting) → Option s.Value
  | .logLevel => some (some .info)
  | .sdrBufferLen => some 262144
  | .port => some 8091
  | .readTimeoutSeconds => some 5
  | .queueSize => some 64
  | .plutosdrTimeoutMs => if c .sdrType = .plutosdr then some 1000 else none
  | .plutosdrUri => if c .sdrType = .plutosdr then some none else none
  | .plutosdrCalibMode => if c .sdrType = .plutosdr then some (some "manual_tx_quad") else none
  | .rxFileFormat => if c .sdrType = .file then (c .rxFile).map appConfigGuessFileFormat else none
  | .txFileFormat => if c .sdrType = .file then (c .txFile).map appConfigGuessFileFormat else none
  | .pskSymsyncFilterBankSize => some 32
  | .pskRrcDelay => some 5
  | .pskRrcBeta => some 0x3eb33333
  | .pskCostasBandwidth => some 0x3c23d70a
  | .pskPmSymsyncFilterBankSize => some 32
  | .pskPmRrcDelay => some 5
  | .pskPmRrcBeta => some 0x3eb33333
  | .pskPmCostasBandwidth => some 0x3ba3d70a
  | .pskPmCarrierPllBandwidth => some 0x38d1b717
  | _ => none

/-- A value, or its default. -/
def fill (c : AppSettings) (s : Setting) (v : s.Value) : s.Value :=
  if s.kind.isUnset v then (s.default c).getD v else v

end Setting

namespace AppSettings
variable {c d r : AppSettings}

theorem orDefault_self (c : AppSettings) (s : Setting) (v : s.Value) :
    (c.orDefault s v) s = if s.kind.isUnset (c s) then v else c s := by
  unfold orDefault
  split
  · rw [set_self]
  · rfl

theorem orDefault_other {s t : Setting} (h : t ≠ s) (c : AppSettings) (v : s.Value) :
    (c.orDefault s v) t = c t := by
  unfold orDefault
  split
  · rw [set_other h]
  · rfl

/-- `d` is `c`, with the defaults of some settings filled in. -/
def Fills (l : List Setting) (c d : AppSettings) : Prop :=
  ∀ s, d s = if s ∈ l then s.fill c (c s) else c s

theorem setDefaults_append (l k : List ((s : Setting) × s.Value)) (c : AppSettings) :
    setDefaults (l ++ k) c = setDefaults k (setDefaults l c) := List.foldl_append

theorem setDefaults_other {l : List ((s : Setting) × s.Value)} {s : Setting}
    (hs : s ∉ l.map Sigma.fst) (c : AppSettings) : setDefaults l c s = c s := by
  induction l generalizing c with
  | nil => rfl
  | cons e l ih =>
    have hne : s ≠ e.1 := List.ne_of_not_mem_cons hs
    exact (ih (List.not_mem_of_not_mem_cons hs) _).trans (orDefault_other hne c e.2)

theorem setDefaults_mem {l : List ((s : Setting) × s.Value)} (hnodup : (l.map Sigma.fst).Nodup)
    {s : Setting} {v : s.Value} (hs : ⟨s, v⟩ ∈ l) (c : AppSettings) :
    setDefaults l c s = if s.kind.isUnset (c s) then v else c s := by
  induction l generalizing c with
  | nil => cases hs
  | cons e l ih =>
    obtain ⟨hel, hnodup⟩ := List.nodup_cons.mp hnodup
    rcases List.mem_cons.mp hs with rfl | hs
    · exact (setDefaults_other hel _).trans (orDefault_self c s v)
    · have hne : s ≠ e.1 := by
        rintro rfl
        exact hel (List.mem_map.mpr ⟨_, hs, rfl⟩)
      have hrest := ih hnodup hs (c.orDefault e.1 e.2)
      rw [orDefault_other hne] at hrest
      exact hrest

/-- **Defaults are filled in** if they are those of their settings. -/
theorem fills_setDefaults {l : List ((s : Setting) × s.Value)} (hnodup : (l.map Sigma.fst).Nodup)
    (hdefault : ∀ e ∈ l, e.1.default c = some e.2) :
    Fills (l.map Sigma.fst) c (setDefaults l c) := by
  intro s
  by_cases hs : s ∈ l.map Sigma.fst
  · obtain ⟨⟨t, v⟩, he, rfl⟩ := List.mem_map.mp hs
    rw [if_pos hs, setDefaults_mem hnodup he, Setting.fill, hdefault _ he, Option.getD_some]
  · rw [if_neg hs, setDefaults_other hs]

theorem validateCommon_ok (h : c.validateCommon = .ok r) :
    Fills [.logLevel, .sdrBufferLen, .port, .readTimeoutSeconds, .queueSize] c r := by
  unfold validateCommon at h
  dsimp only at h
  split at h
  · cases h
  · split at h
    · cases h
    · split at h
      · cases h
      · rw [← Except.ok.inj h, ← setDefaults_append]
        exact fills_setDefaults (by decide) (by simp [Setting.default])

/-- A file that passes has the format that it was given, or the one that is guessed. -/
theorem validateFile_ok {file : Option String} {format v : SdrFileFormat}
    (h : validateFile file format = .ok v) :
    v = if format = .guess then (file.map appConfigGuessFileFormat).getD format else format := by
  unfold validateFile at h
  cases file with
  | none =>
    cases h
    simp
  | some name =>
    dsimp only [Option.map_some, Option.getD_some] at h ⊢
    generalize (if format = .guess then appConfigGuessFileFormat name else format) = found at h ⊢
    by_cases hinvalid : found = .invalid
    · rw [if_pos hinvalid] at h
      cases h
    · rw [if_neg hinvalid] at h
      exact (Except.ok.inj h).symm

theorem validateDevice_ok (h : c.validateDevice = .ok r) :
    Fills [.plutosdrTimeoutMs, .plutosdrUri, .plutosdrCalibMode, .rxFileFormat, .txFileFormat]
      c r := by
  unfold validateDevice at h
  cases htype : c .sdrType with
  | plutosdr =>
    rw [htype] at h
    have hfills : Fills [.plutosdrTimeoutMs, .plutosdrUri, .plutosdrCalibMode] c r := by
      rw [← Except.ok.inj h]
      exact fills_setDefaults (by decide) (by simp [Setting.default, htype])
    intro s
    rw [hfills]
    cases s
    all_goals simp [Setting.fill, Setting.default, htype]
  | airspy =>
    rw [htype] at h
    dsimp only at h
    split at h
    · cases h
    · cases h
      intro s
      cases s
      all_goals simp [Setting.fill, Setting.default, htype]
  | file =>
    rw [htype] at h
    dsimp only at h
    split at h
    · cases h
    · split at h
      · cases h
      · split at h
        · cases h
        · obtain ⟨rx, hrx, h⟩ := bind_ok.mp h
          obtain ⟨tx, htx, h⟩ := bind_ok.mp h
          cases h
          have hrx := validateFile_ok hrx
          have htx := validateFile_ok htx
          intro s
          cases s
          all_goals simp [set_other, Setting.fill, Setting.default, htype, SettingKind.isUnset, hrx, htx]
  | invalid =>
    rw [htype] at h
    cases h
  | none =>
    rw [htype] at h
    cases h

theorem validateModem_ok (h : c.validateModem = .ok r) :
    Fills [.pskSymsyncFilterBankSize, .pskRrcDelay, .pskRrcBeta, .pskCostasBandwidth,
      .pskPmSymsyncFilterBankSize, .pskPmRrcDelay, .pskPmRrcBeta, .pskPmCostasBandwidth,
      .pskPmCarrierPllBandwidth] c r := by
  unfold validateModem at h
  split at h
  · cases h
  · split at h
    · cases h
    · split at h
      · cases h
      · rw [← Except.ok.inj h, applyPskPmDefaults, applyPskDefaults, ← setDefaults_append]
        exact fills_setDefaults (by decide) (by simp [Setting.default])

/-- The settings that a default depends on. -/
theorem default_congr (htype : c .sdrType = d .sdrType) (hrx : c .rxFile = d .rxFile)
    (htx : c .txFile = d .txFile) (s : Setting) : s.default c = s.default d := by
  unfold Setting.default
  rw [htype, hrx, htx]

theorem fill_congr (htype : c .sdrType = d .sdrType) (hrx : c .rxFile = d .rxFile)
    (htx : c .txFile = d .txFile) (s : Setting) : s.fill c = s.fill d := by
  unfold Setting.fill
  rw [default_congr htype hrx htx]

/-- Two parts that fill in different settings. -/
theorem Fills.trans {l k : List Setting} (hc : Fills l c d) (hd : Fills k d r)
    (hdisjoint : ∀ s ∈ l, s ∉ k) (hkept : .sdrType ∉ l ∧ .rxFile ∉ l ∧ .txFile ∉ l) :
    Fills (l ++ k) c r := by
  have hkeep : ∀ t, t ∉ l → c t = d t := fun t ht => by rw [hc, if_neg ht]
  intro s
  rw [hd, ← fill_congr (hkeep _ hkept.1) (hkeep _ hkept.2.1) (hkeep _ hkept.2.2)]
  by_cases hl : s ∈ l
  · rw [if_neg (hdisjoint s hl), hc, if_pos hl, if_pos (List.mem_append_left k hl)]
  · rw [← hkeep s hl]
    by_cases hk : s ∈ k
    · rw [if_pos hk, if_pos (List.mem_append_right l hk)]
    · rw [if_neg hk, if_neg (by rw [List.mem_append]; exact not_or.mpr ⟨hl, hk⟩)]

/-- **What the checks leave of the settings**: all of them, with their defaults. -/
theorem validate_ok {config : ParsedConfig} (h : appConfigValidateAndLog c = .ok config)
    (s : Setting) : config.settings s = s.fill c (c s) := by
  obtain ⟨c1, h1, h⟩ := bind_ok.mp h
  obtain ⟨c2, h2, h⟩ := bind_ok.mp h
  obtain ⟨c3, h3, h⟩ := bind_ok.mp h
  cases h
  have hfills := ((validateCommon_ok h1).trans (validateDevice_ok h2) (by decide) (by decide)).trans
    (validateModem_ok h3) (by decide) (by decide)
  change c3 s = _
  rw [hfills]
  -- whatever is not filled in has no default
  cases s
  all_goals first
    | exact if_pos (by decide)
    | exact (if_neg (by decide)).trans (ite_self _).symm

end AppSettings

/-! ## All together -/

/-- The settings of the file that the first scan finds. -/
def loadedFile (env : ConfigEnv) (args : List String) : ConfigFile :=
  fun s => ((configPath args).bind env.readFile).bind fun file => file s

/-- The steps of an `app_config_create` that returns 0. -/
theorem create_ok {env : ConfigEnv} {args : List String} {config : ParsedConfig}
    (h : appConfigCreate env args = .ok config) :
    ∃ c d, appConfigLoad ((configPath args).bind env.readFile) = .ok c ∧
      c.loadFromCli env.atof args = .ok d ∧ appConfigValidateAndLog d = .ok config := by
  have hfrom : appConfigCreateFrom env ((configPath args).bind env.readFile) args = .ok config := by
    unfold appConfigCreate at h
    cases hpath : configPath args with
    | none =>
      rw [hpath] at h
      exact h
    | some path =>
      rw [hpath] at h
      dsimp only at h
      cases hfile : env.readFile path with
      | none =>
        rw [hfile] at h
        cases h
      | some file =>
        rw [hfile] at h
        rw [Option.bind_some, hfile]
        exact h
  obtain ⟨c, hc, hfrom⟩ := bind_ok.mp hfrom
  obtain ⟨d, hd, hfrom⟩ := bind_ok.mp hfrom
  obtain ⟨config', hconfig, hfrom⟩ := bind_ok.mp hfrom
  split at hfrom
  · cases hfrom
  · cases hfrom
    exact ⟨c, d, hc, hd, hconfig⟩

/-- The settings before the second scan. -/
theorem load_ok {file : Option ConfigFile} {c : AppSettings} (h : appConfigLoad file = .ok c)
    {s : Setting} (hs : s ∈ Setting.fileHead ++ Setting.fileTail) :
    AppSettings.Loaded (fun s => file.bind fun file => file s) (c .sdrType) s.kind.zero (c s) := by
  cases file with
  | some file => exact (AppSettings.loadFromFile_ok h s).2 hs
  | none =>
    cases h
    unfold AppSettings.Loaded
    split
    · exact rfl
    · rfl

/-- **The value that is chosen for a setting**: that of its last option on the command line,
else that of the file, else 0. -/
def Chosen (atof : String → UInt32) (file : ConfigFile) (l : List (Setting × String)) (s : Setting)
    (v : s.Value) : Prop :=
  match AppSettings.lastOption s l, file s with
  | some optarg, _ => s.parse atof optarg = .ok v
  | none, some f => s.load f = .ok v
  | none, none => v = s.kind.zero

/-- The file names the device that a setting belongs to, if it belongs to one. -/
def NamesDevice (file : ConfigFile) (s : Setting) : Prop :=
  ∀ type, s.backend = some type →
    ∃ f, file .sdrType = some f ∧ Setting.sdrType.load f = .ok type

theorem chosen_of_loaded {atof : String → UInt32} {file : ConfigFile} {l : List (Setting × String)}
    {s : Setting} {c d : AppSettings}
    (hfile : AppSettings.Loaded file (c .sdrType) s.kind.zero (c s))
    (htype : AppSettings.Loaded file (c .sdrType) (Setting.kind .sdrType).zero (c .sdrType))
    (hcli : AppSettings.FromOption atof (c s) (AppSettings.lastOption s l) (d s))
    (hown : AppSettings.lastOption s l = none → file s ≠ none → NamesDevice file s) :
    Chosen atof file l s (d s) := by
  unfold Chosen
  cases hlast : AppSettings.lastOption s l with
  | some optarg =>
    rw [hlast] at hcli
    exact hcli
  | none =>
    rw [hlast] at hcli
    have hkept : d s = c s := hcli
    rw [hkept]
    unfold AppSettings.Loaded at hfile
    cases hf : file s with
    | none =>
      rw [hf] at hfile
      split at hfile
      · exact hfile
      · exact hfile
    | some f =>
      rw [hf] at hfile
      -- the type of the file is the one that the device of the setting is compared with
      have hlook : s.backend.all (· = c .sdrType) = true := by
        cases hbackend : s.backend with
        | none => rfl
        | some type =>
          obtain ⟨g, hg, hload⟩ := hown hlast (by rw [hf]; exact Option.some_ne_none f) type hbackend
          have hnamed : Setting.sdrType.load g = .ok (c .sdrType) := by
            have hfrom : AppSettings.FromFile _ (file .sdrType) (c .sdrType) := htype
            rw [hg] at hfrom
            exact hfrom
          rw [hload] at hnamed
          exact decide_eq_true (Except.ok.inj hnamed)
      rw [if_pos hlook] at hfile
      exact hfile

/-- **The command line overrides the file, and both override the defaults.**  A setting that can
be set from both has the value that is chosen for it, or its default if that is 0 or
empty; where the file has a setting of a device and the command line does not, the file
has to name the device.  (What a missing `plutosdr_timeout_ms` becomes is left open.) -/
theorem settings_merged (env : ConfigEnv) (l : List (Setting × String)) {config : ParsedConfig}
    (h : appConfigCreate env (optionArgs l) = .ok config) {s : Setting}
    (hs : s ∈ Setting.fileHead ++ Setting.fileTail)
    (hown : AppSettings.lastOption s l = none → loadedFile env (optionArgs l) s ≠ none →
      NamesDevice (loadedFile env (optionArgs l)) s) :
    ∃ v, Chosen env.atof (loadedFile env (optionArgs l)) l s v ∧
      ((s = .plutosdrTimeoutMs → s.kind.isUnset v = true → config.settings .sdrType ≠ .plutosdr) →
        config.settings s = s.fill config.settings v) := by
  obtain ⟨c, d, hload, hcli, hvalidate⟩ := create_ok h
  have hfill := AppSettings.validate_ok hvalidate
  refine ⟨d s, chosen_of_loaded (load_ok hload hs) (load_ok hload (by decide))
    (AppSettings.loadFromCli_ok hcli s) hown, fun _ => ?_⟩
  have hkept : ∀ t, t.default d = none → config.settings t = d t := by
    intro t ht
    rw [hfill, Setting.fill, ht, Option.getD_none, ite_self]
  rw [hfill s, AppSettings.fill_congr (hkept .sdrType rfl) (hkept .rxFile rfl) (hkept .txFile rfl)]

/-- A file with a queue of 10 elements and port 8092. -/
def queueFile : ConfigFile
  | .queueSize => some ⟨10, 10, 0, false, none⟩
  | .port => some ⟨8092, 8092, 0, false, none⟩
  | _ => none

/-- It is at every path. -/
def queueEnv : ConfigEnv := ⟨fun _ => 0, fun _ => some queueFile, fun _ => true⟩

/-- The options that make a server, with a port. -/
def serverOptions (port : String) : List (Setting × String) :=
  [(.config, "sdr-modem.conf"), (.bindAddress, "127.0.0.1"), (.sdrType, "plutosdr"),
   (.maxFrameSize, "2048"), (.port, port)]

/-- The queue is that of the file. -/
theorem settings_merged_queue :
    ∃ config, appConfigCreate queueEnv (optionArgs (serverOptions "8093")) = .ok config ∧
      ∃ v, Chosen queueEnv.atof (loadedFile queueEnv (optionArgs (serverOptions "8093")))
        (serverOptions "8093") .queueSize v ∧
        config.settings .queueSize = Setting.queueSize.fill config.settings v := by
  have hport : (appConfigCreate queueEnv (optionArgs (serverOptions "8093"))).map
      (fun config => config.settings .port) = .ok 8093 := by decide +kernel
  obtain ⟨config, hconfig, -⟩ := map_ok.mp hport
  obtain ⟨v, hv, hset⟩ := settings_merged queueEnv _ hconfig (s := .queueSize) (by decide)
    fun _ _ type htype => nomatch htype
  exact ⟨config, hconfig, v, hv, hset nofun⟩

/-- The command line says 0, and the port is the default. -/
theorem port_zero_is_unset :
    AppSettings.lastOption .port (serverOptions "0") = some "0" ∧
    Setting.port.parse queueEnv.atof "0" = .ok 0 ∧
    (appConfigCreate queueEnv (optionArgs (serverOptions "0"))).map
      (fun config => config.settings .port) = .ok 8091 := by
  decide +kernel

end SdrModem
