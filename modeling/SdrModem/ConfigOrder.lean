import SdrModem.ConfigMerge

/-!
# The order of the options

`app_config_create` scans the command line twice.  The second scan knows all options, and
what it makes of distinct ones does not depend on their order.  The first one is for
`--config` only: it does not know that the other options have values, takes such a value
for the first element that is not an option, and stops there.  So the order matters as far
as it decides which path is found.
-/
namespace SdrModem
open Libc

namespace AppSettings
variable {atof : String → UInt32} {l k : List (Setting × String)}

/-! ## The second scan -/

theorem mem_of_lastOption {s : Setting} {optarg : String} (h : lastOption s l = some optarg) :
    (s, optarg) ∈ l := by
  induction l with
  | nil => cases h
  | cons e l ih =>
    obtain ⟨t, v⟩ := e
    rw [lastOption] at h
    cases hlast : lastOption s l with
    | some later =>
      rw [hlast] at h
      cases h
      exact List.mem_cons_of_mem _ (ih hlast)
    | none =>
      rw [hlast, Option.none_or] at h
      by_cases hts : t = s
      · rw [if_pos hts] at h
        cases h
        rw [hts]
        exact List.mem_cons_self
      · rw [if_neg hts] at h
        cases h

/-- Of distinct options, each is the last of its name. -/
theorem lastOption_eq_some (hnodup : (l.map Prod.fst).Nodup) {s : Setting} {optarg : String} :
    lastOption s l = some optarg ↔ (s, optarg) ∈ l := by
  refine ⟨mem_of_lastOption, fun hmem => ?_⟩
  induction l with
  | nil => cases hmem
  | cons e l ih =>
    obtain ⟨t, v⟩ := e
    obtain ⟨hnot, hnodup⟩ := List.nodup_cons.mp hnodup
    rw [lastOption]
    rcases List.mem_cons.mp hmem with heq | hmem
    · cases heq
      have hnone : lastOption s l = none := by
        cases hlast : lastOption s l with
        | none => rfl
        | some later => exact absurd (List.mem_map.mpr ⟨_, mem_of_lastOption hlast, rfl⟩) hnot
      rw [hnone, Option.none_or, if_pos rfl]
    · rw [ih hnodup hmem, Option.some_or]

theorem lastOption_perm (hnodup : (l.map Prod.fst).Nodup) (hperm : l.Perm k) (s : Setting) :
    lastOption s l = lastOption s k := by
  have hnodup' : (k.map Prod.fst).Nodup := (hperm.map Prod.fst).nodup_iff.mp hnodup
  apply Option.ext
  intro optarg
  rw [lastOption_eq_some hnodup, lastOption_eq_some hnodup']
  exact hperm.mem_iff

/-- The values of the options are accepted. -/
def Valid (atof : String → UInt32) (l : List (Setting × String)) : Prop :=
  ∀ e ∈ l, ∃ v, e.1.parse atof e.2 = .ok v

theorem loadOptions_valid (hvalid : Valid atof l) (c : AppSettings) :
    ∃ r, (l.map some).foldlM (loadOption atof) c = .ok r := by
  induction l generalizing c with
  | nil => exact ⟨c, rfl⟩
  | cons e l ih =>
    obtain ⟨v, hv⟩ := hvalid e List.mem_cons_self
    obtain ⟨r, hr⟩ := ih (fun d hd => hvalid d (List.mem_cons_of_mem e hd)) (c.set e.1 v)
    refine ⟨r, foldlM_cons_ok.mpr ⟨c.set e.1 v, ?_, hr⟩⟩
    exact map_ok.mpr ⟨v, mapError_ok.mpr hv, rfl⟩

/-- **The order of distinct options does not matter to the second scan.** -/
theorem loadFromCli_perm (hnodup : (l.map Prod.fst).Nodup) (hvalid : Valid atof l)
    (hperm : l.Perm k) (c : AppSettings) :
    c.loadFromCli atof (optionArgs l) = c.loadFromCli atof (optionArgs k) := by
  have hvalid' : Valid atof k := fun e he => hvalid e (hperm.mem_iff.mpr he)
  obtain ⟨r, hr⟩ := loadOptions_valid hvalid c
  obtain ⟨r', hr'⟩ := loadOptions_valid hvalid' c
  rw [loadFromCli, loadFromCli, scan_pairs Setting.isName Setting.findLong_name,
    scan_pairs Setting.isName Setting.findLong_name, hr, hr']
  refine congrArg Except.ok (funext fun s => ?_)
  have hs := loadOptions_ok hr s
  have hs' := loadOptions_ok hr' s
  rw [← lastOption_perm hnodup hperm] at hs'
  cases hlast : lastOption s l with
  | none =>
    rw [hlast] at hs hs'
    exact Eq.trans hs (Eq.symm hs')
  | some optarg =>
    rw [hlast] at hs hs'
    exact Except.ok.inj (Eq.trans (Eq.symm hs) hs')

end AppSettings

/-! ## The first scan -/

theorem findLong_config : configOptions.findLong Setting.config.name.toList = some () := by
  decide

/-- No other option is called `config`, nor abbreviates it. -/
theorem findLong_other {s : Setting} (h : s ≠ .config) :
    configOptions.findLong s.name.toList = none := by
  have hchars {cs : List Char} (hcs : configOptions.findLong cs = none) :
      configOptions.findLong (String.ofList cs).toList = none := by
    rw [String.toList_ofList]
    exact hcs
  cases s <;> first | exact absurd rfl h | exact hchars (by decide)

/-- The values do not look like options; that of `--config` may. -/
def Ordinary (l : List (Setting × String)) : Prop :=
  ∀ e ∈ l, e.1 ≠ .config → isOperand e.2 = true

instance (l : List (Setting × String)) : Decidable (Ordinary l) :=
  inferInstanceAs (Decidable (∀ e ∈ l, e.1 ≠ .config → isOperand e.2 = true))

/-- The path, if `--config` comes first. -/
def leadingConfig : List (Setting × String) → Option String
  | (.config, path) :: _ => some path
  | _ => none

/-- Behind an option with an ordinary value the first scan finds nothing. -/
theorem scan_ordinary {l : List (Setting × String)} (h : Ordinary l) (hl : .config ∉ l.map Prod.fst) :
    (configOptions.scan (optionArgs l)).filterMap id = [] := by
  cases l with
  | nil => rfl
  | cons e l =>
    have hne : e.1 ≠ .config := fun heq => hl (heq ▸ List.mem_cons_self)
    have hcons : optionArgs (e :: l) = ("--" ++ e.1.name) :: e.2 :: optionArgs l := rfl
    rw [hcons, scan_unknown e.1.isName (findLong_other hne),
      scan_operand (h e List.mem_cons_self hne)]
    rfl

/-- **The first scan finds the path if `--config` comes first**, and otherwise not, where the
values of the other options are ordinary. -/
theorem configPath_eq {l : List (Setting × String)} (hnodup : (l.map Prod.fst).Nodup)
    (h : Ordinary l) : configPath (optionArgs l) = leadingConfig l := by
  unfold configPath
  cases l with
  | nil => rfl
  | cons e l =>
    obtain ⟨s, value⟩ := e
    have hrest : Ordinary l := fun d hd => h d (List.mem_cons_of_mem _ hd)
    have hcons : optionArgs ((s, value) :: l) = ("--" ++ s.name) :: value :: optionArgs l := rfl
    by_cases hs : s = .config
    · subst hs
      have hnot : .config ∉ l.map Prod.fst := (List.nodup_cons.mp hnodup).1
      rw [hcons, scan_known (Setting.isName _) findLong_config, List.filterMap_cons]
      dsimp only [id]
      rw [scan_ordinary hrest hnot]
      rfl
    · have hleading : leadingConfig ((s, value) :: l) = none := by
        unfold leadingConfig
        split
        · rename_i heq
          cases heq
          exact absurd rfl hs
        · rfl
      rw [hcons, scan_unknown s.isName (findLong_other hs),
        scan_operand (h _ List.mem_cons_self hs), hleading]
      rfl

/-! ## Both scans -/

theorem createFrom_perm {env : ConfigEnv} {l k : List (Setting × String)}
    (hnodup : (l.map Prod.fst).Nodup) (hvalid : AppSettings.Valid env.atof l) (hperm : l.Perm k)
    (file : Option ConfigFile) :
    appConfigCreateFrom env file (optionArgs l) = appConfigCreateFrom env file (optionArgs k) := by
  unfold appConfigCreateFrom
  simp only [AppSettings.loadFromCli_perm hnodup hvalid hperm]

/-- The result by the path that the first scan finds. -/
theorem create_eq (env : ConfigEnv) (args : List String) :
    appConfigCreate env args =
      match configPath args with
      | none => appConfigCreateFrom env none args
      | some path =>
        match env.readFile path with
        | none => .error (.code (-1))
        | some file => appConfigCreateFrom env (some file) args := rfl

/-- A file without settings is like none. -/
theorem load_empty : appConfigLoad (some fun _ => none) = appConfigLoad none := by
  have hfold : ∀ l : List Setting,
      l.foldlM (AppSettings.loadSetting fun _ => none) AppSettings.zero = .ok AppSettings.zero := by
    intro l
    induction l with
    | nil => rfl
    | cons s l ih => exact foldlM_cons_ok.mpr ⟨_, ite_self _, ih⟩
  exact hfold _

/-- What can be accepted at all can be accepted with a file. -/
theorem exists_file {env : ConfigEnv} {args : List String}
    (h : ∃ file config, appConfigCreateFrom env file args = .ok config) :
    ∃ file config, appConfigCreateFrom env (some file) args = .ok config := by
  obtain ⟨file, config, hconfig⟩ := h
  cases file with
  | some file => exact ⟨file, config, hconfig⟩
  | none =>
    refine ⟨fun _ => none, config, ?_⟩
    unfold appConfigCreateFrom at hconfig ⊢
    rw [load_empty]
    exact hconfig

/-- The same environment with other files. -/
def ConfigEnv.withFiles (env : ConfigEnv) (readFile : String → Option ConfigFile) : ConfigEnv :=
  { env with readFile }

/-- If one order finds a path and the other does not find it, some files tell them apart. -/
theorem path_of_same {env : ConfigEnv} {args args' : List String} {path : String}
    (hsame : ∀ readFile, appConfigCreate (env.withFiles readFile) args =
      appConfigCreate (env.withFiles readFile) args')
    (haccept : ∃ file config, appConfigCreateFrom env file args = .ok config)
    (hpath : configPath args = some path) : configPath args' = some path := by
  obtain ⟨file, config, hconfig⟩ := exists_file haccept
  have hfound : ∀ readFile : String → Option ConfigFile, readFile path = some file →
      appConfigCreate (env.withFiles readFile) args = .ok config := by
    intro readFile hread
    rw [create_eq, hpath]
    dsimp only [ConfigEnv.withFiles]
    rw [hread]
    exact hconfig
  have hmissing : ∀ readFile : String → Option ConfigFile, readFile path = none →
      appConfigCreate (env.withFiles readFile) args = .error (.code (-1)) := by
    intro readFile hread
    rw [create_eq, hpath]
    dsimp only [ConfigEnv.withFiles]
    rw [hread]
  cases hpath' : configPath args' with
  | none =>
    -- nothing is read in the other order, so the result is the same for all files
    have hother : ∀ readFile, appConfigCreate (env.withFiles readFile) args' =
        appConfigCreateFrom env none args' := by
      intro readFile
      rw [create_eq, hpath']
      rfl
    have hok := (hfound (fun _ => some file) rfl).symm.trans (hsame _)
    have herror := (hmissing (fun _ => none) rfl).symm.trans (hsame _)
    rw [hother] at hok herror
    rw [← hok] at herror
    cases herror
  | some path' =>
    by_contra hne
    have hne : path ≠ path' := fun heq => hne (by rw [heq])
    have hok := (hfound (fun q => if q = path then some file else none) (if_pos rfl)).symm.trans
      (hsame _)
    rw [create_eq, hpath'] at hok
    dsimp only [ConfigEnv.withFiles] at hok
    rw [if_neg (Ne.symm hne)] at hok
    cases hok

/-- **When the order of options does not matter.**  For distinct options with values that
are accepted, and any permutation of them: if the first scan finds the same path in both
orders, the code and the configuration are the same, whatever the files are.  If the options
can be accepted at all, this is the only way.  And where no value looks like an option,
the same path is found exactly if `--config` comes first in both orders or in none. -/
theorem option_order_iff (env : ConfigEnv) {l k : List (Setting × String)}
    (hnodup : (l.map Prod.fst).Nodup) (hvalid : AppSettings.Valid env.atof l)
    (hperm : l.Perm k) :
    (configPath (optionArgs l) = configPath (optionArgs k) →
      ∀ readFile, appConfigCreate (env.withFiles readFile) (optionArgs l) =
        appConfigCreate (env.withFiles readFile) (optionArgs k)) ∧
    ((∃ file config, appConfigCreateFrom env file (optionArgs l) = .ok config) →
      (∀ readFile, appConfigCreate (env.withFiles readFile) (optionArgs l) =
        appConfigCreate (env.withFiles readFile) (optionArgs k)) →
      configPath (optionArgs l) = configPath (optionArgs k)) ∧
    (Ordinary l →
      (configPath (optionArgs l) = configPath (optionArgs k) ↔
        ((leadingConfig l).isSome ↔ (leadingConfig k).isSome))) := by
  have hnodup' : (k.map Prod.fst).Nodup := (hperm.map Prod.fst).nodup_iff.mp hnodup
  refine ⟨fun hpath readFile => ?_, fun haccept hsame => ?_, fun hordinary => ?_⟩
  · have hfrom : ∀ file, appConfigCreateFrom (env.withFiles readFile) file (optionArgs l) =
        appConfigCreateFrom (env.withFiles readFile) file (optionArgs k) :=
      createFrom_perm hnodup hvalid hperm
    rw [create_eq, create_eq, hpath]
    simp only [hfrom]
  · have haccept' : ∃ file config, appConfigCreateFrom env file (optionArgs k) = .ok config := by
      obtain ⟨file, config, hok⟩ := haccept
      exact ⟨file, config, createFrom_perm hnodup hvalid hperm file ▸ hok⟩
    cases hpath : configPath (optionArgs l) with
    | some path => exact (path_of_same hsame haccept hpath).symm
    | none =>
      cases hpath' : configPath (optionArgs k) with
      | none => rfl
      | some path =>
        have hback := path_of_same (fun readFile => (hsame readFile).symm) haccept' hpath'
        rw [hpath] at hback
        cases hback
  · have hordinary' : Ordinary k := fun e he => hordinary e (hperm.mem_iff.mpr he)
    rw [configPath_eq hnodup hordinary, configPath_eq hnodup' hordinary']
    have hsame : ∀ {m : List (Setting × String)} {path : String}, leadingConfig m = some path →
        (.config, path) ∈ m := by
      intro m path h
      unfold leadingConfig at h
      split at h
      · cases h
        exact List.mem_cons_self
      · cases h
    constructor
    · intro heq
      rw [heq]
    · intro hiff
      cases hlead : leadingConfig l with
      | none =>
        rw [hlead] at hiff
        cases hlead' : leadingConfig k with
        | none => rfl
        | some path =>
          rw [hlead'] at hiff
          exact absurd (hiff.mpr rfl) (by decide)
      | some path =>
        rw [hlead] at hiff
        cases hlead' : leadingConfig k with
        | none =>
          rw [hlead'] at hiff
          exact absurd (hiff.mp rfl) (by decide)
        | some path' =>
          -- there is only one `--config`
          have hmem := hperm.mem_iff.mp (hsame hlead)
          have heq := List.inj_on_of_nodup_map hnodup' hmem (hsame hlead') rfl
          rw [(Prod.mk.inj heq).2]

/-- The options of a server, with the port in front of the device. -/
def portFirst (port : String) : List (Setting × String) :=
  [(.config, "sdr-modem.conf"), (.port, port), (.bindAddress, "127.0.0.1"),
   (.sdrType, "plutosdr"), (.maxFrameSize, "2048")]

/-- `--config` comes first in both orders. -/
theorem option_order_config_first :
    appConfigCreate (queueEnv.withFiles fun _ => some queueFile)
        (optionArgs (serverOptions "8093")) =
      appConfigCreate (queueEnv.withFiles fun _ => some queueFile)
        (optionArgs (portFirst "8093")) := by
  have hvalid : AppSettings.Valid queueEnv.atof (serverOptions "8093") := by
    intro e he
    rcases List.mem_cons.mp he with rfl | he
    · exact ⟨(), rfl⟩
    rcases List.mem_cons.mp he with rfl | he
    · exact ⟨some "127.0.0.1", rfl⟩
    rcases List.mem_cons.mp he with rfl | he
    · exact ⟨SdrDeviceType.plutosdr, rfl⟩
    rcases List.mem_cons.mp he with rfl | he
    · exact ⟨(2048 : UInt32), rfl⟩
    rw [List.mem_singleton.mp he]
    exact ⟨(8093 : UInt16), rfl⟩
  obtain ⟨hsame, -, hpath⟩ := option_order_iff queueEnv (l := serverOptions "8093")
    (k := portFirst "8093") (by decide) hvalid (by decide)
  exact hsame ((hpath (by decide)).mpr (by decide)) _

/-- The same options with `--config` in the last place. -/
def configLast (port : String) : List (Setting × String) :=
  [(.bindAddress, "127.0.0.1"), (.sdrType, "plutosdr"), (.maxFrameSize, "2048"), (.port, port),
   (.config, "sdr-modem.conf")]

/-- The file is read in one order and not in the other. -/
theorem config_last_is_ignored :
    (serverOptions "8093").Perm (configLast "8093") ∧
    (appConfigCreate queueEnv (optionArgs (serverOptions "8093"))).map
      (fun config => config.settings .queueSize) = .ok 10 ∧
    (appConfigCreate queueEnv (optionArgs (configLast "8093"))).map
      (fun config => config.settings .queueSize) = .ok 64 := by
  decide +kernel

end SdrModem
