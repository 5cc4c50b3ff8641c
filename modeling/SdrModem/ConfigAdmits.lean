import SdrModem.ConfigMerge
import SdrModem.Server

/-!
# The configurations that are admitted

With a bind address the program is a server; without one it receives or transmits once.
Which devices can do what is decided by `app_config_validate_and_log`.
-/
namespace SdrModem

/-- What the program is started for. -/
inductive RunMode where
  | server
  | cliRx
  | cliTx
deriving DecidableEq, Repr

namespace ParsedConfig

/-- The mode of a configuration. -/
def mode (config : ParsedConfig) : RunMode :=
  if config.settings .bindAddress ≠ none then .server
  else if config.settings .direction = .rx then .cliRx
  else .cliTx

/-- **What is known of a configuration that is admitted.** -/
structure Admitted (config : ParsedConfig) : Prop where
  device : config.settings .sdrType = .plutosdr ∨
    config.settings .sdrType = .airspy ∧ config.mode ≠ .cliTx ∨
    config.settings .sdrType = .file ∧ config.mode ≠ .server
  bufferLen : config.settings .sdrBufferLen ≠ 0
  readTimeout : 0 < config.settings .readTimeoutSeconds
  queueSize : config.settings .queueSize ≠ 0
  frameSize : config.mode ≠ .cliRx → config.settings .maxFrameSize ≠ 0

end ParsedConfig

namespace AppSettings
variable {c r : AppSettings}

theorem validateCommon_mode (h : c.validateCommon = .ok r) :
    (r .bindAddress = none → r .direction = .rx ∨ r .direction = .tx) ∧
    (r .bindAddress ≠ none ∨ r .direction = .tx → r .maxFrameSize ≠ 0) := by
  unfold validateCommon at h
  dsimp only at h
  split at h
  · cases h
  · split at h
    · cases h
    · split at h
      · cases h
      · rename_i hdirection hframe
        obtain rfl := Except.ok.inj h
        constructor
        · intro hbind
          have hdirection := not_or.mp fun hd => hdirection ⟨hbind, hd⟩
          generalize setDefaults _ _ .direction = direction at hdirection ⊢
          cases direction with
          | none => exact absurd rfl hdirection.2
          | invalid => exact absurd rfl hdirection.1
          | rx => exact Or.inl rfl
          | tx => exact Or.inr rfl
        · exact fun hmode hzero => hframe ⟨hmode, hzero⟩

theorem validateCommon_timeout (h : c.validateCommon = .ok r) : 0 ≤ r .readTimeoutSeconds := by
  have hfill := validateCommon_ok h .readTimeoutSeconds
  rw [if_pos (by decide)] at hfill
  unfold validateCommon at h
  dsimp only at h
  split at h
  · cases h
  · rename_i htimeout
    rw [setDefaults_other (by decide)] at htimeout
    rw [hfill, Setting.fill]
    split
    · exact (by decide : (0 : Int32) ≤ 5)
    · exact Int32.not_lt.mp htimeout

theorem validateDevice_type (h : c.validateDevice = .ok r) :
    c .sdrType = .plutosdr ∨
    c .sdrType = .airspy ∧ ¬ (c .bindAddress = none ∧ c .direction = .tx) ∨
    c .sdrType = .file ∧ c .bindAddress = none := by
  unfold validateDevice at h
  cases htype : c .sdrType with
  | plutosdr => exact Or.inl rfl
  | airspy =>
    rw [htype] at h
    refine Or.inr (Or.inl ⟨rfl, fun htx => ?_⟩)
    dsimp only at h
    rw [if_pos htx] at h
    cases h
  | file =>
    rw [htype] at h
    refine Or.inr (Or.inr ⟨rfl, ?_⟩)
    by_contra hbind
    dsimp only at h
    rw [if_pos hbind] at h
    cases h
  | invalid =>
    rw [htype] at h
    cases h
  | none =>
    rw [htype] at h
    cases h

end AppSettings

/-- **A default is not unset itself**, so a setting that has one is set. -/
theorem Setting.isUnset_fill {c : AppSettings} {s : Setting} {d : s.Value}
    (hdefault : s.default c = some d) (hset : s.kind.isUnset d = false) (v : s.Value) :
    s.kind.isUnset (s.fill c v) = false := by
  unfold fill
  split
  · rw [hdefault]
    exact hset
  · rename_i hv
    exact Bool.eq_false_iff.mpr hv

/-- **`app_config_create` returns 0 for admitted configurations only.** -/
theorem admitted_of_create {env : ConfigEnv} {args : List String} {config : ParsedConfig}
    (h : appConfigCreate env args = .ok config) : config.Admitted := by
  obtain ⟨-, d, -, -, hvalidate⟩ := create_ok h
  have hfill := AppSettings.validate_ok hvalidate
  obtain ⟨c1, hcommon, hvalidate⟩ := bind_ok.mp hvalidate
  obtain ⟨c2, hdevice, -⟩ := bind_ok.mp hvalidate
  have hkept : ∀ t, t.default d = none → config.settings t = d t := by
    intro t ht
    rw [hfill, Setting.fill, ht, Option.getD_none, ite_self]
  have hset : ∀ (s : Setting) {v : s.Value}, s.default d = some v → s.kind.isUnset v = false →
      s.kind.isUnset (config.settings s) = false := by
    intro s v hv hunset
    rw [hfill]
    exact Setting.isUnset_fill hv hunset (d s)
  have hfills := AppSettings.validateCommon_ok hcommon
  have hbind : c1 .bindAddress = config.settings .bindAddress :=
    (hfills .bindAddress).trans (hkept .bindAddress rfl).symm
  have hdirection : c1 .direction = config.settings .direction :=
    (hfills .direction).trans (hkept .direction rfl).symm
  have hframe : c1 .maxFrameSize = config.settings .maxFrameSize :=
    (hfills .maxFrameSize).trans (hkept .maxFrameSize rfl).symm
  have htype : c1 .sdrType = config.settings .sdrType :=
    (hfills .sdrType).trans (hkept .sdrType rfl).symm
  obtain ⟨hrxtx, hsize⟩ := AppSettings.validateCommon_mode hcommon
  have hdevice := AppSettings.validateDevice_type hdevice
  rw [hbind, hdirection, htype] at hdevice
  rw [hbind, hdirection] at hrxtx
  rw [hbind, hdirection, hframe] at hsize
  have hserver : config.mode = .server → config.settings .bindAddress ≠ none := by
    intro hmode hnone
    rw [ParsedConfig.mode, if_neg (not_not.mpr hnone)] at hmode
    split at hmode
    · cases hmode
    · cases hmode
  have htransmits : config.mode = .cliTx →
      config.settings .bindAddress = none ∧ config.settings .direction = .tx := by
    intro hmode
    have hnone : config.settings .bindAddress = none := by
      by_contra hsome
      rw [ParsedConfig.mode, if_pos hsome] at hmode
      cases hmode
    refine ⟨hnone, (hrxtx hnone).resolve_left fun hrx => ?_⟩
    rw [ParsedConfig.mode, if_neg (not_not.mpr hnone), if_pos hrx] at hmode
    cases hmode
  constructor
  · rcases hdevice with hpluto | ⟨hairspy, hnot⟩ | ⟨hfile, hnone⟩
    · exact Or.inl hpluto
    · exact Or.inr (Or.inl ⟨hairspy, fun hmode => hnot (htransmits hmode)⟩)
    · exact Or.inr (Or.inr ⟨hfile, fun hmode => hserver hmode hnone⟩)
  · exact of_decide_eq_false (hset .sdrBufferLen rfl (by decide))
  · have htimeout := AppSettings.validateCommon_timeout hcommon
    rw [hfills, ← hfill] at htimeout
    have hne : config.settings .readTimeoutSeconds ≠ 0 :=
      of_decide_eq_false (hset .readTimeoutSeconds rfl (by decide))
    exact Int32.lt_of_le_of_ne htimeout hne.symm
  · exact of_decide_eq_false (hset .queueSize rfl (by decide))
  · intro hmode
    refine hsize ?_
    by_contra hnot
    obtain ⟨hnone, hnotTx⟩ := not_or.mp hnot
    have hrx := (hrxtx (not_not.mp hnone)).resolve_right hnotTx
    rw [ParsedConfig.mode, if_neg hnone, if_pos hrx] at hmode
    exact hmode rfl

/-! ## The server -/

theorem appConfigValidate_self {c : AppConfig} (hbuffer : c.sdrBufferLen ≠ 0)
    (htimeout : 0 < c.readTimeoutSeconds) (hqueue : c.queueSize ≠ 0) (hframe : c.maxFrameSize ≠ 0)
    (htype : c.sdrType ≠ .file) : appConfigValidate c = some c := by
  unfold appConfigValidate
  simp only [if_neg hbuffer, if_neg htimeout.not_gt, if_neg htimeout.ne', if_neg hqueue,
    if_neg hframe]
  split
  · rfl
  · rfl
  · contradiction

/-- The driver of a device; a type that is not admitted has none. -/
def SdrDeviceType.driver : SdrDeviceType → SdrType
  | .plutosdr => .plutosdr
  | .airspy => .airspy
  | .file | .invalid | .none => .file

namespace ParsedConfig

/-- The settings that the server reads. -/
def appConfig (config : ParsedConfig) : AppConfig where
  sdrBufferLen := config.settings .sdrBufferLen
  readTimeoutSeconds := (config.settings .readTimeoutSeconds).toInt
  queueSize := config.settings .queueSize
  maxFrameSize := config.settings .maxFrameSize
  sdrType := (config.settings .sdrType).driver

/-- **The server starts from settings that its checks leave as they are.** -/
theorem Admitted.validate_appConfig {config : ParsedConfig} (h : config.Admitted)
    (hmode : config.mode = .server) :
    appConfigValidate config.appConfig = some config.appConfig := by
  have hserver : config.mode ≠ .cliRx := by rw [hmode]; decide
  refine appConfigValidate_self h.bufferLen (Int32.lt_iff_toInt_lt.mp h.readTimeout) h.queueSize
    (h.frameSize hserver) ?_
  rcases h.device with hpluto | ⟨hairspy, -⟩ | ⟨-, hcli⟩
  · change (config.settings .sdrType).driver ≠ .file
    rw [hpluto]
    decide
  · change (config.settings .sdrType).driver ≠ .file
    rw [hairspy]
    decide
  · exact absurd hmode hcli

end ParsedConfig
end SdrModem
