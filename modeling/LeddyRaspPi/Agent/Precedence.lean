import LeddyRaspPi.Agent.Main

/-!
# The persisted configuration and the environment

A configuration file that can be decoded and is supported is what start-up selects, whatever the
five variables of the display say (`startUp_of_fallback`): they only make the fallback, which is not
used. But the fallback is made and checked before the file is opened, so start-up fails where the
environment alone would make it fail. `startUp_persisted_iff` says exactly when the file wins.
-/

namespace LeddyRaspPi

variable {L : Leddy} {env env' : Environment}

/-! ## The variables of the display -/

/-- The variables that `config_from_env` reads. -/
def displayVariables : List String :=
  ["LEDDY_MATRIX_WIDTH", "LEDDY_MATRIX_HEIGHT", "LEDDY_BRIGHTNESS", "LEDDY_SERPENTINE",
    "LEDDY_PIXEL_ORIGIN"]

/-- The two environments differ in the variables of the display only. -/
def AgreeElsewhere (env env' : Environment) : Prop :=
  ∀ name, name ∉ displayVariables → env' name = env name

/-- The names of the origins. -/
def originNames : List String := ["top_left", "top_right", "bottom_left", "bottom_right"]

/-- The origin variable is unset, or it is one of the four names, with capitals and hyphens
allowed. -/
def Environment.NamesOrigin (env : Environment) : Prop :=
  ∀ value, env.var "LEDDY_PIXEL_ORIGIN" = some value →
    Environment.underscored (Environment.toAsciiLowercase value) ∈ originNames

/-- The configuration the variables of the display describe, for an origin. -/
def Environment.display (env : Environment) (origin : PixelOrigin) : DisplayConfig where
  width := env.u16 "LEDDY_MATRIX_WIDTH" 100
  height := env.u16 "LEDDY_MATRIX_HEIGHT" 10
  brightness := env.u8 "LEDDY_BRIGHTNESS" 96
  serpentine := env.bool "LEDDY_SERPENTINE" true
  origin
  safetyLimits := some defaultSafetyLimits

/-- `env_origin` succeeds for the known names and where the variable is unset. -/
theorem Environment.origin_ok_iff {fallback : PixelOrigin} :
    (∃ origin, env.origin "LEDDY_PIXEL_ORIGIN" fallback = .ok origin) ↔ env.NamesOrigin := by
  unfold Environment.origin NamesOrigin
  cases hvar : env.var "LEDDY_PIXEL_ORIGIN" with
  | none => exact iff_of_true ⟨fallback, rfl⟩ fun _ h => (Option.some_ne_none _ h.symm).elim
  | some value =>
    simp only [Option.map_some, Option.some.injEq, forall_eq', originNames, List.mem_cons,
      List.not_mem_nil, or_false]
    split_ifs with htl htr hbl hbr
    · exact iff_of_true ⟨_, rfl⟩ (.inl htl)
    · exact iff_of_true ⟨_, rfl⟩ (.inr (.inl htr))
    · exact iff_of_true ⟨_, rfl⟩ (.inr (.inr (.inl hbl)))
    · exact iff_of_true ⟨_, rfl⟩ (.inr (.inr (.inr hbr)))
    · refine iff_of_false (fun h => ?_) fun h => ?_
      · obtain ⟨_, h⟩ := h
        cases h
      · rcases h with h | h | h | h
        exacts [htl h, htr h, hbl h, hbr h]

/-- The variables of the display make a fallback if the origin is known and the configuration they
describe is supported. -/
theorem configFromEnv_ok_iff :
    (∃ fallback, configFromEnv L env = .ok fallback) ↔ env.NamesOrigin ∧
      ∀ origin, env.origin "LEDDY_PIXEL_ORIGIN" .topLeft = .ok origin →
        Supported L (env.display origin) := by
  rw [← Environment.origin_ok_iff, configFromEnv]
  cases horigin : env.origin "LEDDY_PIXEL_ORIGIN" .topLeft with
  | error error =>
    refine iff_of_false (fun h => ?_) fun h => ?_
    · obtain ⟨_, h⟩ := h
      cases h
    · obtain ⟨⟨_, h⟩, _⟩ := h
      cases h
  | ok origin =>
    simp only [Bind.bind, Except.bind, Supported, Environment.display, Except.ok.injEq,
      exists_eq', forall_eq', true_and]
    cases hvalid : validateSupportedConfig L (env.display origin) with
    | error error =>
      rw [Environment.display] at hvalid
      rw [hvalid]
      refine iff_of_false (fun h => ?_) fun h => ?_
      · obtain ⟨_, h⟩ := h
        cases h
      · cases h
    | ok u =>
      rw [Environment.display] at hvalid
      rw [hvalid]
      exact iff_of_true ⟨_, rfl⟩ rfl

/-- The settings are made of other variables. -/
theorem settings_congr (hagree : AgreeElsewhere env env') :
    RuntimeSettings.fromEnv env' = RuntimeSettings.fromEnv env := by
  have hname : ∀ name, name ∉ displayVariables → env'.var name = env.var name := fun name h => by
    rw [Environment.var, Environment.var, hagree name h]
  simp only [RuntimeSettings.fromEnv, Environment.u64, hname "LEDDY_DEVICE_ID" (by decide),
    hname "LEDDY_DEVICE_WS_URL" (by decide), hname "LEDDY_FRAME_INTERVAL_MS" (by decide),
    hname "LEDDY_TELEMETRY_INTERVAL_SECS" (by decide), hagree "LEDDY_CONFIG_PATH" (by decide),
    hagree "LEDDY_FRAME_SNAPSHOT" (by decide), hagree "LEDDY_HUB75_HELPER" (by decide)]

/-! ## Start-up with a file -/

/-- A valid configuration file: its content decodes to a configuration that is supported. -/
structure HoldsConfig (L : Leddy) (fs : FileSystem) (path : Path) (config : DisplayConfig) :
    Prop where
  decodes : ∃ bytes, fs path = .file bytes ∧ L.fromSlice bytes = .ok config
  supported : Supported L config

/-- A valid file is loaded, whatever the fallback. -/
theorem HoldsConfig.load {fs : FileSystem} {path : Path} {config : DisplayConfig}
    (h : HoldsConfig L fs path config) (fallback : DisplayConfig) :
    loadConfig L fs path fallback = .ok config := by
  obtain ⟨bytes, hfile, hdecode⟩ := h.decodes
  have hsupported : validateSupportedConfig L config = .ok () := h.supported
  rw [loadConfig, FileSystem.read, hfile]
  simp only [hdecode, hsupported, Except.mapError, Bind.bind, Except.bind]
  rfl

/-- Start-up selects this configuration and fails only where the frame sink cannot be made. -/
def Selects (L : Leddy) (env : Environment) (fs : FileSystem) (settings : RuntimeSettings)
    (config : DisplayConfig) : Prop :=
  ∀ spawn, startUp L env fs spawn =
    (FrameSink.new settings.snapshotPath settings.hub75Helper spawn).map fun sink =>
      (settings, .initial config sink fs)

/-- With a fallback at hand, start-up selects the configuration of a valid file. -/
theorem startUp_of_fallback {fs : FileSystem} {config fallback : DisplayConfig}
    (hfile : HoldsConfig L fs (RuntimeSettings.fromEnv env).configPath config)
    (hfallback : configFromEnv L env = .ok fallback) :
    Selects L env fs (.fromEnv env) config := by
  intro spawn
  have hsupported : validateSupportedConfig L config = .ok () := hfile.supported
  rw [startUp]
  simp only [hfallback, hfile.load fallback, hsupported, Bind.bind, Except.bind]
  cases FrameSink.new (RuntimeSettings.fromEnv env).snapshotPath
    (RuntimeSettings.fromEnv env).hub75Helper spawn <;> rfl

/-- Without one, start-up fails. -/
theorem startUp_of_no_fallback {fs : FileSystem} {spawn : Except IoError Bool} {error : IoError}
    (h : configFromEnv L env = .error error) : startUp L env fs spawn = .error error := by
  simp only [startUp, h, Bind.bind, Except.bind]

/-- A frame sink can be made where a helper, if one is asked for, starts. -/
theorem FrameSink.new_ok (snapshotPath hub75Helper : Option Path) :
    ∃ sink, FrameSink.new snapshotPath hub75Helper (.ok true) = .ok sink := by
  cases hub75Helper with
  | none => exact ⟨_, rfl⟩
  | some path => exact ⟨_, rfl⟩

/-- Let a valid configuration file be there, and let two environments differ in the variables of the
display only. In the second one start-up selects the configuration of the file, with the settings of
the first, if its origin variable is unset or names an origin and the configuration its variables
describe is itself supported; otherwise it does not. -/
theorem startUp_persisted_iff (hagree : AgreeElsewhere env env') {fs : FileSystem}
    {config : DisplayConfig}
    (hfile : HoldsConfig L fs (RuntimeSettings.fromEnv env).configPath config) :
    Selects L env' fs (.fromEnv env) config ↔ env'.NamesOrigin ∧
      ∀ origin, env'.origin "LEDDY_PIXEL_ORIGIN" .topLeft = .ok origin →
        Supported L (env'.display origin) := by
  rw [← configFromEnv_ok_iff, ← settings_congr hagree]
  rw [← settings_congr hagree] at hfile
  constructor
  · intro hselects
    obtain ⟨sink, hsink⟩ := FrameSink.new_ok (RuntimeSettings.fromEnv env').snapshotPath
      (RuntimeSettings.fromEnv env').hub75Helper
    have hstart := hselects (.ok true)
    rw [hsink] at hstart
    cases hfallback : configFromEnv L env' with
    | ok fallback => exact ⟨fallback, rfl⟩
    | error error =>
      rw [startUp_of_no_fallback hfallback] at hstart
      cases hstart
  · intro hfallback
    obtain ⟨fallback, hfallback⟩ := hfallback
    exact startUp_of_fallback hfile hfallback

/-! ## With the reference instance -/

/-- An environment with one variable. -/
def Environment.only (name value : String) : Environment := fun asked =>
  if asked = name then some (.text value) else none

/-- The files with the supported configuration at the default path. -/
def persistedFiles : FileSystem := fun path =>
  if path = (RuntimeSettings.fromEnv fun _ => none).configPath then
    match Reference.encode Reference.supportedConfig with
    | .ok bytes => .file bytes
    | .error _ => .absent
  else .absent

/-- The persisted files hold the supported configuration. -/
theorem persistedFiles_hold : HoldsConfig Leddy.reference persistedFiles
    (RuntimeSettings.fromEnv fun _ => none).configPath Reference.supportedConfig :=
  ⟨⟨_, if_pos rfl, rfl⟩, by decide⟩

/-- An environment with one display variable agrees with the empty one everywhere else. -/
theorem only_agree {name value : String} (h : name ∈ displayVariables) :
    AgreeElsewhere (fun _ => none) (.only name value) := by
  intro asked hasked
  rw [Environment.only, if_neg]
  rintro rfl
  exact hasked h

/-- With a known origin in the environment. -/
theorem startUp_persisted_iff_topRight :
    Selects Leddy.reference (.only "LEDDY_PIXEL_ORIGIN" "Top-Right") persistedFiles
        (.fromEnv fun _ => none) Reference.supportedConfig ↔
      (Environment.only "LEDDY_PIXEL_ORIGIN" "Top-Right").NamesOrigin ∧
        ∀ origin, (Environment.only "LEDDY_PIXEL_ORIGIN" "Top-Right").origin "LEDDY_PIXEL_ORIGIN"
            .topLeft = .ok origin →
          Supported Leddy.reference
            ((Environment.only "LEDDY_PIXEL_ORIGIN" "Top-Right").display origin) :=
  startUp_persisted_iff (only_agree (by decide)) persistedFiles_hold

/-- A valid file is there, and start-up fails over an origin it does not know, or over a width that
is not supported. -/
theorem startUp_fails_over_environment :
    HoldsConfig Leddy.reference persistedFiles (RuntimeSettings.fromEnv fun _ => none).configPath
        Reference.supportedConfig ∧
      startUp Leddy.reference (.only "LEDDY_PIXEL_ORIGIN" "centre") persistedFiles (.ok true) =
        .error ⟨.invalidInput, "unsupported pixel origin centre"⟩ ∧
      startUp Leddy.reference (.only "LEDDY_MATRIX_WIDTH" "50") persistedFiles (.ok true) =
        .error ⟨.invalidInput, "matrix width 50 is outside supported range 100..=300"⟩ :=
  ⟨persistedFiles_hold, by rfl, by rfl⟩

end LeddyRaspPi
