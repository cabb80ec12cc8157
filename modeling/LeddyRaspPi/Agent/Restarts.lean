import LeddyRaspPi.Agent.Persistence
import LeddyRaspPi.Agent.Precedence
import LeddyRaspPi.Agent.Unbroken

/-!
# Restarts

Of what the agent knows only the files outlive its process. A process may end anywhere: one that is
killed within a call of the file system leaves what that call leaves when it fails there, so a life
of the agent is a start-up and any list of inputs. Over a sequence of lives the configuration file is
a register that `persist_config` writes and start-up reads (`restarts_keep`).
-/

namespace LeddyRaspPi

open Fallible History

variable {L : Leddy} {settings : RuntimeSettings} {outside : Outside} {path : Path}

/-! ## The register -/

/-- The configuration of an entry that assigns one, which is when `persist_config` has returned. -/
def Effect.persisted? : Effect L → Option DisplayConfig
  | .configured next => some next
  | _ => none

/-- The configuration persisted last. -/
def lastPersisted (history : List (Effect L)) : Option DisplayConfig :=
  history.findSome? Effect.persisted?

/-- The file holds the configuration, or there is no file where nothing was persisted. -/
def Keeps (L : Leddy) (fs : FileSystem) (path : Path) : Option DisplayConfig → Prop
  | none => fs path = .absent
  | some config => HoldsConfig L fs path config

section
variable {fs fs' : FileSystem} {register : Option DisplayConfig} {env : Environment}
  {fallback config : DisplayConfig}

/-- What is kept depends on the file alone. -/
theorem Keeps.congr (h : Keeps L fs path register) (hfile : fs' path = fs path) :
    Keeps L fs' path register := by
  cases register with
  | none => exact hfile.trans h
  | some config =>
    obtain ⟨⟨bytes, hbytes, hdecode⟩, hsupported⟩ := h
    exact ⟨⟨bytes, hfile.trans hbytes, hdecode⟩, hsupported⟩

/-- A configuration that was persisted is kept. -/
theorem Persisted.keeps (hL : L.Decodes) (h : Persisted L settings outside config fs fs') :
    Keeps L fs' settings.configPath (some config) := by
  obtain ⟨bytes, hencode, hfile⟩ := h.written
  exact ⟨⟨bytes, hfile, hL hencode⟩, h.supported⟩

/-- A fallback is supported. -/
theorem configFromEnv_supported (h : configFromEnv L env = .ok fallback) :
    Supported L fallback := by
  unfold configFromEnv at h
  cases horigin : env.origin "LEDDY_PIXEL_ORIGIN" .topLeft with
  | error error => rw [horigin] at h; cases h
  | ok origin =>
    simp only [horigin, Bind.bind, Except.bind] at h
    split at h
    · cases h
    · next hvalid =>
      cases h
      exact hvalid

/-- With a fallback at hand, start-up selects what is kept. -/
theorem Keeps.selects (h : Keeps L fs (RuntimeSettings.fromEnv env).configPath register)
    (hfallback : configFromEnv L env = .ok fallback) :
    Selects L env fs (.fromEnv env) (register.getD fallback) := by
  cases register with
  | some config => exact startUp_of_fallback h hfallback
  | none =>
    intro spawn
    have hvalid : validateSupportedConfig L fallback = .ok () := configFromEnv_supported hfallback
    have hload : loadConfig L fs (RuntimeSettings.fromEnv env).configPath fallback =
        .ok fallback := by
      rw [loadConfig, FileSystem.read, show fs _ = .absent from h]
      rfl
    rw [startUp]
    simp only [hfallback, hload, hvalid, Option.getD_none, Bind.bind, Except.bind]
    cases FrameSink.new (RuntimeSettings.fromEnv env).snapshotPath
      (RuntimeSettings.fromEnv env).hub75Helper spawn <;> rfl

end

/-! ## One life -/

/-- The file keeps what was persisted last, and the sink writes to another file. -/
structure Registers (path : Path) (before : Option DisplayConfig) (world : World L) : Prop where
  keeps : Keeps L world.fs path ((lastPersisted world.history).or before)
  elsewhere : world.sink.snapshotPath ≠ some path

section
variable {before : Option DisplayConfig} {world : World L}

/-- Only an assignment of the configuration is persisted. -/
theorem Effect.persisted?_of_minor {effect : Effect L} (h : effect.minor = true) :
    effect.persisted? = none := by
  cases effect with
  | configured next => cases h
  | _ => rfl

/-- An entry that persists nothing leaves the register as it is. -/
theorem Registers.note {effect : Effect L} (heffect : effect.persisted? = none)
    (h : Registers path before world) : Registers path before (world.note effect) where
  keeps := by
    rw [World.note_history, lastPersisted, List.findSome?_cons, heffect]
    exact h.keeps
  elsewhere := h.elsewhere

/-- A call of the sink leaves the file alone. -/
theorem Registers.called {effect : Effect L} {after : FrameSink × FileSystem}
    (heffect : effect.persisted? = none) (h : Registers path before world)
    (honly : OnlySnapshot (world.sink, world.fs) after) :
    Registers path before (world.called after effect) where
  keeps := by
    rw [World.called_history, lastPersisted, List.findSome?_cons, heffect]
    exact h.keeps.congr (honly.files path h.elsewhere)
  elsewhere := honly.path ▸ h.elsewhere

/-- Clearing the display persists nothing. -/
theorem Registers.clearSink_ends (h : Registers path before world) :
    Ends (World.clearSink outside) world (fun _ => Registers path before)
      fun _ => Registers path before :=
  World.clearSink_ends (fun _ honly _ => h.called rfl honly) fun _ _ honly => h.called rfl honly

/-- No call loses what was persisted last, not even one that fails. -/
theorem registers_unbroken (hL : L.Decodes) :
    Unbroken settings outside (Registers settings.configPath before : World L → Prop)
      (Registers settings.configPath before) where
  weaken h := h
  took _ h := h.note rfl
  note hminor h := h.note (Effect.persisted?_of_minor hminor)
  cleared h _ := h.clearSink_ends
  presented h _ _ := World.presentSink_ends (fun _ _ honly _ => h.called rfl honly)
    fun _ _ honly => h.called rfl honly
  refused h hothers :=
    ⟨h.keeps.congr (hothers _ (temporaryPath_ne _).symm), h.elsewhere⟩
  configured h hpersisted := ⟨hpersisted.keeps hL, h.elsewhere⟩

/-- In every run the configuration file holds what was last persisted. -/
theorem registers_kept (hL : L.Decodes) :
    (worldLaw (Registers settings.configPath before : World L → Prop)).Kept settings
      fun _ _ => True :=
  relaxLaw_kept (fun _ _ _ => registers_unbroken hL) (fun _ _ _ _ h => h.note rfl)
    fun started outside world _ hended => by
      have htook : Registers settings.configPath before
          (world.note (.took (.finish outside))) := hended.note rfl
      refine World.finish_ends (htook.clearSink_ends.mono (fun _ world' h backoff => ?_)
        fun _ _ h => h)
      obtain ⟨hkeeps, helsewhere⟩ :
        Registers settings.configPath before (world'.note (.slept backoff)) := h.note rfl
      exact ⟨hkeeps, helsewhere⟩

end

/-- A life of the agent: the environment it is started in, how starting the helper goes, and what
happens until its process ends. -/
structure Life (L : Leddy) where
  env : Environment
  spawn : Except IoError Bool
  inputs : List (Input L)

/-- The life keeps its configuration at the path, and does not write frames there. -/
structure Life.KeepsTo (path : Path) (life : Life L) : Prop where
  config : (RuntimeSettings.fromEnv life.env).configPath = path
  frames : (RuntimeSettings.fromEnv life.env).hub75Helper = none →
    (RuntimeSettings.fromEnv life.env).snapshotPath ≠ some path

/-- What outlives the process: the files. The configuration persisted last is a ghost. -/
structure Device where
  fs : FileSystem
  persisted : Option DisplayConfig

/-- A life; one whose start-up fails changes nothing. -/
def Device.live (device : Device) (life : Life L) : Device :=
  match startUp L life.env device.fs life.spawn with
  | .error _ => device
  | .ok (settings, world) =>
    let machine := Machine.run settings ⟨world, .ready⟩ life.inputs
    ⟨machine.world.fs, (lastPersisted machine.world.history).or device.persisted⟩

/-- The configuration file of the device is as it should be. -/
def Device.Keeps (L : Leddy) (path : Path) (device : Device) : Prop :=
  LeddyRaspPi.Keeps L device.fs path device.persisted

/-- A sink that is made for other files than the one at the path does not write there. -/
theorem Life.KeepsTo.elsewhere {life : Life L} (h : life.KeepsTo path) {sink : FrameSink}
    (hsink : FrameSink.new (RuntimeSettings.fromEnv life.env).snapshotPath
      (RuntimeSettings.fromEnv life.env).hub75Helper life.spawn = .ok sink) :
    sink.snapshotPath ≠ some path := by
  unfold FrameSink.new at hsink
  cases hhelper : (RuntimeSettings.fromEnv life.env).hub75Helper with
  | none =>
    rw [hhelper] at hsink
    cases hsink
    exact h.frames hhelper
  | some helper =>
    rw [hhelper] at hsink
    cases hspawn : Hub75Sink.spawn life.spawn with
    | error error => rw [hspawn] at hsink; cases hsink
    | ok hub75 =>
      rw [hspawn] at hsink
      cases hsink
      exact (Option.some_ne_none _).symm

/-- A life leaves the file as it should be. -/
theorem Device.Keeps.live (hL : L.Decodes) {device : Device} {life : Life L}
    (hlife : life.KeepsTo path) (h : device.Keeps L path) : (device.live life).Keeps L path := by
  unfold Device.live
  cases hstart : startUp L life.env device.fs life.spawn with
  | error error => exact h
  | ok started =>
    obtain ⟨settings, world⟩ := started
    obtain ⟨rfl, config, sink, rfl, -, hsink, -⟩ := startUp_ok hstart
    obtain rfl := hlife.config
    have hinitial : Registers (RuntimeSettings.fromEnv life.env).configPath device.persisted
        (World.initial (L := L) config sink device.fs) := ⟨h, hlife.elsewhere hsink⟩
    exact (worldLaw_holds.1
      ((registers_kept hL).run_all (worldLaw_holds.2 hinitial) life.inputs)).keeps

/-! ## All lives -/

/-- A device that keeps its configuration through one life keeps it through any number of lives. -/
theorem Device.Keeps.run (hL : L.Decodes) {device : Device} (h : device.Keeps L path)
    {lives : List (Life L)} (hlives : ∀ life ∈ lives, life.KeepsTo path) :
    (Transition.run Device.live device lives).Keeps L path := by
  induction lives generalizing device with
  | nil => exact h
  | cons life lives ih =>
    have hlived : (device.live life).Keeps L path := h.live hL (hlives life List.mem_cons_self)
    exact ih hlived fun life' hlife' => hlives life' (List.mem_cons_of_mem _ hlife')

end LeddyRaspPi
