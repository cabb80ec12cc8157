import LeddyRaspPi.Agent.Blackout
import LeddyRaspPi.Agent.Persistence

/-!
# The snapshot file

With the snapshot backend the display is a file. A call of the sink that returns leaves its frame in
it, in chain order; one that fails may leave anything, but then the session is over and the next call
is the clear of `main`. So wherever the agent waits the file holds the frame of the last call
(`snapshot_follows`), as long as the file is not one the configuration is kept in.
-/

namespace LeddyRaspPi

open Fallible History

variable {L : Leddy} {settings : RuntimeSettings} {outside : Outside} {path : Path}

/-- The frame of a call in chain order. -/
def Call.device (call : Call L) : List UInt8 :=
  (call.frame.map (encodeDeviceFrame L call.config)).getD (blankPixels L call.config)

/-- The snapshot sink writes to the file. -/
def WritesTo (path : Path) (world : World L) : Prop := world.sink.snapshotPath = some path

/-- The file holds the frame of the last call, or what it held at first. -/
structure Mirrors (path : Path) (first : Entry) (world : World L) : Prop where
  writesTo : WritesTo path world
  file : world.fs path = (lastCall world.history).elim first fun call => .file call.device

namespace FrameSink

variable {config : DisplayConfig} {outcome : SinkOutcome} {sink : FrameSink} {fs : FileSystem}

/-- A `clear` that returns leaves a black frame in the file. -/
theorem clear_file (hpath : sink.snapshotPath = some path) :
    Ends (clear L config outcome) (sink, fs)
      (fun _ after => after.2 path = .file (blankPixels L config)) fun _ _ => True := by
  cases sink with
  | hub75 sink => cases hpath
  | snapshot sink =>
    rw [clear, ends_bind, ends_get]
    refine (ends_onSnapshot _).2 ?_
    exact (SnapshotSink.writeSnapshot_ends sink _ _ _).mono (fun _ _ h => h.2 path hpath)
      fun _ _ _ => trivial

/-- A `present` that returns leaves its frame in the file. -/
theorem present_file {frame : L.FrameBuffer} (hpath : sink.snapshotPath = some path) :
    Ends (present L config frame outcome) (sink, fs)
      (fun _ after => after.2 path = .file (encodeDeviceFrame L config frame))
      fun _ _ => True := by
  cases sink with
  | hub75 sink => cases hpath
  | snapshot sink =>
    rw [present, ends_bind, ends_get]
    refine (ends_onSnapshot _).2 ?_
    rw [SnapshotSink.present, ends_bind]
    exact (SnapshotSink.writeSnapshot_ends sink _ _ _).mono (fun _ _ h => h.2 path hpath)
      fun _ _ _ => trivial

end FrameSink

section
variable {world : World L} {first : Entry}

/-- Whatever the file holds, a clear that returns leaves it in step. -/
theorem WritesTo.clearSink_ends (h : WritesTo path world) :
    Ends (World.clearSink outside) world (fun _ => Mirrors path first) fun _ => WritesTo path := by
  rw [World.clearSink, ends_bind, ends_get, World.onSink_ends]
  refine (FrameSink.clear_ends.and (FrameSink.clear_file h)).mono (fun _ after hafter => ?_)
    fun _ after hafter => ?_
  · exact ⟨hafter.1.1.path.trans h, hafter.2⟩
  · exact hafter.1.path.trans h

/-- When `sink.present` returns the file holds its frame; the sink still writes there if it fails. -/
theorem WritesTo.presentSink_ends (h : WritesTo path world) {frame : L.FrameBuffer} :
    Ends (World.presentSink outside frame) world (fun _ => Mirrors path first)
      fun _ => WritesTo path := by
  rw [World.presentSink, ends_bind, ends_get, World.onSink_ends]
  refine (FrameSink.present_ends.and (FrameSink.present_file h)).mono (fun _ after hafter => ?_)
    fun _ after hafter => ?_
  · exact ⟨hafter.1.1.path.trans h, hafter.2⟩
  · exact hafter.1.path.trans h

/-- An entry that is no call does not change which was the last. -/
theorem Mirrors.note {effect : Effect L} (hcall : effect.call? = none)
    (h : Mirrors path first world) : Mirrors path first (world.note effect) where
  writesTo := h.writesTo
  file := by
    rw [World.note_history, lastCall, calls, List.filterMap_cons_none hcall]
    exact h.file

/-- Such entries are no calls of the sink. -/
theorem Effect.call?_of_minor {effect : Effect L} (h : effect.minor = true) :
    effect.call? = none := by
  cases effect with
  | presented => cases h
  | cleared => cases h
  | _ => rfl

/-- A file apart from those of the configuration stays in step as long as the calls return. -/
theorem mirrors_unbroken (hconfig : path ≠ settings.configPath)
    (htemporary : path ≠ temporaryPath settings.configPath) :
    Unbroken settings outside (Mirrors path first : World L → Prop) (WritesTo path) where
  weaken h := h.writesTo
  took _ h := h.note rfl
  note hminor h := h.note (Effect.call?_of_minor hminor)
  cleared h _ := h.writesTo.clearSink_ends
  presented h _ _ := h.writesTo.presentSink_ends
  refused h _ := h.writesTo
  configured h hpersisted :=
    ⟨h.writesTo, (hpersisted.others path hconfig htemporary).trans h.file⟩

/-- A file apart from those of the configuration mirrors the last call wherever the agent waits. -/
theorem mirrors_kept (hconfig : path ≠ settings.configPath)
    (htemporary : path ≠ temporaryPath settings.configPath) :
    (relaxLaw (Mirrors path first : World L → Prop) (WritesTo path) (WritesTo path)).Kept settings
      fun _ _ => True :=
  relaxLaw_kept (fun _ _ _ => mirrors_unbroken hconfig htemporary) (fun _ _ _ _ h => h.note rfl)
    fun started outside world _ hended => by
      have htook : WritesTo path (world.note (.took (.finish outside))) := hended
      have hcleared : Ends (World.clearSink outside) (world.note (.took (.finish outside)))
          (fun _ => Mirrors path first) fun _ => WritesTo path := htook.clearSink_ends
      refine World.finish_ends (hcleared.mono (fun _ world' h backoff => ?_) fun _ _ h => h)
      have hslept : Mirrors path first (world'.note (.slept backoff)) := h.note rfl
      exact ⟨hslept.writesTo, hslept.file⟩

/-- Wherever the agent waits the file is in step. -/
theorem mirrors_run (hconfig : path ≠ settings.configPath)
    (htemporary : path ≠ temporaryPath settings.configPath) (hwrites : WritesTo path world)
    (hcalls : calls world.history = []) (inputs : List (Input L))
    (hwaits : (Machine.run settings ⟨world, .ready⟩ inputs).Waits) :
    Mirrors path (world.fs path) (Machine.run settings ⟨world, .ready⟩ inputs).world := by
  have hinitial : (relaxLaw (Mirrors path (world.fs path)) (WritesTo path) (WritesTo path)).Holds
      (⟨world, .ready⟩ : Machine L) := ⟨hwrites, by rw [lastCall, hcalls]; rfl⟩
  exact relaxLaw_waits ((mirrors_kept hconfig htemporary).run_all hinitial inputs) hwaits

end

/-- With the snapshot backend, wherever the agent waits the snapshot file holds the frame of the
last call of the sink in chain order, and what it held at first if there was none. If the agent has
nothing to show it is black, with one byte for each pixel of the configuration in force. -/
theorem snapshot_follows {env : Environment} {fs : FileSystem} {spawn : Except IoError Bool}
    {world : World L} (hstart : startUp L env fs spawn = .ok (settings, world))
    (hhelper : settings.hub75Helper = none) (hpath : settings.snapshotPath = some path)
    (hconfig : path ≠ settings.configPath)
    (htemporary : path ≠ temporaryPath settings.configPath) (inputs : List (Input L))
    {machine : Machine L} (hmachine : machine = Machine.run settings ⟨world, .ready⟩ inputs)
    (hwaits : machine.Waits) :
    machine.world.fs path =
        (lastCall machine.world.history).elim (fs path) (fun call => .file call.device) ∧
      (machine.Quiet → lastCall machine.world.history ≠ none →
        machine.world.fs path =
          .file (List.replicate (L.pixelCount machine.world.config) 0)) := by
  obtain ⟨_, config, sink, rfl, _, hsink, _⟩ := startUp_ok hstart
  have hwrites : WritesTo path (World.initial (L := L) config sink fs) := by
    unfold FrameSink.new at hsink
    rw [hhelper, hpath] at hsink
    cases hsink
    rfl
  have hmirrors : Mirrors path (fs path) machine.world := by
    subst hmachine
    exact mirrors_run hconfig htemporary hwrites rfl inputs hwaits
  refine ⟨hmirrors.file, fun hquiet hcalled => ?_⟩
  have hscreen : (screenLaw L config).Holds machine := by
    subst hmachine
    exact screenLaw_parts.kept.run_all (screenLaw_initial sink fs) inputs
  have hblackout : (blackoutLaw L).Holds machine := by
    subst hmachine
    exact blackoutLaw_parts.kept.run_all (blackoutLaw_initial config sink fs) inputs
  obtain ⟨call, hcall⟩ := Option.ne_none_iff_exists'.1 hcalled
  have hframe : call.frame = none := hquiet.dark hscreen hblackout call hcall
  have hcurrent : call.config = machine.world.config := hwaits.current hscreen call hcall
  rw [hmirrors.file, hcall, Option.elim_some, Call.device, hframe, ← hcurrent]
  rfl

/-! ## With the reference instance -/

/-- An environment that names a snapshot file and nothing else. -/
def snapshotEnvironment : Environment := fun name =>
  if name = "LEDDY_FRAME_SNAPSHOT" then some (.text "/run/leddy/frame.bin") else none

/-- The file. -/
def framePath : Path := .ofOsStr (.text "/run/leddy/frame.bin")

/-- A message is shown and the display is cleared. -/
def shownAndCleared : List (Input Leddy.reference) :=
  [.connect (.calm ⟨0, 0⟩),
   .select (.incoming (.text (.ok (.show ⟨"m", 255, 3600000⟩)))) (.calm ⟨1000000, 1000000⟩),
   .select .frameTick (.calm ⟨50000000, 50000000⟩),
   .select (.incoming (.text (.ok .clear))) (.calm ⟨60000000, 60000000⟩)]

/-- What start-up makes of it. -/
def World.withSnapshots : World Leddy.reference :=
  .initial ⟨100, 10, 96, true, .topLeft, some defaultSafetyLimits⟩ (.snapshot ⟨some framePath⟩)
    fun _ => .absent

/-- A message is shown and cleared: the file is black. -/
theorem snapshot_follows_cleared :
    (Machine.run (.fromEnv snapshotEnvironment) ⟨.withSnapshots, .ready⟩
          shownAndCleared).world.fs framePath =
        (lastCall (Machine.run (.fromEnv snapshotEnvironment) ⟨.withSnapshots, .ready⟩
          shownAndCleared).world.history).elim .absent (fun call => .file call.device) ∧
      ((Machine.run (.fromEnv snapshotEnvironment) ⟨.withSnapshots, .ready⟩
          shownAndCleared).Quiet →
        lastCall (Machine.run (.fromEnv snapshotEnvironment) ⟨.withSnapshots, .ready⟩
          shownAndCleared).world.history ≠ none →
        (Machine.run (.fromEnv snapshotEnvironment) ⟨.withSnapshots, .ready⟩
          shownAndCleared).world.fs framePath = .file (List.replicate (Leddy.reference.pixelCount
            (Machine.run (.fromEnv snapshotEnvironment) ⟨.withSnapshots, .ready⟩
              shownAndCleared).world.config) 0)) := by
  have hstart : startUp Leddy.reference snapshotEnvironment (fun _ => .absent) (.ok true) =
      .ok (.fromEnv snapshotEnvironment, .withSnapshots) := rfl
  exact snapshot_follows hstart rfl rfl (by decide) (by decide) shownAndCleared rfl trivial

end LeddyRaspPi
