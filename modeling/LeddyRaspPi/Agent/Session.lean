import LeddyRaspPi.FrameSink
import LeddyRaspPi.Startup

/-!
# A session of the agent

`run_session` of `main.rs`, one definition for each arm of its `select!` and of its `match command`.
The state is what the function works on: the configuration and the sink it borrows from `main`, the
file system, and its own variables. Everything decided outside the agent during one turn of the loop
is an argument, an `Outside`. A ghost `history`, which no code reads, lists what an observer of the
agent could have noted.
-/

namespace LeddyRaspPi

open Fallible

/-! ## Time -/

/-- A reading of both clocks of the system in nanoseconds: `Instant::now()`, and `SystemTime::now()`
counted from 1970, which may be stepped either way. -/
structure Clock where
  mono : Nat
  wall : Int
  deriving DecidableEq

/-- `now_unix_ms`. -/
def nowUnixMs (now : Clock) : UInt64 :=
  let ms := now.wall.toNat / 1000000
  if ms < UInt64.size then .ofNat ms else .ofNat (UInt64.size - 1)

/-- `started.elapsed().as_millis() as u64`. -/
def elapsedMs (started now : Nat) : UInt64 := .ofNat ((now - started) / 1000000)

/-! ## The types of a session -/

/-- `Box<dyn Error>`: an I/O error, or the text of another one. -/
inductive BoxError where
  | io (error : IoError)
  | text (message : String)
  deriving DecidableEq

/-- What is decided outside the agent during one turn: the readings of the clocks in the order the
code takes them, how `connect_async` ends (at which instant, if it connects), how the one message
that is sent fares, and how the files and the sink behave. -/
structure Outside where
  first : Clock
  second : Clock
  connect : Except String Nat
  send : Except String Unit
  persist : PersistOutcome
  sink : SinkOutcome

/-- An outside in which every call succeeds and both readings of the clocks are the given one. -/
def Outside.calm (now : Clock) : Outside where
  first := now
  second := now
  connect := .ok now.mono
  send := .ok ()
  persist := ⟨.ok (), .complete, .ok ()⟩
  sink := ⟨.ok none, none, .ok (), .complete⟩

/-- `reader.next()`: the end of the stream, an error, or a WebSocket message; the text of a text
message stands as what `serde_json::from_str` makes of it. -/
inductive Incoming (L : Leddy) where
  | closed
  | failed (error : String)
  | text (command : Except String L.Command)
  | ping
  | close
  | other

/-- The arms of the `select!` of the session loop. -/
inductive Arm (L : Leddy) where
  | incoming (incoming : Incoming L)
  | frameTick
  | telemetryTick

/-- What `main` does next and how the outside behaves meanwhile: begin a session, take an arm of the
session loop, or finish a session that is over. -/
inductive Input (L : Leddy) where
  | connect (outside : Outside)
  | select (arm : Arm L) (outside : Outside)
  | finish (outside : Outside)

/-- `ActiveMessage`. -/
structure ActiveMessage (L : Leddy) where
  message : L.MessageEnvelope
  started : Nat

/-- The variables of `run_session`. -/
structure Locals (L : Leddy) where
  active : Option (ActiveMessage L)
  safety : L.SafetyController
  lastAuthenticatedContactUnixMs : UInt64

/-- What an event leaves behind in the history beside itself: the state it was sent in. -/
structure Snapshot (L : Leddy) where
  config : DisplayConfig
  fs : FileSystem
  locals : Option (Locals L)

/-- What an observer of the agent notes. -/
inductive Effect (L : Leddy) where
  /-- The agent takes an input. -/
  | took (input : Input L)
  /-- `*config` is assigned. -/
  | configured (next : DisplayConfig)
  /-- `SafetyController::new` is called. -/
  | built (limits : SafetyLimits) (result : Except String Unit)
  /-- `observe` is called. -/
  | observed (observation : SafetyObservation) (decision : SafetyDecision L.Fault)
  /-- `reset_authorized` is called. -/
  | reset (authorization : L.SafetyResetAuthorization) (result : Except String Unit)
  /-- `render_message_frame` is called. -/
  | rendered (config : DisplayConfig) (message : L.MessageEnvelope) (elapsedMs : UInt64)
      (result : Except String (Option L.FrameBuffer))
  /-- `sink.present` is called. -/
  | presented (config : DisplayConfig) (frame : L.FrameBuffer)
      (before after : FrameSink × FileSystem) (result : Except IoError FrameStats)
  /-- `sink.clear` is called. -/
  | cleared (config : DisplayConfig) (before after : FrameSink × FileSystem)
      (result : Except IoError Unit)
  /-- An event is sent. -/
  | sent (event : L.Event) (state : Snapshot L) (result : Except String Unit)
  /-- A WebSocket pong is sent. -/
  | ponged (result : Except String Unit)
  /-- `main` sleeps before it reconnects. -/
  | slept (delay : Nat)

/-- The variables of `main` that outlive a session, the files, and the history, latest first. -/
structure World (L : Leddy) where
  config : DisplayConfig
  sink : FrameSink
  backoff : Nat
  fs : FileSystem
  history : List (Effect L)

/-- The state of the session loop. -/
structure Session (L : Leddy) where
  world : World L
  locals : Locals L

/-- Whether the session loop goes on. -/
inductive Flow where
  | continue
  | break
  deriving DecidableEq

variable {L : Leddy}

/-! ## Calls -/

namespace World

/-- Adds an entry to the history. -/
def note (effect : Effect L) (world : World L) : World L :=
  { world with history := effect :: world.history }

/-- Where a call of the sink leaves the world, with its entry in the history. -/
def called (after : FrameSink × FileSystem) (effect : Effect L) (world : World L) : World L :=
  { world with sink := after.1, fs := after.2, history := effect :: world.history }

/-- Calls a method of the sink and notes how it went. -/
def onSink {α : Type} (effect : FrameSink × FileSystem → Except IoError α → Effect L)
    (m : EStateM IoError (FrameSink × FileSystem) α) : EStateM BoxError (World L) α := fun world =>
  match m (world.sink, world.fs) with
  | .ok a after => .ok a (world.called after (effect after (.ok a)))
  | .error e after => .error (.io e) (world.called after (effect after (.error e)))

/-- `sink.clear(config)?`. -/
def clearSink (outside : Outside) : EStateM BoxError (World L) Unit := do
  let world ← get
  onSink (.cleared world.config (world.sink, world.fs))
    (FrameSink.clear L world.config outside.sink)

/-- `sink.present(config, &frame)?`. -/
def presentSink (outside : Outside) (frame : L.FrameBuffer) :
    EStateM BoxError (World L) FrameStats := do
  let world ← get
  onSink (.presented world.config frame (world.sink, world.fs))
    (FrameSink.present L world.config frame outside.sink)

/-- `render_message_frame(config, message, elapsed_ms)?`. -/
def renderFrame (message : L.MessageEnvelope) (elapsedMs : UInt64) :
    EStateM BoxError (World L) (Option L.FrameBuffer) := do
  let world ← get
  let result := L.renderMessageFrame world.config message elapsedMs
  modify (note (.rendered world.config message elapsedMs result))
  ofExcept (result.mapError .text)

/-- `SafetyController::new(safety_limits(config))?`. -/
def newController : EStateM BoxError (World L) L.SafetyController := do
  let world ← get
  let result := L.safetyNew (safetyLimits world.config)
  modify (note (.built (safetyLimits world.config) (result.map fun _ => ())))
  ofExcept (result.mapError .text)

/-- `persist_config(&settings.config_path, &next)?`. -/
def persist (settings : RuntimeSettings) (outside : Outside) (next : DisplayConfig) :
    EStateM BoxError (World L) Unit :=
  EStateM.adaptExcept .io
    (focus World.fs (fun fs world => { world with fs })
      (persistConfig L settings.configPath next outside.persist))

/-- `*config = next`. -/
def configure (next : DisplayConfig) : EStateM BoxError (World L) Unit :=
  modify fun world => { world.note (.configured next) with config := next }

/-- `send_event`, in a session whose variables are `locals`. -/
def sendEvent (outside : Outside) (locals : Option (Locals L)) (event : L.Event) :
    EStateM BoxError (World L) Unit := do
  modify fun world => world.note (.sent event ⟨world.config, world.fs, locals⟩ outside.send)
  ofExcept (outside.send.mapError .text)

/-- `writer.send(Message::Pong(payload))`. -/
def sendPong (outside : Outside) : EStateM BoxError (World L) Unit := do
  modify (note (.ponged outside.send))
  ofExcept (outside.send.mapError .text)

end World

namespace Session

/-- Adds an entry to the history. -/
def note (effect : Effect L) (session : Session L) : Session L :=
  { session with world := session.world.note effect }

/-- A step on the part of the state that outlives the session. -/
def onWorld {α : Type} : EStateM BoxError (World L) α → EStateM BoxError (Session L) α :=
  focus Session.world fun world session => { session with world }

/-- Assigns variables of the session. -/
def assign (f : Locals L → Locals L) : EStateM BoxError (Session L) Unit :=
  modify fun session => { session with locals := f session.locals }

/-- `send_event(&mut writer, event).await?`. -/
def reply (outside : Outside) (event : L.Event) : EStateM BoxError (Session L) Unit := do
  let session ← get
  onWorld (World.sendEvent outside (some session.locals) event)

/-- `safety.observe(..)`. -/
def observe (observation : SafetyObservation) :
    EStateM BoxError (Session L) (SafetyDecision L.Fault) := do
  let session ← get
  let (decision, safety) := L.safetyObserve session.locals.safety observation
  assign fun locals => { locals with safety }
  modify (note (.observed observation decision))
  pure decision

/-- `safety.reset_authorized(&authorization, now)`. -/
def resetAuthorized (authorization : L.SafetyResetAuthorization) (nowUnixMs : UInt64) :
    EStateM BoxError (Session L) (Except String Unit) := do
  let session ← get
  let (result, safety) := L.safetyResetAuthorized session.locals.safety authorization nowUnixMs
  assign fun locals => { locals with safety }
  modify (note (.reset authorization result))
  pure result

/-! ## The commands -/

/-- The arm of `DeviceCommand::Show`. -/
def handleShow (outside : Outside) (message : L.MessageEnvelope) :
    EStateM BoxError (Session L) Unit := do
  ofExcept ((L.validateMessage message).mapError .text)
  let commandId := L.messageId message
  assign fun locals => { locals with active := some ⟨message, outside.second.mono⟩ }
  reply outside (.ack commandId)

/-- The arm of `DeviceCommand::Clear`. -/
def handleClear (outside : Outside) : EStateM BoxError (Session L) Unit := do
  assign fun locals => { locals with active := none }
  onWorld (World.clearSink outside)
  reply outside (.ack "clear")

/-- The arm of `DeviceCommand::Configure`. -/
def handleConfigure (settings : RuntimeSettings) (outside : Outside) (next : DisplayConfig) :
    EStateM BoxError (Session L) Unit := do
  ofExcept ((validateSupportedConfig L next).mapError .io)
  onWorld (World.persist settings outside next)
  onWorld (World.configure next)
  let safety ← onWorld World.newController
  assign fun locals => { locals with safety }
  assign fun locals =>
    { locals with
      active := locals.active.map fun active => { active with started := outside.second.mono } }
  onWorld (World.clearSink outside)
  reply outside (.ack "configure")

/-- The arm of `DeviceCommand::ResetSafetyFault`. -/
def handleResetSafetyFault (outside : Outside) (authorization : L.SafetyResetAuthorization) :
    EStateM BoxError (Session L) Unit := do
  let commandId := L.authorizationId authorization
  match ← resetAuthorized authorization (nowUnixMs outside.second) with
  | .ok _ => reply outside (.ack commandId)
  | .error error => reply outside (.error "safety_reset_rejected" error)

/-- `match command`. -/
def handleCommand (settings : RuntimeSettings) (outside : Outside) :
    L.Command → EStateM BoxError (Session L) Unit
  | .show message => handleShow outside message
  | .clear => handleClear outside
  | .configure next => handleConfigure settings outside next
  | .ping nonce => reply outside (.pong nonce)
  | .resetSafetyFault authorization => handleResetSafetyFault outside authorization
  | .stageFirmware | .activateStagedFirmware =>
    reply outside (.error "firmware_update_not_configured"
      "this controller has no provisioned firmware update keyring")

/-! ## The arms of the session loop -/

/-- `last_authenticated_contact_unix_ms = now_unix_ms()`. -/
def touch (outside : Outside) : EStateM BoxError (Session L) Unit :=
  assign fun locals => { locals with lastAuthenticatedContactUnixMs := nowUnixMs outside.first }

/-- The arm of `reader.next()`. -/
def handleIncoming (settings : RuntimeSettings) (outside : Outside) :
    Incoming L → EStateM BoxError (Session L) Flow
  | .closed => pure .break
  | .failed error => throw (.text error)
  | .text command => do
    let command ← ofExcept (command.mapError .text)
    touch outside
    handleCommand settings outside command
    pure .continue
  | .ping => do
    touch outside
    onWorld (World.sendPong outside)
    pure .continue
  | .close => pure .break
  | .other => pure .continue

/-- The part of the frame tick behind the latched-fault branch. -/
def presentActive (outside : Outside) : EStateM BoxError (Session L) Unit := do
  match (← get).locals.active with
  | none => pure ()
  | some active => do
    match ← onWorld (World.renderFrame active.message
        (elapsedMs active.started outside.second.mono)) with
    | some frame => do
      let _ ← onWorld (World.presentSink outside frame)
      pure ()
    | none => do
      assign fun locals => { locals with active := none }
      onWorld (World.clearSink outside)

/-- The arm of `frame_tick.tick()`. -/
def frameTick (outside : Outside) : EStateM BoxError (Session L) Unit := do
  let session ← get
  let decision ← observe
    { observedAtUnixMs := nowUnixMs outside.first
      lastAuthenticatedCommandUnixMs := session.locals.lastAuthenticatedContactUnixMs
      supplyMillivolts := none
      currentMilliamps := none
      temperatureMillicelsius := none }
  if decision.faultLatched then onWorld (World.clearSink outside) else presentActive outside

/-- The arm of `telemetry_tick.tick()`. -/
def telemetryTick (settings : RuntimeSettings) (outside : Outside) :
    EStateM BoxError (Session L) Unit := do
  let session ← get
  let decision := L.safetyDecision session.locals.safety
  reply outside (.telemetry
    { deviceId := settings.deviceId
      uptimeSeconds := 0
      freeMemoryBytes := 0
      brightnessLimit := some (min decision.brightnessLimit session.world.config.brightness)
      faultLatched := decision.faultLatched
      activeFaults := decision.activeFaults
      recentFaults := L.safetyRecentFaults session.locals.safety
      currentMessageId := session.locals.active.map fun active => L.messageId active.message })

/-- One pass of the session loop. -/
def select (settings : RuntimeSettings) (outside : Outside) :
    Arm L → EStateM BoxError (Session L) Flow
  | .incoming incoming => handleIncoming settings outside incoming
  | .frameTick => do
    frameTick outside
    pure .continue
  | .telemetryTick => do
    telemetryTick settings outside
    pure .continue

/-! ## The start of a session -/

/-- `env!("CARGO_PKG_VERSION")`. -/
def cargoPkgVersion : String := "0.1.0"

/-- The first event of a session. -/
def hello (L : Leddy) (settings : RuntimeSettings) : L.Event :=
  .hello settings.deviceId cargoPkgVersion
    { maxWidth := L.recommendedMaxWidth
      maxHeight := L.recommendedMaxHeight
      colorDepthBits := 8
      supportsBrightness := true
      platform := some .raspberryPi
      transports := [.wifi, .ethernet]
      supportsLatchedFaults := true }

/-- `run_session` up to its loop, with the variables it enters the loop with. -/
def start (settings : RuntimeSettings) (outside : Outside) :
    EStateM BoxError (World L) (Locals L) := do
  let _ ← ofExcept (outside.connect.mapError .text)
  World.sendEvent outside none (hello L settings)
  let safety ← World.newController
  pure
    { active := none
      safety
      lastAuthenticatedContactUnixMs := nowUnixMs outside.second }

end Session

end LeddyRaspPi
