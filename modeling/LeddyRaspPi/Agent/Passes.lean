import LeddyRaspPi.Agent.Main

/-!
# What one pass can do

One rule for each call and each handler of the session: the ways it can end, each with the state it
leaves. The proofs about the agent use these rules and never unfold a handler. `Law.Parts` collects
what they ask of a law, `Law.Parts.kept` puts it together.
-/

namespace LeddyRaspPi

open Fallible

variable {L : Leddy} {settings : RuntimeSettings} {outside : Outside} {effect : Effect L}

/-! ## The states in between -/

namespace World

variable {world : World L} {after : FrameSink × FileSystem}

@[simp] theorem note_history : (world.note effect).history = effect :: world.history := rfl

@[simp] theorem called_history :
    (world.called after effect).history = effect :: world.history := rfl

/-- The world after `persist_config` and the assignment of the new configuration. -/
def configured (next : DisplayConfig) (fs : FileSystem) (world : World L) : World L :=
  { world with config := next, fs := fs, history := .configured next :: world.history }

end World

namespace Session

/-- The session with its contact time refreshed. -/
def touched (outside : Outside) (session : Session L) : Session L :=
  { session with
    locals := { session.locals with lastAuthenticatedContactUnixMs := nowUnixMs outside.first } }

/-- The session with another active message, or none. -/
def withActive (active : Option (ActiveMessage L)) (session : Session L) : Session L :=
  { session with locals := { session.locals with active } }

/-- The session with another controller. -/
def withSafety (safety : L.SafetyController) (session : Session L) : Session L :=
  { session with locals := { session.locals with safety } }

/-- The session with an event sent. -/
def sent (outside : Outside) (event : L.Event) (session : Session L) : Session L :=
  session.note (.sent event ⟨session.world.config, session.world.fs, some session.locals⟩
    outside.send)

end Session

/-! ## Calls -/

/-- What `persist_config` has done to the files when it returns. -/
structure Persisted (L : Leddy) (settings : RuntimeSettings) (outside : Outside)
    (next : DisplayConfig) (before after : FileSystem) : Prop where
  returned : persistConfig L settings.configPath next outside.persist before = .ok () after
  supported : Supported L next
  written : ∃ bytes, L.toVecPretty next = .ok bytes ∧ after settings.configPath = .file bytes
  others : ∀ p, p ≠ settings.configPath → p ≠ temporaryPath settings.configPath →
    after p = before p

section
variable {α : Type} {Q : α → World L → Prop} {E : BoxError → World L → Prop} {world : World L}

/-- A call of the sink ends as the sink does, with its effect noted. -/
theorem World.onSink_ends {effect : FrameSink × FileSystem → Except IoError α → Effect L}
    {m : EStateM IoError (FrameSink × FileSystem) α} :
    Ends (World.onSink effect m) world Q E ↔ Ends m (world.sink, world.fs)
      (fun a after => Q a (world.called after (effect after (.ok a))))
      (fun e after => E (.io e) (world.called after (effect after (.error e)))) := by
  unfold Ends World.onSink
  cases m (world.sink, world.fs) <;> exact Iff.rfl

end

namespace World

variable {E : BoxError → World L → Prop} {world : World L}

/-- What `sink.clear(config)?` can do. -/
theorem clearSink_ends {Q : Unit → World L → Prop}
    (hok : ∀ after, OnlySnapshot (world.sink, world.fs) after →
      FrameSink.sent (world.sink, world.fs) after = world.sink.encoding world.config
        (blankPixels L world.config) (blankPixels L world.config) →
      Q () (world.called after (.cleared world.config (world.sink, world.fs) after (.ok ()))))
    (herror : ∀ error after, OnlySnapshot (world.sink, world.fs) after →
      E (.io error)
        (world.called after (.cleared world.config (world.sink, world.fs) after (.error error)))) :
    Ends (clearSink outside) world Q E := by
  rw [clearSink, ends_bind, ends_get, onSink_ends]
  exact FrameSink.clear_ends.mono (fun _ after h => hok after h.1 h.2) herror

/-- What `sink.present(config, &frame)?` can do. -/
theorem presentSink_ends {frame : L.FrameBuffer} {Q : FrameStats → World L → Prop}
    (hok : ∀ stats after, OnlySnapshot (world.sink, world.fs) after →
      FrameSink.sent (world.sink, world.fs) after = world.sink.encoding world.config
        (L.rowMajor frame) (encodeDeviceFrame L world.config frame) →
      Q stats (world.called after
        (.presented world.config frame (world.sink, world.fs) after (.ok stats))))
    (herror : ∀ error after, OnlySnapshot (world.sink, world.fs) after →
      E (.io error) (world.called after
        (.presented world.config frame (world.sink, world.fs) after (.error error)))) :
    Ends (presentSink outside frame) world Q E := by
  rw [presentSink, ends_bind, ends_get, onSink_ends]
  exact FrameSink.present_ends.mono (fun stats after h => hok stats after h.1 h.2) herror

/-- What `persist_config(..)?` can do. -/
theorem persist_ends {next : DisplayConfig} {Q : Unit → World L → Prop}
    (hok : ∀ fs, Persisted L settings outside next world.fs fs → Q () { world with fs })
    (herror : ∀ error fs, (∀ p, p ≠ temporaryPath settings.configPath → fs p = world.fs p) →
      E (.io error) { world with fs }) :
    Ends (persist settings outside next) world Q E := by
  rw [persist, ends_adaptExcept, ends_focus]
  have hends := persistConfig_ends L settings.configPath next outside.persist world.fs
  unfold Ends at hends ⊢
  cases hrun : persistConfig L settings.configPath next outside.persist world.fs with
  | ok u fs =>
    rw [hrun] at hends
    exact hok fs ⟨hrun, hends.1, hends.2.1, hends.2.2⟩
  | error error fs =>
    rw [hrun] at hends
    exact herror error fs hends

/-- What `SafetyController::new(..)?` can do. -/
theorem newController_ends {Q : L.SafetyController → World L → Prop} :
    Ends newController world Q E ↔
      (∀ safety, L.safetyNew (safetyLimits world.config) = .ok safety →
        Q safety (world.note (.built (safetyLimits world.config) (.ok ())))) ∧
      ∀ error, L.safetyNew (safetyLimits world.config) = .error error →
        E (.text error) (world.note (.built (safetyLimits world.config) (.error error))) := by
  simp only [newController, ends_bind, ends_get, ends_modify, ends_ofExcept_mapError]
  cases L.safetyNew (safetyLimits world.config) <;> simp [Except.map]

/-- What `render_message_frame(..)?` can do. -/
theorem renderFrame_ends {message : L.MessageEnvelope} {ms : UInt64}
    {Q : Option L.FrameBuffer → World L → Prop} :
    Ends (renderFrame message ms) world Q E ↔
      (∀ result, L.renderMessageFrame world.config message ms = .ok result →
        Q result (world.note (.rendered world.config message ms
          (L.renderMessageFrame world.config message ms)))) ∧
      ∀ error, L.renderMessageFrame world.config message ms = .error error →
        E (.text error) (world.note (.rendered world.config message ms
          (L.renderMessageFrame world.config message ms))) := by
  simp only [renderFrame, ends_bind, ends_get, ends_modify, ends_ofExcept_mapError]

end World

namespace Session

variable {E : BoxError → Session L → Prop} {session : Session L}

section
variable {α : Type} {Q : α → Session L → Prop}

/-- What is run on the world leaves the variables of the session alone. -/
theorem onWorld_ends {m : EStateM BoxError (World L) α} :
    Ends (onWorld m) session Q E ↔ Ends m session.world
      (fun a world => Q a { session with world }) (fun e world => E e { session with world }) :=
  ends_focus ..

end

variable {Q : Unit → Session L → Prop}

/-- What sending an event can do. -/
theorem reply_ends {event : L.Event} :
    Ends (reply outside event) session Q E ↔
      (outside.send = .ok () → Q () (session.sent outside event)) ∧
      ∀ error, outside.send = .error error → E (.text error) (session.sent outside event) := by
  simp only [reply, ends_bind, ends_get, onWorld_ends, World.sendEvent, ends_modify,
    ends_ofExcept_mapError]
  exact ⟨fun h => ⟨h.1 (), h.2⟩, fun h => ⟨fun _ => h.1, h.2⟩⟩

/-! ## Handlers -/

/-- What the arm of `DeviceCommand::Show` can do. -/
theorem handleShow_ends {message : L.MessageEnvelope}
    (hrefused : ∀ error, E error session)
    (hshown : Ends (reply outside (.ack (L.messageId message)))
      (session.withActive (some ⟨message, outside.second.mono⟩)) Q E) :
    Ends (handleShow outside message) session Q E := by
  simp only [handleShow, ends_bind, ends_ofExcept_mapError, assign, ends_modify]
  exact ⟨fun _ _ => hshown, fun error _ => hrefused (.text error)⟩

/-- What the arm of `DeviceCommand::Clear` can do. -/
theorem handleClear_ends
    (hcleared : Ends (World.clearSink outside) session.world
      (fun _ world => Ends (reply outside (.ack "clear"))
        { session.withActive none with world } Q E)
      (fun error world => E error { session.withActive none with world })) :
    Ends (handleClear outside) session Q E := by
  simp only [handleClear, ends_bind, assign, ends_modify, onWorld_ends]
  exact hcleared

/-- The session in the middle of a `Configure`, with its new controller. -/
def rebuilt (outside : Outside) (next : DisplayConfig) (fs : FileSystem)
    (safety : L.SafetyController) (session : Session L) : Session L where
  world := (session.world.configured next fs).note (.built (safetyLimits next) (.ok ()))
  locals :=
    { session.locals with
      active := session.locals.active.map fun active =>
        { active with started := outside.second.mono }
      safety }

/-- What the arm of `DeviceCommand::Configure` can do. -/
theorem handleConfigure_ends {next : DisplayConfig}
    (hrefused : ∀ error fs,
      (∀ p, p ≠ temporaryPath settings.configPath → fs p = session.world.fs p) →
      E error { session with world := { session.world with fs } })
    (hunbuilt : ∀ fs, Persisted L settings outside next session.world.fs fs → ∀ error,
      L.safetyNew (safetyLimits next) = .error error →
      E (.text error) { session with
        world := (session.world.configured next fs).note
          (.built (safetyLimits next) (.error error)) })
    (hbuilt : ∀ fs, Persisted L settings outside next session.world.fs fs → ∀ safety,
      L.safetyNew (safetyLimits next) = .ok safety →
      Ends (World.clearSink outside) (session.rebuilt outside next fs safety).world
        (fun _ world => Ends (reply outside (.ack "configure"))
          { session.rebuilt outside next fs safety with world } Q E)
        (fun error world => E error { session.rebuilt outside next fs safety with world })) :
    Ends (handleConfigure settings outside next) session Q E := by
  simp only [handleConfigure, ends_bind, ends_ofExcept_mapError, onWorld_ends]
  refine ⟨fun _ _ => World.persist_ends (fun fs hpersisted => ?_) fun error fs hothers => ?_,
    fun error _ => hrefused (.io error) session.world.fs fun _ _ => rfl⟩
  · simp only [World.configure, ends_modify, World.newController_ends, assign]
    exact ⟨hbuilt fs hpersisted, hunbuilt fs hpersisted⟩
  · exact hrefused (.io error) fs hothers

/-- What the arm of `DeviceCommand::ResetSafetyFault` can do. -/
theorem handleResetSafetyFault_ends {authorization : L.SafetyResetAuthorization}
    (hok : ∀ safety, L.safetyResetAuthorized session.locals.safety authorization
        (nowUnixMs outside.second) = (.ok (), safety) →
      Ends (reply outside (.ack (L.authorizationId authorization)))
        ((session.withSafety safety).note (.reset authorization (.ok ()))) Q E)
    (herror : ∀ error safety, L.safetyResetAuthorized session.locals.safety authorization
        (nowUnixMs outside.second) = (.error error, safety) →
      Ends (reply outside (.error "safety_reset_rejected" error))
        ((session.withSafety safety).note (.reset authorization (.error error))) Q E) :
    Ends (handleResetSafetyFault outside authorization) session Q E := by
  simp only [handleResetSafetyFault, resetAuthorized, ends_bind, ends_get, assign]
  rcases hreset : L.safetyResetAuthorized session.locals.safety authorization
    (nowUnixMs outside.second) with ⟨result, safety⟩
  simp only [hreset, ends_modify, ends_pure]
  cases result with
  | ok u => exact hok safety hreset
  | error error => exact herror error safety hreset

/-! ## The frame tick -/

/-- The observation of a frame tick. -/
def observation (outside : Outside) (session : Session L) : SafetyObservation where
  observedAtUnixMs := nowUnixMs outside.first
  lastAuthenticatedCommandUnixMs := session.locals.lastAuthenticatedContactUnixMs
  supplyMillivolts := none
  currentMilliamps := none
  temperatureMillicelsius := none

/-- The call of `render_message_frame` for an active message. -/
def rendering (outside : Outside) (active : ActiveMessage L) (session : Session L) :
    Except String (Option L.FrameBuffer) :=
  L.renderMessageFrame session.world.config active.message
    (elapsedMs active.started outside.second.mono)

/-- The session after `render_message_frame`. -/
def rendered (outside : Outside) (active : ActiveMessage L) (session : Session L) : Session L :=
  session.note (.rendered session.world.config active.message
    (elapsedMs active.started outside.second.mono) (session.rendering outside active))

/-- What the part of the frame tick behind the latched-fault branch can do. -/
theorem presentActive_ends
    (hidle : session.locals.active = none → Q () session)
    (hfailed : ∀ active, session.locals.active = some active → ∀ error,
      session.rendering outside active = .error error →
      E (.text error) (session.rendered outside active))
    (hframe : ∀ active, session.locals.active = some active → ∀ frame,
      session.rendering outside active = .ok (some frame) →
      Ends (World.presentSink outside frame) (session.rendered outside active).world
        (fun _ world => Q () { session with world })
        (fun error world => E error { session with world }))
    (hexpired : ∀ active, session.locals.active = some active →
      session.rendering outside active = .ok none →
      Ends (World.clearSink outside) (session.rendered outside active).world
        (fun _ world => Q () { session.withActive none with world })
        (fun error world => E error { session.withActive none with world })) :
    Ends (presentActive outside) session Q E := by
  rw [presentActive, ends_bind, ends_get]
  cases hactive : session.locals.active with
  | none => exact hidle hactive
  | some active =>
    simp only [ends_bind, onWorld_ends, World.renderFrame_ends]
    refine ⟨fun result hresult => ?_, hfailed active hactive⟩
    cases result with
    | some frame =>
      simp only [ends_bind, onWorld_ends, ends_pure]
      exact hframe active hactive frame hresult
    | none =>
      simp only [ends_bind, assign, ends_modify, onWorld_ends]
      exact hexpired active hactive hresult

/-- What the arm of `frame_tick.tick()` can do. -/
theorem frameTick_ends
    (hlatched : ∀ decision safety,
      L.safetyObserve session.locals.safety (session.observation outside) = (decision, safety) →
      decision.faultLatched = true →
      Ends (World.clearSink outside)
        (session.world.note (.observed (session.observation outside) decision))
        (fun _ world => Q () { session.withSafety safety with world })
        (fun error world => E error { session.withSafety safety with world }))
    (hclear : ∀ decision safety,
      L.safetyObserve session.locals.safety (session.observation outside) = (decision, safety) →
      decision.faultLatched = false →
      Ends (presentActive outside)
        ((session.withSafety safety).note (.observed (session.observation outside) decision))
        Q E) :
    Ends (frameTick outside) session Q E := by
  simp only [frameTick, observe, ends_bind, ends_get, assign]
  rcases hobserve : L.safetyObserve session.locals.safety (session.observation outside) with
    ⟨decision, safety⟩
  simp only [observation] at hobserve
  simp only [hobserve, ends_modify, ends_pure]
  cases hdecision : decision.faultLatched with
  | true =>
    rw [if_pos rfl, onWorld_ends]
    exact hlatched decision safety hobserve hdecision
  | false =>
    rw [if_neg Bool.false_ne_true]
    exact hclear decision safety hobserve hdecision

/-! ## The start and the end of a session -/

/-- The world after the first event of a session. -/
def greeted (settings : RuntimeSettings) (outside : Outside) (world : World L) : World L :=
  world.note (.sent (hello L settings) ⟨world.config, world.fs, none⟩ outside.send)

/-- What `run_session` up to its loop can do. -/
theorem start_ends {world : World L} {Q : Locals L → World L → Prop}
    {E : BoxError → World L → Prop}
    (hunconnected : ∀ error, E (.text error) world)
    (hunsent : ∀ error, E (.text error) (greeted settings outside world))
    (hunbuilt : ∀ error, E (.text error) ((greeted settings outside world).note
      (.built (safetyLimits world.config) (.error error))))
    (hstarted : ∀ instant, outside.connect = .ok instant → outside.send = .ok () → ∀ safety,
      L.safetyNew (safetyLimits world.config) = .ok safety →
      Q ⟨none, safety, nowUnixMs outside.second⟩ ((greeted settings outside world).note
        (.built (safetyLimits world.config) (.ok ())))) :
    Ends (start settings outside) world Q E := by
  simp only [start, ends_bind, ends_ofExcept_mapError, World.sendEvent, ends_modify,
    World.newController_ends, ends_pure]
  refine ⟨fun instant hconnect => ⟨fun _ hsend => ⟨fun safety hsafety => ?_, fun error _ => ?_⟩,
    fun error _ => ?_⟩, fun error _ => hunconnected error⟩
  · exact hstarted instant hconnect hsend safety hsafety
  · exact hunbuilt error
  · exact hunsent error

end Session

/-- What the end of a pass of the loop of `main` can do. -/
theorem World.finish_ends {started : Nat} {world : World L} {Q : Unit → World L → Prop}
    {E : BoxError → World L → Prop}
    (hcleared : Ends (World.clearSink outside) world
      (fun _ world' => ∀ backoff, Q () { world'.note (.slept backoff) with backoff }) E) :
    Ends (World.finish started outside) world Q E := by
  rw [finish, ends_bind]
  refine hcleared.mono (fun _ world' hworld' => ?_) fun _ _ h => h
  exact hworld' _

/-! ## Laws, part by part -/

/-- A message that counts as a contact: a command, or a WebSocket ping. -/
def Incoming.contacts : Incoming L → Bool
  | .text (.ok _) => true
  | .ping => true
  | _ => false

namespace Law

variable {law : Law L} {session : Session L} {C : Machine L → Input L → Prop}

/-- The law holds after a handler, whichever way it ends. -/
def Passes (law : Law L) (m : EStateM BoxError (Session L) Unit) (session : Session L) : Prop :=
  Ends m session (fun _ => law.running) (fun _ session' => law.ended session'.world)

/-- A reply is passed if the session can go on with the event sent. -/
theorem passes_reply {event : L.Event} (hsent : law.running (session.sent outside event))
    (hweaken : law.running (session.sent outside event) →
      law.ended (session.sent outside event).world) :
    law.Passes (Session.reply outside event) session :=
  Session.reply_ends.2 ⟨fun _ => hsent, fun _ _ => hweaken hsent⟩

/-- What a law asks of the handlers: `weaken` is for a handler that fails in a state in which the
session could go on, the other fields are for the inputs of the agent. -/
structure Parts (law : Law L) (settings : RuntimeSettings) (C : Machine L → Input L → Prop) :
    Prop where
  weaken : ∀ {session : Session L}, law.running session → law.ended session.world
  start : ∀ outside (world : World L), C ⟨world, .ready⟩ (.connect outside) → law.ready world →
    Ends (Session.start settings outside) (world.note (.took (.connect outside)))
      (fun locals world' => law.running ⟨world', locals⟩) (fun _ => law.ended)
  idle : ∀ incoming outside (session : Session L), incoming.contacts = false →
    law.running session → law.running (session.note (.took (.select (.incoming incoming) outside)))
  ping : ∀ outside (session : Session L), law.running session →
    law.running (((session.note (.took (.select (.incoming .ping) outside))).touched outside).note
      (.ponged outside.send))
  command : ∀ started command outside (session : Session L),
    C ⟨session.world, .running started session.locals⟩
      (.select (.incoming (.text (.ok command))) outside) → law.running session →
    law.Passes (Session.handleCommand settings outside command)
      ((session.note (.took (.select (.incoming (.text (.ok command))) outside))).touched outside)
  frameTick : ∀ started outside (session : Session L),
    C ⟨session.world, .running started session.locals⟩ (.select .frameTick outside) →
    law.running session →
    law.Passes (Session.frameTick outside) (session.note (.took (.select .frameTick outside)))
  telemetryTick : ∀ outside telemetry (session : Session L), law.running session →
    law.running
      ((session.note (.took (.select .telemetryTick outside))).sent outside (.telemetry telemetry))
  finish : ∀ started outside (world : World L), C ⟨world, .ended started⟩ (.finish outside) →
    law.ended world →
    Ends (World.finish started outside) (world.note (.took (.finish outside)))
      (fun _ => law.ready) (fun _ => law.exited)

/-- A law is kept if its parts are in place. -/
theorem Parts.kept (h : law.Parts settings C) : law.Kept settings C where
  start := h.start
  select started arm outside session hC hrunning := by
    cases arm with
    | frameTick =>
      rw [Session.select, ends_bind]
      refine (h.frameTick started outside session hC hrunning).mono (fun _ session' h' => ?_)
        fun _ _ h' => h'
      exact ⟨fun _ => h', nofun⟩
    | telemetryTick =>
      rw [Session.select, ends_bind, Session.telemetryTick, ends_bind, ends_get]
      refine (passes_reply (h.telemetryTick outside _ session hrunning) h.weaken).mono
        (fun _ session' h' => ?_) fun _ _ h' => h'
      exact ⟨fun _ => h', nofun⟩
    | incoming incoming =>
      rw [Session.select]
      cases incoming with
      | closed =>
        have hidle := h.idle .closed outside session rfl hrunning
        exact ⟨nofun, fun _ => h.weaken hidle⟩
      | failed error =>
        have hidle := h.idle (.failed error) outside session rfl hrunning
        exact h.weaken hidle
      | close =>
        have hidle := h.idle .close outside session rfl hrunning
        exact ⟨nofun, fun _ => h.weaken hidle⟩
      | other =>
        have hidle := h.idle .other outside session rfl hrunning
        exact ⟨fun _ => hidle, nofun⟩
      | ping =>
        have hping := h.ping outside session hrunning
        simp only [Session.handleIncoming, Session.touch, Session.assign, ends_bind, ends_modify,
          Session.onWorld_ends, World.sendPong, ends_ofExcept_mapError, ends_pure]
        exact ⟨fun _ _ => ⟨fun _ => hping, nofun⟩, fun _ _ => h.weaken hping⟩
      | text command =>
        simp only [Session.handleIncoming, Session.touch, Session.assign, ends_bind, ends_modify,
          ends_ofExcept_mapError, ends_pure]
        refine ⟨fun command hcommand => ?_, fun error herror => ?_⟩
        · cases hcommand
          refine (h.command started command outside session hC hrunning).mono
            (fun _ session' h' => ?_) fun _ _ h' => h'
          exact ⟨fun _ => h', nofun⟩
        · cases herror
          exact h.weaken (h.idle (.text (.error error)) outside session rfl hrunning)
  finish := h.finish

end Law

/-! ## Properties of the world -/

/-- A property of the world that no call breaks. -/
structure Stable (settings : RuntimeSettings) (W : World L → Prop) : Prop where
  note : ∀ {world effect}, W world → W (world.note effect)
  called : ∀ {world after effect}, W world → OnlySnapshot (world.sink, world.fs) after →
    W (world.called after effect)
  refused : ∀ {world fs}, W world →
    (∀ p, p ≠ temporaryPath settings.configPath → fs p = world.fs p) → W { world with fs }
  configured : ∀ {world outside next fs}, W world →
    Persisted L settings outside next world.fs fs → W (world.configured next fs)
  slept : ∀ {world backoff}, W world → W { world with backoff }

/-- An entry for the end of an attempt. -/
def Effect.closes : Effect L → Bool
  | .took (.finish _) => true
  | .slept _ => true
  | _ => false

/-- A call of `sink.clear`. -/
def Effect.clears : Effect L → Bool
  | .cleared .. => true
  | _ => false

/-- The input an entry records. -/
def Effect.taken? : Effect L → Option (Input L)
  | .took input => some input
  | _ => none

/-- The last input. -/
def lastTaken (history : List (Effect L)) : Option (Input L) := history.findSome? Effect.taken?

/-- How the outside behaves in the pass that is in progress. -/
def lastOutside (history : List (Effect L)) : Option Outside := (lastTaken history).map Input.outside

/-- A property of the world that the calls within an attempt sustain. Of a call of the sink it may
use how it ran, and of a frame that it was rendered with the configuration it is presented with. -/
structure Sustained (settings : RuntimeSettings) (W : World L → Prop) : Prop where
  note : ∀ {world effect}, effect.closes = false → effect.presents = false →
    effect.clears = false → W world → W (world.note effect)
  cleared : ∀ {world outside result after}, W world →
    lastOutside world.history = some outside →
    outcome (FrameSink.clear L world.config outside.sink (world.sink, world.fs)) =
      (result, after) →
    W (world.called after (.cleared world.config (world.sink, world.fs) after result))
  presented : ∀ {world outside message ms frame result after}, W world →
    lastOutside world.history = some outside →
    L.renderMessageFrame world.config message ms = .ok (some frame) →
    outcome (FrameSink.present L world.config frame outside.sink (world.sink, world.fs)) =
      (result, after) →
    W (world.called after (.presented world.config frame (world.sink, world.fs) after result))
  refused : ∀ {world fs}, W world →
    (∀ p, p ≠ temporaryPath settings.configPath → fs p = world.fs p) → W { world with fs }
  configured : ∀ {world outside next fs}, W world →
    Persisted L settings outside next world.fs fs → W (world.configured next fs)

/-- A property of the world that the handlers keep, but for the calls of `sink.present`. -/
structure Handled (settings : RuntimeSettings) (W : World L → Prop) : Prop where
  note : ∀ {world effect}, effect.closes = false → effect.presents = false →
    effect.clears = false → W world → W (world.note effect)
  clearSink : ∀ {world outside}, W world → lastOutside world.history = some outside →
    Ends (World.clearSink outside) world (fun _ => W) fun _ => W
  refused : ∀ {world fs}, W world →
    (∀ p, p ≠ temporaryPath settings.configPath → fs p = world.fs p) → W { world with fs }
  configured : ∀ {world outside next fs}, W world →
    Persisted L settings outside next world.fs fs → W (world.configured next fs)

/-- A property of the world that no call within an attempt breaks. -/
structure Steady (settings : RuntimeSettings) (W : World L → Prop) : Prop where
  note : ∀ {world effect}, effect.closes = false → W world → W (world.note effect)
  called : ∀ {world after effect}, effect.closes = false → W world →
    OnlySnapshot (world.sink, world.fs) after → W (world.called after effect)
  refused : ∀ {world fs}, W world →
    (∀ p, p ≠ temporaryPath settings.configPath → fs p = world.fs p) → W { world with fs }
  configured : ∀ {world outside next fs}, W world →
    Persisted L settings outside next world.fs fs → W (world.configured next fs)

/-- One property of the world holds as long as the agent runs, another when it has returned. -/
def attemptLaw (W X : World L → Prop) : Law L where
  ready := W
  running session := W session.world
  ended := W
  exited := X

/-- The property of the world holds in every phase. -/
def worldLaw (W : World L → Prop) : Law L where
  ready := W
  running session := W session.world
  ended := W
  exited := W

section
variable {W : World L → Prop}

/-- The law of a property of the world says the same in every phase. -/
theorem worldLaw_holds {machine : Machine L} : (worldLaw W).Holds machine ↔ W machine.world := by
  obtain ⟨world, phase⟩ := machine
  cases phase <;> exact Iff.rfl

/-- What holds when the agent has returned holds in every phase if it holds as long as it runs. -/
theorem attemptLaw_holds_exited {X : World L → Prop} {machine : Machine L}
    (himp : ∀ world, W world → X world) (h : (attemptLaw W X).Holds machine) :
    X machine.world := by
  obtain ⟨world, phase⟩ := machine
  cases phase with
  | exited error => exact h
  | _ => exact himp _ h

/-- A clear sustains what its call sustains, whether it returns or fails. -/
theorem Sustained.clearSink_ends (hW : Sustained settings W) {world : World L} (h : W world)
    (houtside : lastOutside world.history = some outside) :
    Ends (World.clearSink outside) world (fun _ => W) fun _ => W := by
  rw [World.clearSink, ends_bind, ends_get, World.onSink_ends]
  exact ends_outcome.2 ⟨fun _ _ hran => hW.cleared h houtside hran,
    fun _ _ hran => hW.cleared h houtside hran⟩

/-- So does the call of `sink.present`, for a frame rendered with the configuration. -/
theorem Sustained.presentSink_ends (hW : Sustained settings W) {world : World L} (h : W world)
    (houtside : lastOutside world.history = some outside) {message : L.MessageEnvelope}
    {ms : UInt64} {frame : L.FrameBuffer}
    (hframe : L.renderMessageFrame world.config message ms = .ok (some frame)) :
    Ends (World.presentSink outside frame) world (fun _ => W) fun _ => W := by
  rw [World.presentSink, ends_bind, ends_get, World.onSink_ends]
  exact ends_outcome.2 ⟨fun _ _ hran => hW.presented h houtside hframe hran,
    fun _ _ hran => hW.presented h houtside hframe hran⟩

/-- A reply keeps what the handlers keep. -/
theorem Handled.reply {X : World L → Prop} (hW : Handled settings W) (outside : Outside)
    (event : L.Event) {session : Session L} (h : W session.world) :
    (attemptLaw W X).Passes (Session.reply outside event) session :=
  Law.passes_reply (hW.note rfl rfl rfl h) id

/-- So does a command. -/
theorem Handled.command {X : World L → Prop} (hW : Handled settings W) (outside : Outside)
    (command : L.Command) {session : Session L} (h : W session.world) :
    (attemptLaw W X).Passes (Session.handleCommand settings outside command)
      ((session.note (.took (.select (.incoming (.text (.ok command))) outside))).touched
        outside) := by
  have htook : W (session.note
      (.took (.select (.incoming (.text (.ok command))) outside))).world :=
    hW.note rfl rfl rfl h
  cases command with
  | «show» message => exact Session.handleShow_ends (fun _ => htook) (hW.reply _ _ htook)
  | clear =>
    refine Session.handleClear_ends ((hW.clearSink htook rfl).mono (fun _ _ h => ?_)
      fun _ _ h => h)
    exact hW.reply _ _ h
  | configure next =>
    refine Session.handleConfigure_ends (fun _ fs hothers => ?_) (fun fs hpersisted _ _ => ?_) ?_
    · exact hW.refused htook hothers
    · exact hW.note rfl rfl rfl (hW.configured htook hpersisted)
    · intro fs hpersisted safety _
      refine (hW.clearSink ?_ rfl).mono (fun _ _ h => ?_) fun _ _ h => h
      · exact hW.note rfl rfl rfl (hW.configured htook hpersisted)
      · exact hW.reply _ _ h
  | ping nonce => exact hW.reply _ _ htook
  | resetSafetyFault authorization =>
    refine Session.handleResetSafetyFault_ends (fun _ _ => hW.reply _ _ ?_)
      fun _ _ _ => hW.reply _ _ ?_
    · exact hW.note rfl rfl rfl htook
    · exact hW.note rfl rfl rfl htook
  | stageFirmware => exact hW.reply _ _ htook
  | activateStagedFirmware => exact hW.reply _ _ htook

/-- And a frame tick, if the call of `sink.present` keeps it. -/
theorem Handled.frameTick {X : World L → Prop} (hW : Handled settings W) (outside : Outside)
    {session : Session L} (h : W session.world)
    (hpresent : ∀ decision safety,
        L.safetyObserve session.locals.safety (session.observation outside) = (decision, safety) →
        decision.faultLatched = false →
      ∀ active, session.locals.active = some active → ∀ frame,
        session.rendering outside active = .ok (some frame) →
      ∀ world, world = (Session.rendered outside active
          (((session.note (.took (.select .frameTick outside))).withSafety safety).note
            (.observed (session.observation outside) decision))).world → W world →
        Ends (World.presentSink outside frame) world (fun _ => W) fun _ => W) :
    (attemptLaw W X).Passes (Session.frameTick outside)
      (session.note (.took (.select .frameTick outside))) := by
  have htook : W (session.note (.took (.select .frameTick outside))).world :=
    hW.note rfl rfl rfl h
  refine Session.frameTick_ends (fun decision safety _ _ => ?_)
    fun decision safety hobserve hdecision => ?_
  · exact hW.clearSink (hW.note rfl rfl rfl htook) rfl
  · have hobserved : W ((session.note (.took (.select .frameTick outside))).note
        (.observed (session.observation outside) decision)).world := hW.note rfl rfl rfl htook
    refine Session.presentActive_ends (fun _ => hobserved) (fun _ _ _ _ => ?_) ?_ ?_
    · exact hW.note rfl rfl rfl hobserved
    · intro active hactive frame hframe
      exact hpresent decision safety hobserve hdecision active hactive frame hframe _ rfl
        (hW.note rfl rfl rfl hobserved)
    · intro active _ _
      exact hW.clearSink (hW.note rfl rfl rfl hobserved) rfl

/-- What the handlers keep holds in every phase if a frame tick that gets as far as presenting keeps
it, and the end of an attempt restores it. -/
theorem Handled.parts {X : World L → Prop} {C : Machine L → Input L → Prop}
    (hW : Handled settings W)
    (hpresent : ∀ started outside (session : Session L),
      C ⟨session.world, .running started session.locals⟩ (.select .frameTick outside) →
      ∀ decision safety,
        L.safetyObserve session.locals.safety (session.observation outside) = (decision, safety) →
        decision.faultLatched = false →
      ∀ active, session.locals.active = some active → ∀ frame,
        session.rendering outside active = .ok (some frame) →
      ∀ world, world = (Session.rendered outside active
          (((session.note (.took (.select .frameTick outside))).withSafety safety).note
            (.observed (session.observation outside) decision))).world → W world →
        Ends (World.presentSink outside frame) world (fun _ => W) fun _ => W)
    (hfinish : ∀ started outside (world : World L), C ⟨world, .ended started⟩ (.finish outside) →
      W world → Ends (World.finish started outside) (world.note (.took (.finish outside)))
        (fun _ => W) fun _ => X) :
    (attemptLaw W X).Parts settings C where
  weaken h := h
  start outside world _ hready := by
    have htook : W (world.note (.took (.connect outside))) := hW.note rfl rfl rfl hready
    refine Session.start_ends (fun _ => htook) (fun _ => ?_) (fun _ => ?_) ?_
    · exact hW.note rfl rfl rfl htook
    · exact hW.note rfl rfl rfl (hW.note rfl rfl rfl htook)
    · intro _ _ _ _ _
      exact hW.note rfl rfl rfl (hW.note rfl rfl rfl htook)
  idle incoming outside session _ hrunning := hW.note rfl rfl rfl hrunning
  ping outside session hrunning := hW.note rfl rfl rfl (hW.note rfl rfl rfl hrunning)
  command started command outside session _ hrunning := hW.command outside command hrunning
  frameTick started outside session hC hrunning :=
    hW.frameTick outside hrunning (hpresent started outside session hC)
  telemetryTick outside telemetry session hrunning :=
    hW.note rfl rfl rfl (hW.note rfl rfl rfl hrunning)
  finish := hfinish

/-- What the calls sustain, the handlers keep. -/
theorem Sustained.handled (hW : Sustained settings W) : Handled settings W where
  note := hW.note
  clearSink := hW.clearSink_ends
  refused := hW.refused
  configured := hW.configured

/-- What the calls within an attempt sustain holds in every phase if the end of an attempt restores
it. -/
theorem attemptLaw_parts {X : World L → Prop} {C : Machine L → Input L → Prop}
    (hW : Sustained settings W)
    (hfinish : ∀ started outside (world : World L), C ⟨world, .ended started⟩ (.finish outside) →
      W world → Ends (World.finish started outside) (world.note (.took (.finish outside)))
        (fun _ => W) fun _ => X) :
    (attemptLaw W X).Parts settings C := by
  refine hW.handled.parts ?_ hfinish
  intro _ _ _ _ _ _ _ _ _ _ _ hframe world hworld h
  subst hworld
  exact hW.presentSink_ends h rfl hframe

/-- What no call breaks, whatever it is called with, is sustained. -/
theorem Steady.sustained (hW : Steady settings W) : Sustained settings W where
  note hcloses _ _ h := hW.note hcloses h
  cleared h _ hran :=
    hW.called rfl h ((FrameSink.clear_ends.mono (fun _ _ h => h.1) fun _ _ h => h).of_outcome hran)
  presented h _ _ hran :=
    hW.called rfl h ((FrameSink.present_ends.mono (fun _ _ h => h.1) fun _ _ h => h).of_outcome hran)
  refused := hW.refused
  configured := hW.configured

/-- What nothing breaks is not broken within an attempt. -/
theorem Stable.steady (hW : Stable settings W) : Steady settings W where
  note _ h := hW.note h
  called _ h := hW.called h
  refused := hW.refused
  configured := hW.configured

/-- What no call breaks holds in every phase. -/
theorem worldLaw_parts {C : Machine L → Input L → Prop} (hW : Stable settings W) :
    (worldLaw W).Parts settings C :=
  attemptLaw_parts hW.steady.sustained fun started outside world _ hended => by
    refine World.finish_ends ((hW.steady.sustained.clearSink_ends (hW.note hended) rfl).mono
      (fun _ _ h backoff => ?_) fun _ _ h => h)
    exact hW.slept (hW.note h)

end

/-! ## What the sink is called with -/

/-- A property of the entries of the history that only a call of `sink.present` can violate. -/
structure Judges (P : List (Effect L) → Effect L → Prop) : Prop where
  other : ∀ {past effect}, effect.presents = false → effect.clears = false → P past effect
  cleared : ∀ {past config} {before after : FrameSink × FileSystem}, OnlySnapshot before after →
    FrameSink.sent before after =
      before.1.encoding config (blankPixels L config) (blankPixels L config) →
    P past (.cleared config before after (.ok ()))
  failed : ∀ {past config before after error}, P past (.cleared config before after (.error error))

/-- A property that only entries for `sink.present` can violate. -/
theorem Judges.of_presents {P : List (Effect L) → Effect L → Prop}
    (h : ∀ past effect, effect.presents = false → P past effect) : Judges P where
  other hpresents _ := h _ _ hpresents
  cleared _ _ := h _ _ rfl
  failed := h _ _ rfl

/-- If the input leads to a call of `sink.present`, that call has the property. -/
def Presentable (P : List (Effect L) → Effect L → Prop) (machine : Machine L) (input : Input L) :
    Prop :=
  match machine.phase, input with
  | .running _ locals, .select .frameTick outside =>
    ∀ decision safety,
      L.safetyObserve locals.safety (Session.observation outside ⟨machine.world, locals⟩) =
        (decision, safety) → decision.faultLatched = false →
      ∀ active, locals.active = some active → ∀ frame,
        Session.rendering outside active ⟨machine.world, locals⟩ = .ok (some frame) →
      ∀ after result, OnlySnapshot (machine.world.sink, machine.world.fs) after →
        (∀ stats, result = .ok stats →
          FrameSink.sent (machine.world.sink, machine.world.fs) after =
            machine.world.sink.encoding machine.world.config (L.rowMajor frame)
              (encodeDeviceFrame L machine.world.config frame)) →
        P (.rendered machine.world.config active.message
            (elapsedMs active.started outside.second.mono) (.ok (some frame)) ::
            .observed (Session.observation outside ⟨machine.world, locals⟩) decision ::
            .took (.select .frameTick outside) :: machine.world.history)
          (.presented machine.world.config frame (machine.world.sink, machine.world.fs) after
            result)
  | _, _ => True

/-- Every entry of the history has the property. -/
def historyLaw (P : List (Effect L) → Effect L → Prop) : Law L :=
  worldLaw fun world => History.Always P world.history

section
variable {P : List (Effect L) → Effect L → Prop}

/-- A call of `sink.clear` has the property. -/
theorem Judges.clearSink_ends (hP : Judges P) {world : World L}
    (h : History.Always P world.history) :
    Ends (World.clearSink outside) world (fun _ world' => History.Always P world'.history)
      fun _ world' => History.Always P world'.history :=
  World.clearSink_ends (fun _ honly hsent => ⟨hP.cleared honly hsent, h⟩) fun _ _ _ => ⟨hP.failed, h⟩

/-- The handlers keep the property. -/
theorem Judges.handled (hP : Judges P) :
    Handled settings fun world : World L => History.Always P world.history where
  note _ hpresents hclears h := ⟨hP.other hpresents hclears, h⟩
  clearSink h _ := hP.clearSink_ends h
  refused h _ := h
  configured h _ := ⟨hP.other rfl rfl, h⟩

/-- The property is kept if every call of `sink.present` has it. -/
theorem historyLaw_parts (hP : Judges P) : (historyLaw P).Parts settings (Presentable P) := by
  refine hP.handled.parts ?_ ?_
  · intro started outside session hpresentable decision safety hobserve hdecision active hactive
      frame hframe world hworld h
    have hpresented := hpresentable decision safety hobserve hdecision active hactive frame hframe
    subst hworld
    rw [← hframe] at hpresented
    refine World.presentSink_ends (fun stats after honly hsent => ?_) fun error after honly => ?_
    · exact ⟨hpresented after (.ok stats) honly fun _ _ => hsent, h⟩
    · refine ⟨hpresented after (.error error) honly fun stats herror => ?_, h⟩
      cases herror
  · intro started outside world _ hended
    have htook : History.Always P (world.note (.took (.finish outside))).history :=
      ⟨hP.other rfl rfl, hended⟩
    refine World.finish_ends ((hP.clearSink_ends htook).mono (fun _ _ h backoff => ?_)
      fun _ _ h => h)
    exact ⟨hP.other rfl rfl, h⟩

/-- Together with a law under which every call of `sink.present` has the property, it is kept by
every run. -/
theorem Judges.always_run {law : Law L} {C : Machine L → Input L → Prop} (hP : Judges P)
    (hlaw : law.Kept settings C)
    (hpresentable : ∀ machine input, law.Holds machine → C machine input →
      Presentable P machine input)
    {config : DisplayConfig} {sink : FrameSink} {fs : FileSystem} {inputs : List (Input L)}
    (hinitial : law.Holds (Machine.initial config sink fs))
    (hC : Transition.Along (Machine.step settings) C (.initial config sink fs) inputs) :
    law.Holds ((Machine.initial config sink fs).run settings inputs) ∧
      History.Always P ((Machine.initial config sink fs).run settings inputs).world.history := by
  have hkept : (law.and (historyLaw P)).Kept settings C :=
    hlaw.and (historyLaw_parts hP).kept hpresentable
  have hholds := hkept.run (Law.holds_and.2 ⟨hinitial, worldLaw_holds.2 trivial⟩) hC
  rw [Law.holds_and, historyLaw, worldLaw_holds] at hholds
  exact hholds

end

end LeddyRaspPi
