import LeddyRaspPi.Agent.Frames
import LeddyRaspPi.Agent.Unbroken

/-!
# What telemetry reports

A telemetry event speaks about the controller, the configuration and the message on the display.
Whoever has noted the calls of the agent can check it: the controller is the one `controllerOf`
replays from the calls of `SafetyController`, and configuration and message are those the history
says (`telemetry_truthful`).
-/

namespace LeddyRaspPi

open Fallible History

variable {L : Leddy} {settings : RuntimeSettings} {config₀ : DisplayConfig}

/-- The controller of the session, replayed from the calls of its methods since it was built. -/
def controllerOf : List (Effect L) → Option L.SafetyController
  | [] => none
  | .took (.connect _) :: _ => none
  | .built limits _ :: _ => (L.safetyNew limits).toOption
  | .observed observation _ :: past =>
    (controllerOf past).map fun safety => (L.safetyObserve safety observation).2
  | .reset authorization _ :: past =>
    (lastOutside past).bind fun outside => (controllerOf past).map fun safety =>
      (L.safetyResetAuthorized safety authorization (nowUnixMs outside.second)).2
  | _ :: past => controllerOf past

/-- What telemetry should report of a controller, a configuration and a message on the display. -/
def report (settings : RuntimeSettings) (safety : L.SafetyController) (config : DisplayConfig)
    (active : Option (ActiveMessage L)) : DeviceTelemetry L.Fault L.FaultRecord where
  deviceId := settings.deviceId
  uptimeSeconds := 0
  freeMemoryBytes := 0
  brightnessLimit := some (min (L.safetyDecision safety).brightnessLimit config.brightness)
  faultLatched := (L.safetyDecision safety).faultLatched
  activeFaults := (L.safetyDecision safety).activeFaults
  recentFaults := L.safetyRecentFaults safety
  currentMessageId := active.map fun active => L.messageId active.message

/-- Telemetry reports the state of the agent as the history has it. -/
def Reported (settings : RuntimeSettings) (config₀ : DisplayConfig) (past : List (Effect L)) :
    Effect L → Prop
  | .sent (.telemetry telemetry) _ _ => ∃ safety, controllerOf past = some safety ∧
      telemetry = report settings safety (configInForce config₀ past) (showing past)
  | _ => True

/-- In a session the controller is the one the history says. -/
def controllerLaw (L : Leddy) : Law L where
  ready _ := True
  running session := controllerOf session.world.history = some session.locals.safety
  ended _ := True
  exited _ := True

section
variable {session : Session L} {outside : Outside}

/-- A reset is replayed with the clock reading of the pass it happens in. -/
theorem controllerOf_reset {authorization : L.SafetyResetAuthorization} {result : Except String Unit}
    {safety : L.SafetyController} {past : List (Effect L)}
    (hbefore : controllerOf past = some session.locals.safety)
    (hreset : L.safetyResetAuthorized session.locals.safety authorization
      (nowUnixMs outside.second) = (result, safety)) :
    controllerOf (.reset authorization result ::
      .took (.select (.incoming (.text (.ok (.resetSafetyFault authorization)))) outside) ::
        past) = some safety := by
  show (controllerOf past).map _ = some safety
  rw [hbefore]
  exact congrArg (fun reset => some reset.2) hreset

/-- An observation is replayed as it was made. -/
theorem controllerOf_observed {observation : SafetyObservation} {decision : SafetyDecision L.Fault}
    {safety : L.SafetyController} {past : List (Effect L)}
    (hbefore : controllerOf past = some session.locals.safety)
    (hobserve : L.safetyObserve session.locals.safety observation = (decision, safety)) :
    controllerOf (.observed observation decision :: past) = some safety := by
  show (controllerOf past).map _ = some safety
  rw [hbefore]
  exact congrArg (fun observed => some observed.2) hobserve

/-- A reply does not concern the controller. -/
theorem controllerLaw_reply {event : L.Event} (h : (controllerLaw L).running session) :
    (controllerLaw L).Passes (Session.reply outside event) session :=
  Law.passes_reply h fun _ => trivial

/-- Of the commands only a `Configure` and a reset do. -/
theorem controllerLaw_command (h : (controllerLaw L).running session) (command : L.Command) :
    (controllerLaw L).Passes (Session.handleCommand settings outside command)
      ((session.note (.took (.select (.incoming (.text (.ok command))) outside))).touched
        outside) := by
  cases command with
  | «show» message => exact Session.handleShow_ends (fun _ => trivial) (controllerLaw_reply h)
  | clear =>
    exact Session.handleClear_ends (World.clearSink_ends (fun _ _ _ => controllerLaw_reply h)
      fun _ _ _ => trivial)
  | configure next =>
    refine Session.handleConfigure_ends (fun _ _ _ => trivial) (fun _ _ _ _ => trivial) ?_
    intro fs _ safety hsafety
    refine World.clearSink_ends (fun _ _ _ => controllerLaw_reply ?_) fun _ _ _ => trivial
    exact congrArg Except.toOption hsafety
  | ping nonce => exact controllerLaw_reply h
  | resetSafetyFault authorization =>
    exact Session.handleResetSafetyFault_ends
      (fun _ hreset => controllerLaw_reply (controllerOf_reset h hreset))
      fun _ _ hreset => controllerLaw_reply (controllerOf_reset h hreset)
  | stageFirmware => exact controllerLaw_reply h
  | activateStagedFirmware => exact controllerLaw_reply h

/-- A frame tick starts with an observation. -/
theorem controllerLaw_frameTick (h : (controllerLaw L).running session) :
    (controllerLaw L).Passes (Session.frameTick outside)
      (session.note (.took (.select .frameTick outside))) := by
  refine Session.frameTick_ends (fun decision safety hobserve _ => ?_)
    fun decision safety hobserve _ => ?_
  · exact World.clearSink_ends (fun _ _ _ => controllerOf_observed h hobserve) fun _ _ _ => trivial
  · refine Session.presentActive_ends (fun _ => controllerOf_observed h hobserve)
      (fun _ _ _ _ => trivial) ?_ ?_
    · intro active _ frame _
      exact World.presentSink_ends (fun _ _ _ _ => controllerOf_observed h hobserve)
        fun _ _ _ => trivial
    · intro active _ _
      exact World.clearSink_ends (fun _ _ _ => controllerOf_observed h hobserve)
        fun _ _ _ => trivial

end

/-- The controller of a session is the one that is replayed. -/
theorem controllerLaw_parts : (controllerLaw L).Parts settings fun _ _ => True where
  weaken _ := trivial
  start outside world _ _ := by
    refine Session.start_ends (fun _ => trivial) (fun _ => trivial) (fun _ => trivial) ?_
    exact fun _ _ _ safety hsafety => congrArg Except.toOption hsafety
  idle incoming outside session _ hrunning := hrunning
  ping outside session hrunning := hrunning
  command started command outside session _ hrunning := controllerLaw_command hrunning command
  frameTick started outside session _ hrunning := controllerLaw_frameTick hrunning
  telemetryTick outside telemetry session hrunning := hrunning
  finish started outside world _ _ :=
    World.finish_ends (World.clearSink_ends (fun _ _ _ _ => trivial) fun _ _ _ => trivial)

/-- Only telemetry can report anything wrong. -/
theorem reported_of_minor {past : List (Effect L)} {effect : Effect L}
    (hminor : effect.minor = true) : Reported settings config₀ past effect := by
  cases effect with
  | sent event state result =>
    cases event with
    | telemetry telemetry => cases hminor
    | _ => trivial
  | _ => trivial

/-- The calls that send no telemetry leave what was reported as it is. -/
theorem reported_unbroken {outside : Outside} :
    Unbroken settings outside
      (fun world : World L => Always (Reported settings config₀) world.history)
      fun world => Always (Reported settings config₀) world.history where
  weaken h := h
  took _ h := ⟨trivial, h⟩
  note hminor h := ⟨reported_of_minor hminor, h⟩
  cleared h _ := World.clearSink_ends (fun _ _ _ => ⟨trivial, h⟩) fun _ _ _ => ⟨trivial, h⟩
  presented h _ _ :=
    World.presentSink_ends (fun _ _ _ _ => ⟨trivial, h⟩) fun _ _ _ => ⟨trivial, h⟩
  refused h _ := h
  configured h _ := ⟨trivial, h⟩

/-- A session whose variables agree with the history reports what the history says. -/
theorem report_eq {session : Session L} (hscreen : OnScreen config₀ session) :
    session.telemetry settings = report settings session.locals.safety
      (configInForce config₀ session.world.history) (showing session.world.history) := by
  rw [← hscreen.config, ← hscreen.active]
  rfl

/-- A telemetry event reports what the history says, as long as the variables agree with it. -/
theorem reported_kept :
    (worldLaw fun world : World L => Always (Reported settings config₀) world.history).Kept settings
      fun machine _ => ((screenLaw L config₀).and (controllerLaw L)).Holds machine :=
  relaxLaw_kept (fun _ _ _ => reported_unbroken)
    (fun started outside session hholds htook => by
      obtain ⟨hscreen, hsafety⟩ := Law.holds_and.1 hholds
      exact ⟨⟨session.locals.safety, hsafety, report_eq hscreen⟩, htook⟩)
    fun started outside world _ hended =>
      World.finish_ends (World.clearSink_ends (fun _ _ _ _ => ⟨trivial, trivial, trivial, hended⟩)
        fun _ _ _ => ⟨trivial, trivial, hended⟩)

/-- In every run, each telemetry event reports the decision and the recent faults of the controller
that follows from the calls of `SafetyController` so far, the smaller of its brightness limit and
the brightness in force, and the message that is to be shown. -/
theorem telemetry_truthful (settings : RuntimeSettings) (config : DisplayConfig) (sink : FrameSink)
    (fs : FileSystem) (inputs : List (Input L)) :
    Always (Reported settings config)
      ((Machine.initial config sink fs).run settings inputs).world.history := by
  have hstate : ((screenLaw L config).and (controllerLaw L)).Kept settings fun _ _ => True :=
    screenLaw_parts.kept.and controllerLaw_parts.kept fun _ _ _ _ => trivial
  have hreported : (worldLaw fun world : World L =>
      Always (Reported settings config) world.history).Kept settings _ := reported_kept
  have hkept := hstate.and hreported fun machine _ h _ => h
  have hinitial : (controllerLaw L).Holds (Machine.initial config sink fs) := trivial
  have hholds := hkept.run_all (Law.holds_and.2
    ⟨Law.holds_and.2 ⟨screenLaw_initial sink fs, hinitial⟩, worldLaw_holds.2 trivial⟩) inputs
  exact worldLaw_holds.1 (Law.holds_and.1 hholds).2

end LeddyRaspPi
