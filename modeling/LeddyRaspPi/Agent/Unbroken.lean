import LeddyRaspPi.Agent.Replies

/-!
# Properties that a failing call relaxes

A call that fails ends the session, and what follows is the clear of `main`. So a property of the
world that every call keeps as long as it returns holds wherever the agent waits for its next input;
between a session that has failed and the clear behind it a weaker one does. `Unbroken` asks this of
the calls of one pass; `Unbroken.start_ends` and `Unbroken.select_ends` are the pass, and
`relaxLaw_kept` is the run.
-/

namespace LeddyRaspPi

open Fallible History

variable {L : Leddy} {settings : RuntimeSettings} {outside : Outside} {V W X : World L → Prop}

/-- An entry for a call that `Unbroken` does not ask about by itself. -/
def Effect.minor : Effect L → Bool
  | .built .. => true
  | .observed .. => true
  | .reset .. => true
  | .rendered .. => true
  | .ponged _ => true
  | .sent (.telemetry _) _ _ => false
  | .sent .. => true
  | _ => false

/-- What the arm of `telemetry_tick.tick()` sends. -/
def Session.telemetry (settings : RuntimeSettings) (session : Session L) :
    DeviceTelemetry L.Fault L.FaultRecord :=
  let decision := L.safetyDecision session.locals.safety
  { deviceId := settings.deviceId
    uptimeSeconds := 0
    freeMemoryBytes := 0
    brightnessLimit := some (min decision.brightnessLimit session.world.config.brightness)
    faultLatched := decision.faultLatched
    activeFaults := decision.activeFaults
    recentFaults := L.safetyRecentFaults session.locals.safety
    currentMessageId := session.locals.active.map fun active => L.messageId active.message }

/-- A property of the world that the calls of a pass keep where they return, and what those that
fail leave of it. Telemetry is left out: what it says depends on the session. -/
structure Unbroken (settings : RuntimeSettings) (outside : Outside) (V W : World L → Prop) :
    Prop where
  weaken : ∀ {world}, V world → W world
  took : ∀ {world input}, input.outside = outside → V world → V (world.note (.took input))
  note : ∀ {world effect}, effect.minor = true → V world → V (world.note effect)
  cleared : ∀ {world}, V world → lastOutside world.history = some outside →
    Ends (World.clearSink outside) world (fun _ => V) fun _ => W
  presented : ∀ {world message ms frame}, V world → lastOutside world.history = some outside →
    L.renderMessageFrame world.config message ms = .ok (some frame) →
    Ends (World.presentSink outside frame) world (fun _ => V) fun _ => W
  refused : ∀ {world fs}, V world →
    (∀ p, p ≠ temporaryPath settings.configPath → fs p = world.fs p) → W { world with fs }
  configured : ∀ {world next fs}, V world →
    Persisted L settings outside next world.fs fs → V (world.configured next fs)

section
variable {effect : Effect L}

/-- Such an entry is no input. -/
theorem Effect.taken?_of_minor (h : effect.minor = true) : effect.taken? = none := by
  cases effect with
  | took input => cases h
  | _ => rfl

end

/-- An entry that records no input does not change which was the last. -/
theorem lastOutside_cons {effect : Effect L} {history : List (Effect L)}
    (h : effect.taken? = none) : lastOutside (effect :: history) = lastOutside history := by
  rw [lastOutside, lastTaken, List.findSome?_cons, h, lastOutside, lastTaken]

/-! ## One pass -/

namespace Unbroken

variable {world : World L} {session : Session L}

/-- In the middle of a pass: the property holds and the last input is that of the pass. -/
structure During (outside : Outside) (V : World L → Prop) (world : World L) : Prop where
  holds : V world
  outside : lastOutside world.history = some outside

section
variable (hV : Unbroken settings outside V W)
include hV

/-- A pass begins with its input noted. -/
theorem begun {input : Input L} (hinput : input.outside = outside) (h : V world) :
    During outside V (world.note (.took input)) :=
  ⟨hV.took hinput h, congrArg some hinput⟩

/-- A minor entry breaks nothing. -/
theorem noted {effect : Effect L} (hminor : effect.minor = true) (h : During outside V world) :
    During outside V (world.note effect) :=
  ⟨hV.note hminor h.holds, (lastOutside_cons (Effect.taken?_of_minor hminor)).trans h.outside⟩

/-- Nor does the assignment of a configuration. -/
theorem reconfigured {next : DisplayConfig} {fs : FileSystem} (h : During outside V world)
    (hpersisted : Persisted L settings outside next world.fs fs) :
    During outside V (world.configured next fs) :=
  ⟨hV.configured h.holds hpersisted, (lastOutside_cons rfl).trans h.outside⟩

/-- A clear that returns keeps `V`, one that fails leaves `W`. -/
theorem clearSink_ends (h : During outside V world) :
    Ends (World.clearSink outside) world (fun _ => During outside V) fun _ => W := by
  have hlast : Ends (World.clearSink outside) world
      (fun _ world' => lastOutside world'.history = some outside) fun _ _ => True :=
    World.clearSink_ends (fun _ _ _ => (lastOutside_cons rfl).trans h.outside) fun _ _ _ => trivial
  exact ((hV.cleared h.holds h.outside).and hlast).mono (fun _ _ h => ⟨h.1, h.2⟩) fun _ _ h => h.1

/-- So does a call of `sink.present`. -/
theorem presentSink_ends (h : During outside V world) {message : L.MessageEnvelope} {ms : UInt64}
    {frame : L.FrameBuffer}
    (hframe : L.renderMessageFrame world.config message ms = .ok (some frame)) :
    Ends (World.presentSink outside frame) world (fun _ => During outside V) fun _ => W := by
  have hlast : Ends (World.presentSink outside frame) world
      (fun _ world' => lastOutside world'.history = some outside) fun _ _ => True :=
    World.presentSink_ends (fun _ _ _ _ => (lastOutside_cons rfl).trans h.outside)
      fun _ _ _ => trivial
  exact ((hV.presented h.holds h.outside hframe).and hlast).mono (fun _ _ h => ⟨h.1, h.2⟩)
    fun _ _ h => h.1

/-- An event other than telemetry keeps `V` if it is sent. -/
theorem reply_ends {event : L.Event} (hevent : event.isTelemetry = false)
    (h : During outside V session.world) :
    Ends (Session.reply outside event) session (fun _ session' => During outside V session'.world)
      fun _ session' => W session'.world := by
  have hminor : (Effect.sent event ⟨session.world.config, session.world.fs, some session.locals⟩
      outside.send).minor = true := by
    cases event with
    | telemetry telemetry => cases hevent
    | _ => rfl
  have hsent : During outside V (session.sent outside event).world := hV.noted hminor h
  exact Session.reply_ends.2 ⟨fun _ => hsent, fun _ _ => hV.weaken hsent.holds⟩

/-- A command keeps `V`, one call after the other, up to the one that fails. -/
theorem command_ends {command : L.Command} (h : During outside V session.world) :
    Ends (Session.handleCommand settings outside command) session
      (fun _ session' => During outside V session'.world) fun _ session' => W session'.world := by
  cases command with
  | «show» message => exact Session.handleShow_ends (fun _ => hV.weaken h.holds) (hV.reply_ends rfl h)
  | clear =>
    refine Session.handleClear_ends ((hV.clearSink_ends h).mono (fun _ _ h => ?_) fun _ _ h => h)
    exact hV.reply_ends rfl h
  | configure next =>
    refine Session.handleConfigure_ends (fun _ fs hothers => ?_) (fun fs hpersisted _ _ => ?_) ?_
    · exact hV.refused h.holds hothers
    · exact hV.weaken (hV.noted rfl (hV.reconfigured h hpersisted)).holds
    · intro fs hpersisted safety _
      refine (hV.clearSink_ends ?_).mono (fun _ _ h => ?_) fun _ _ h => h
      · exact hV.noted rfl (hV.reconfigured h hpersisted)
      · exact hV.reply_ends rfl h
  | ping nonce => exact hV.reply_ends rfl h
  | resetSafetyFault authorization =>
    refine Session.handleResetSafetyFault_ends (fun _ _ => hV.reply_ends rfl ?_)
      fun _ _ _ => hV.reply_ends rfl ?_
    · exact hV.noted rfl h
    · exact hV.noted rfl h
  | stageFirmware => exact hV.reply_ends rfl h
  | activateStagedFirmware => exact hV.reply_ends rfl h

/-- So does a frame tick. -/
theorem frameTick_ends (h : During outside V session.world) :
    Ends (Session.frameTick outside) session (fun _ session' => During outside V session'.world)
      fun _ session' => W session'.world := by
  refine Session.frameTick_ends (fun decision safety _ _ => ?_) fun decision safety _ _ => ?_
  · exact hV.clearSink_ends (hV.noted rfl h)
  · have hobserved : During outside V
        (session.world.note (.observed (session.observation outside) decision)) :=
      hV.noted rfl h
    refine Session.presentActive_ends (fun _ => hobserved) (fun _ _ _ _ => ?_) ?_ ?_
    · exact hV.weaken (hV.noted rfl hobserved).holds
    · intro active _ frame hframe
      exact hV.presentSink_ends (hV.noted rfl hobserved) hframe
    · intro active _ _
      exact hV.clearSink_ends (hV.noted rfl hobserved)

/-- The start of a session. -/
theorem start_ends (h : During outside V world) :
    Ends (Session.start settings outside) world (fun _ => V) fun _ => W := by
  have hgreeted : During outside V (Session.greeted settings outside world) :=
    hV.noted rfl h
  refine Session.start_ends (fun _ => hV.weaken h.holds) (fun _ => hV.weaken hgreeted.holds)
    (fun _ => ?_) ?_
  · exact hV.weaken (hV.noted rfl hgreeted).holds
  · exact fun _ _ _ _ _ => (hV.noted rfl hgreeted).holds

/-- A pass of the session loop. -/
theorem select_ends {arm : Arm L}
    (htelemetry : arm = .telemetryTick →
      V (session.sent outside (.telemetry (session.telemetry settings))).world)
    (h : During outside V session.world) :
    Ends (Session.select settings outside arm) session (fun _ session' => V session'.world)
      fun _ session' => W session'.world := by
  cases arm with
  | frameTick =>
    rw [Session.select, ends_bind]
    exact (hV.frameTick_ends h).mono (fun _ _ h => h.holds) fun _ _ h => h
  | telemetryTick =>
    rw [Session.select, ends_bind, Session.telemetryTick, ends_bind, ends_get]
    exact Session.reply_ends.2 ⟨fun _ => htelemetry rfl, fun _ _ => hV.weaken (htelemetry rfl)⟩
  | incoming incoming =>
    rw [Session.select]
    cases incoming with
    | closed => exact h.holds
    | failed error => exact hV.weaken h.holds
    | close => exact h.holds
    | other => exact h.holds
    | ping =>
      have hponged : During outside V (session.world.note (.ponged outside.send)) :=
        hV.noted rfl h
      simp only [Session.handleIncoming, Session.touch, Session.assign, ends_bind, ends_modify,
        Session.onWorld_ends, World.sendPong, ends_ofExcept_mapError, ends_pure]
      exact ⟨fun _ _ => hponged.holds, fun _ _ => hV.weaken hponged.holds⟩
    | text command =>
      simp only [Session.handleIncoming, Session.touch, Session.assign, ends_bind, ends_modify,
        ends_ofExcept_mapError, ends_pure]
      have hcontact : During outside V (session.touched outside).world := h
      refine ⟨fun command _ => ?_, fun _ _ => hV.weaken h.holds⟩
      exact (hV.command_ends hcontact).mono (fun _ _ h => h.holds) fun _ _ h => h

end

end Unbroken

/-! ## The run -/

/-- One property holds where the agent waits, a weaker one behind a session that is over, and a
third when it has returned. -/
def relaxLaw (V W X : World L → Prop) : Law L where
  ready := V
  running session := V session.world
  ended := W
  exited := X

/-- Where the agent waits. -/
def Machine.Waits (machine : Machine L) : Prop :=
  match machine.phase with
  | .ready => True
  | .running .. => True
  | _ => False

instance (machine : Machine L) : Decidable machine.Waits :=
  match machine with
  | ⟨_, .ready⟩ => isTrue trivial
  | ⟨_, .running ..⟩ => isTrue trivial
  | ⟨_, .ended _⟩ => isFalse id
  | ⟨_, .exited _⟩ => isFalse id

/-- Where the agent waits no call is under way, so `V` holds. -/
theorem relaxLaw_waits {machine : Machine L} (h : (relaxLaw V W X).Holds machine)
    (hwaits : machine.Waits) : V machine.world := by
  obtain ⟨world, phase⟩ := machine
  cases phase with
  | ready => exact h
  | running started locals => exact h
  | ended started => exact hwaits.elim
  | exited error => exact hwaits.elim

/-- The law is kept if every pass is unbroken, so is the telemetry, and the end of an attempt
restores the property. -/
theorem relaxLaw_kept {C : Machine L → Input L → Prop}
    (hV : ∀ machine input, C machine input → Unbroken settings input.outside V W)
    (htelemetry : ∀ started outside (session : Session L),
      C ⟨session.world, .running started session.locals⟩ (.select .telemetryTick outside) →
      V (session.note (.took (.select .telemetryTick outside))).world →
      V ((session.note (.took (.select .telemetryTick outside))).sent outside
        (.telemetry (session.telemetry settings))).world)
    (hfinish : ∀ started outside (world : World L), C ⟨world, .ended started⟩ (.finish outside) →
      W world → Ends (World.finish started outside) (world.note (.took (.finish outside)))
        (fun _ => V) fun _ => X) :
    (relaxLaw V W X).Kept settings C where
  start outside world hC hready := by
    have hpass : Unbroken settings outside V W := hV _ _ hC
    exact hpass.start_ends (hpass.begun rfl hready)
  select started arm outside session hC hrunning := by
    have hpass : Unbroken settings outside V W := hV _ _ hC
    have hbegun : Unbroken.During outside V (session.note (.took (.select arm outside))).world :=
      hpass.begun rfl hrunning
    refine (hpass.select_ends (fun harm => ?_) hbegun).mono (fun _ _ h => ?_) fun _ _ h => h
    · subst harm
      exact htelemetry started outside session hC hbegun.holds
    · exact ⟨fun _ => h, fun _ => hpass.weaken h⟩
  finish := hfinish

end LeddyRaspPi
