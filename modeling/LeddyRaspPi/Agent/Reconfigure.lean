import LeddyRaspPi.Agent.Passes

/-!
# A rejected `Configure`

The handler of `Configure` checks three things, in this order: that the configuration is supported,
that it can be persisted, and that a controller can be built for its limits. The first two leave
everything as it is when they fail. The third comes after the file and the variable have been
replaced; as the configuration in force is one for which a controller was built (`builtLaw`), a
failure there always leaves another configuration behind (`rejected_unchanged_iff`).
-/

namespace LeddyRaspPi

open Fallible

variable {L : Leddy} {settings : RuntimeSettings} {outside : Outside} {next : DisplayConfig}

/-! ## The configuration of a session has a controller -/

/-- `SafetyController::new` accepts the limits of the configuration. -/
def Buildable (L : Leddy) (config : DisplayConfig) : Prop :=
  ∃ safety, L.safetyNew (safetyLimits config) = .ok safety

/-- In a session, a controller was built for the configuration in force. -/
def builtLaw (L : Leddy) : Law L where
  ready _ := True
  running session := Buildable L session.world.config
  ended _ := True
  exited _ := True

/-- No handler goes on with a configuration for which no controller was built. -/
theorem builtLaw_parts : (builtLaw L).Parts settings fun _ _ => True where
  weaken _ := trivial
  start outside world _ _ :=
    Session.start_ends (fun _ => trivial) (fun _ => trivial) (fun _ => trivial)
      fun _ _ _ safety hsafety => ⟨safety, hsafety⟩
  idle incoming outside session _ hrunning := hrunning
  ping outside session hrunning := hrunning
  command started command outside session _ hrunning := by
    have hreply : ∀ event (session : Session L), Buildable L session.world.config →
        (builtLaw L).Passes (Session.reply outside event) session := fun _ _ h =>
      Law.passes_reply h fun _ => trivial
    cases command with
    | «show» message => exact Session.handleShow_ends (fun _ => trivial) (hreply _ _ hrunning)
    | clear =>
      refine Session.handleClear_ends (World.clearSink_ends (fun after _ _ => ?_)
        fun _ _ _ => trivial)
      exact hreply _ _ hrunning
    | configure next =>
      refine Session.handleConfigure_ends (fun _ _ _ => trivial) (fun _ _ _ _ => trivial) ?_
      intro fs _ safety hsafety
      refine World.clearSink_ends (fun after _ _ => ?_) fun _ _ _ => trivial
      exact hreply _ _ ⟨safety, hsafety⟩
    | ping nonce => exact hreply _ _ hrunning
    | resetSafetyFault authorization =>
      exact Session.handleResetSafetyFault_ends (fun _ _ => hreply _ _ hrunning)
        fun _ _ _ => hreply _ _ hrunning
    | stageFirmware => exact hreply _ _ hrunning
    | activateStagedFirmware => exact hreply _ _ hrunning
  frameTick started outside session _ hrunning := by
    refine Session.frameTick_ends (fun decision safety _ _ => ?_) fun decision safety _ _ => ?_
    · exact World.clearSink_ends (fun _ _ _ => hrunning) fun _ _ _ => trivial
    · refine Session.presentActive_ends (fun _ => hrunning) (fun _ _ _ _ => trivial) ?_ ?_
      · intro active _ frame _
        exact World.presentSink_ends (fun _ _ _ _ => hrunning) fun _ _ _ => trivial
      · intro active _ _
        exact World.clearSink_ends (fun _ _ _ => hrunning) fun _ _ _ => trivial
  telemetryTick outside telemetry session hrunning := hrunning
  finish started outside world _ _ :=
    World.finish_ends (World.clearSink_ends (fun _ _ _ _ => trivial) fun _ _ _ => trivial)

/-! ## Rejections -/

/-- One of the three checks of a `Configure` fails. -/
def Rejected (settings : RuntimeSettings) (outside : Outside) (next : DisplayConfig)
    (session : Session L) : Prop :=
  (∃ error, validateSupportedConfig L next = .error error) ∨
    (∃ error fs, persistConfig L settings.configPath next outside.persist session.world.fs =
      .error error fs) ∨
    ∃ error, L.safetyNew (safetyLimits next) = .error error

/-- The configuration on disk and in memory, the controller and the active message are the same. -/
structure Unchanged (settings : RuntimeSettings) (before after : Session L) : Prop where
  file : after.world.fs settings.configPath = before.world.fs settings.configPath
  config : after.world.config = before.world.config
  safety : after.locals.safety = before.locals.safety
  active : after.locals.active = before.locals.active

/-- The input of a `Configure`. -/
def configureArm (L : Leddy) (next : DisplayConfig) : Arm L :=
  .incoming (.text (.ok (.configure next)))

/-- The pass of the session loop that takes the `Configure` fails and leaves everything as it
was. -/
def FailsUnchanged (settings : RuntimeSettings) (outside : Outside) (next : DisplayConfig)
    (session : Session L) : Prop :=
  ∃ error session', Session.select settings outside (configureArm L next)
      (session.note (.took (.select (configureArm L next) outside))) = .error error session' ∧
    Unchanged settings session session'

/-- Where persisting fails, whatever the reason, everything is left as it was. -/
theorem failsUnchanged_of_refused {session : Session L} {error : IoError} {fs : FileSystem}
    (h : persistConfig L settings.configPath next outside.persist session.world.fs =
      .error error fs) : FailsUnchanged settings outside next session := by
  have hends : Ends (Session.select settings outside (configureArm L next))
      (session.note (.took (.select (configureArm L next) outside))) (fun _ _ => False)
      (fun _ session' => Unchanged settings session session') := by
    simp only [configureArm, Session.select, Session.handleIncoming, Session.touch,
      Session.assign, ends_bind, ends_modify, ends_ofExcept_mapError, ends_pure]
    refine ⟨fun command hcommand => ?_, fun _ hcommand => ?_⟩
    · cases hcommand
      refine Session.handleConfigure_ends (fun _ fs' hothers => ?_) (fun fs' hpersisted => ?_)
        fun fs' hpersisted => ?_
      · exact ⟨hothers _ (temporaryPath_ne _).symm, rfl, rfl, rfl⟩
      · cases h.symm.trans hpersisted.returned
      · cases h.symm.trans hpersisted.returned
    · cases hcommand
  unfold Ends at hends
  unfold FailsUnchanged
  cases hrun : Session.select settings outside (configureArm L next)
      (session.note (.took (.select (configureArm L next) outside))) with
  | ok flow session' => rw [hrun] at hends; exact hends.elim
  | error error session' => rw [hrun] at hends; exact ⟨error, session', rfl, hends⟩

/-- Where the configuration is persisted but no controller can be built, it is in force. -/
theorem config_of_unbuilt {session session' : Session L} {fs : FileSystem} {error : BoxError}
    (hpersist : persistConfig L settings.configPath next outside.persist session.world.fs =
      .ok () fs) (hunbuilt : ¬ Buildable L next)
    (hrun : Session.select settings outside (configureArm L next)
      (session.note (.took (.select (configureArm L next) outside))) = .error error session') :
    session'.world.config = next := by
  have hends : Ends (Session.select settings outside (configureArm L next))
      (session.note (.took (.select (configureArm L next) outside))) (fun _ _ => True)
      (fun _ session' => session'.world.config = next) := by
    have hvalid : validateSupportedConfig L next = .ok () := by
      have hends := persistConfig_ends L settings.configPath next outside.persist session.world.fs
      rw [Ends, hpersist] at hends
      exact hends.1
    simp only [configureArm, Session.select, Session.handleIncoming, Session.touch,
      Session.assign, ends_bind, ends_modify, ends_ofExcept_mapError, ends_pure]
    refine ⟨fun command hcommand => ?_, fun _ hcommand => ?_⟩
    · cases hcommand
      simp only [Session.handleCommand, Session.handleConfigure, ends_bind, ends_ofExcept_mapError,
        Session.onWorld_ends, World.persist, ends_adaptExcept, ends_focus]
      refine ⟨fun _ _ => ?_, fun _ hinvalid => by cases hvalid.symm.trans hinvalid⟩
      refine (ends_of_ok hpersist).2 ?_
      simp only [World.configure, ends_modify, World.newController_ends]
      exact ⟨fun safety hsafety => absurd ⟨safety, hsafety⟩ hunbuilt, fun _ _ => rfl⟩
    · cases hcommand
  rw [Ends, hrun] at hends
  exact hends

/-- In every session state of every run, a `Configure` that one of the three checks rejects leaves
everything as it was, if and only if a controller can be built for the configuration in case it gets
persisted. -/
theorem rejected_unchanged_iff (settings : RuntimeSettings) (config : DisplayConfig)
    (sink : FrameSink) (fs : FileSystem) (inputs : List (Input L)) {world : World L} {started : Nat}
    {locals : Locals L} (hrun : (Machine.initial config sink fs).run settings inputs =
      ⟨world, .running started locals⟩) (outside : Outside) (next : DisplayConfig) :
    (Rejected settings outside next ⟨world, locals⟩ →
        FailsUnchanged settings outside next ⟨world, locals⟩) ↔
      ((∃ fs', persistConfig L settings.configPath next outside.persist world.fs = .ok () fs') →
        Buildable L next) := by
  have hbuilt : (builtLaw L).Holds ⟨world, .running started locals⟩ := by
    have hinitial : (builtLaw L).Holds (Machine.initial config sink fs) := trivial
    rw [← hrun]
    exact builtLaw_parts.kept.run_all hinitial inputs
  constructor
  · intro hsafe hpersist
    obtain ⟨fs', hpersist⟩ := hpersist
    by_contra hunbuilt
    have hrejected : Rejected settings outside next ⟨world, locals⟩ := by
      cases hnew : L.safetyNew (safetyLimits next) with
      | ok safety => exact absurd ⟨safety, hnew⟩ hunbuilt
      | error error => exact .inr (.inr ⟨error, hnew⟩)
    obtain ⟨error, session', hfails, hunchanged⟩ := hsafe hrejected
    have hconfig : next = world.config :=
      (config_of_unbuilt hpersist hunbuilt hfails).symm.trans hunchanged.config
    exact hunbuilt (hconfig ▸ hbuilt)
  · intro hcheck hrejected
    cases hpersist : persistConfig L settings.configPath next outside.persist world.fs with
    | error error fs' => exact failsUnchanged_of_refused hpersist
    | ok u fs' =>
      -- Persisting succeeds, so the first two checks do, and by `hcheck` the third.
      obtain ⟨safety, hsafety⟩ := hcheck ⟨fs', hpersist⟩
      have hends := persistConfig_ends L settings.configPath next outside.persist world.fs
      rw [Ends, hpersist] at hends
      have hvalid : validateSupportedConfig L next = .ok () := hends.1
      rcases hrejected with ⟨error, herror⟩ | ⟨error, fs'', herror⟩ | ⟨error, herror⟩
      · cases hvalid.symm.trans herror
      · cases hpersist.symm.trans herror
      · cases hsafety.symm.trans herror

/-! ## With a strict controller -/

/-- Limits without room for a fault history. -/
def forgetfulLimits : SafetyLimits := { defaultSafetyLimits with faultHistoryCapacity := 0 }

/-- The reference instance with a controller that wants room for a fault history, and with a codec
that knows such limits too. -/
def strictLeddy : Leddy :=
  { Leddy.reference with
    safetyNew := fun limits =>
      if limits.faultHistoryCapacity = 0 then .error "no room for a fault history"
      else .ok ⟨limits, false⟩
    toVecPretty := fun config =>
      if config.safetyLimits = some forgetfulLimits then
        (Reference.encode { config with safetyLimits := some defaultSafetyLimits }).map (0 :: ·)
      else Reference.encode config
    fromSlice := fun bytes =>
      if bytes.length = 8 then
        (Reference.decode bytes.tail).map fun config =>
          { config with safetyLimits := some forgetfulLimits }
      else Reference.decode bytes }

/-- A supported configuration without room for a fault history. -/
def forgetful : DisplayConfig :=
  { Reference.supportedConfig with safetyLimits := some forgetfulLimits }

/-- The agent with the strict controller. -/
def strictMachine : Machine strictLeddy :=
  .initial Reference.supportedConfig (.snapshot ⟨none⟩) fun _ => .absent

/-- A session in which the configuration is sent, and the next session. -/
def rejectedInputs : List (Input strictLeddy) :=
  [.connect (.calm ⟨0, 0⟩), .select (configureArm _ forgetful) (.calm ⟨0, 0⟩),
    .finish (.calm ⟨0, 0⟩), .connect (.calm ⟨0, 0⟩)]

/-- The settings of an empty environment. -/
def emptySettings : RuntimeSettings := .fromEnv fun _ => none

/-- In the first session. -/
theorem rejected_unchanged_iff_strict :
    ∃ locals, (Rejected emptySettings (.calm ⟨0, 0⟩) forgetful
          ⟨(strictMachine.run emptySettings (rejectedInputs.take 1)).world, locals⟩ →
        FailsUnchanged emptySettings (.calm ⟨0, 0⟩) forgetful
          ⟨(strictMachine.run emptySettings (rejectedInputs.take 1)).world, locals⟩) ↔
      ((∃ fs', persistConfig strictLeddy emptySettings.configPath forgetful
          (Outside.calm ⟨0, 0⟩).persist
          (strictMachine.run emptySettings (rejectedInputs.take 1)).world.fs = .ok () fs') →
        Buildable strictLeddy forgetful) :=
  ⟨_, rejected_unchanged_iff emptySettings Reference.supportedConfig (.snapshot ⟨none⟩)
    (fun _ => .absent) (rejectedInputs.take 1) rfl (.calm ⟨0, 0⟩) forgetful⟩

/-- The rejected configuration is in force afterwards, on disk too, and the next session ends before
it has begun. -/
theorem rejected_configure_stays :
    (∃ world locals, strictMachine.run emptySettings (rejectedInputs.take 1) =
        ⟨world, .running 0 locals⟩ ∧
      Rejected emptySettings (.calm ⟨0, 0⟩) forgetful ⟨world, locals⟩ ∧
      ¬ FailsUnchanged emptySettings (.calm ⟨0, 0⟩) forgetful ⟨world, locals⟩) ∧
    loadConfig strictLeddy (strictMachine.run emptySettings rejectedInputs).world.fs
      emptySettings.configPath Reference.supportedConfig = .ok forgetful ∧
    ∃ world, strictMachine.run emptySettings rejectedInputs = ⟨world, .ended 0⟩ := by
  have hunbuilt : ¬ Buildable strictLeddy forgetful := by
    intro h
    obtain ⟨safety, hsafety⟩ := h
    cases hsafety
  refine ⟨⟨_, _, rfl, .inr (.inr ⟨_, rfl⟩), fun h => ?_⟩, rfl, _, rfl⟩
  obtain ⟨error, session', hrun, hunchanged⟩ := h
  have hconfig := (config_of_unbuilt rfl hunbuilt hrun).symm.trans hunchanged.config
  exact absurd hconfig (by decide)

end LeddyRaspPi
