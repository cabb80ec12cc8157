import LeddyRaspPi.Agent.Passes

/-!
# What is on the display

The history says which message the display should show, since when, and under which configuration.
The variables of the agent stay in step with it (`OnScreen`), through every handler that returns; a
handler that fails ends the session, and `main` clears the display before the next one. So no stale
frame is presented (`no_stale_frame`), and the first call of the sink with a changed configuration
is a clear (`changes_are_blanked`).
-/

namespace LeddyRaspPi

open Fallible History

variable {L : Leddy}

/-! ## Reading the history -/

/-- A call of the sink that returned: its configuration, its frame (none for a clear), the sink and
what it was sent. -/
structure Call (L : Leddy) where
  config : DisplayConfig
  frame : Option L.FrameBuffer
  sink : FrameSink
  sent : List UInt8

/-- The call of the sink an entry records, if it returned. -/
def Effect.call? : Effect L → Option (Call L)
  | .presented config frame before after (.ok _) =>
    some ⟨config, some frame, before.1, FrameSink.sent before after⟩
  | .cleared config before after (.ok _) =>
    some ⟨config, none, before.1, FrameSink.sent before after⟩
  | _ => none

/-- The calls of the sink that returned, latest first. -/
def calls (history : List (Effect L)) : List (Call L) := history.filterMap Effect.call?

/-- The last call of the sink that returned. -/
def lastCall (history : List (Effect L)) : Option (Call L) := (calls history).head?

/-- The configuration after an effect. -/
def Effect.inForce (before : DisplayConfig) : Effect L → DisplayConfig
  | .configured next => next
  | _ => before

/-- The configuration in force, if `config` was at first. -/
def configInForce (config : DisplayConfig) (history : List (Effect L)) : DisplayConfig :=
  history.foldr (fun effect before => effect.inForce before) config

/-- What should be on the display after an effect: the message of the last `Show`, from the `Show`
or the last `Configure` after it on, until a `Clear`, its expiry or another session. -/
def Effect.shows (before : Option (ActiveMessage L)) : Effect L → Option (ActiveMessage L)
  | .took (.connect _) => none
  | .took (.select (.incoming (.text (.ok (.show message)))) outside) =>
    some ⟨message, outside.second.mono⟩
  | .took (.select (.incoming (.text (.ok .clear))) _) => none
  | .took (.select (.incoming (.text (.ok (.configure _)))) outside) =>
    before.map fun active => { active with started := outside.second.mono }
  | .rendered _ _ _ (.ok none) => none
  | _ => before

/-- What should be on the display. -/
def showing (history : List (Effect L)) : Option (ActiveMessage L) :=
  history.foldr (fun effect before => effect.shows before) none

/-- A presented frame is the one rendered for what should be on the display, under the
configuration in force. -/
def Truthful (config₀ : DisplayConfig) (past : List (Effect L)) : Effect L → Prop
  | .presented config frame _ _ _ =>
    config = configInForce config₀ past ∧ ∃ active outside, showing past = some active ∧
      lastTaken past = some (.select .frameTick outside) ∧
      L.renderMessageFrame config active.message
        (elapsedMs active.started outside.second.mono) = .ok (some frame)
  | _ => True

/-- A call of the sink that sent a black frame. -/
def Call.Blank (call : Call L) : Prop :=
  call.frame = none ∧ call.sent = call.sink.encoding call.config (blankPixels L call.config)
    (blankPixels L call.config)

/-- A call of the sink with another configuration than the call before it sent a black frame. -/
def Blanked (past : List (Effect L)) (effect : Effect L) : Prop :=
  ∀ call, effect.call? = some call → ∀ earlier, lastCall past = some earlier →
    call.config ≠ earlier.config → call.Blank

/-! ## The variables stay in step -/

/-- The last call of the sink was a clear, if there was one. -/
def Dark (history : List (Effect L)) : Prop :=
  ∀ call, lastCall history = some call → call.frame = none

/-- The last call of the sink had this configuration, if there was one. -/
def Current (config : DisplayConfig) (history : List (Effect L)) : Prop :=
  ∀ call, lastCall history = some call → call.config = config

section
variable {config : DisplayConfig} {before after : FrameSink × FileSystem}
  {history : List (Effect L)}

/-- Behind a clear the display is dark. -/
theorem dark_cleared : Dark (.cleared config before after (.ok ()) :: history) := by
  intro call hcall
  cases hcall
  rfl

/-- A clear is a call with its own configuration. -/
theorem current_cleared : Current config (.cleared config before after (.ok ()) :: history) := by
  intro call hcall
  cases hcall
  rfl

end

/-- The variables of a session that could go on agree with the history. -/
structure OnScreen (config₀ : DisplayConfig) (session : Session L) : Prop where
  config : session.world.config = configInForce config₀ session.world.history
  active : session.locals.active = showing session.world.history
  dark : session.locals.active = none → Dark session.world.history
  current : Current session.world.config session.world.history

/-- The configuration is the one in force; in a session the variables agree with the history, and
before a session the display is dark. -/
def screenLaw (L : Leddy) (config₀ : DisplayConfig) : Law L where
  ready world := world.config = configInForce config₀ world.history ∧ Dark world.history ∧
    Current world.config world.history
  running session := OnScreen config₀ session
  ended world := world.config = configInForce config₀ world.history
  exited world := world.config = configInForce config₀ world.history

section
variable {settings : RuntimeSettings} {config₀ : DisplayConfig}

/-- A reply leaves the variables in step. -/
theorem OnScreen.reply (outside : Outside) (event : L.Event) {session : Session L}
    (h : OnScreen config₀ session) :
    (screenLaw L config₀).Passes (Session.reply outside event) session :=
  Law.passes_reply ⟨h.config, h.active, h.dark, h.current⟩ fun h => h.config

/-- So does a command: what it asks for is what the history says from then on. -/
theorem OnScreen.command {session : Session L} (h : OnScreen config₀ session) (outside : Outside)
    (command : L.Command) :
    (screenLaw L config₀).Passes (Session.handleCommand settings outside command)
      ((session.note (.took (.select (.incoming (.text (.ok command))) outside))).touched
        outside) := by
  cases command with
  | «show» message =>
    refine Session.handleShow_ends (fun _ => h.config) (OnScreen.reply outside _ ?_)
    exact ⟨h.config, rfl, fun hnone => (Option.some_ne_none _ hnone).elim, h.current⟩
  | clear =>
    refine Session.handleClear_ends (World.clearSink_ends (fun after _ _ => OnScreen.reply outside _ ?_)
      fun _ _ _ => h.config)
    exact ⟨h.config, rfl, fun _ => dark_cleared, current_cleared⟩
  | configure next =>
    refine Session.handleConfigure_ends (fun _ _ _ => h.config) (fun _ _ _ _ => rfl) ?_
    intro fs _ safety _
    refine World.clearSink_ends (fun after _ _ => OnScreen.reply outside _ ?_) fun _ _ _ => rfl
    refine ⟨rfl, ?_, fun _ => dark_cleared, current_cleared⟩
    exact congrArg (Option.map fun active : ActiveMessage L =>
      { active with started := outside.second.mono }) h.active
  | ping nonce => exact OnScreen.reply outside _ ⟨h.config, h.active, h.dark, h.current⟩
  | resetSafetyFault authorization =>
    refine Session.handleResetSafetyFault_ends (fun _ _ => OnScreen.reply outside _ ?_)
      fun _ _ _ => OnScreen.reply outside _ ?_
    · exact ⟨h.config, h.active, h.dark, h.current⟩
    · exact ⟨h.config, h.active, h.dark, h.current⟩
  | stageFirmware => exact OnScreen.reply outside _ ⟨h.config, h.active, h.dark, h.current⟩
  | activateStagedFirmware => exact OnScreen.reply outside _ ⟨h.config, h.active, h.dark, h.current⟩

/-- And a frame tick: what it does not present it clears. -/
theorem OnScreen.frameTick {session : Session L} (h : OnScreen config₀ session)
    (outside : Outside) : (screenLaw L config₀).Passes (Session.frameTick outside)
      (session.note (.took (.select .frameTick outside))) := by
  refine Session.frameTick_ends (fun decision safety _ _ => ?_) fun decision safety _ _ => ?_
  · refine World.clearSink_ends (fun after _ _ => ?_) fun _ _ _ => h.config
    exact ⟨h.config, h.active, fun _ => dark_cleared, current_cleared⟩
  · refine Session.presentActive_ends (fun _ => ?_) (fun _ _ _ hframe => ?_) ?_ ?_
    · exact ⟨h.config, h.active, h.dark, h.current⟩
    · exact h.config
    · intro active hactive frame hframe
      rw [Session.rendered, hframe]
      refine World.presentSink_ends (fun stats after _ _ => ?_) fun _ _ _ => h.config
      refine ⟨h.config, h.active, fun hnone => ?_, fun call hcall => ?_⟩
      · cases hactive.symm.trans hnone
      · cases hcall; rfl
    · intro active _ hframe
      rw [Session.rendered, hframe]
      refine World.clearSink_ends (fun after _ _ => ?_) fun _ _ _ => h.config
      exact ⟨h.config, rfl, fun _ => dark_cleared, current_cleared⟩

/-- The variables stay in step with the history. -/
theorem screenLaw_parts :
    (screenLaw L config₀).Parts settings fun _ _ => True where
  weaken h := h.config
  start outside world _ hready := by
    obtain ⟨hconfig, hdark, hcurrent⟩ := hready
    refine Session.start_ends (fun _ => hconfig) (fun _ => hconfig) (fun _ => hconfig) ?_
    intro _ _ _ _ _
    exact ⟨hconfig, rfl, fun _ => hdark, hcurrent⟩
  idle incoming outside session hincoming hrunning := by
    cases incoming with
    | text command =>
      cases command with
      | ok command => cases hincoming
      | error error => exact ⟨hrunning.config, hrunning.active, hrunning.dark, hrunning.current⟩
    | ping => cases hincoming
    | _ => exact ⟨hrunning.config, hrunning.active, hrunning.dark, hrunning.current⟩
  ping outside session hrunning :=
    ⟨hrunning.config, hrunning.active, hrunning.dark, hrunning.current⟩
  command started command outside session _ hrunning := hrunning.command outside command
  frameTick started outside session _ hrunning := hrunning.frameTick outside
  telemetryTick outside telemetry session hrunning :=
    ⟨hrunning.config, hrunning.active, hrunning.dark, hrunning.current⟩
  finish started outside world _ hended := by
    refine World.finish_ends (World.clearSink_ends (fun after _ _ backoff => ?_) fun _ _ _ => hended)
    exact ⟨hended, dark_cleared, current_cleared⟩

/-- Nothing was called yet. -/
theorem screenLaw_initial (sink : FrameSink) (fs : FileSystem) :
    (screenLaw L config₀).Holds (Machine.initial config₀ sink fs) :=
  ⟨rfl, fun _ hcall => (Option.some_ne_none _ hcall.symm).elim,
    fun _ hcall => (Option.some_ne_none _ hcall.symm).elim⟩

/-! ## The calls of the sink -/

/-- Only a call of `sink.present` can show a stale frame. -/
theorem truthful_judges : Judges (Truthful config₀ : List (Effect L) → Effect L → Prop) := by
  refine .of_presents fun past effect hpresents => ?_
  cases effect with
  | presented => cases hpresents
  | _ => trivial

/-- A clear is black whatever its configuration, so only `sink.present` can break the rule. -/
theorem blanked_judges : Judges (Blanked : List (Effect L) → Effect L → Prop) where
  other {past effect} hpresents hclears call hcall := by
    cases effect with
    | presented => cases hpresents
    | cleared => cases hclears
    | _ => cases hcall
  cleared _ hsent call hcall := by
    cases hcall
    exact fun _ _ _ => ⟨rfl, hsent⟩
  failed call hcall := by cases hcall

/-- A frame that a tick gets as far as presenting is the right one. -/
theorem presentable_truthful (machine : Machine L) (input : Input L)
    (hholds : (screenLaw L config₀).Holds machine) :
    Presentable (Truthful config₀) machine input := by
  unfold Presentable
  split
  · next started locals outside hphase =>
    intro decision safety _ _ active hactive frame hframe after result _ _
    unfold Law.Holds at hholds
    rw [hphase] at hholds
    exact ⟨hholds.config, active, outside, hholds.active.symm.trans hactive, rfl, hframe⟩
  · trivial

/-- A frame that a tick gets as far as presenting has the configuration of the call before. -/
theorem presentable_blanked (machine : Machine L) (input : Input L)
    (hholds : (screenLaw L config₀).Holds machine) : Presentable Blanked machine input := by
  unfold Presentable
  split
  · next started locals outside hphase =>
    intro decision safety _ _ active _ frame _ after result _ _ call hcall earlier hearlier hne
    unfold Law.Holds at hholds
    rw [hphase] at hholds
    have hcurrent : earlier.config = machine.world.config := hholds.current earlier hearlier
    cases result with
    | ok stats => cases hcall; exact absurd hcurrent.symm hne
    | error error => cases hcall
  · trivial

/-- `main` is about to sleep before it reconnects, or the session loop is about to wait with no
message to show. -/
def Machine.Idle (machine : Machine L) : Prop :=
  match machine.phase with
  | .ready => True
  | .running _ locals => locals.active = none
  | _ => False

/-- A call of `sink.present` uses the configuration in force and a frame rendered with it for the
message of the last `Show` of the session, not cleared or expired since, and for the time since that
`Show` or the last `Configure` after it. And whenever the agent is idle, the last call of the sink
was a clear. -/
theorem no_stale_frame (settings : RuntimeSettings) (config : DisplayConfig) (sink : FrameSink)
    (fs : FileSystem) (inputs : List (Input L)) :
    Always (Truthful config)
      ((Machine.initial config sink fs).run settings inputs).world.history ∧
    (((Machine.initial config sink fs).run settings inputs).Idle →
      Dark ((Machine.initial config sink fs).run settings inputs).world.history) := by
  obtain ⟨hholds, htruthful⟩ := truthful_judges.always_run screenLaw_parts.kept
    (fun machine input h _ => presentable_truthful machine input h)
    (screenLaw_initial sink fs) (Transition.along_of_forall fun _ _ => trivial)
  refine ⟨htruthful, ?_⟩
  generalize (Machine.initial config sink fs).run settings inputs = machine at hholds
  obtain ⟨world, phase⟩ := machine
  cases phase with
  | ready => exact fun _ => hholds.2.1
  | running started locals => exact hholds.dark
  | ended started => exact False.elim
  | exited error => exact False.elim

/-- Where every call agrees with the one before, consecutive calls do. -/
theorem calls_isChain {history : List (Effect L)} (h : Always Blanked history) :
    List.IsChain (fun later earlier => later.config ≠ earlier.config → later.Blank)
      (calls history) := by
  induction history with
  | nil => exact .nil
  | cons effect past ih =>
    have hpast := ih h.2
    cases hcall : effect.call? with
    | none => rwa [calls, List.filterMap_cons_none hcall]
    | some call =>
      rw [calls, List.filterMap_cons_some hcall, List.isChain_cons]
      exact ⟨fun earlier hearlier => h.1 call hcall earlier hearlier, hpast⟩

/-- Of two consecutive calls of the sink that returned, made with different configurations, the
second sent a black frame. -/
theorem changes_are_blanked (settings : RuntimeSettings) (config : DisplayConfig)
    (sink : FrameSink) (fs : FileSystem) (inputs : List (Input L)) :
    List.IsChain (fun later earlier => later.config ≠ earlier.config → later.Blank)
      (calls ((Machine.initial config sink fs).run settings inputs).world.history) := by
  obtain ⟨_, hblanked⟩ := blanked_judges.always_run screenLaw_parts.kept
    (fun machine input h _ => presentable_blanked machine input h)
    (screenLaw_initial sink fs) (Transition.along_of_forall fun _ _ => trivial)
  exact calls_isChain hblanked

end

end LeddyRaspPi
