import LeddyRaspPi.Agent.Frames
import LeddyRaspPi.Agent.Unbroken

/-!
# Blackouts

A frame tick that finds a fault latched clears the display instead of presenting. So as long as the
last observation of a session latched a fault the display stays dark, whatever commands come in
between: only another observation, one that finds no fault, leads to a frame
(`blackoutLaw_parts`).
-/

namespace LeddyRaspPi

open Fallible History

variable {L : Leddy} {settings : RuntimeSettings}

/-- The decision of an observation. -/
def Effect.decision? : Effect L → Option (SafetyDecision L.Fault)
  | .observed _ decision => some decision
  | _ => none

/-- The decision of the last observation. -/
def lastDecision (history : List (Effect L)) : Option (SafetyDecision L.Fault) :=
  history.findSome? Effect.decision?

/-- If the last observation latched a fault, the display is dark. -/
def Shut (history : List (Effect L)) : Prop :=
  ∀ decision, lastDecision history = some decision → decision.faultLatched = true → Dark history

/-- Before a session the display is dark, in a session it is after an observation of a latched
fault. -/
def blackoutLaw (L : Leddy) : Law L where
  ready world := Dark world.history
  running session := Shut session.world.history
  ended _ := True
  exited _ := True

/-- Behind a clear the display is shut. -/
theorem shut_cleared {config : DisplayConfig} {before after : FrameSink × FileSystem}
    {history : List (Effect L)} : Shut (.cleared config before after (.ok ()) :: history) :=
  fun _ _ _ => dark_cleared

/-- An observation that latches no fault. -/
theorem shut_observed {observation : SafetyObservation} {decision : SafetyDecision L.Fault}
    {history : List (Effect L)} (hdecision : decision.faultLatched = false) :
    Shut (.observed observation decision :: history) := by
  intro decision' hlast hlatched
  cases hlast
  exact absurd (hdecision.symm.trans hlatched) Bool.false_ne_true

/-- Every handler keeps the display shut until a message is shown, and `main` shuts it before it
sleeps. -/
theorem blackoutLaw_parts : (blackoutLaw L).Parts settings fun _ _ => True where
  weaken _ := trivial
  start outside world _ hready := by
    refine Session.start_ends (fun _ => trivial) (fun _ => trivial) (fun _ => trivial) ?_
    exact fun _ _ _ _ _ _ _ _ => hready
  idle incoming outside session _ hrunning := hrunning
  ping outside session hrunning := hrunning
  command started command outside session _ hrunning := by
    have hreply : ∀ event (session : Session L), Shut session.world.history →
        (blackoutLaw L).Passes (Session.reply outside event) session := fun _ _ h =>
      Law.passes_reply h fun _ => trivial
    cases command with
    | «show» message => exact Session.handleShow_ends (fun _ => trivial) (hreply _ _ hrunning)
    | clear =>
      exact Session.handleClear_ends (World.clearSink_ends (fun _ _ _ => hreply _ _ shut_cleared)
        fun _ _ _ => trivial)
    | configure next =>
      refine Session.handleConfigure_ends (fun _ _ _ => trivial) (fun _ _ _ _ => trivial) ?_
      intro fs _ safety _
      exact World.clearSink_ends (fun _ _ _ => hreply _ _ shut_cleared) fun _ _ _ => trivial
    | ping nonce => exact hreply _ _ hrunning
    | resetSafetyFault authorization =>
      exact Session.handleResetSafetyFault_ends (fun _ _ => hreply _ _ hrunning)
        fun _ _ _ => hreply _ _ hrunning
    | stageFirmware => exact hreply _ _ hrunning
    | activateStagedFirmware => exact hreply _ _ hrunning
  frameTick started outside session _ _ := by
    refine Session.frameTick_ends (fun decision safety _ _ => ?_) fun decision safety _ hdecision => ?_
    · exact World.clearSink_ends (fun _ _ _ => shut_cleared) fun _ _ _ => trivial
    · refine Session.presentActive_ends (fun _ => shut_observed hdecision)
        (fun _ _ _ _ => trivial) ?_ ?_
      · intro active _ frame _
        refine World.presentSink_ends (fun stats after _ _ decision' hlast hlatched => ?_)
          fun _ _ _ => trivial
        cases hlast
        exact absurd (hdecision.symm.trans hlatched) Bool.false_ne_true
      · intro active _ _
        exact World.clearSink_ends (fun _ _ _ => shut_cleared) fun _ _ _ => trivial
  telemetryTick outside telemetry session hrunning := hrunning
  finish started outside world _ _ :=
    World.finish_ends (World.clearSink_ends (fun _ _ _ _ => dark_cleared) fun _ _ _ => trivial)

/-- Nothing was called yet. -/
theorem blackoutLaw_initial (config : DisplayConfig) (sink : FrameSink) (fs : FileSystem) :
    (blackoutLaw L).Holds (Machine.initial config sink fs) :=
  fun _ hcall => (Option.some_ne_none _ hcall.symm).elim

/-- Wherever the agent waits the last call had the configuration in force. -/
theorem Machine.Waits.current {config : DisplayConfig} {machine : Machine L}
    (hscreen : (screenLaw L config).Holds machine) (hwaits : machine.Waits) :
    Current machine.world.config machine.world.history := by
  obtain ⟨world, phase⟩ := machine
  cases phase with
  | ready => exact hscreen.2.2
  | running started locals => exact hscreen.current
  | ended started => exact hwaits.elim
  | exited error => exact hwaits.elim

/-- The agent has nothing to show: it is idle, or its last observation latched a fault and it has
taken that in. -/
def Machine.Quiet (machine : Machine L) : Prop :=
  machine.Idle ∨ machine.Waits ∧ ∃ decision,
    lastDecision machine.world.history = some decision ∧ decision.faultLatched = true

/-- A quiet agent is dark: with no message by the law of the screen, with an unreleased fault by the
law of the blackout. -/
theorem Machine.Quiet.dark {config : DisplayConfig} {machine : Machine L}
    (hscreen : (screenLaw L config).Holds machine) (hblackout : (blackoutLaw L).Holds machine)
    (hquiet : machine.Quiet) : Dark machine.world.history := by
  obtain ⟨world, phase⟩ := machine
  rcases hquiet with hidle | ⟨hwaits, decision, hlast, hlatched⟩
  · cases phase with
    | ready => exact hscreen.2.1
    | running started locals => exact hscreen.dark hidle
    | ended started => exact hidle.elim
    | exited error => exact hidle.elim
  · cases phase with
    | ready => exact hblackout
    | running started locals => exact hblackout decision hlast hlatched
    | ended started => exact hwaits.elim
    | exited error => exact hwaits.elim

end LeddyRaspPi
