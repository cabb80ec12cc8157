import LeddyRaspPi.Agent.Session
import LeddyRaspPi.Lib.Histories
import LeddyRaspPi.Reference

/-!
# The agent

`main` of `main.rs` as a machine: start-up, and a loop that runs one session after the other. Its
phases are the places where the agent waits: before a session, at the `select!` of the session loop,
behind a session that is over, and returned. A `Law` says what holds in each phase; by
`Law.Kept.run`, to show a law of every run it is enough to show it of the start of a session, of one
pass of the session loop, and of the end of a session.
-/

namespace LeddyRaspPi

open Fallible

/-! ## Start-up -/

/-- `MIN_RECONNECT_BACKOFF`. -/
def minReconnectBackoff : Nat := 250000000

/-- `MAX_RECONNECT_BACKOFF`. -/
def maxReconnectBackoff : Nat := 30000000000

/-- `HEALTHY_SESSION`. -/
def healthySession : Nat := 10000000000

/-- `next_backoff`. The product stays far below the largest `Duration`. -/
def nextBackoff (current : Nat) : Nat := min (current * 2) maxReconnectBackoff

/-- The world `main` enters its loop with. -/
def World.initial {L : Leddy} (config : DisplayConfig) (sink : FrameSink) (fs : FileSystem) :
    World L where
  config
  sink
  backoff := minReconnectBackoff
  fs
  history := []

/-- `main` up to its loop. `spawn` says how starting the helper goes. -/
def startUp (L : Leddy) (env : Environment) (fs : FileSystem) (spawn : Except IoError Bool) :
    Except IoError (RuntimeSettings × World L) := do
  let settings := RuntimeSettings.fromEnv env
  let fallback ← configFromEnv L env
  let config ← loadConfig L fs settings.configPath fallback
  validateSupportedConfig L config
  let sink ← FrameSink.new settings.snapshotPath settings.hub75Helper spawn
  pure (settings, .initial config sink fs)

/-! ## The loop -/

variable {L : Leddy}

/-- The end of a pass of the loop of `main`: everything behind `run_session`. -/
def World.finish (started : Nat) (outside : Outside) : EStateM BoxError (World L) Unit := do
  clearSink outside
  let world ← get
  let backoff := if outside.first.mono - started ≥ healthySession then minReconnectBackoff
    else nextBackoff world.backoff
  set { world.note (.slept backoff) with backoff }

/-- Where `main` stands: before a session, in the loop of one that began at some instant, behind
one, or returned with an error. -/
inductive Phase (L : Leddy) where
  | ready
  | running (started : Nat) (locals : Locals L)
  | ended (started : Nat)
  | exited (error : BoxError)

/-- The agent. -/
structure Machine (L : Leddy) where
  world : World L
  phase : Phase L

namespace Machine

/-- The agent as start-up leaves it. -/
def initial (config : DisplayConfig) (sink : FrameSink) (fs : FileSystem) : Machine L :=
  ⟨.initial config sink fs, .ready⟩

/-- Where the start of a session leads. -/
def afterStart (started : Nat) : EStateM.Result BoxError (World L) (Locals L) → Machine L
  | .ok locals world => ⟨world, .running started locals⟩
  | .error _ world => ⟨world, .ended started⟩

/-- Where a pass of the session loop leads. -/
def afterPass (started : Nat) : EStateM.Result BoxError (Session L) Flow → Machine L
  | .ok .continue session => ⟨session.world, .running started session.locals⟩
  | .ok .break session => ⟨session.world, .ended started⟩
  | .error _ session => ⟨session.world, .ended started⟩

/-- Where the end of a pass of the loop of `main` leads. -/
def afterFinish : EStateM.Result BoxError (World L) Unit → Machine L
  | .ok _ world => ⟨world, .ready⟩
  | .error error world => ⟨world, .exited error⟩

/-- One input. An input that does not fit the phase is not taken. -/
def step (settings : RuntimeSettings) (machine : Machine L) (input : Input L) : Machine L :=
  let world := machine.world.note (.took input)
  match machine.phase, input with
  | .ready, .connect outside =>
    afterStart outside.first.mono (Session.start settings outside world)
  | .running started locals, .select arm outside =>
    afterPass started (Session.select settings outside arm ⟨world, locals⟩)
  | .ended started, .finish outside => afterFinish (World.finish started outside world)
  | _, _ => machine

/-- The agent after a sequence of inputs. -/
def run (settings : RuntimeSettings) : Machine L → List (Input L) → Machine L :=
  Transition.run (step settings)

end Machine

/-- How the outside behaves on an input. -/
def Input.outside : Input L → Outside
  | .connect outside => outside
  | .select _ outside => outside
  | .finish outside => outside

/-- A call of `sink.present`. -/
def Effect.presents : Effect L → Bool
  | .presented .. => true
  | _ => false

/-- An input on which the agent presents nothing. -/
def Machine.PresentsNothing (settings : RuntimeSettings) (machine : Machine L)
    (input : Input L) : Prop :=
  (machine.step settings input).world.history.countP Effect.presents =
    machine.world.history.countP Effect.presents

/-- The agent of the examples, with no file and nothing to write frames to. -/
def Machine.sample : Machine Leddy.reference :=
  .initial Reference.supportedConfig (.snapshot ⟨none⟩) fun _ => .absent

/-- A property of the world that a pass leaves behind, whichever way it ends. -/
theorem Machine.afterPass_world {P : World L → Prop} {started : Nat} {session : Session L}
    {m : EStateM BoxError (Session L) Flow}
    (h : Ends m session (fun _ session' => P session'.world) fun _ session' => P session'.world) :
    P (afterPass started (m session)).world := by
  unfold Ends at h
  cases hrun : m session with
  | ok flow session' =>
    rw [hrun] at h
    cases flow <;> exact h
  | error error session' =>
    rw [hrun] at h
    exact h

/-! ## Laws -/

/-- A property of the agent, phase by phase. -/
structure Law (L : Leddy) where
  ready : World L → Prop
  running : Session L → Prop
  ended : World L → Prop
  exited : World L → Prop

namespace Law

variable {law : Law L} {settings : RuntimeSettings} {C : Machine L → Input L → Prop}
  {machine : Machine L} {inputs : List (Input L)}

/-- The law holds of the agent as it stands. -/
def Holds (law : Law L) (machine : Machine L) : Prop :=
  match machine.phase with
  | .ready => law.ready machine.world
  | .running _ locals => law.running ⟨machine.world, locals⟩
  | .ended _ => law.ended machine.world
  | .exited _ => law.exited machine.world

/-- What the parts of the agent have to do for a law to be kept, as far as their inputs meet `C`. -/
structure Kept (law : Law L) (settings : RuntimeSettings) (C : Machine L → Input L → Prop) :
    Prop where
  start : ∀ outside world, C ⟨world, .ready⟩ (.connect outside) → law.ready world →
    Ends (Session.start settings outside) (world.note (.took (.connect outside)))
      (fun locals world' => law.running ⟨world', locals⟩) (fun _ => law.ended)
  select : ∀ started arm outside session,
    C ⟨session.world, .running started session.locals⟩ (.select arm outside) →
    law.running session →
    Ends (Session.select settings outside arm) (session.note (.took (.select arm outside)))
      (fun flow session' => (flow = .continue → law.running session') ∧
        (flow = .break → law.ended session'.world))
      (fun _ session' => law.ended session'.world)
  finish : ∀ started outside world, C ⟨world, .ended started⟩ (.finish outside) →
    law.ended world →
    Ends (World.finish started outside) (world.note (.took (.finish outside)))
      (fun _ => law.ready) (fun _ => law.exited)

/-- One step keeps a law that its parts keep. -/
theorem Kept.step (h : law.Kept settings C) (input : Input L) (hC : C machine input)
    (hholds : law.Holds machine) : law.Holds (machine.step settings input) := by
  obtain ⟨world, phase⟩ := machine
  cases phase with
  | ready =>
    cases input with
    | connect outside =>
      have hstart := h.start outside world hC hholds
      unfold Ends at hstart
      show law.Holds (Machine.afterStart outside.first.mono (Session.start settings outside
        (world.note (.took (.connect outside)))))
      cases hrun : Session.start settings outside (world.note (.took (.connect outside))) with
      | ok locals world' => rw [hrun] at hstart; exact hstart
      | error error world' => rw [hrun] at hstart; exact hstart
    | select arm outside => exact hholds
    | finish outside => exact hholds
  | running started locals =>
    cases input with
    | connect outside => exact hholds
    | select arm outside =>
      have hselect := h.select started arm outside ⟨world, locals⟩ hC hholds
      unfold Ends at hselect
      show law.Holds (Machine.afterPass started (Session.select settings outside arm
        (Session.note (.took (.select arm outside)) ⟨world, locals⟩)))
      cases hrun : Session.select settings outside arm
          (Session.note (.took (.select arm outside)) ⟨world, locals⟩) with
      | ok flow session' =>
        rw [hrun] at hselect
        cases flow with
        | «continue» => exact hselect.1 rfl
        | «break» => exact hselect.2 rfl
      | error error session' => rw [hrun] at hselect; exact hselect
    | finish outside => exact hholds
  | ended started =>
    cases input with
    | connect outside => exact hholds
    | select arm outside => exact hholds
    | finish outside =>
      have hfinish := h.finish started outside world hC hholds
      unfold Ends at hfinish
      show law.Holds (Machine.afterFinish (World.finish started outside
        (world.note (.took (.finish outside)))))
      cases hrun : World.finish started outside (world.note (.took (.finish outside))) with
      | ok u world' => rw [hrun] at hfinish; exact hfinish
      | error error world' => rw [hrun] at hfinish; exact hfinish
  | exited error =>
    cases input <;> exact hholds

/-- Two properties at once. -/
def and (law law' : Law L) : Law L where
  ready world := law.ready world ∧ law'.ready world
  running session := law.running session ∧ law'.running session
  ended world := law.ended world ∧ law'.ended world
  exited world := law.exited world ∧ law'.exited world

/-- Two laws hold together if each of them holds. -/
theorem holds_and {law' : Law L} :
    (law.and law').Holds machine ↔ law.Holds machine ∧ law'.Holds machine := by
  obtain ⟨world, phase⟩ := machine
  cases phase <;> exact Iff.rfl

/-- Two laws are kept together if each is kept under a condition that the inputs meet as long as the
first law holds. -/
theorem Kept.and {law' : Law L} {C' : Machine L → Input L → Prop} (h : law.Kept settings C)
    (h' : law'.Kept settings C')
    (hC : ∀ machine input, law.Holds machine → C machine input → C' machine input) :
    (law.and law').Kept settings C where
  start outside world hguard hready :=
    ((h.start outside world hguard hready.1).and
      (h'.start outside world (hC ⟨world, .ready⟩ _ hready.1 hguard) hready.2)).mono
      (fun _ _ h => h) fun _ _ h => h
  select started arm outside session hguard hrunning :=
    ((h.select started arm outside session hguard hrunning.1).and
      (h'.select started arm outside session
        (hC ⟨session.world, .running started session.locals⟩ _ hrunning.1 hguard) hrunning.2)).mono
      (fun _ _ h => ⟨fun hflow => ⟨h.1.1 hflow, h.2.1 hflow⟩,
        fun hflow => ⟨h.1.2 hflow, h.2.2 hflow⟩⟩) fun _ _ h => h
  finish started outside world hguard hended :=
    ((h.finish started outside world hguard hended.1).and
      (h'.finish started outside world (hC ⟨world, .ended started⟩ _ hended.1 hguard)
        hended.2)).mono (fun _ _ h => h) fun _ _ h => h

/-- A law its parts keep holds after every run whose inputs meet the condition. -/
theorem Kept.run (h : law.Kept settings C) (hholds : law.Holds machine)
    (hC : Transition.Along (Machine.step settings) C machine inputs) :
    law.Holds (machine.run settings inputs) :=
  Transition.run_preserves_along (fun _ input hC => h.step input hC) hholds hC

/-- A law its parts keep holds after every run. -/
theorem Kept.run_all (h : law.Kept settings fun _ _ => True) (hholds : law.Holds machine)
    (inputs : List (Input L)) : law.Holds (machine.run settings inputs) :=
  h.run hholds (Transition.along_of_forall fun _ _ => trivial)

end Law

end LeddyRaspPi
