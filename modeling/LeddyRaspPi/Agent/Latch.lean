import LeddyRaspPi.Agent.Passes
import LeddyRaspPi.Reference

/-!
# Latched faults

Once an observation has latched a fault, nothing should be presented until an authorised reset. The
agent keeps no latch of its own: the latch is the controller's, so it is lost wherever the
controller is built anew, at the start of a session and in a `Configure`. In every run in which that
never happens to an unreleased fault the latch holds (`presents_released`).
-/

namespace LeddyRaspPi

open Fallible History

variable {L : Leddy}

/-- What the agent relies on of `SafetyController`; `latched` reads the latch off a controller. -/
structure Leddy.LatchesFaults (L : Leddy) (latched : L.SafetyController → Prop) : Prop where
  observe : ∀ {safety observation decision safety'},
    L.safetyObserve safety observation = (decision, safety') →
    (latched safety → latched safety') ∧ (decision.faultLatched = true ↔ latched safety')
  reset : ∀ {safety authorization now error safety'},
    L.safetyResetAuthorized safety authorization now = (.error error, safety') → safety' = safety

/-- Whether a fault is unreleased after an effect, if one was `before`. -/
def Effect.faultPending (before : Bool) : Effect L → Bool
  | .observed _ decision => decision.faultLatched || before
  | .reset _ (.ok _) => false
  | _ => before

/-- Some observation has latched a fault, and no authorised reset has succeeded since. -/
def faultPending (history : List (Effect L)) : Bool :=
  history.foldr (fun effect before => effect.faultPending before) false

/-- Whether a fault is unreleased, one entry further. -/
@[simp] theorem faultPending_cons (effect : Effect L) (past : List (Effect L)) :
    faultPending (effect :: past) = effect.faultPending (faultPending past) := rfl

/-- Nothing is presented while a fault is unreleased. -/
def Released (past : List (Effect L)) (effect : Effect L) : Prop :=
  effect.presents = true → faultPending past = false

instance (past : List (Effect L)) (effect : Effect L) : Decidable (Released past effect) :=
  inferInstanceAs (Decidable (_ → _))

/-- The input builds a new controller: it starts a session, or it is a `Configure` that gets as far
as that. -/
def Rebuilds (settings : RuntimeSettings) (machine : Machine L) (input : Input L) : Prop :=
  match machine.phase, input with
  | .ready, .connect outside =>
    (∃ instant, outside.connect = .ok instant) ∧ outside.send = .ok () ∧
      ∃ safety, L.safetyNew (safetyLimits machine.world.config) = .ok safety
  | .running .., .select (.incoming (.text (.ok (.configure next)))) outside =>
    (∃ fs, persistConfig L settings.configPath next outside.persist machine.world.fs = .ok () fs) ∧
      ∃ safety, L.safetyNew (safetyLimits next) = .ok safety
  | _, _ => False

/-- The controller is not built anew while a fault is unreleased. -/
def KeepsLatch (settings : RuntimeSettings) (machine : Machine L) (input : Input L) : Prop :=
  faultPending machine.world.history = true → ¬ Rebuilds settings machine input

/-- An unreleased fault is latched in the controller. -/
def latchLaw (latched : L.SafetyController → Prop) : Law L where
  ready _ := True
  running session := faultPending session.world.history = true → latched session.locals.safety
  ended _ := True
  exited _ := True

/-- Only a call of `sink.present` can present over an unreleased fault. -/
theorem released_judges : Judges (Released : List (Effect L) → Effect L → Prop) :=
  .of_presents fun _ _ hpresents h => absurd (hpresents.symm.trans h) Bool.false_ne_true

section
variable {settings : RuntimeSettings} {latched : L.SafetyController → Prop}

/-- A reply keeps the latch. -/
theorem latchLaw_reply (outside : Outside) (event : L.Event) {session : Session L}
    (hrunning : (latchLaw latched).running session) :
    (latchLaw latched).Passes (Session.reply outside event) session :=
  Law.passes_reply hrunning fun _ => trivial

/-- A command keeps the latch if it builds no controller over it: a reset that is refused leaves the
controller as it is, and one that is granted releases the fault. -/
theorem latchLaw_command (hL : L.LatchesFaults latched) {started : Nat} {command : L.Command}
    {outside : Outside} {session : Session L}
    (hC : KeepsLatch settings ⟨session.world, .running started session.locals⟩
      (.select (.incoming (.text (.ok command))) outside))
    (hrunning : (latchLaw latched).running session) :
    (latchLaw latched).Passes (Session.handleCommand settings outside command)
      ((session.note (.took (.select (.incoming (.text (.ok command))) outside))).touched
        outside) := by
  cases command with
  | «show» message =>
    exact Session.handleShow_ends (fun _ => trivial) (latchLaw_reply _ _ hrunning)
  | clear =>
    exact Session.handleClear_ends (World.clearSink_ends
      (fun _ _ _ => latchLaw_reply _ _ hrunning) fun _ _ _ => trivial)
  | configure next =>
    refine Session.handleConfigure_ends (fun _ _ _ => trivial) (fun _ _ _ _ => trivial) ?_
    intro fs hpersisted safety hsafety
    have hreleased : ¬ faultPending session.world.history = true := fun hpending =>
      hC hpending ⟨⟨fs, hpersisted.returned⟩, safety, hsafety⟩
    refine World.clearSink_ends (fun _ _ _ => latchLaw_reply _ _ fun hpending => ?_)
      fun _ _ _ => trivial
    exact absurd hpending hreleased
  | ping nonce => exact latchLaw_reply _ _ hrunning
  | resetSafetyFault authorization =>
    refine Session.handleResetSafetyFault_ends
      (fun safety _ => latchLaw_reply _ _ fun hpending => ?_) fun error safety hreset => ?_
    · exact absurd hpending Bool.false_ne_true
    · cases hL.reset hreset
      exact latchLaw_reply _ _ hrunning
  | stageFirmware => exact latchLaw_reply _ _ hrunning
  | activateStagedFirmware => exact latchLaw_reply _ _ hrunning

/-- A frame tick keeps the latch: an observation never releases a fault. -/
theorem latchLaw_frameTick (hL : L.LatchesFaults latched) {outside : Outside} {session : Session L}
    (hrunning : (latchLaw latched).running session) :
    (latchLaw latched).Passes (Session.frameTick outside)
      (session.note (.took (.select .frameTick outside))) := by
  refine Session.frameTick_ends (fun decision safety hobserve hdecision => ?_)
    fun decision safety hobserve hdecision => ?_
  · exact World.clearSink_ends (fun _ _ _ _ => (hL.observe hobserve).2.1 hdecision)
      fun _ _ _ => trivial
  · -- Whatever was latched before is latched after the observation.
    have hobserved : (decision.faultLatched || faultPending session.world.history) = true →
        latched safety := by
      rw [hdecision, Bool.false_or]
      exact fun hpending => (hL.observe hobserve).1 (hrunning hpending)
    refine Session.presentActive_ends (fun _ => hobserved) (fun _ _ _ _ => trivial) ?_ ?_
    · intro active _ frame _
      exact World.presentSink_ends (fun _ _ _ _ => hobserved) fun _ _ _ => trivial
    · intro active _ _
      exact World.clearSink_ends (fun _ _ _ => hobserved) fun _ _ _ => trivial

/-- Every part of the agent keeps the latch, as long as no controller is built over it. -/
theorem latchLaw_parts (hL : L.LatchesFaults latched) :
    (latchLaw latched).Parts settings (KeepsLatch settings) where
  weaken _ := trivial
  start outside world hC _ := by
    refine Session.start_ends (fun _ => trivial) (fun _ => trivial) (fun _ => trivial) ?_
    intro instant hconnect hsend safety hsafety hpending
    exact absurd ⟨⟨instant, hconnect⟩, hsend, safety, hsafety⟩ (hC hpending)
  idle incoming outside session _ hrunning := hrunning
  ping outside session hrunning := hrunning
  command started command outside session hC hrunning := latchLaw_command hL hC hrunning
  frameTick started outside session _ hrunning := latchLaw_frameTick hL hrunning
  telemetryTick outside telemetry session hrunning := hrunning
  finish started outside world _ _ :=
    World.finish_ends (World.clearSink_ends (fun _ _ _ _ => trivial) fun _ _ _ => trivial)

/-- A frame tick that gets as far as presenting finds no unreleased fault. -/
theorem presentable_released (hL : L.LatchesFaults latched) (machine : Machine L) (input : Input L)
    (hholds : (latchLaw latched).Holds machine) : Presentable Released machine input := by
  unfold Presentable
  split
  · next started locals outside hphase =>
    intro decision safety hobserve hdecision active _ frame _ after result _ _ _
    have hrunning : faultPending machine.world.history = true → latched locals.safety := by
      unfold Law.Holds at hholds
      rw [hphase] at hholds
      exact hholds
    cases hpending : faultPending machine.world.history with
    | false => simp [Effect.faultPending, hdecision, hpending]
    | true =>
      have hlatched := (hL.observe hobserve).1 (hrunning hpending)
      rw [(hL.observe hobserve).2.2 hlatched] at hdecision
      cases hdecision
  · trivial

/-- As long as no controller is built anew while a fault is unreleased, nothing is presented between
an observation that latches a fault and a successful authorised reset. -/
theorem presents_released (hL : L.LatchesFaults latched) (config : DisplayConfig)
    (sink : FrameSink) (fs : FileSystem) {inputs : List (Input L)}
    (hkept : Transition.Along (Machine.step settings) (KeepsLatch settings)
      (.initial config sink fs) inputs) :
    Always Released ((Machine.initial config sink fs).run settings inputs).world.history := by
  have hinitial : (latchLaw latched).Holds (Machine.initial config sink fs) := trivial
  have hpresentable : ∀ machine input, (latchLaw latched).Holds machine →
      KeepsLatch settings machine input → Presentable Released machine input := by
    intro machine input hholds _
    exact presentable_released hL machine input hholds
  exact (released_judges.always_run (latchLaw_parts hL).kept hpresentable hinitial hkept).2

end

/-! ## With the reference instance -/

/-- The reference controller keeps its latch through observations and refused resets. -/
theorem Leddy.reference_latchesFaults :
    Leddy.reference.LatchesFaults fun safety => safety.latched = true where
  observe := by
    intro safety observation decision safety' h
    cases h
    exact ⟨fun hlatched => Reference.Controller.observe_latched hlatched observation, by simp⟩
  reset := by
    intro safety authorization now error safety' h
    have herror := Reference.Controller.resetAuthorized_error now (congrArg Prod.fst h)
    exact (congrArg Prod.snd h).symm.trans herror

/-- A session in which a message is shown and then nothing is heard for 20 seconds, so that a fault
is latched. -/
def silentSession : List (Input Leddy.reference) :=
  [.connect (.calm ⟨0, 0⟩),
   .select (.incoming (.text (.ok (.show ⟨"m", 255, 3600000⟩)))) (.calm ⟨1000000, 1000000⟩),
   .select .frameTick (.calm ⟨20000000000, 20000000000⟩)]

/-- With an authorised reset after the silence the display goes on. -/
theorem presents_released_reset :
    Always Released (Machine.sample.run (.fromEnv fun _ => none) (silentSession ++
      [.select (.incoming (.text (.ok (.resetSafetyFault ⟨"a", true⟩))))
        (.calm ⟨21000000000, 21000000000⟩),
       .select .frameTick (.calm ⟨21050000000, 21050000000⟩)])).world.history :=
  presents_released Leddy.reference_latchesFaults _ _ _
    ⟨fun h => absurd h (by decide), fun _ h => h, fun _ h => h, fun _ h => h, fun _ h => h, trivial⟩

/-- A `Configure` after the silence brings the frame back without any reset, and so does the end of
the session. -/
theorem rebuilding_drops_latch :
    (¬ Always Released (Machine.sample.run (.fromEnv fun _ => none) (silentSession ++
      [.select (.incoming (.text (.ok (.configure Reference.supportedConfig))))
        (.calm ⟨21000000000, 21000000000⟩),
       .select .frameTick (.calm ⟨21050000000, 21050000000⟩)])).world.history) ∧
    ¬ Always Released (Machine.sample.run (.fromEnv fun _ => none) (silentSession ++
      [.select (.incoming .close) (.calm ⟨21000000000, 21000000000⟩),
       .finish (.calm ⟨21000000000, 21000000000⟩),
       .connect (.calm ⟨22000000000, 22000000000⟩),
       .select (.incoming (.text (.ok (.show ⟨"m", 255, 3600000⟩))))
        (.calm ⟨22000000000, 22000000000⟩),
       .select .frameTick (.calm ⟨22050000000, 22050000000⟩)])).world.history := by
  constructor <;> decide

end LeddyRaspPi
