import LeddyRaspPi.Agent.Passes

/-!
# Losing the helper

A helper that has exited, or a write to it that fails, is an error of the session in progress: the
frame is not reported as presented, and `main` goes on to the next session. But `main` itself clears
the sink behind every session and returns if that fails, so the agent outlives the helper exactly as
long as the helper is found alive at each of these clears (`helper_loss_survived`).
-/

namespace LeddyRaspPi

open Fallible History

variable {L : Leddy} {settings : RuntimeSettings}

/-- A frame reported as presented has been written as a whole. -/
def Delivered (_past : List (Effect L)) : Effect L → Prop
  | .presented config frame before after (.ok _) =>
    before.1.isHub75 = true → FrameSink.sent before after = packetBytes config (L.rowMajor frame)
  | _ => True

/-- `main` has not returned, and it has slept behind every session. -/
def Machine.GoesOn (machine : Machine L) : Prop :=
  match machine.phase with
  | .ready => machine.world.history = [] ∨
      ∃ delay past, machine.world.history = .slept delay :: past
  | .running .. => True
  | .ended _ => True
  | .exited _ => False

/-- If the input finishes a session, the helper is running then and takes a black packet. -/
def TakesClear (machine : Machine L) (input : Input L) : Prop :=
  match machine.phase, input with
  | .ended _, .finish outside => outside.sink.Takes (20 + L.pixelCount machine.world.config)
  | _, _ => True

instance (machine : Machine L) (input : Input L) : Decidable (TakesClear machine input) :=
  match machine, input with
  | ⟨world, .ended _⟩, .finish outside =>
    inferInstanceAs (Decidable (outside.sink.Takes (20 + L.pixelCount world.config)))
  | ⟨_, .ended _⟩, .connect _ => isTrue trivial
  | ⟨_, .ended _⟩, .select .. => isTrue trivial
  | ⟨_, .ready⟩, _ => isTrue trivial
  | ⟨_, .running ..⟩, _ => isTrue trivial
  | ⟨_, .exited _⟩, _ => isTrue trivial

/-! ## The frames that are reported -/

/-- Only a call of `sink.present` reports a frame. -/
theorem delivered_judges : Judges (Delivered : List (Effect L) → Effect L → Prop) := by
  refine .of_presents fun past effect hpresents => ?_
  cases effect with
  | presented => cases hpresents
  | _ => trivial

/-- A frame that is reported was written to the helper as a whole. -/
theorem presentable_delivered (machine : Machine L) (input : Input L) :
    Presentable Delivered machine input := by
  unfold Presentable
  split
  · next started locals outside hphase =>
    intro decision safety _ _ active _ frame _ after result _ hsent
    cases result with
    | error error => trivial
    | ok stats =>
      intro hhub
      rw [hsent stats rfl]
      cases hsink : machine.world.sink with
      | snapshot sink => rw [hsink] at hhub; cases hhub
      | hub75 sink => rfl
  · trivial

/-! ## The loop of `main` -/

/-- No call exchanges the HUB75 sink for another one. -/
theorem isHub75_stable :
    Stable settings fun world : World L => world.sink.isHub75 = true where
  note h := h
  called h honly := honly.kind.trans h
  refused h _ := h
  configured h _ := h
  slept h := h

/-- What the end of a session does with a helper: it sleeps if the helper takes the clear, and fails
if not. -/
theorem World.finish_hub75_ends (hL : L.CountsPixels) (started : Nat) (outside : Outside)
    (world : World L) (hhub : world.sink.isHub75 = true) :
    Ends (World.finish started outside) world
      (fun _ world' => outside.sink.Takes (20 + L.pixelCount world.config) ∧
        ∃ delay past, world'.history = .slept delay :: past)
      (fun _ _ => ¬ outside.sink.Takes (20 + L.pixelCount world.config)) := by
  obtain ⟨config, _ | sink, backoff, fs, history⟩ := world
  · cases hhub
  · refine World.finish_ends ?_
    rw [World.clearSink, ends_bind, ends_get, World.onSink_ends, FrameSink.clear, ends_bind,
      ends_get]
    refine (FrameSink.ends_onHub75 _).2 (Hub75Sink.clear_ends.mono ?_ ?_)
    · intro _ sink' h backoff
      exact ⟨h.1, _, _, rfl⟩
    · intro _ sink' h
      exact h.2 (hL.lt_size config)

/-- Between two sessions `main` has slept, and it has not returned. -/
def sleepLaw (L : Leddy) : Law L where
  ready world := world.history = [] ∨ ∃ delay past, world.history = .slept delay :: past
  running _ := True
  ended _ := True
  exited _ := False

/-- `main` comes back to its loop from every session behind which the helper takes the clear. -/
theorem sleepLaw_kept (hL : L.CountsPixels) :
    (sleepLaw L).Kept settings fun machine input =>
      machine.world.sink.isHub75 = true ∧ TakesClear machine input where
  start _ _ _ _ := ends_of_forall (fun _ _ => trivial) fun _ _ => trivial
  select _ _ _ _ _ _ := ends_of_forall (fun _ _ => ⟨fun _ => trivial, fun _ => trivial⟩)
    fun _ _ => trivial
  finish started outside world hC _ := by
    refine (World.finish_hub75_ends hL started outside
      (world.note (.took (.finish outside))) hC.1).mono (fun _ _ h => Or.inr h.2) ?_
    intro _ _ hrefused
    exact hrefused hC.2

/-- The sink is the helper, and `main` sleeps behind every session. -/
def helperLaw (L : Leddy) : Law L :=
  (worldLaw fun world => world.sink.isHub75 = true).and (sleepLaw L)

/-- As long as the clear at the end of each session is taken, the agent goes on with its helper. -/
theorem helperLaw_kept (hL : L.CountsPixels) : (helperLaw L).Kept settings TakesClear := by
  refine (worldLaw_parts isHub75_stable).kept.and (sleepLaw_kept hL) ?_
  intro machine input hholds hC
  exact ⟨worldLaw_holds.1 hholds, hC⟩

/-- The sink stays the one of the helper. -/
theorem helperLaw_isHub75 {machine : Machine L} (h : (helperLaw L).Holds machine) :
    machine.world.sink.isHub75 = true :=
  worldLaw_holds.1 (Law.holds_and.1 h).1

/-- Where the law holds `main` has not returned. -/
theorem helperLaw_goesOn {machine : Machine L} (h : (helperLaw L).Holds machine) :
    machine.GoesOn := by
  obtain ⟨world, phase⟩ := machine
  cases phase with
  | ready => exact h.2
  | running started locals => trivial
  | ended started => trivial
  | exited error => exact h.2

/-- `main` has returned with an error. -/
def Machine.Returned (machine : Machine L) : Prop := ∃ error, machine.phase = .exited error

/-- An agent that has returned from `main` does not go on. -/
theorem Machine.Returned.not_goesOn {machine : Machine L} (h : machine.Returned) :
    ¬ machine.GoesOn := by
  obtain ⟨error, h⟩ := h
  unfold GoesOn
  rw [h]
  exact id

/-- An agent that has returned takes no input. -/
theorem Machine.Returned.step {machine : Machine L} (input : Input L) (h : machine.Returned) :
    (machine.step settings input).Returned := by
  obtain ⟨world, phase⟩ := machine
  obtain ⟨error, h⟩ := h
  cases h
  cases input <;> exact ⟨error, rfl⟩

/-- A clear that the helper does not take makes `main` return. -/
theorem Machine.step_returned (hL : L.CountsPixels) {machine : Machine L} {input : Input L}
    (h : ¬ TakesClear machine input) (hhub : machine.world.sink.isHub75 = true) :
    (machine.step settings input).Returned := by
  obtain ⟨world, phase⟩ := machine
  unfold TakesClear at h
  split at h
  · next started outside hphase =>
    cases hphase
    have hends := World.finish_hub75_ends hL started outside (world.note (.took (.finish outside)))
      hhub
    unfold Ends at hends
    show Machine.Returned (Machine.afterFinish (World.finish started outside
      (world.note (.took (.finish outside)))))
    cases hrun : World.finish started outside (world.note (.took (.finish outside))) with
    | ok u world' => rw [hrun] at hends; exact absurd hends.1 h
    | error error world' => exact ⟨error, rfl⟩
  · exact absurd trivial h

/-- With a helper, no frame is reported as presented whose packet has not been written as a whole,
and `main` goes on exactly in the runs in which the helper takes the clear behind every session. -/
theorem helper_loss_survived (hL : L.CountsPixels) (config : DisplayConfig) (sink : Hub75Sink)
    (fs : FileSystem) (inputs : List (Input L)) :
    Always Delivered ((Machine.initial config (.hub75 sink) fs).run settings inputs).world.history ∧
    (((Machine.initial config (.hub75 sink) fs).run settings inputs).GoesOn ↔
      Transition.Along (Machine.step settings) TakesClear (.initial config (.hub75 sink) fs)
        inputs) := by
  have hdelivered : (historyLaw Delivered).Holds
      ((Machine.initial config (.hub75 sink) fs).run settings inputs) :=
    (historyLaw_parts delivered_judges).kept.run (worldLaw_holds.2 trivial)
      (Transition.along_of_forall presentable_delivered)
  have hinitial : (helperLaw L).Holds (Machine.initial config (.hub75 sink) fs) := ⟨rfl, Or.inl rfl⟩
  have hkept : (helperLaw L).Kept settings TakesClear := helperLaw_kept hL
  refine ⟨worldLaw_holds.1 hdelivered, ?_, ?_⟩
  · intro hgoesOn
    by_contra hmissed
    have hreturned : Machine.Returned
        ((Machine.initial config (.hub75 sink) fs).run settings inputs) :=
      Transition.run_of_not_along (I := (helperLaw L).Holds)
        (fun _ input hC => hkept.step input hC)
        (fun _ _ hC hholds => Machine.step_returned hL hC (helperLaw_isHub75 hholds))
        (fun _ input => Machine.Returned.step input) hinitial hmissed
    exact hreturned.not_goesOn hgoesOn
  · intro halong
    exact helperLaw_goesOn (hkept.run hinitial halong)

/-! ## With the reference instance -/

/-- An outside in which the helper has exited. -/
def Outside.helperGone (now : Clock) : Outside :=
  { Outside.calm now with
    sink := { (Outside.calm now).sink with tryWait := .ok (some "signal: 9 (SIGKILL)") } }

/-- An outside in which the helper's stdin takes 100 bytes and no more. -/
def Outside.pipeBroken (now : Clock) : Outside :=
  { Outside.calm now with
    sink := { (Outside.calm now).sink with room := some (100, ⟨.brokenPipe, "Broken pipe"⟩) } }

/-- The agent of the examples with a helper. -/
def Machine.withHelper : Machine Leddy.reference :=
  .initial Reference.supportedConfig (.hub75 ⟨[]⟩) fun _ => .absent

/-- A session in which a message is shown and the helper breaks off in the middle of its first
frame, and how the session is finished. -/
def brokenSession (last : Outside) : List (Input Leddy.reference) :=
  [.connect (.calm ⟨0, 0⟩),
   .select (.incoming (.text (.ok (.show ⟨"m", 255, 3600000⟩)))) (.calm ⟨1000000, 1000000⟩),
   .select .frameTick (.pipeBroken ⟨50000000, 50000000⟩),
   .finish last]

/-- A session the server closes when nothing has been shown yet, and how it is finished. -/
def idleSession (last : Outside) : List (Input Leddy.reference) :=
  [.connect (.calm ⟨0, 0⟩), .select (.incoming .close) (.calm ⟨50000000, 50000000⟩), .finish last]

set_option maxRecDepth 4000 in
/-- If only that write fails, the frame is not reported and the agent goes on. -/
theorem helper_loss_survived_write :
    Always Delivered (Machine.withHelper.run (.fromEnv fun _ => none)
      (brokenSession (.calm ⟨60000000, 60000000⟩))).world.history ∧
    (Machine.withHelper.run (.fromEnv fun _ => none)
      (brokenSession (.calm ⟨60000000, 60000000⟩))).GoesOn :=
  (helper_loss_survived Leddy.reference_countsPixels Reference.supportedConfig ⟨[]⟩
    (fun _ => .absent) _).imp_right fun h => h.2 (by decide +kernel)

set_option maxRecDepth 4000 in
/-- A helper that has exited, during a frame or while the agent was idle, ends the agent behind the
session. -/
theorem helper_loss_returns :
    (¬ (Machine.withHelper.run (.fromEnv fun _ => none)
      (brokenSession (.helperGone ⟨60000000, 60000000⟩))).GoesOn) ∧
    ¬ (Machine.withHelper.run (.fromEnv fun _ => none)
      (idleSession (.helperGone ⟨60000000, 60000000⟩))).GoesOn := by
  constructor <;> exact id

end LeddyRaspPi
