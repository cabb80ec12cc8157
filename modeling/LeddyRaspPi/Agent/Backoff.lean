import LeddyRaspPi.Agent.Passes

/-!
# The delay before a reconnect

What `main` waits after an attempt is a fold over all attempts so far. An attempt counts as healthy
if its handshake completed and the session then stayed up for ten seconds; both are read off the
history, with `endedAt outside` for the instant at which the session of an attempt was over. The
timer of `main` measures something else: it runs from before the handshake until after the final
clear (`Measured` says that this makes no difference). `delays_iff` shows that the delays are right
as long as every attempt is measured right, and no longer.
-/

namespace LeddyRaspPi

open Fallible History

variable {L : Leddy} {settings : RuntimeSettings} {endedAt : Outside → Nat}

/-! ## Attempts -/

/-- The instant at which the handshake of the latest attempt completed. -/
def handshake : List (Effect L) → Option Nat
  | [] => none
  | .took (.connect outside) :: _ => outside.connect.toOption
  | _ :: past => handshake past

/-- The latest attempt, which ends with `outside`, was healthy. -/
def HealthyAttempt (endedAt : Outside → Nat) (outside : Outside) (past : List (Effect L)) : Prop :=
  ∃ instant, handshake past = some instant ∧ healthySession ≤ endedAt outside - instant

instance (outside : Outside) (past : List (Effect L)) :
    Decidable (HealthyAttempt endedAt outside past) :=
  match hhandshake : handshake past with
  | none => isFalse (by simp [HealthyAttempt, hhandshake])
  | some instant =>
    decidable_of_iff (healthySession ≤ endedAt outside - instant)
      (by simp [HealthyAttempt, hhandshake])

/-- How many attempts, up to the latest that is over, were unhealthy in a row. -/
def unhealthyRun (endedAt : Outside → Nat) : List (Effect L) → Nat
  | [] => 0
  | .took (.finish outside) :: past =>
    if HealthyAttempt endedAt outside past then 0 else unhealthyRun endedAt past + 1
  | _ :: past => unhealthyRun endedAt past

/-- The delay after `k` unhealthy attempts in a row. -/
def delayAfter (k : Nat) : Nat := min (minReconnectBackoff * 2 ^ k) maxReconnectBackoff

/-- The delay before a reconnect is the one for the attempts so far. -/
def Delayed (endedAt : Outside → Nat) (past : List (Effect L)) : Effect L → Prop
  | .slept delay => delay = delayAfter (unhealthyRun endedAt past)
  | _ => True

/-- An entry within an attempt leaves the run of unhealthy attempts as it is. -/
theorem unhealthyRun_cons {effect : Effect L} {past : List (Effect L)}
    (h : effect.closes = false) :
    unhealthyRun endedAt (effect :: past) = unhealthyRun endedAt past := by
  cases effect with
  | took input =>
    cases input with
    | finish outside => cases h
    | _ => rfl
  | slept delay => cases h
  | _ => rfl

/-- Only a sleep says anything about a delay. -/
theorem delayed_of_not_closes {effect : Effect L} {past : List (Effect L)}
    (h : effect.closes = false) : Delayed endedAt past effect := by
  cases effect with
  | slept delay => cases h
  | _ => trivial

/-! ## The delays -/

/-- After a healthy attempt the delay is the shortest. -/
@[simp] theorem delayAfter_zero : delayAfter 0 = minReconnectBackoff := rfl

/-- One more unhealthy attempt doubles the delay, up to the cap. -/
theorem delayAfter_succ (k : Nat) : delayAfter (k + 1) = nextBackoff (delayAfter k) := by
  rw [delayAfter, delayAfter, nextBackoff, pow_succ, ← Nat.mul_assoc]
  omega

/-- The delay behind an unhealthy attempt is longer than the one behind a healthy one. -/
theorem delayAfter_succ_ne (k : Nat) : delayAfter (k + 1) ≠ minReconnectBackoff := by
  have hpow : 1 ≤ 2 ^ k := Nat.one_le_two_pow
  rw [delayAfter, minReconnectBackoff, maxReconnectBackoff, pow_succ]
  omega

/-! ## The loop of `main` -/

/-- The delays were right so far, and the stored one is the one for the attempts so far. -/
structure Paced (endedAt : Outside → Nat) (world : World L) : Prop where
  backoff : world.backoff = delayAfter (unhealthyRun endedAt world.history)
  delayed : Always (Delayed endedAt) world.history

/-- The timer of `main` tells healthy attempts from others: if the final clear succeeds, ten seconds
have passed from the start of the attempt to the reading behind the clear exactly if the attempt was
healthy. -/
def Measured (endedAt : Outside → Nat) (machine : Machine L) (input : Input L) : Prop :=
  match machine.phase, input with
  | .ended started, .finish outside =>
    ∀ u after, FrameSink.clear L machine.world.config outside.sink
        (machine.world.sink, machine.world.fs) = .ok u after →
      (healthySession ≤ outside.first.mono - started ↔
        HealthyAttempt endedAt outside machine.world.history)
  | _, _ => True

/-- Within an attempt nothing touches the delays. -/
theorem paced_steady : Steady settings (Paced endedAt : World L → Prop) where
  note hcloses h :=
    ⟨by rw [World.note_history, unhealthyRun_cons hcloses]; exact h.backoff,
      delayed_of_not_closes hcloses, h.delayed⟩
  called hcloses h _ :=
    ⟨by rw [World.called_history, unhealthyRun_cons hcloses]; exact h.backoff,
      delayed_of_not_closes hcloses, h.delayed⟩
  refused h _ := ⟨h.backoff, h.delayed⟩
  configured h _ := ⟨h.backoff, trivial, h.delayed⟩

/-- What `main` takes for the delay behind an attempt. -/
def chosenDelay (started : Nat) (outside : Outside) (backoff : Nat) : Nat :=
  if outside.first.mono - started ≥ healthySession then minReconnectBackoff else nextBackoff backoff

/-- The end of an attempt, by how the final clear goes: where it succeeds, `main` waits and stores
the delay it has chosen. -/
theorem World.finish_cases {started : Nat} {outside : Outside} {world : World L}
    {Q : Unit → World L → Prop} {E : BoxError → World L → Prop}
    (hok : ∀ u after, FrameSink.clear L world.config outside.sink (world.sink, world.fs) =
        .ok u after →
      Q () { (world.called after (.cleared world.config (world.sink, world.fs) after (.ok ()))).note
          (.slept (chosenDelay started outside world.backoff)) with
        backoff := chosenDelay started outside world.backoff })
    (herror : ∀ error after, FrameSink.clear L world.config outside.sink (world.sink, world.fs) =
        .error error after →
      E (.io error) (world.called after
        (.cleared world.config (world.sink, world.fs) after (.error error)))) :
    Ends (World.finish started outside) world Q E := by
  rw [World.finish, ends_bind, World.clearSink, ends_bind, ends_get, World.onSink_ends, Ends]
  cases hclear : FrameSink.clear L world.config outside.sink (world.sink, world.fs) with
  | ok u after => exact hok u after hclear
  | error error after => exact herror error after hclear

/-- Behind an attempt the delay `main` chooses is right if the attempt was measured right. -/
theorem Paced.chosenDelay_iff {started : Nat} {outside : Outside} {world : World L}
    (h : Paced endedAt world) :
    chosenDelay started outside world.backoff =
        delayAfter (unhealthyRun endedAt (.took (.finish outside) :: world.history)) ↔
      (healthySession ≤ outside.first.mono - started ↔
        HealthyAttempt endedAt outside world.history) := by
  rw [chosenDelay, unhealthyRun, h.backoff, ← delayAfter_succ]
  by_cases htimer : healthySession ≤ outside.first.mono - started
  · by_cases hhealthy : HealthyAttempt endedAt outside world.history
    · simp [htimer, hhealthy]
    · simp [htimer, hhealthy, (delayAfter_succ_ne _).symm]
  · by_cases hhealthy : HealthyAttempt endedAt outside world.history
    · simp [htimer, hhealthy, delayAfter_succ_ne]
    · simp [htimer, hhealthy]

/-- As long as the attempts are measured right, the delays are right. -/
theorem paced_parts : (attemptLaw (Paced endedAt : World L → Prop)
    fun world => Always (Delayed endedAt) world.history).Parts settings (Measured endedAt) :=
  attemptLaw_parts paced_steady.sustained fun started outside world hmeasured hended => by
    refine World.finish_cases (fun u after hclear => ?_) fun _ _ _ => ?_
    · have hdelay := hended.chosenDelay_iff.2 (hmeasured u after hclear)
      exact ⟨hdelay, hdelay, trivial, trivial, hended.delayed⟩
    · exact ⟨trivial, trivial, hended.delayed⟩

/-- A wrong delay stays in the history. -/
theorem not_delayed_stable :
    Stable settings fun world : World L => ¬ Always (Delayed endedAt) world.history where
  note h := fun halways => h halways.2
  called h _ := fun halways => h halways.2
  refused h _ := h
  configured h _ := fun halways => h halways.2
  slept h := h

/-- An attempt that is measured wrong is followed by a wrong delay. -/
theorem not_delayed_of_not_measured {machine : Machine L} {input : Input L}
    (hmeasured : ¬ Measured endedAt machine input)
    (hholds : (attemptLaw (Paced endedAt : World L → Prop)
      fun world => Always (Delayed endedAt) world.history).Holds machine) :
    ¬ Always (Delayed endedAt) (machine.step settings input).world.history := by
  obtain ⟨world, phase⟩ := machine
  unfold Measured at hmeasured
  split at hmeasured
  · next started outside hphase =>
    cases hphase
    simp only [not_forall] at hmeasured
    obtain ⟨u, after, hclear, hwrong⟩ := hmeasured
    have hends : Ends (World.finish started outside) (world.note (.took (.finish outside)))
        (fun _ world' => ¬ Always (Delayed endedAt) world'.history) fun _ _ => False := by
      refine World.finish_cases (fun _ _ _ halways => ?_) fun error after' herror => ?_
      · exact hwrong (hholds.chosenDelay_iff.1 halways.1)
      · cases hclear.symm.trans herror
    unfold Ends at hends
    show ¬ Always (Delayed endedAt) (Machine.afterFinish (World.finish started outside
      (world.note (.took (.finish outside))))).world.history
    cases hrun : World.finish started outside (world.note (.took (.finish outside))) with
    | ok u world' => rw [hrun] at hends; exact hends
    | error error world' => rw [hrun] at hends; exact hends.elim
  · exact absurd trivial hmeasured

/-- A delay within the two bounds. -/
def WithinBounds (delay : Nat) : Prop := minReconnectBackoff ≤ delay ∧ delay ≤ maxReconnectBackoff

/-- The stored delay and all delays so far are within the bounds. -/
structure Bounded (world : World L) : Prop where
  backoff : WithinBounds world.backoff
  delays : ∀ delay, .slept delay ∈ world.history → WithinBounds delay

/-- Whichever branch `main` takes, the delay it sleeps for is within the bounds. -/
theorem chosenDelay_withinBounds {started backoff : Nat} {outside : Outside}
    (h : WithinBounds backoff) : WithinBounds (chosenDelay started outside backoff) := by
  unfold WithinBounds chosenDelay nextBackoff minReconnectBackoff maxReconnectBackoff at *
  split <;> omega

/-- No call within an attempt changes the delay. -/
theorem bounded_steady : Steady settings (Bounded : World L → Prop) where
  note hcloses h := by
    refine ⟨h.backoff, fun delay hmem => ?_⟩
    rcases List.mem_cons.1 hmem with rfl | hmem
    · cases hcloses
    · exact h.delays delay hmem
  called hcloses h _ := by
    refine ⟨h.backoff, fun delay hmem => ?_⟩
    rcases List.mem_cons.1 hmem with rfl | hmem
    · cases hcloses
    · exact h.delays delay hmem
  refused h _ := ⟨h.backoff, h.delays⟩
  configured h _ := by
    refine ⟨h.backoff, fun delay hmem => ?_⟩
    rcases List.mem_cons.1 hmem with hne | hmem
    · cases hne
    · exact h.delays delay hmem

/-- However the attempts are measured, every delay is within the bounds. -/
theorem delays_withinBounds (config : DisplayConfig) (sink : FrameSink) (fs : FileSystem)
    (inputs : List (Input L)) (delay : Nat)
    (hmem : .slept delay ∈ ((Machine.initial config sink fs).run settings inputs).world.history) :
    WithinBounds delay := by
  have hkept : (attemptLaw (Bounded : World L → Prop) fun world =>
        ∀ delay, .slept delay ∈ world.history → WithinBounds delay).Kept settings
      fun _ _ => True := by
    refine (attemptLaw_parts bounded_steady.sustained fun started outside world _ hended => ?_).kept
    refine World.finish_cases (fun u after _ => ?_) fun error after _ delay hmem => ?_
    · refine ⟨chosenDelay_withinBounds hended.backoff, fun delay hmem => ?_⟩
      simp only [World.note_history, World.called_history, List.mem_cons, Effect.slept.injEq,
        reduceCtorEq, false_or] at hmem
      rcases hmem with rfl | hmem
      · exact chosenDelay_withinBounds hended.backoff
      · exact hended.delays delay hmem
    · simp only [World.note_history, World.called_history, List.mem_cons, reduceCtorEq,
        false_or] at hmem
      exact hended.delays delay hmem
  have hinitial : Bounded (World.initial config sink fs : World L) :=
    ⟨⟨le_rfl, show minReconnectBackoff ≤ maxReconnectBackoff by decide⟩,
      fun _ hnil => absurd hnil List.not_mem_nil⟩
  have hholds : (attemptLaw (Bounded : World L → Prop) fun world =>
      ∀ delay, .slept delay ∈ world.history → WithinBounds delay).Holds
        (Machine.initial config sink fs) := hinitial
  exact attemptLaw_holds_exited (fun _ hbounded => hbounded.delays)
    (hkept.run_all hholds inputs) delay hmem

/-- After every run every delay is within the bounds, and the delays are those for the attempts so
far if and only if every attempt was measured right. -/
theorem delays_iff (endedAt : Outside → Nat) (settings : RuntimeSettings) (config : DisplayConfig)
    (sink : FrameSink) (fs : FileSystem) (inputs : List (Input L)) :
    (∀ delay, .slept delay ∈ ((Machine.initial config sink fs).run settings inputs).world.history →
        WithinBounds delay) ∧
      (Always (Delayed endedAt)
          ((Machine.initial config sink fs).run settings inputs).world.history ↔
        Transition.Along (Machine.step settings) (Measured endedAt)
          (.initial config sink fs : Machine L) inputs) := by
  have hkept : (attemptLaw (Paced endedAt : World L → Prop)
      fun world => Always (Delayed endedAt) world.history).Kept settings (Measured endedAt) :=
    paced_parts.kept
  have hinitial : (attemptLaw (Paced endedAt : World L → Prop)
      fun world => Always (Delayed endedAt) world.history).Holds (.initial config sink fs) :=
    ⟨rfl, trivial⟩
  refine ⟨delays_withinBounds config sink fs inputs, ?_⟩
  constructor
  · intro halways
    by_contra hmissed
    have hstay : ∀ (machine : Machine L) input, ¬ Always (Delayed endedAt) machine.world.history →
        ¬ Always (Delayed endedAt) (machine.step settings input).world.history :=
      fun machine input h => worldLaw_holds.1 ((worldLaw_parts not_delayed_stable).kept.step input
        (C := fun _ _ => True) trivial (worldLaw_holds.2 h))
    refine Transition.run_of_not_along (B := fun machine : Machine L =>
      ¬ Always (Delayed endedAt) machine.world.history)
      (fun _ input hC hholds => hkept.step input hC hholds)
      (fun _ _ hC hholds => not_delayed_of_not_measured hC hholds) hstay hinitial hmissed halways
  · intro hmeasured
    exact attemptLaw_holds_exited (fun _ hpaced => hpaced.delayed) (hkept.run hinitial hmeasured)

/-! ## With the reference instance -/

/-- An attempt whose handshake fails after ten seconds. -/
def slowFailure : List (Input Leddy.reference) :=
  [.connect { Outside.calm ⟨0, 0⟩ with connect := .error "timed out" },
    .finish (.calm ⟨10000000000, 0⟩)]

/-- The failed attempt is followed by the delay of a healthy one, where twice that is due. -/
theorem slowFailure_delay :
    (Machine.sample.run (.fromEnv fun _ => none) slowFailure).world.backoff = 250000000 ∧
      delayAfter 1 = 500000000 ∧ ∀ endedAt, ¬ Always (Delayed endedAt)
        (Machine.sample.run (.fromEnv fun _ => none) slowFailure).world.history := by
  refine ⟨by decide, by decide, fun endedAt halways => ?_⟩
  have hdelay : 250000000 = delayAfter (unhealthyRun endedAt
      (Machine.sample.run (.fromEnv fun _ => none) slowFailure).world.history.tail) := halways.1
  obtain ⟨effect, hcloses, htail⟩ : ∃ effect : Effect Leddy.reference, effect.closes = false ∧
      (Machine.sample.run (.fromEnv fun _ => none) slowFailure).world.history.tail =
        effect :: (slowFailure.map Effect.took).reverse := ⟨_, rfl, rfl⟩
  have hunhealthy : ¬ HealthyAttempt endedAt (.calm ⟨10000000000, 0⟩)
      (slowFailure.map Effect.took).reverse.tail := by
    intro hhealthy
    obtain ⟨_, hhandshake, _⟩ := hhealthy
    cases hhandshake
  rw [htail, unhealthyRun_cons hcloses] at hdelay
  exact delayAfter_succ_ne _ (hdelay.trans (congrArg delayAfter (if_neg hunhealthy))).symm

end LeddyRaspPi
