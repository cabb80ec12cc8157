import LeddyRaspPi.Agent.Passes

/-!
# The communication watchdog

The watchdog compares two readings of the wall clock, in whole milliseconds: the one at the last
contact and the one at the frame tick. It therefore measures the time that has really passed as far
as the wall clock was not stepped in between, and to a millisecond (`watchdog_measures`).
-/

namespace LeddyRaspPi

open Fallible

variable {L : Leddy}

/-! ## Reading the clock -/

/-- Unix time in milliseconds, cut off at 64 bits. -/
theorem toNat_nowUnixMs (now : Clock) :
    (nowUnixMs now).toNat = min (now.wall.toNat / 1000000) (2 ^ 64 - 1) := by
  simp only [nowUnixMs]
  split
  · next hlt =>
    have hlt' : now.wall.toNat / 1000000 < 2 ^ 64 := hlt
    rw [UInt64.toNat_ofNat', Nat.mod_eq_of_lt hlt']
    omega
  · next hge =>
    have hge' : ¬ now.wall.toNat / 1000000 < 2 ^ 64 := hge
    rw [show UInt64.size = 2 ^ 64 from rfl, UInt64.toNat_ofNat']
    omega

/-- Readings more than `t` milliseconds apart are of moments more than `t` milliseconds apart. -/
theorem wall_gt_of_nowUnixMs {a b : Clock} {t : Nat}
    (h : t < (nowUnixMs b).toNat - (nowUnixMs a).toNat) :
    (t * 1000000 : Int) < b.wall - a.wall := by
  rw [toNat_nowUnixMs, toNat_nowUnixMs] at h
  omega

/-- Moments at least a millisecond more than `t` apart have readings more than `t` apart. -/
theorem nowUnixMs_gt_of_wall {a b : Clock} {t : Nat} (ha : 0 ≤ a.wall)
    (hb : b.wall < 2 ^ 64 * 1000000) (h : ((t + 1) * 1000000 : Int) ≤ b.wall - a.wall) :
    t < (nowUnixMs b).toNat - (nowUnixMs a).toNat := by
  rw [toNat_nowUnixMs, toNat_nowUnixMs]
  omega

/-! ## The last contact -/

/-- The reading of the clocks at a contact: the start of a session, a command that was parsed, a
WebSocket ping. -/
def Effect.contact? : Effect L → Option Clock
  | .took (.connect outside) => some outside.second
  | .took (.select (.incoming (.text (.ok _))) outside) => some outside.first
  | .took (.select (.incoming .ping) outside) => some outside.first
  | _ => none

/-- The reading of the clocks at the last contact. -/
def lastContact (history : List (Effect L)) : Option Clock := history.findSome? Effect.contact?

/-- What the agent relies on of `SafetyController`: `timeoutMs` reads off the timeout it was built
with, and `latches` says that an observation latches a communication fault. -/
structure Leddy.WatchesContact (L : Leddy) (timeoutMs : L.SafetyController → UInt64)
    (latches : L.SafetyController → SafetyObservation → Prop) : Prop where
  new : ∀ {limits safety}, L.safetyNew limits = .ok safety →
    timeoutMs safety = limits.communicationTimeoutMs
  observe : ∀ {safety observation decision safety'},
    L.safetyObserve safety observation = (decision, safety') →
    timeoutMs safety' = timeoutMs safety ∧
      (latches safety observation → decision.faultLatched = true)
  reset : ∀ {safety authorization now result safety'},
    L.safetyResetAuthorized safety authorization now = (result, safety') →
    timeoutMs safety' = timeoutMs safety
  latches_iff : ∀ {safety observation}, latches safety observation ↔
    (timeoutMs safety).toNat <
      observation.observedAtUnixMs.toNat - observation.lastAuthenticatedCommandUnixMs.toNat

/-- The contact time of a session is that of the last contact, and its controller has the timeout
of the configuration. -/
def contactLaw (timeoutMs : L.SafetyController → UInt64) : Law L where
  ready _ := True
  running session := (∃ contact, lastContact session.world.history = some contact ∧
      session.locals.lastAuthenticatedContactUnixMs = nowUnixMs contact) ∧
    timeoutMs session.locals.safety =
      (safetyLimits session.world.config).communicationTimeoutMs
  ended _ := True
  exited _ := True

section
variable {settings : RuntimeSettings} {timeoutMs : L.SafetyController → UInt64}
  {latches : L.SafetyController → SafetyObservation → Prop}

/-- A command is a contact. Only a `Configure` builds another controller, and with the timeout of its
configuration. -/
theorem contactLaw_command (hL : L.WatchesContact timeoutMs latches) {session : Session L}
    (h : (contactLaw timeoutMs).running session) (outside : Outside) (command : L.Command) :
    (contactLaw timeoutMs).Passes (Session.handleCommand settings outside command)
      ((session.note (.took (.select (.incoming (.text (.ok command))) outside))).touched
        outside) := by
  obtain ⟨_, htimeout⟩ := h
  cases command with
  | «show» message =>
    exact Session.handleShow_ends (fun _ => trivial)
      (Law.passes_reply ⟨⟨outside.first, rfl, rfl⟩, htimeout⟩ fun _ => trivial)
  | clear =>
    refine Session.handleClear_ends (World.clearSink_ends (fun after _ _ => ?_)
      fun _ _ _ => trivial)
    exact Law.passes_reply ⟨⟨outside.first, rfl, rfl⟩, htimeout⟩ fun _ => trivial
  | configure next =>
    refine Session.handleConfigure_ends (fun _ _ _ => trivial) (fun _ _ _ _ => trivial) ?_
    intro fs _ safety hsafety
    refine World.clearSink_ends (fun after _ _ => ?_) fun _ _ _ => trivial
    exact Law.passes_reply ⟨⟨outside.first, rfl, rfl⟩, hL.new hsafety⟩ fun _ => trivial
  | ping nonce => exact Law.passes_reply ⟨⟨outside.first, rfl, rfl⟩, htimeout⟩ fun _ => trivial
  | resetSafetyFault authorization =>
    refine Session.handleResetSafetyFault_ends (fun safety hreset => ?_)
      fun error safety hreset => ?_
    · exact Law.passes_reply ⟨⟨outside.first, rfl, rfl⟩, (hL.reset hreset).trans htimeout⟩
        fun _ => trivial
    · exact Law.passes_reply ⟨⟨outside.first, rfl, rfl⟩, (hL.reset hreset).trans htimeout⟩
        fun _ => trivial
  | stageFirmware =>
    exact Law.passes_reply ⟨⟨outside.first, rfl, rfl⟩, htimeout⟩ fun _ => trivial
  | activateStagedFirmware =>
    exact Law.passes_reply ⟨⟨outside.first, rfl, rfl⟩, htimeout⟩ fun _ => trivial

/-- A frame tick is none, and the observation leaves the timeout as it is. -/
theorem contactLaw_frameTick (hL : L.WatchesContact timeoutMs latches) {session : Session L}
    (h : (contactLaw timeoutMs).running session) (outside : Outside) :
    (contactLaw timeoutMs).Passes (Session.frameTick outside)
      (session.note (.took (.select .frameTick outside))) := by
  refine Session.frameTick_ends (fun decision safety hobserve _ => ?_)
    fun decision safety hobserve _ => ?_
  · refine World.clearSink_ends (fun after _ _ => ?_) fun _ _ _ => trivial
    exact ⟨h.1, (hL.observe hobserve).1.trans h.2⟩
  · have hobserved : timeoutMs safety =
        (safetyLimits session.world.config).communicationTimeoutMs :=
      (hL.observe hobserve).1.trans h.2
    refine Session.presentActive_ends (fun _ => ?_) (fun _ _ _ _ => trivial) ?_ ?_
    · exact ⟨h.1, hobserved⟩
    · intro active _ frame _
      refine World.presentSink_ends (fun _ after _ _ => ?_) fun _ _ _ => trivial
      exact ⟨h.1, hobserved⟩
    · intro active _ _
      refine World.clearSink_ends (fun after _ _ => ?_) fun _ _ _ => trivial
      exact ⟨h.1, hobserved⟩

/-- The contact time and the timeout stay those of the last contact and of the configuration. -/
theorem contactLaw_parts (hL : L.WatchesContact timeoutMs latches) :
    (contactLaw timeoutMs).Parts settings fun _ _ => True where
  weaken _ := trivial
  start outside world _ _ := by
    refine Session.start_ends (fun _ => trivial) (fun _ => trivial) (fun _ => trivial) ?_
    intro instant _ _ safety hsafety
    exact ⟨⟨outside.second, rfl, rfl⟩, hL.new hsafety⟩
  idle incoming outside session hincoming hrunning := by
    cases incoming with
    | text command =>
      cases command with
      | ok command => cases hincoming
      | error error => exact hrunning
    | ping => cases hincoming
    | _ => exact hrunning
  ping outside session hrunning := ⟨⟨outside.first, rfl, rfl⟩, hrunning.2⟩
  command started command outside session _ hrunning :=
    contactLaw_command hL hrunning outside command
  frameTick started outside session _ hrunning := contactLaw_frameTick hL hrunning outside
  telemetryTick outside telemetry session hrunning := hrunning
  finish started outside world _ _ :=
    World.finish_ends (World.clearSink_ends (fun _ _ _ _ => trivial) fun _ _ _ => trivial)

/-- A tick whose observation finds a latched fault presents nothing. -/
theorem latched_presentsNothing {world : World L} {started : Nat} {locals : Locals L}
    {outside : Outside}
    (hlatched : (L.safetyObserve locals.safety
      (Session.observation outside ⟨world, locals⟩)).1.faultLatched = true) :
    Machine.PresentsNothing settings ⟨world, .running started locals⟩
      (.select .frameTick outside) := by
  refine Machine.afterPass_world (P := fun world' => world'.history.countP Effect.presents =
    world.history.countP Effect.presents) ?_
  rw [Session.select, ends_bind]
  refine Session.frameTick_ends (fun decision safety _ _ => ?_) fun decision safety hobserve h => ?_
  · refine World.clearSink_ends (fun after _ _ => ?_) fun error after _ => ?_
    · simp [ends_pure, Effect.presents]
    · simp [Effect.presents]
  · have hdecision : (L.safetyObserve locals.safety
        (Session.observation outside ⟨world, locals⟩)).1 = decision := congrArg Prod.fst hobserve
    rw [hdecision, h] at hlatched
    cases hlatched

/-- In a session there is a last contact, and a frame tick latches a communication fault exactly if
its reading of the wall clock in milliseconds is more than the timeout behind the one at that
contact. So a fault means that more than the timeout has really passed, unless the wall clock gained
in between; and when the timeout and another millisecond have really passed nothing is presented,
unless the wall clock lost, or one of the readings is before 1970 or beyond 64 bits. -/
theorem watchdog_measures (hL : L.WatchesContact timeoutMs latches) {config : DisplayConfig}
    {sink : FrameSink} {fs : FileSystem} {inputs : List (Input L)} {machine : Machine L}
    (hrun : (Machine.initial config sink fs).run settings inputs = machine) {started : Nat}
    {locals : Locals L} (hphase : machine.phase = .running started locals) (outside : Outside) :
    ∃ contact, lastContact machine.world.history = some contact ∧
      (latches locals.safety (Session.observation outside ⟨machine.world, locals⟩) ↔
        (safetyLimits machine.world.config).communicationTimeoutMs.toNat <
          (nowUnixMs outside.first).toNat - (nowUnixMs contact).toNat) ∧
      (latches locals.safety (Session.observation outside ⟨machine.world, locals⟩) →
        outside.first.wall - contact.wall ≤ (outside.first.mono : Int) - contact.mono →
        ((safetyLimits machine.world.config).communicationTimeoutMs.toNat * 1000000 : Int) <
          outside.first.mono - contact.mono) ∧
      ((((safetyLimits machine.world.config).communicationTimeoutMs.toNat + 1) * 1000000 : Int) ≤
          outside.first.mono - contact.mono →
        (outside.first.mono : Int) - contact.mono ≤ outside.first.wall - contact.wall →
        0 ≤ contact.wall → outside.first.wall < 2 ^ 64 * 1000000 →
        machine.PresentsNothing settings (.select .frameTick outside)) := by
  have hinitial : (contactLaw timeoutMs).Holds (Machine.initial config sink fs) := trivial
  have hkept : (contactLaw timeoutMs).Kept settings fun _ _ => True := (contactLaw_parts hL).kept
  have hholds := hkept.run_all hinitial inputs
  rw [hrun] at hholds
  obtain ⟨world, phase⟩ := machine
  cases hphase
  obtain ⟨⟨contact, hcontact, hlast⟩, htimeout⟩ := hholds
  have hlast' : locals.lastAuthenticatedContactUnixMs = nowUnixMs contact := hlast
  have hlatches : latches locals.safety (Session.observation outside ⟨world, locals⟩) ↔
      (safetyLimits world.config).communicationTimeoutMs.toNat <
        (nowUnixMs outside.first).toNat - (nowUnixMs contact).toNat := by
    rw [hL.latches_iff, Session.observation, hlast', ← htimeout]
  refine ⟨contact, hcontact, hlatches, fun h hgained => ?_, fun hpassed hlost hcontact' hfirst => ?_⟩
  · exact Int.lt_of_lt_of_le (wall_gt_of_nowUnixMs (hlatches.1 h)) hgained
  · have hreading := nowUnixMs_gt_of_wall hcontact' hfirst (Int.le_trans hpassed hlost)
    exact latched_presentsNothing ((hL.observe rfl).2 (hlatches.2 hreading))

end

/-! ## With the reference instance -/

/-- The timeout of a reference controller. -/
def Reference.Controller.timeoutMs (controller : Reference.Controller) : UInt64 :=
  controller.limits.communicationTimeoutMs

/-- The observations on which a reference controller latches. -/
def Reference.Controller.Latches (controller : Reference.Controller)
    (observation : SafetyObservation) : Prop :=
  controller.timeoutMs.toNat <
    observation.observedAtUnixMs.toNat - observation.lastAuthenticatedCommandUnixMs.toNat

/-- The reference controller latches a fault once its timeout is over. -/
theorem Leddy.reference_watchesContact :
    Leddy.reference.WatchesContact Reference.Controller.timeoutMs
      Reference.Controller.Latches where
  new := by
    intro limits safety h
    cases h
    rfl
  observe := by
    intro safety observation decision safety' h
    cases h
    constructor
    · simp only [Reference.Controller.timeoutMs]
      split <;> rfl
    · intro hlatches
      have hlatches' : safety.limits.communicationTimeoutMs.toNat <
        observation.observedAtUnixMs.toNat -
          observation.lastAuthenticatedCommandUnixMs.toNat := hlatches
      simp [hlatches']
  reset := by
    intro safety authorization now result safety' h
    have hsafety : safety' = (safety.resetAuthorized authorization now).2 :=
      (congrArg Prod.snd h).symm
    rw [hsafety, Reference.Controller.resetAuthorized]
    split <;> rfl
  latches_iff := Iff.rfl

/-- A tick 20 seconds after the start of a session, with a steady wall clock. -/
theorem watchdog_measures_silence :
    ∃ contact, lastContact (Machine.sample.run (.fromEnv fun _ => none)
        [.connect (.calm ⟨0, 0⟩)]).world.history = some contact ∧
      (Reference.Controller.Latches ⟨defaultSafetyLimits, false⟩ ⟨20000, 0, none, none, none⟩ ↔
        10000 < 20000 - (nowUnixMs contact).toNat) ∧
      (Reference.Controller.Latches ⟨defaultSafetyLimits, false⟩ ⟨20000, 0, none, none, none⟩ →
        20000000000 - contact.wall ≤ 20000000000 - (contact.mono : Int) →
        (10000 * 1000000 : Int) < 20000000000 - contact.mono) ∧
      (((10000 + 1) * 1000000 : Int) ≤ 20000000000 - contact.mono →
        (20000000000 : Int) - contact.mono ≤ 20000000000 - contact.wall →
        0 ≤ contact.wall → (20000000000 : Int) < 2 ^ 64 * 1000000 →
        (Machine.sample.run (.fromEnv fun _ => none) [.connect (.calm ⟨0, 0⟩)]).PresentsNothing
          (.fromEnv fun _ => none) (.select .frameTick (.calm ⟨20000000000, 20000000000⟩))) :=
  watchdog_measures Leddy.reference_watchesContact rfl
    (show (Machine.sample.run _ [.connect (.calm ⟨0, 0⟩)]).phase =
      .running 0 ⟨none, ⟨defaultSafetyLimits, false⟩, 0⟩ from rfl)
    (.calm ⟨20000000000, 20000000000⟩)

/-- A watchdog on the time that has really passed: a frame tick latches a communication fault only
if more than the timeout has passed since the last contact, and if it has nothing is presented. -/
def RealTimeWatchdog (latches : L.SafetyController → SafetyObservation → Prop)
    (settings : RuntimeSettings) (machine : Machine L) (outside : Outside) : Prop :=
  ∀ started locals contact, machine.phase = .running started locals →
    lastContact machine.world.history = some contact →
    (latches locals.safety (Session.observation outside ⟨machine.world, locals⟩) →
      ((safetyLimits machine.world.config).communicationTimeoutMs.toNat * 1000000 : Int) <
        outside.first.mono - contact.mono) ∧
    (((safetyLimits machine.world.config).communicationTimeoutMs.toNat * 1000000 : Int) <
        outside.first.mono - contact.mono →
      machine.PresentsNothing settings (.select .frameTick outside))

/-- A wall clock stepped forward by an hour raises a false alarm after a second, and one stepped
back by an hour lets a frame through after 20 seconds of silence. -/
theorem wall_clock_steps :
    (¬ RealTimeWatchdog Reference.Controller.Latches (.fromEnv fun _ => none)
      (Machine.sample.run (.fromEnv fun _ => none) [.connect (.calm ⟨0, 0⟩)])
      (.calm ⟨1000000000, 3601000000000⟩)) ∧
    ¬ RealTimeWatchdog Reference.Controller.Latches (.fromEnv fun _ => none)
      (Machine.sample.run (.fromEnv fun _ => none)
        [.connect (.calm ⟨0, 3600000000000⟩),
         .select (.incoming (.text (.ok (.show ⟨"m", 255, 3600000⟩)))) (.calm ⟨0, 3600000000000⟩)])
      (.calm ⟨20000000000, 20000000000⟩) := by
  constructor
  · intro h
    have hfirst := (h 0 ⟨none, ⟨defaultSafetyLimits, false⟩, 0⟩ ⟨0, 0⟩ rfl rfl).1 (by
      unfold Reference.Controller.Latches
      decide)
    exact absurd hfirst (by decide)
  · intro h
    have hsecond := (h 0 ⟨some ⟨⟨"m", 255, 3600000⟩, 0⟩, ⟨defaultSafetyLimits, false⟩, 3600000⟩
      ⟨0, 3600000000000⟩ rfl rfl).2 (by decide)
    exact absurd hsecond (by unfold Machine.PresentsNothing; decide)

end LeddyRaspPi
