import LeddyRaspPi.Agent.Served
import LeddyRaspPi.Rig.Alike

/-!
# A message gets to the panels

From the accepted `Show` to the panels: the agent keeps the message through every pass that neither
replaces nor ends it (`Machine.Shows.pass`), the next frame tick presents it (`Machine.Shows.tick`),
and the helper, left alone, comes to show what was presented last (`Linked.catchesUp`).
-/

namespace LeddyRaspPi

open Fallible History Helper

variable {L : Leddy} {settings : RuntimeSettings} {options : Options} {outside : Outside}

/-! ## One pass -/

namespace Session

variable {session : Session L} {effect : Effect L} {arm : Arm L}

/-- What is to be shown, and how. -/
def asked (session : Session L) : Option (ActiveMessage L) × DisplayConfig :=
  (session.locals.active, session.world.config)

/-- The observation of a frame tick latches a fault. -/
def Latches (outside : Outside) (session : Session L) : Prop :=
  (L.safetyObserve session.locals.safety (session.observation outside)).1.faultLatched = true

/-- A pass that can go on and does not change what is to be shown: no `Show`, `Clear` or `Configure`,
and no frame tick at which the message is over. -/
def Continues (outside : Outside) (session : Session L) : Arm L → Prop
  | .incoming (.text (.ok (.show _))) | .incoming (.text (.ok .clear))
  | .incoming (.text (.ok (.configure _))) => False
  | .incoming (.text (.ok _)) | .incoming .ping | .incoming .other | .telemetryTick => True
  | .incoming _ => False
  | .frameTick => session.Latches outside ∨ ∀ active, session.locals.active = some active →
      ∃ frame, session.rendering outside active = .ok (some frame)

/-- A pass that continues can go on. -/
theorem Continues.goesOn (h : session.Continues outside arm) : session.GoesOn outside arm := by
  cases arm with
  | frameTick =>
    rcases h with hlatched | hrenders
    · exact .inl hlatched
    · refine .inr fun active hactive => ?_
      obtain ⟨frame, hframe⟩ := hrenders active hactive
      exact ⟨_, hframe⟩
  | telemetryTick => trivial
  | incoming incoming =>
    cases incoming with
    | text command =>
      cases command with
      | error error => exact h
      | ok command =>
        cases command with
        | «show» message => exact h.elim
        | configure next => exact h.elim
        | _ => trivial
    | _ => exact h

/-- A reply changes neither the message nor the configuration. -/
theorem reply_asked (event : L.Event) :
    Ends (reply outside event) session (fun _ after => after.asked = session.asked)
      fun _ _ => True :=
  reply_ends.2 ⟨fun _ => rfl, fun _ _ => trivial⟩

/-- A frame tick that does not end the message leaves it. -/
theorem frameTick_asked (h : session.Continues outside .frameTick) :
    Ends (frameTick outside) session (fun _ after => after.asked = session.asked)
      fun _ _ => True := by
  refine frameTick_ends (fun decision safety _ _ => ?_) fun decision safety hobserve hclear => ?_
  · exact World.clearSink_ends (fun _ _ _ => rfl) fun _ _ _ => trivial
  · have hrenders := h.resolve_left fun hlatched => by
      rw [Latches, hobserve, hclear] at hlatched
      cases hlatched
    refine presentActive_ends (fun _ => rfl) (fun _ _ _ _ => trivial) (fun active _ frame _ => ?_)
      fun active hactive hover => ?_
    · exact World.presentSink_ends (fun _ _ _ _ => rfl) fun _ _ _ => trivial
    · obtain ⟨frame, hframe⟩ := hrenders active hactive
      cases hover.symm.trans hframe

/-- So does every pass that continues. -/
theorem select_asked (h : session.Continues outside arm) :
    Ends (select settings outside arm) (session.note effect)
      (fun _ after => after.asked = session.asked) fun _ _ => True := by
  cases arm with
  | frameTick =>
    rw [select, ends_bind]
    have hcontinues : (session.note effect).Continues outside .frameTick := h
    exact (frameTick_asked hcontinues).mono (fun _ _ h => h) fun _ _ h => h
  | telemetryTick =>
    rw [select, ends_bind, telemetryTick, ends_bind, ends_get]
    exact (reply_asked _).mono (fun _ _ h => h) fun _ _ h => h
  | incoming incoming =>
    rw [select]
    cases incoming with
    | closed => exact h.elim
    | failed error => exact h.elim
    | close => exact h.elim
    | other => rfl
    | ping =>
      simp only [handleIncoming, touch, assign, ends_bind, ends_modify, onWorld_ends,
        World.sendPong, ends_ofExcept_mapError, ends_pure]
      exact ⟨fun _ _ => rfl, fun _ _ => trivial⟩
    | text command =>
      cases command with
      | error error => exact h.elim
      | ok command =>
        simp only [handleIncoming, touch, assign, ends_bind, ends_modify, ends_ofExcept_mapError,
          ends_pure]
        refine ⟨fun command' hcommand => ?_, fun _ _ => trivial⟩
        cases hcommand
        cases command with
        | «show» message => exact h.elim
        | clear => exact h.elim
        | configure next => exact h.elim
        | resetSafetyFault authorization =>
          exact handleResetSafetyFault_ends (fun _ _ => reply_asked _) fun _ _ _ => reply_asked _
        | _ => exact reply_asked _

/-- A `Show` that is carried out is what is to be shown from then on. -/
theorem show_asked (message : L.MessageEnvelope) :
    Ends (select settings outside (.incoming (.text (.ok (.show message))))) (session.note effect)
      (fun _ after => after.asked = (some ⟨message, outside.second.mono⟩, session.world.config))
      fun _ _ => True := by
  simp only [select, handleIncoming, touch, assign, ends_bind, ends_modify, ends_ofExcept_mapError,
    ends_pure, handleCommand]
  refine ⟨fun command hcommand => ?_, fun _ _ => trivial⟩
  cases hcommand
  exact handleShow_ends (fun _ => trivial) (reply_ends.2 ⟨fun _ => rfl, fun _ _ => trivial⟩)

/-- A frame tick that latches no fault, and can render the message, presents it. -/
theorem frameTick_presents {message : L.MessageEnvelope} {start : Nat} {config : DisplayConfig}
    {frame : L.FrameBuffer} (hasked : session.asked = (some ⟨message, start⟩, config))
    (hclear : ¬ session.Latches outside)
    (hframe : L.renderMessageFrame config message (elapsedMs start outside.second.mono) =
      .ok (some frame)) :
    Ends (frameTick outside) session
      (fun _ after => ∃ call, lastCall after.world.history = some call ∧ call.config = config ∧
        call.frame = some frame)
      fun _ _ => True := by
  obtain ⟨hactive, rfl⟩ := Prod.mk.inj hasked
  refine frameTick_ends (fun decision safety hobserve hlatched => ?_) fun decision safety _ _ => ?_
  · rw [Latches, hobserve] at hclear
    exact absurd hlatched hclear
  · refine presentActive_ends (fun hidle => ?_) (fun _ _ _ _ => trivial)
      (fun active hactive' frame' hframe' => ?_) fun active hactive' hover => ?_
    · cases hidle.symm.trans hactive
    · cases hactive'.symm.trans hactive
      cases hframe'.symm.trans hframe
      exact World.presentSink_ends (fun _ _ _ _ => ⟨_, rfl, rfl, rfl⟩) fun _ _ _ => trivial
    · cases hactive'.symm.trans hactive
      cases hover.symm.trans hframe

end Session

/-! ## The agent -/

namespace Machine

variable {machine : Machine L} {started : Nat} {served : ServedPass L}
  {asked : Option (ActiveMessage L) × DisplayConfig}

/-- The agent is in a session, and this is to be shown. -/
def Shows (started : Nat) (asked : Option (ActiveMessage L) × DisplayConfig)
    (machine : Machine L) : Prop :=
  ∃ locals, machine.phase = .running started locals ∧ Session.asked ⟨machine.world, locals⟩ = asked

/-- The pass continues the session and leaves what is to be shown. -/
def Continues (machine : Machine L) (served : ServedPass L) : Prop :=
  ∀ started locals, machine.phase = .running started locals →
    Session.Continues served.outside ⟨machine.world, locals⟩ served.arm

/-- A `Show` of a valid message is carried out. -/
theorem InSession.show (hL : L.Documented) {message : L.MessageEnvelope}
    (h : machine.InSession started) (harm : served.arm = .incoming (.text (.ok (.show message))))
    (hvalid : L.validateMessage message = .ok ()) :
    (machine.pass settings served).Shows started
      (some ⟨message, served.outside.second.mono⟩, machine.world.config) := by
  obtain ⟨world, phase⟩ := machine
  obtain ⟨locals, rfl⟩ := h
  have hgoesOn : Session.GoesOn served.outside ⟨world, locals⟩ served.arm := by
    rw [harm]
    exact hvalid
  obtain ⟨after, hafter, hpass⟩ := pass_ends hL settings hgoesOn (by
    rw [harm]
    exact Session.show_asked message)
  rw [hpass]
  exact ⟨after.locals, rfl, hafter⟩

/-- A pass that continues leaves what is to be shown. -/
theorem Shows.pass (hL : L.Documented) (hcontinues : machine.Continues served)
    (h : machine.Shows started asked) : (machine.pass settings served).Shows started asked := by
  obtain ⟨world, phase⟩ := machine
  obtain ⟨locals, rfl, rfl⟩ := h
  have hpasses := hcontinues started locals rfl
  obtain ⟨after, hafter, hpass⟩ := pass_ends hL settings
    hpasses.goesOn (Session.select_asked hpasses)
  rw [hpass]
  exact ⟨after.locals, rfl, hafter⟩

/-- So does any number of them. -/
theorem Shows.run (hL : L.Documented) {passes : List (ServedPass L)}
    (hcontinues : Transition.Along (Machine.pass settings) Continues machine passes)
    (h : machine.Shows started asked) :
    (Transition.run (Machine.pass settings) machine passes).Shows started asked :=
  Transition.run_preserves_along (fun _ _ hcontinues h => Shows.pass hL hcontinues h) h hcontinues

/-- A frame tick at which no fault is latched. -/
def Unlatched (machine : Machine L) (outside : Outside) : Prop :=
  ∀ started locals, machine.phase = .running started locals →
    ¬ Session.Latches outside ⟨machine.world, locals⟩

/-- It presents the message, if that can be rendered. -/
theorem Shows.tick (hL : L.Documented) {message : L.MessageEnvelope} {start : Nat}
    {config : DisplayConfig} {frame : L.FrameBuffer}
    (h : machine.Shows started (some ⟨message, start⟩, config)) (harm : served.arm = .frameTick)
    (hclear : machine.Unlatched served.outside)
    (hframe : L.renderMessageFrame config message (elapsedMs start served.outside.second.mono) =
      .ok (some frame)) :
    ∃ call, lastCall (machine.pass settings served).world.history = some call ∧
      call.config = config ∧ call.frame = some frame := by
  obtain ⟨world, phase⟩ := machine
  obtain ⟨locals, rfl, hasked⟩ := h
  obtain ⟨hactive, rfl⟩ := Prod.mk.inj hasked
  have hgoesOn : Session.GoesOn served.outside ⟨world, locals⟩ served.arm := by
    rw [harm]
    refine .inr fun active hactive' => ?_
    cases hactive'.symm.trans hactive
    exact ⟨some frame, hframe⟩
  have hpresents : ∀ effect, Ends (Session.frameTick served.outside)
      (Session.note effect ⟨world, locals⟩) _ fun _ _ => True := fun effect =>
    Session.frameTick_presents hasked (hclear started locals rfl) hframe
  obtain ⟨after, hafter, hpass⟩ := pass_ends hL settings hgoesOn (by
    rw [harm, Session.select, ends_bind]
    exact hpresents _)
  rw [hpass]
  exact hafter

end Machine

/-! ## The rig -/

/-- The input of a pass. -/
def ServedPass.input (served : ServedPass L) : Input L := .select served.arm served.outside

/-- A run of served passes is a run of their inputs. -/
theorem Machine.run_input (machine : Machine L) (passes : List (ServedPass L)) :
    machine.run settings (passes.map ServedPass.input) =
      Transition.run (Machine.pass settings) machine passes :=
  List.foldl_map

section
variable {env : Environment} {fs : FileSystem} {spawn : Except IoError Bool} {world : World L}
  {moves later : List (Move L)} {rig rig' : Rig L} {passes : List (ServedPass L)}

/-- After passes that are served, a rig that works is linked, and its agent is where they lead. -/
theorem Rig.Working.linked (hL : L.Documented) (hfits : options.Fits)
    (hstart : startUp L env fs spawn = .ok (settings, world))
    (hhelper : settings.hub75Helper.isSome = true) (pixels : Nat → Int → Int → Rgb)
    (hhonest : Transition.Along (Rig.step settings options) Honest
      (Rig.initial options pixels world) (moves ++ later))
    (hrig : rig = Rig.run settings options (.initial options pixels world) moves)
    (hrig' : rig' = rig.run settings options later)
    (hinputs : later.filterMap Move.input? = passes.map ServedPass.input) (hworks : rig'.Working) :
    (∃ received, Linked options rig' received) ∧
      rig'.agent = Transition.run (Machine.pass settings) rig.agent passes := by
  have hrun : rig' = Rig.run settings options (.initial options pixels world) (moves ++ later) := by
    rw [hrig', hrig]
    exact (Transition.run_append ..).symm
  refine ⟨linked_of_run hL hfits hstart hhelper pixels hhonest hrun, ?_⟩
  subst hrig'
  rw [Rig.run_open hworks.listens, hinputs, Machine.run_input]

/-- What the agent does leaves a rig at work, as long as it stays in its session. -/
theorem Rig.Working.agents (hworks : rig.Working) {started : Nat} {inputs : List (Input L)}
    (hstays : Transition.Along (Machine.step settings) (fun machine input =>
      (machine.step settings input).InSession started) rig.agent inputs) :
    (rig.run settings options (inputs.map .agent)).Working := by
  induction inputs generalizing rig with
  | nil => exact hworks
  | cons input inputs ih =>
    have hstep : rig.step settings options (.agent input) =
        Rig.feed (rig.outgoing (rig.agent.step settings input))
          { rig with agent := rig.agent.step settings input } := by
      rw [Rig.step, if_neg (by simp [hworks.listens]), Rig.agentStep]
      dsimp only
      split
      · next exit hexit =>
        obtain ⟨locals, hphase⟩ := hstays.1
        cases hexit.symm.trans hphase
      · rfl
    rw [List.map_cons, Rig.run, Transition.run_cons, hstep]
    exact ih ⟨hworks.alive, hworks.listens, hworks.goes⟩ hstays.2

/-- Take a rig that any interleaving has led to, whose agent is in a session, and let the agent get
a `Show` of a valid message, passes that continue, and a frame tick that latches no fault and can
render the message, while the helper does what it does. If nothing outside the agent fails and the
helper still works, it gets in a bounded number of its own moves to where the panels show that frame,
rendered for the time since the `Show` and painted with the configuration of the agent. -/
theorem show_reaches_panels (hL : L.Documented) (hfits : options.Fits)
    (hstart : startUp L env fs spawn = .ok (settings, world))
    (hhelper : settings.hub75Helper.isSome = true) (pixels : Nat → Int → Int → Rgb)
    (hhonest : Transition.Along (Rig.step settings options) Honest
      (Rig.initial options pixels world) (moves ++ later))
    (hrig : rig = Rig.run settings options (.initial options pixels world) moves)
    (hrig' : rig' = rig.run settings options later) {started : Nat}
    (hsession : rig.agent.InSession started) {asked tick : ServedPass L}
    (hinputs : later.filterMap Move.input? = (asked :: passes ++ [tick]).map ServedPass.input)
    {message : L.MessageEnvelope} (hasked : asked.arm = .incoming (.text (.ok (.show message))))
    (hvalid : L.validateMessage message = .ok ())
    (hcontinues : Transition.Along (Machine.pass settings) Machine.Continues
      (rig.agent.pass settings asked) passes)
    (htick : tick.arm = .frameTick)
    (hclear : (Transition.run (Machine.pass settings) rig.agent (asked :: passes)).Unlatched
      tick.outside)
    {frame : L.FrameBuffer}
    (hframe : L.renderMessageFrame rig.agent.world.config message
      (elapsedMs asked.outside.second.mono tick.outside.second.mono) = .ok (some frame))
    (hworks : rig'.Working) :
    ∃ n ≤ rig'.helper.reader.input.rest.length + 4,
      ((Rig.helperStep options)^[n] rig').panel =
        some (painting options.physicalWidth options.physicalHeight
          (framePacket rig.agent.world.config (L.rowMajor frame))) := by
  obtain ⟨⟨received, hlinked⟩, hagent⟩ :=
    Rig.Working.linked hL hfits hstart hhelper pixels hhonest hrig hrig' hinputs hworks
  obtain ⟨n, hn, hpanel⟩ := hlinked.catchesUp hfits hworks
  have hasks : (rig.agent.pass settings asked).Shows started
      (some ⟨message, asked.outside.second.mono⟩, rig.agent.world.config) :=
    hsession.show hL hasked hvalid
  obtain ⟨call, hcall, hconfig, hcalled⟩ := (hasks.run hL hcontinues).tick hL htick hclear hframe
  rw [hagent, Transition.run_append] at hpanel
  refine ⟨n, hn, hpanel.trans (congrArg some ?_)⟩
  rw [← hconfig]
  exact canvasOf_frame hcall hcalled

end

/-! ## With the reference instance -/

/-- The helper starts while the agent connects, and waits. -/
def waitingMoves : List (Move Leddy.reference) :=
  [.helper, .agent (.connect (.calm ⟨0, 0⟩)), .helper]

/-- The rig in which the helper waits for the first packet. -/
def Rig.waiting : Rig Leddy.reference :=
  Rig.sample.run (.fromEnv helperEnvironment) defaultOptions waitingMoves

/-- Where it comes to from there. -/
def Rig.onward (moves : List (Move Leddy.reference)) : Rig Leddy.reference :=
  Rig.waiting.run (.fromEnv helperEnvironment) defaultOptions moves

/-- The waiting rig is one that a run reaches. -/
theorem Rig.waiting_eq : Rig.waiting = Rig.run (.fromEnv helperEnvironment) defaultOptions
    (.initial defaultOptions (fun _ _ _ => ⟨9, 9, 9⟩) .withHelper) waitingMoves := rfl

/-- The `Show` of the example, a report, and a frame tick. -/
def showPass : ServedPass Leddy.reference :=
  .calm (.incoming (.text (.ok (.show ⟨"m", 255, 3600000⟩)))) ⟨1000000, 1000000⟩

def reportPass : ServedPass Leddy.reference := .calm .telemetryTick ⟨20000000, 20000000⟩

def tickPass : ServedPass Leddy.reference := .calm .frameTick ⟨50000000, 50000000⟩

/-- The moves that make these passes. -/
def deliveredMoves : List (Move Leddy.reference) :=
  [.agent showPass.input, .agent reportPass.input, .agent tickPass.input]

/-- On the waiting rig a message is shown, and the helper settles on its frame. -/
theorem show_reaches_panels_delivered :
    ∃ n ≤ (Rig.onward deliveredMoves).helper.reader.input.rest.length + 4,
      ((Rig.helperStep defaultOptions)^[n] (Rig.onward deliveredMoves)).panel =
        some (painting defaultOptions.physicalWidth defaultOptions.physicalHeight
          (framePacket Rig.waiting.agent.world.config (List.replicate 1000 255))) := by
  have hhonest : Transition.Along (Rig.step (.fromEnv helperEnvironment) defaultOptions) Honest
      Rig.sample (waitingMoves ++ deliveredMoves) := honest_of_all rfl
  have honward : Rig.onward deliveredMoves =
      Rig.waiting.run (.fromEnv helperEnvironment) defaultOptions deliveredMoves := rfl
  have hsession : Rig.waiting.agent.InSession 0 := ⟨_, rfl⟩
  have hinputs : deliveredMoves.filterMap Move.input? =
      (showPass :: [reportPass] ++ [tickPass]).map ServedPass.input := rfl
  have hcontinues : Transition.Along (Machine.pass (.fromEnv helperEnvironment)) Machine.Continues
      (Rig.waiting.agent.pass (.fromEnv helperEnvironment) showPass) [reportPass] :=
    ⟨fun _ _ _ => trivial, trivial⟩
  have hclear : (Transition.run (Machine.pass (.fromEnv helperEnvironment)) Rig.waiting.agent
      (showPass :: [reportPass])).Unlatched tickPass.outside := by
    intro started locals hphase
    cases hphase
    exact Bool.false_ne_true
  have hframe : Leddy.reference.renderMessageFrame Rig.waiting.agent.world.config
      ⟨"m", 255, 3600000⟩ (elapsedMs showPass.outside.second.mono tickPass.outside.second.mono) =
        .ok (some ⟨_, List.replicate 1000 255⟩) := rfl
  have hworks : (Rig.onward deliveredMoves).Working :=
    ⟨by decide +kernel, by decide +kernel, by decide +kernel⟩
  have hshown := show_reaches_panels Leddy.reference_documented defaultOptions_fits
    startUp_withHelper rfl _ hhonest Rig.waiting_eq honward hsession hinputs rfl rfl hcontinues rfl
    hclear hframe hworks
  exact hshown

end LeddyRaspPi
