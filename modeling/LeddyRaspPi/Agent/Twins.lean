import LeddyRaspPi.Agent.Served
import LeddyRaspPi.Lib.Lockstep

/-!
# The agent does not see its display

Nothing the agent does, but for the calls of the sink themselves, depends on which sink it has: two
agents with the same inputs, of which one writes snapshots and one feeds a helper, say and show the
same as long as their sinks work (`backend_transparent`). Twins are two agents whose histories agree
in everything but the sink and the files; each handler leads twins to twins.
-/

namespace LeddyRaspPi

open Fallible

variable {L : Leddy} {settings : RuntimeSettings} {outside : Outside}

/-! ## Twins -/

/-- A sink and files, of no account. -/
def nowhere : FrameSink × FileSystem := (.snapshot ⟨none⟩, fun _ => .absent)

/-- What an entry says beside the sink and the files. The statistics are those of a backend. -/
def Effect.outline : Effect L → Effect L
  | .presented config frame _ _ result =>
    .presented config frame nowhere nowhere (result.map fun _ => ⟨0, 0⟩)
  | .cleared config _ _ result => .cleared config nowhere nowhere result
  | .sent event state result => .sent event { state with fs := nowhere.2 } result
  | effect => effect

/-- Two worlds that differ in their sinks and files only. -/
structure World.Twins (world world' : World L) : Prop where
  config : world.config = world'.config
  backoff : world.backoff = world'.backoff
  outline : world.history.map Effect.outline = world'.history.map Effect.outline

/-- Two sessions that do. -/
def Session.Twins (session session' : Session L) : Prop :=
  session.locals = session'.locals ∧ session.world.Twins session'.world

/-- Two agents that do. -/
def Machine.Twins (machine machine' : Machine L) : Prop :=
  machine.phase = machine'.phase ∧ machine.world.Twins machine'.world

section
variable {world world' : World L}

/-- The same entry for both. -/
theorem World.Twins.note {effect effect' : Effect L} (heffect : effect.outline = effect'.outline)
    (h : world.Twins world') : (world.note effect).Twins (world'.note effect') where
  config := h.config
  backoff := h.backoff
  outline := by simp only [World.note_history, List.map_cons, heffect, h.outline]

/-- Two worlds stay twins when each notes the call its own sink made, if the calls agree up to what
only the sink decides. -/
theorem World.Twins.called {effect effect' : Effect L} {after after' : FrameSink × FileSystem}
    (heffect : effect.outline = effect'.outline) (h : world.Twins world') :
    (world.called after effect).Twins (world'.called after' effect') where
  config := h.config
  backoff := h.backoff
  outline := by simp only [World.called_history, List.map_cons, heffect, h.outline]

end

/-! ## Calls -/

namespace World

/-- A clear that is served. -/
theorem respects_clearSink (hL : L.Documented) (hsink : outside.sink = .served) :
    Respects Twins (clearSink outside : EStateM BoxError (World L) Unit) := by
  intro world world' h
  have hreturns : ∀ world : World L, Ends (clearSink outside) world
      (fun _ world₁ => ∃ after, world₁ =
        world.called after (.cleared world.config (world.sink, world.fs) after (.ok ())))
      fun _ _ => False := fun world => by
    have hcalls : Ends (clearSink outside) world
        (fun _ world₁ => ∃ after, world₁ =
          world.called after (.cleared world.config (world.sink, world.fs) after (.ok ())))
        fun _ _ => True := clearSink_ends (fun after _ _ => ⟨after, rfl⟩) fun _ _ _ => trivial
    exact ((clearSink_served hL hsink).and hcalls).mono (fun _ _ h => h.2) fun _ _ h => h.1
  refine lockstep_of_ends (hreturns world) (hreturns world') ?_
  rintro _ _ _ _ ⟨after, rfl⟩ ⟨after', rfl⟩
  refine ⟨rfl, h.called ?_⟩
  rw [Effect.outline, Effect.outline, h.config]

/-- A frame that was rendered is presented. What `present` returns is not used. -/
theorem lockstep_presentSink (hL : L.Documented) (hsink : outside.sink = .served)
    {world world' : World L} (h : world.Twins world') {message : L.MessageEnvelope} {ms : UInt64}
    {frame : L.FrameBuffer}
    (hframe : L.renderMessageFrame world.config message ms = .ok (some frame)) :
    Lockstep (presentSink outside frame) (presentSink outside frame) world world'
      (fun _ world₁ _ world₁' => world₁.Twins world₁') (Same Twins) := by
  have hreturns : ∀ world : World L,
      L.renderMessageFrame world.config message ms = .ok (some frame) →
      Ends (presentSink outside frame) world
        (fun _ world₁ => ∃ stats after, world₁ = world.called after
          (.presented world.config frame (world.sink, world.fs) after (.ok stats)))
        fun _ _ => False := fun world hframe => by
    have hcalls : Ends (presentSink outside frame) world
        (fun _ world₁ => ∃ stats after, world₁ = world.called after
          (.presented world.config frame (world.sink, world.fs) after (.ok stats)))
        fun _ _ => True :=
      presentSink_ends (fun stats after _ _ => ⟨stats, after, rfl⟩) fun _ _ _ => trivial
    exact ((presentSink_served hL hsink hframe).and hcalls).mono (fun _ _ h => h.2) fun _ _ h => h.1
  refine lockstep_of_ends (hreturns world hframe) (hreturns world' (h.config ▸ hframe)) ?_
  rintro _ _ _ _ ⟨stats, after, rfl⟩ ⟨stats', after', rfl⟩
  refine h.called ?_
  rw [Effect.outline, Effect.outline, h.config]
  rfl

/-- How persisting goes does not depend on the files. -/
theorem respects_persist (next : DisplayConfig) :
    Respects Twins (persist settings outside next : EStateM BoxError (World L) Unit) := by
  have hmodify : ∀ f : FileSystem → FileSystem, Respects (fun _ _ : FileSystem => True)
      (modify f : EStateM IoError FileSystem PUnit) := fun f => respects_modify fun _ _ _ => trivial
  have hpersist : Respects (fun _ _ : FileSystem => True)
      (persistConfig L settings.configPath next outside.persist) := by
    refine (respects_ofExcept _).bind fun _ => ?_
    refine Respects.bind ?_ fun _ => (respects_ofExcept _).bind fun bytes => Respects.bind ?_ fun _ => ?_
    · unfold FileSystem.createParent
      cases settings.configPath.nonemptyParent with
      | none => exact respects_pure _
      | some parent => exact respects_ofExcept _
    · rcases outside.persist.write with _ | ⟨error, _ | kept⟩
      · exact hmodify _
      · exact respects_throw _
      · exact (hmodify _).bind fun _ => respects_throw _
    · cases outside.persist.rename with
      | ok u => exact hmodify _
      | error error => exact respects_throw _
  refine (hpersist.focus (fun _ _ _ => trivial) ?_).adaptExcept _
  exact fun world world' fs fs' h _ => ⟨h.config, h.backoff, h.outline⟩

/-- Assigning a configuration keeps two worlds twins. -/
theorem respects_configure (next : DisplayConfig) :
    Respects Twins (configure next : EStateM BoxError (World L) Unit) :=
  respects_modify fun world world' h => by
    obtain ⟨_, hbackoff, houtline⟩ : Twins (world.note (.configured next))
      (world'.note (.configured next)) := h.note rfl
    exact ⟨rfl, hbackoff, houtline⟩

/-- The controller is built from the configuration, which twins share. -/
theorem respects_newController :
    Respects Twins (newController : EStateM BoxError (World L) L.SafetyController) := by
  refine respects_get_bind fun world world' h => ?_
  rw [h.config]
  exact ((respects_modify fun _ _ h => h.note rfl).bind fun _ => respects_ofExcept _) world world' h

/-- A message is rendered with the configuration, which twins share. -/
theorem respects_renderFrame (message : L.MessageEnvelope) (ms : UInt64) :
    Respects Twins (renderFrame message ms : EStateM BoxError (World L) (Option L.FrameBuffer)) := by
  refine respects_get_bind fun world world' h => ?_
  rw [h.config]
  exact ((respects_modify fun _ _ h => h.note rfl).bind fun _ => respects_ofExcept _) world world' h

/-- The socket is not the sink's: an event is sent by both or by neither. -/
theorem respects_sendEvent (locals : Option (Locals L)) (event : L.Event) :
    Respects Twins (sendEvent outside locals event : EStateM BoxError (World L) Unit) := by
  refine (respects_modify fun world world' h => h.note ?_).bind fun _ => respects_ofExcept _
  rw [Effect.outline, Effect.outline, h.config]

/-- So is a pong. -/
theorem respects_sendPong : Respects Twins (sendPong outside : EStateM BoxError (World L) Unit) :=
  (respects_modify fun _ _ h => h.note rfl).bind fun _ => respects_ofExcept _

/-- The end of an attempt is alike where the clear is served. -/
theorem respects_finish (hL : L.Documented) (hsink : outside.sink = .served) (started : Nat) :
    Respects Twins (finish started outside : EStateM BoxError (World L) Unit) := by
  refine (respects_clearSink hL hsink).bind fun _ => respects_get_bind fun world world' h => ?_
  obtain ⟨hconfig, _, houtline⟩ : Twins (world.note (.slept _)) (world'.note (.slept _)) :=
    h.note rfl
  rw [h.backoff]
  exact ⟨rfl, hconfig, rfl, houtline⟩

end World

/-! ## Handlers -/

namespace Session

/-- A step on what outlives the session. -/
theorem respects_onWorld {α : Type} {m : EStateM BoxError (World L) α}
    (h : Respects World.Twins m) : Respects Twins (onWorld m) :=
  h.focus (fun _ _ h => h.2) fun _ _ _ _ h ht => ⟨h.1, ht⟩

/-- The variables of a session are no part of the sink. -/
theorem respects_assign (f : Locals L → Locals L) : Respects Twins (assign f) :=
  respects_modify fun _ _ h => ⟨congrArg f h.1, h.2⟩

/-- Both sessions send the same event, with the same outcome. -/
theorem respects_reply (event : L.Event) : Respects Twins (reply outside event) := by
  refine respects_get_bind fun session session' h => ?_
  rw [h.1]
  exact respects_onWorld (World.respects_sendEvent _ _) session session' h

/-- Both controllers are given the same observation. -/
theorem respects_observe (observation : SafetyObservation) :
    Respects Twins (observe observation :
      EStateM BoxError (Session L) (SafetyDecision L.Fault)) := by
  refine respects_get_bind fun session session' h => ?_
  rw [h.1]
  refine (respects_assign _).bind (fun _ => Respects.bind ?_ fun _ => respects_pure _) _ _ h
  exact respects_modify fun _ _ h => ⟨h.1, h.2.note rfl⟩

/-- Both controllers are asked for the same reset. -/
theorem respects_resetAuthorized (authorization : L.SafetyResetAuthorization) (ms : UInt64) :
    Respects Twins (resetAuthorized authorization ms) := by
  refine respects_get_bind fun session session' h => ?_
  rw [h.1]
  refine (respects_assign _).bind (fun _ => Respects.bind ?_ fun _ => respects_pure _) _ _ h
  exact respects_modify fun _ _ h => ⟨h.1, h.2.note rfl⟩

/-- A command is handled alike, one arm at a time: only `Clear` and `Configure` call the sink. -/
theorem respects_handleCommand (hL : L.Documented) (hsink : outside.sink = .served)
    (command : L.Command) : Respects Twins (handleCommand settings outside command) := by
  have hclear := respects_onWorld (World.respects_clearSink hL hsink)
  cases command with
  | «show» message =>
    exact (respects_ofExcept _).bind fun _ => (respects_assign _).bind fun _ => respects_reply _
  | clear => exact (respects_assign _).bind fun _ => hclear.bind fun _ => respects_reply _
  | configure next =>
    refine (respects_ofExcept _).bind fun _ => ?_
    refine (respects_onWorld (World.respects_persist next)).bind fun _ => ?_
    refine (respects_onWorld (World.respects_configure next)).bind fun _ => ?_
    refine (respects_onWorld World.respects_newController).bind fun safety => ?_
    refine (respects_assign _).bind fun _ => (respects_assign _).bind fun _ => ?_
    exact hclear.bind fun _ => respects_reply _
  | ping nonce => exact respects_reply _
  | resetSafetyFault authorization =>
    refine (respects_resetAuthorized authorization _).bind fun result => ?_
    cases result with
    | ok u => exact respects_reply _
    | error error => exact respects_reply _
  | stageFirmware => exact respects_reply _
  | activateStagedFirmware => exact respects_reply _

/-- Behind the latched-fault branch twins render the same frame, and both sinks are served. -/
theorem respects_presentActive (hL : L.Documented) (hsink : outside.sink = .served) :
    Respects Twins (presentActive outside : EStateM BoxError (Session L) Unit) := by
  refine respects_get_bind fun session session' h => ?_
  rw [h.1]
  cases session'.locals.active with
  | none => exact ⟨rfl, h⟩
  | some active =>
    -- A frame is presented with the configuration it was rendered with.
    have hrendered : Ends (onWorld (World.renderFrame active.message
          (elapsedMs active.started outside.second.mono))) session
        (fun result session₁ => L.renderMessageFrame session₁.world.config active.message
          (elapsedMs active.started outside.second.mono) = .ok result)
        fun _ _ => True := by
      rw [onWorld_ends, World.renderFrame_ends]
      exact ⟨fun result hresult => hresult, fun _ _ => trivial⟩
    have hrenders := respects_onWorld (World.respects_renderFrame active.message
      (elapsedMs active.started outside.second.mono)) session session' h
    refine lockstep_bind ((hrenders.and_ends hrendered).mono (fun result t result' t' hresult => ?_)
      fun _ _ _ _ h => h)
    obtain ⟨⟨rfl, ht⟩, hframe⟩ := hresult
    cases result with
    | some frame =>
      refine lockstep_bind ?_
      rw [onWorld, lockstep_focus]
      refine (World.lockstep_presentSink hL hsink ht.2 hframe).mono (fun _ _ _ _ hworld => ?_)
        fun _ _ _ _ hworld => ?_
      · exact ⟨rfl, ht.1, hworld⟩
      · exact ⟨hworld.1, ht.1, hworld.2⟩
    | none =>
      have hclear := respects_onWorld (World.respects_clearSink (L := L) hL hsink)
      exact (respects_assign _).bind (fun _ => hclear) t t' ht

/-- A frame tick is handled alike. -/
theorem respects_frameTick (hL : L.Documented) (hsink : outside.sink = .served) :
    Respects Twins (frameTick outside : EStateM BoxError (Session L) Unit) := by
  refine respects_get_bind fun session session' h => ?_
  rw [h.1]
  refine (respects_observe _).bind (fun decision => ?_) session session' h
  cases decision.faultLatched with
  | true => exact respects_onWorld (World.respects_clearSink hL hsink)
  | false => exact respects_presentActive hL hsink

/-- A telemetry tick never calls the sink. -/
theorem respects_telemetryTick :
    Respects Twins (telemetryTick settings outside : EStateM BoxError (Session L) Unit) := by
  refine respects_get_bind fun session session' h => ?_
  rw [h.1, h.2.config]
  exact respects_reply _ session session' h

/-- A pass of the session loop. -/
theorem respects_select (hL : L.Documented) (hsink : outside.sink = .served) (arm : Arm L) :
    Respects Twins (select settings outside arm) := by
  have htouch : Respects Twins (touch outside : EStateM BoxError (Session L) Unit) :=
    respects_assign _
  cases arm with
  | frameTick => exact (respects_frameTick hL hsink).bind fun _ => respects_pure _
  | telemetryTick => exact respects_telemetryTick.bind fun _ => respects_pure _
  | incoming incoming =>
    cases incoming with
    | closed => exact respects_pure _
    | failed error => exact respects_throw _
    | close => exact respects_pure _
    | other => exact respects_pure _
    | ping =>
      exact htouch.bind fun _ =>
        (respects_onWorld World.respects_sendPong).bind fun _ => respects_pure _
    | text command =>
      exact (respects_ofExcept _).bind fun command => htouch.bind fun _ =>
        (respects_handleCommand hL hsink command).bind fun _ => respects_pure _

/-- The start of a session. -/
theorem respects_start :
    Respects World.Twins (start settings outside : EStateM BoxError (World L) (Locals L)) :=
  (respects_ofExcept _).bind fun _ => (World.respects_sendEvent _ _).bind fun _ =>
    World.respects_newController.bind fun _ => respects_pure _

end Session

/-! ## Runs -/

namespace Machine.Twins

variable {started : Nat} {world world' : World L} {session session' : Session L}

/-- Where the start of a session goes alike, the agents stay twins. -/
theorem afterStart {m : EStateM BoxError (World L) (Locals L)} (hm : Respects World.Twins m)
    (h : world.Twins world') :
    (Machine.afterStart started (m world)).Twins (Machine.afterStart started (m world')) := by
  have hstep := hm world world' h
  unfold Lockstep at hstep
  cases hrun : m world <;> cases hrun' : m world' <;> rw [hrun, hrun'] at hstep
  case ok.ok locals world₁ locals' world₁' =>
    obtain ⟨rfl, hworld⟩ := hstep
    exact ⟨rfl, hworld⟩
  case error.error => exact ⟨rfl, hstep.2⟩
  all_goals exact hstep.elim

/-- So they do where one pass of the session goes alike. -/
theorem afterPass {m : EStateM BoxError (Session L) Flow} (hm : Respects Session.Twins m)
    (h : session.Twins session') :
    (Machine.afterPass started (m session)).Twins (Machine.afterPass started (m session')) := by
  have hstep := hm session session' h
  unfold Lockstep at hstep
  cases hrun : m session <;> cases hrun' : m session' <;> rw [hrun, hrun'] at hstep
  case ok.ok flow session₁ flow' session₁' =>
    obtain ⟨rfl, hlocals, hworld⟩ := hstep
    cases flow with
    | «continue» => exact ⟨congrArg (Phase.running started) hlocals, hworld⟩
    | «break» => exact ⟨rfl, hworld⟩
  case error.error => exact ⟨rfl, hstep.2.2⟩
  all_goals exact hstep.elim

/-- And where the end of an attempt does. -/
theorem afterFinish {m : EStateM BoxError (World L) Unit} (hm : Respects World.Twins m)
    (h : world.Twins world') :
    (Machine.afterFinish (m world)).Twins (Machine.afterFinish (m world')) := by
  have hstep := hm world world' h
  unfold Lockstep at hstep
  cases hrun : m world <;> cases hrun' : m world' <;> rw [hrun, hrun'] at hstep
  case ok.ok => exact ⟨rfl, hstep.2⟩
  case error.error => exact ⟨congrArg Phase.exited hstep.1, hstep.2⟩
  all_goals exact hstep.elim

/-- A step leads twins to twins. -/
theorem step (hL : L.Documented) {machine machine' : Machine L} {input : Input L}
    (hsink : input.outside.sink = .served) (h : machine.Twins machine') :
    (machine.step settings input).Twins (machine'.step settings input) := by
  obtain ⟨world, phase⟩ := machine
  obtain ⟨world', phase'⟩ := machine'
  obtain ⟨rfl, hworld⟩ := h
  have htook : (world.note (.took input)).Twins (world'.note (.took input)) := hworld.note rfl
  rcases phase with _ | ⟨started, locals⟩ | started | error <;>
    rcases input with outside | ⟨arm, outside⟩ | outside
  case ready.connect => exact afterStart Session.respects_start htook
  case running.select =>
    have hsession : Session.Twins ⟨world.note (.took (.select arm outside)), locals⟩
        ⟨world'.note (.took (.select arm outside)), locals⟩ := ⟨rfl, htook⟩
    exact afterPass (Session.respects_select hL hsink arm) hsession
  case ended.finish => exact afterFinish (World.respects_finish hL hsink started) htook
  all_goals exact ⟨rfl, hworld⟩

/-- Served by the outside, twins stay twins through any run. -/
theorem run (hL : L.Documented) {machine machine' : Machine L} {inputs : List (Input L)}
    (hsinks : ∀ input ∈ inputs, input.outside.sink = .served) (h : machine.Twins machine') :
    (machine.run settings inputs).Twins (machine'.run settings inputs) := by
  induction inputs generalizing machine machine' with
  | nil => exact h
  | cons input inputs ih =>
    refine ih (fun input' hinput' => hsinks input' (List.mem_cons_of_mem _ hinput')) ?_
    exact h.step hL (hsinks input List.mem_cons_self)

end Machine.Twins

/-- Two agents that start with the same configuration and get the same inputs, each with any sink and
any files, in a world where the sinks work and anything else may fail: they stay in the same phase
with the same variables, configuration and delay, and note the same calls, events and decisions in
the same order, with the same configurations, frames and results, up to the `FrameStats`. -/
theorem backend_transparent (hL : L.Documented) (settings : RuntimeSettings)
    (config : DisplayConfig) (sink sink' : FrameSink) (fs fs' : FileSystem)
    {inputs : List (Input L)} (hsinks : ∀ input ∈ inputs, input.outside.sink = .served) :
    ((Machine.initial config sink fs).run settings inputs).Twins
      ((Machine.initial config sink' fs').run settings inputs) := by
  have hinitial : Machine.Twins (Machine.initial (L := L) config sink fs)
      (Machine.initial config sink' fs') := ⟨rfl, rfl, rfl, rfl⟩
  exact hinitial.run hL hsinks

/-! ## With the reference instance -/

/-- Two sessions: a message is shown, then the socket fails, and the agent connects again. -/
def reconnected : List (Input Leddy.reference) :=
  [.connect (.calm ⟨0, 0⟩),
   .select (.incoming (.text (.ok (.show ⟨"m", 255, 3600000⟩)))) (.calm ⟨1000000, 1000000⟩),
   .select .frameTick (.calm ⟨50000000, 50000000⟩),
   .select (.incoming (.failed "reset")) (.calm ⟨60000000, 60000000⟩),
   .finish (.calm ⟨61000000, 61000000⟩), .connect (.calm ⟨70000000, 70000000⟩)]

/-- Over two sessions, with a snapshot sink that writes nowhere and with a helper. -/
theorem backend_transparent_reconnected :
    Machine.Twins
      ((Machine.initial Reference.supportedConfig (.snapshot ⟨none⟩) fun _ => .absent).run
        (.fromEnv fun _ => none) reconnected)
      ((Machine.initial Reference.supportedConfig (.hub75 ⟨[]⟩) fun _ => .absent).run
        (.fromEnv fun _ => none) reconnected) := by
  have hsinks : ∀ input ∈ reconnected, input.outside.sink = .served := by
    simp [reconnected, Input.outside, Outside.calm, SinkOutcome.served]
  exact backend_transparent Leddy.reference_documented _ _ _ _ _ _ hsinks

end LeddyRaspPi
