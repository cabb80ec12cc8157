import LeddyRaspPi.Agent.Packets

/-!
# How long a session lasts

If nothing outside fails, a session ends for what it is asked, and for nothing else: the end of the
socket, a message that cannot be read, a command that cannot be carried out, or a message that cannot
be rendered. `Session.GoesOn` says so of one pass, and `session_lasts_iff` of a session.
-/

namespace LeddyRaspPi

open Fallible

variable {L : Leddy} {settings : RuntimeSettings} {outside : Outside}

/-! ## A pass that is served -/

/-- The helper is there and takes everything, and so do the files. -/
def SinkOutcome.served : SinkOutcome := ⟨.ok none, none, .ok (), .complete⟩

/-- Every call of the outside succeeds. -/
structure Outside.Serves (outside : Outside) : Prop where
  send : outside.send = .ok ()
  persist : outside.persist = ⟨.ok (), .complete, .ok ()⟩
  sink : outside.sink = .served

/-- A command that can be carried out: the message of a `Show` is valid, and the configuration of a
`Configure` is supported, can be encoded, and its limits make a controller. -/
def Leddy.Feasible (L : Leddy) : L.Command → Prop
  | .show message => L.validateMessage message = .ok ()
  | .configure next => Supported L next ∧ (∃ bytes, L.toVecPretty next = .ok bytes) ∧
      ∃ safety, L.safetyNew (safetyLimits next) = .ok safety
  | _ => True

/-- The frame tick latches a fault, or has nothing to render, or can render it. -/
def Session.Renders (outside : Outside) (session : Session L) : Prop :=
  (L.safetyObserve session.locals.safety (session.observation outside)).1.faultLatched = true ∨
    ∀ active, session.locals.active = some active →
      ∃ result, session.rendering outside active = .ok result

/-- A pass that does not end the session by itself. -/
def Session.GoesOn (outside : Outside) (session : Session L) : Arm L → Prop
  | .incoming (.text (.ok command)) => L.Feasible command
  | .incoming .ping | .incoming .other => True
  | .incoming _ => False
  | .frameTick => session.Renders outside
  | .telemetryTick => True

section
variable {before : FrameSink × FileSystem} {config : DisplayConfig} {world : World L}

/-- Where the operating system creates the parent directory, `create_parent` returns. -/
theorem FileSystem.createParent_served (path : Path) (fs : FileSystem) :
    Ends (createParent path (.ok ())) fs (fun _ _ => True) fun _ _ => False := by
  unfold createParent
  cases path.nonemptyParent with
  | none => trivial
  | some parent => exact ends_ofExcept _ |>.2 ⟨fun _ _ => trivial, fun _ h => by cases h⟩

/-- A snapshot whose writes and renames are served is written. -/
theorem SnapshotSink.writeSnapshot_served (sink : SnapshotSink) (pixels : List UInt8)
    (fs : FileSystem) :
    Ends (sink.writeSnapshot pixels .served) fs (fun _ _ => True)
      fun _ _ => False := by
  unfold writeSnapshot
  cases sink.snapshotPath with
  | none => trivial
  | some path =>
    rw [ends_bind]
    exact (FileSystem.createParent_served path fs).mono (fun _ _ _ => trivial) fun _ _ h => h

/-- A helper that is there takes a packet. -/
theorem Hub75Sink.write_served {pixels : List UInt8} (hL : L.CountsPixels)
    (hlen : pixels.length = L.pixelCount config) (sink : Hub75Sink) :
    Ends (ensureRunning .served) sink
      (fun _ sink => Ends (writePacket L config pixels .served) sink
        (fun _ _ => True) fun _ _ => False) fun _ _ => False := by
  have hsize : pixels.length < UInt32.size := hlen ▸ hL.lt_size config
  show Ends (writePacket L config pixels _) sink _ _
  rw [writePacket, ends_focus, writeHub75Packet_eq hlen hsize]
  trivial

/-- A call of `sink.clear` that is served returns. -/
theorem World.clearSink_served (hL : L.Documented) (hsink : outside.sink = .served) :
    Ends (World.clearSink outside) world (fun _ _ => True) fun _ _ => False := by
  rw [World.clearSink, ends_bind, ends_get, World.onSink_ends, hsink]
  rw [FrameSink.clear, ends_bind, ends_get]
  cases world.sink with
  | snapshot sink => exact (FrameSink.ends_onSnapshot _).2 (sink.writeSnapshot_served _ _)
  | hub75 sink =>
    refine (FrameSink.ends_onHub75 _).2 ?_
    rw [Hub75Sink.clear, ends_bind]
    exact Hub75Sink.write_served hL.counts List.length_replicate sink

/-- So does a call of `sink.present`, for a frame rendered with the configuration: it has the
configured number of pixels, the one thing the sink itself would refuse. -/
theorem World.presentSink_served (hL : L.Documented) (hsink : outside.sink = .served)
    {message : L.MessageEnvelope} {ms : UInt64} {frame : L.FrameBuffer}
    (hframe : L.renderMessageFrame world.config message ms = .ok (some frame)) :
    Ends (World.presentSink outside frame) world (fun _ _ => True) fun _ _ => False := by
  rw [World.presentSink, ends_bind, ends_get, World.onSink_ends, hsink]
  rw [FrameSink.present, ends_bind, ends_get]
  cases world.sink with
  | snapshot sink =>
    refine (FrameSink.ends_onSnapshot _).2 ?_
    rw [SnapshotSink.present, ends_bind]
    exact sink.writeSnapshot_served _ _
  | hub75 sink =>
    refine (FrameSink.ends_onHub75 _).2 ?_
    simp only [Hub75Sink.present, ends_bind, ends_pure]
    exact Hub75Sink.write_served hL.counts (hL.renders hframe) sink

/-- A supported configuration that can be encoded is persisted where the outside serves. -/
theorem World.persist_served {next : DisplayConfig} (hserves : outside.Serves)
    (hsupported : Supported L next) (hencodes : ∃ bytes, L.toVecPretty next = .ok bytes) :
    Ends (World.persist settings outside next) world (fun _ _ => True) fun _ _ => False := by
  obtain ⟨bytes, hbytes⟩ := hencodes
  have hvalid : validateSupportedConfig L next = .ok () := hsupported
  rw [World.persist, ends_adaptExcept, ends_focus, hserves.persist, persistConfig]
  simp only [hvalid, hbytes, ends_bind, ends_ofExcept, Except.mapError]
  refine ⟨fun _ _ => ?_, fun _ h => by cases h⟩
  refine (FileSystem.createParent_served _ _).mono (fun _ _ _ => ?_) fun _ _ h => h
  exact ⟨fun _ _ => trivial, fun _ h => by cases h⟩

end

namespace Session

variable {session : Session L} {command : L.Command}

/-- Where the socket takes it, an event is sent. -/
theorem reply_served (hserves : outside.Serves) (event : L.Event) :
    Ends (reply outside event) session (fun _ _ => True) fun _ _ => False := by
  rw [reply_ends]
  refine ⟨fun _ => trivial, fun error herror => ?_⟩
  rw [hserves.send] at herror
  cases herror

/-- A command that can be carried out is. -/
theorem handleCommand_served (hL : L.Documented) (hserves : outside.Serves)
    (hfeasible : L.Feasible command) :
    Ends (handleCommand settings outside command) session (fun _ _ => True) fun _ _ => False := by
  have hreply : ∀ (event : L.Event) (session : Session L),
      Ends (reply outside event) session (fun _ _ => True) fun _ _ => False := fun event _ =>
    reply_served hserves event
  cases command with
  | «show» message =>
    have hvalid : L.validateMessage message = .ok () := hfeasible
    simp only [handleCommand, handleShow, ends_bind, ends_ofExcept_mapError, assign, ends_modify,
      hvalid]
    exact ⟨fun _ _ => hreply _ _, fun _ h => by cases h⟩
  | clear =>
    exact handleClear_ends ((World.clearSink_served hL hserves.sink).mono (fun _ _ _ => hreply _ _)
      fun _ _ h => h)
  | configure next =>
    obtain ⟨hsupported, hencodes, safety, hsafety⟩ := hfeasible
    have hvalid : validateSupportedConfig L next = .ok () := hsupported
    simp only [handleCommand, handleConfigure, ends_bind, ends_ofExcept_mapError, onWorld_ends,
      hvalid]
    refine ⟨fun _ _ => (World.persist_served hserves hsupported hencodes).mono (fun _ _ _ => ?_)
      fun _ _ h => h, fun _ h => by cases h⟩
    simp only [World.configure, ends_modify, World.newController_ends, assign]
    refine ⟨fun _ _ => ?_, fun error herror => ?_⟩
    · exact (World.clearSink_served hL hserves.sink).mono (fun _ _ _ => hreply _ _) fun _ _ h => h
    · exact absurd (hsafety.symm.trans herror) (by simp)
  | ping nonce => exact hreply _ _
  | resetSafetyFault authorization =>
    exact handleResetSafetyFault_ends (fun _ _ => hreply _ _) fun _ _ _ => hreply _ _
  | stageFirmware => exact hreply _ _
  | activateStagedFirmware => exact hreply _ _

/-- One that cannot is not, however it is served. -/
theorem handleCommand_infeasible (hinfeasible : ¬ L.Feasible command) :
    Ends (handleCommand settings outside command) session (fun _ _ => False) fun _ _ => True := by
  cases command with
  | «show» message =>
    simp only [handleCommand, handleShow, ends_bind, ends_ofExcept_mapError]
    exact ⟨fun _ hvalid => absurd hvalid hinfeasible, fun _ _ => trivial⟩
  | configure next =>
    refine handleConfigure_ends (fun _ _ _ => trivial) (fun _ _ _ _ => trivial) ?_
    intro fs hpersisted safety hsafety
    obtain ⟨bytes, hbytes, -⟩ := hpersisted.written
    exact absurd ⟨hpersisted.supported, ⟨bytes, hbytes⟩, safety, hsafety⟩ hinfeasible
  | clear => exact absurd trivial hinfeasible
  | ping nonce => exact absurd trivial hinfeasible
  | resetSafetyFault authorization => exact absurd trivial hinfeasible
  | stageFirmware => exact absurd trivial hinfeasible
  | activateStagedFirmware => exact absurd trivial hinfeasible

/-- A frame tick that latches a fault or can render its message succeeds. -/
theorem frameTick_served (hL : L.Documented) (hserves : outside.Serves)
    (hrenders : session.Renders outside) :
    Ends (frameTick outside) session (fun _ _ => True) fun _ _ => False := by
  refine frameTick_ends (fun decision safety _ _ => World.clearSink_served hL hserves.sink)
    fun decision safety hobserve hclear => ?_
  have hrendered : ∀ active, session.locals.active = some active →
      ∃ result, session.rendering outside active = .ok result := by
    rcases hrenders with hlatched | hrendered
    · rw [hobserve, hclear] at hlatched
      cases hlatched
    · exact hrendered
  refine presentActive_ends (fun _ => trivial) (fun active hactive error herror => ?_)
    (fun active hactive frame hframe => World.presentSink_served hL hserves.sink hframe)
    fun active hactive _ => World.clearSink_served hL hserves.sink
  obtain ⟨result, hresult⟩ := hrendered active hactive
  exact absurd (hresult.symm.trans herror) (by simp)

/-- One that cannot fails, however it is served. -/
theorem frameTick_unrendered (hfails : ¬ session.Renders outside) :
    Ends (frameTick outside) session (fun _ _ => False) fun _ _ => True := by
  refine frameTick_ends (fun decision safety hobserve hlatched => ?_)
    fun decision safety hobserve hclear => ?_
  · exact absurd (.inl (congrArg (fun observed => observed.1.faultLatched) hobserve ▸ hlatched))
      hfails
  · refine presentActive_ends (fun hidle => ?_) (fun _ _ _ _ => trivial)
      (fun active hactive frame hframe => ?_) fun active hactive hexpired => ?_
    · exact hfails (.inr fun active hactive => absurd (hidle.symm.trans hactive) (by simp))
    · refine absurd (.inr fun active' hactive' => ⟨some frame, ?_⟩) hfails
      cases hactive.symm.trans hactive'
      exact hframe
    · refine absurd (.inr fun active' hactive' => ⟨none, ?_⟩) hfails
      cases hactive.symm.trans hactive'
      exact hexpired

/-- A pass that is served and can go on does. -/
theorem select_served (hL : L.Documented) (hserves : outside.Serves) {arm : Arm L}
    (effect : Effect L) (hgoesOn : session.GoesOn outside arm) :
    Ends (select settings outside arm) (session.note effect) (fun flow _ => flow = .continue)
      fun _ _ => False := by
  cases arm with
  | frameTick =>
    rw [select, ends_bind]
    have hrenders : (session.note effect).Renders outside := hgoesOn
    exact (frameTick_served hL hserves hrenders).mono (fun _ _ _ => rfl) fun _ _ h => h
  | telemetryTick =>
    rw [select, ends_bind, telemetryTick, ends_bind, ends_get]
    exact (reply_served hserves _).mono (fun _ _ _ => rfl) fun _ _ h => h
  | incoming incoming =>
    rw [select]
    cases incoming with
    | closed => exact hgoesOn.elim
    | failed error => exact hgoesOn.elim
    | close => exact hgoesOn.elim
    | other => rfl
    | ping =>
      simp only [handleIncoming, touch, assign, ends_bind, ends_modify, onWorld_ends,
        World.sendPong, ends_ofExcept_mapError, ends_pure, hserves.send]
      exact ⟨fun _ _ => trivial, fun _ h => by cases h⟩
    | text command =>
      cases command with
      | error error => exact hgoesOn.elim
      | ok command =>
        simp only [handleIncoming, touch, assign, ends_bind, ends_modify, ends_ofExcept_mapError,
          ends_pure]
        refine ⟨fun command' hcommand => ?_, fun _ h => by cases h⟩
        cases hcommand
        exact (handleCommand_served hL hserves hgoesOn).mono (fun _ _ _ => trivial) fun _ _ h => h

/-- One that cannot leads out of the loop. -/
theorem select_stops {arm : Arm L} (effect : Effect L) (hstops : ¬ session.GoesOn outside arm) :
    Ends (select settings outside arm) (session.note effect) (fun flow _ => flow = .break)
      fun _ _ => True := by
  cases arm with
  | frameTick =>
    rw [select, ends_bind]
    have hfails : ¬ (session.note effect).Renders outside := hstops
    exact (frameTick_unrendered hfails).mono (fun _ _ h => h.elim) fun _ _ h => h
  | telemetryTick => exact absurd trivial hstops
  | incoming incoming =>
    rw [select]
    cases incoming with
    | closed => rfl
    | failed error => trivial
    | close => rfl
    | other => exact absurd trivial hstops
    | ping => exact absurd trivial hstops
    | text command =>
      simp only [handleIncoming, touch, assign, ends_bind, ends_modify, ends_ofExcept_mapError,
        ends_pure]
      refine ⟨fun command' hcommand => ?_, fun _ _ => trivial⟩
      subst hcommand
      exact (handleCommand_infeasible hstops).mono (fun _ _ h => h.elim) fun _ _ h => h

end Session

/-! ## A session -/

/-- A pass of the session loop that is served. -/
structure ServedPass (L : Leddy) where
  arm : Arm L
  outside : Outside
  serves : outside.Serves

namespace Machine

variable {machine : Machine L} {started : Nat} {served : ServedPass L}

/-- The agent after such a pass. -/
def pass (settings : RuntimeSettings) (machine : Machine L) (served : ServedPass L) : Machine L :=
  machine.step settings (.select served.arm served.outside)

/-- The pass does not end the session by itself. -/
def CanGoOn (machine : Machine L) (served : ServedPass L) : Prop :=
  ∀ started locals, machine.phase = .running started locals →
    Session.GoesOn served.outside ⟨machine.world, locals⟩ served.arm

/-- The agent is in the session that began at this instant. -/
def InSession (started : Nat) (machine : Machine L) : Prop :=
  ∃ locals, machine.phase = .running started locals

/-- After a pass that is served and goes on, what holds of every session it can lead to holds. -/
theorem pass_ends (hL : L.Documented) (settings : RuntimeSettings) {world : World L}
    {locals : Locals L} {Q : Session L → Prop}
    (hgoesOn : Session.GoesOn served.outside ⟨world, locals⟩ served.arm)
    (hends : Ends (Session.select settings served.outside served.arm)
      (Session.note (.took (.select served.arm served.outside)) ⟨world, locals⟩)
      (fun _ after => Q after) fun _ _ => True) :
    ∃ after : Session L, Q after ∧
      pass settings ⟨world, .running started locals⟩ served =
        ⟨after.world, .running started after.locals⟩ := by
  have hserved : Ends (Session.select settings served.outside served.arm)
      (Session.note (.took (.select served.arm served.outside)) ⟨world, locals⟩)
      (fun flow _ => flow = .continue) fun _ _ => False :=
    Session.select_served hL served.serves _ hgoesOn
  have hboth := hserved.and hends
  unfold Ends at hboth
  simp only [pass, step]
  cases hrun : Session.select settings served.outside served.arm
      ⟨world.note (.took (.select served.arm served.outside)), locals⟩ with
  | ok flow after =>
    rw [Session.note, hrun] at hboth
    obtain ⟨rfl, hafter⟩ := hboth
    exact ⟨after, hafter, rfl⟩
  | error error after =>
    rw [Session.note, hrun] at hboth
    exact hboth.1.elim

/-- A pass that can go on leaves the agent in its session. -/
theorem InSession.pass (hL : L.Documented) (hgoesOn : machine.CanGoOn served)
    (h : machine.InSession started) : (machine.pass settings served).InSession started := by
  obtain ⟨world, phase⟩ := machine
  obtain ⟨locals, rfl⟩ := h
  obtain ⟨after, -, hpass⟩ := pass_ends (Q := fun _ => True) hL settings (hgoesOn started locals rfl)
    (ends_of_forall (fun _ _ => trivial) fun _ _ => trivial)
  exact ⟨after.locals, congrArg Machine.phase hpass⟩

/-- A pass that cannot go on ends it. -/
theorem InSession.stop (hstops : ¬ machine.CanGoOn served) (h : machine.InSession started) :
    (machine.pass settings served).phase = .ended started := by
  obtain ⟨world, phase⟩ := machine
  obtain ⟨locals, rfl⟩ := h
  have hleaves : ¬ Session.GoesOn served.outside ⟨world, locals⟩ served.arm := by
    intro hgoesOn
    refine hstops fun started' locals' hphase => ?_
    cases hphase
    exact hgoesOn
  have hends : Ends (Session.select settings served.outside served.arm)
      (Session.note (.took (.select served.arm served.outside)) ⟨world, locals⟩)
      (fun flow _ => flow = .break) fun _ _ => True := Session.select_stops _ hleaves
  unfold Ends at hends
  simp only [Machine.pass, step]
  cases hrun : Session.select settings served.outside served.arm
      ⟨world.note (.took (.select served.arm served.outside)), locals⟩ with
  | ok flow session =>
    rw [Session.note, hrun] at hends
    subst hends
    rfl
  | error error session => rfl

/-- No pass leads back into a session that is over. -/
theorem ended_pass (h : machine.phase = .ended started) :
    (machine.pass settings served).phase = .ended started := by
  obtain ⟨world, phase⟩ := machine
  subst h
  rfl

end Machine

/-- If all calls of the outside succeed, a session lasts exactly as long as each of its passes can go
on: no socket that ends, no message that cannot be read, no `Show` that is not valid, no `Configure`
that is not supported or cannot be put into effect, and no frame tick that cannot render. -/
theorem session_lasts_iff (hL : L.Documented) {machine : Machine L} {started : Nat}
    (hsession : machine.InSession started) (passes : List (ServedPass L)) :
    (Transition.run (Machine.pass settings) machine passes).InSession started ↔
      Transition.Along (Machine.pass settings) Machine.CanGoOn machine passes := by
  constructor
  · intro hlasts
    by_contra hstops
    have hended := Transition.run_of_not_along
      (B := fun machine : Machine L => machine.phase = .ended started)
      (fun _ _ hgoesOn h => Machine.InSession.pass hL hgoesOn h)
      (fun _ _ hstops h => Machine.InSession.stop hstops h) (fun _ _ h => Machine.ended_pass h)
      hsession hstops
    obtain ⟨locals, hphase⟩ := hlasts
    cases hended.symm.trans hphase
  · exact Transition.run_preserves_along (fun _ _ hgoesOn h => h.pass hL hgoesOn) hsession

/-! ## With the reference instance -/

/-- The calm outside serves every call. -/
theorem Outside.calm_serves (now : Clock) : (calm now).Serves := ⟨rfl, rfl, rfl⟩

/-- A pass at an instant at which nothing fails. -/
def ServedPass.calm (arm : Arm Leddy.reference) (now : Clock) : ServedPass Leddy.reference :=
  ⟨arm, .calm now, Outside.calm_serves now⟩

/-- A session that has just begun. -/
def Machine.connected : Machine Leddy.reference :=
  Machine.sample.step (.fromEnv fun _ => none) (.connect (.calm ⟨0, 0⟩))

/-- A `Show`, a frame tick, and a close of the socket. -/
theorem session_lasts_iff_closed :
    (Transition.run (Machine.pass (.fromEnv fun _ => none)) Machine.connected
        [.calm (.incoming (.text (.ok (.show ⟨"m", 255, 3600000⟩)))) ⟨1000000, 1000000⟩,
          .calm .frameTick ⟨50000000, 50000000⟩, .calm (.incoming .close) ⟨60000000, 60000000⟩]
        ).InSession 0 ↔
      Transition.Along (Machine.pass (.fromEnv fun _ => none)) Machine.CanGoOn Machine.connected
        [.calm (.incoming (.text (.ok (.show ⟨"m", 255, 3600000⟩)))) ⟨1000000, 1000000⟩,
          .calm .frameTick ⟨50000000, 50000000⟩, .calm (.incoming .close) ⟨60000000, 60000000⟩] :=
  session_lasts_iff Leddy.reference_documented ⟨_, rfl⟩ _

end LeddyRaspPi
