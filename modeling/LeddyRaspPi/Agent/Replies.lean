import LeddyRaspPi.Agent.Persistence

/-!
# Commands and their replies

What a session has sent is compared with what its commands are due (`repliesDue`), both read off the
history. As long as the session loop waits the two agree (`Answered`); a session that is over may
owe one reply, to the command that ended it (`Over`). What a command has done by the time its Ack
goes out is `Done`. For a `Configure` that includes the file, with one exception: a snapshot that is
configured onto the configuration file overwrites it before the Ack (`snapshot_over_config`).
-/

namespace LeddyRaspPi

open Fallible History

variable {L : Leddy} {settings : RuntimeSettings}

/-! ## Reading the history -/

/-- The reply to a command, unless it is a reset that gets rejected. -/
def Leddy.replyTo (L : Leddy) : L.Command → L.Event
  | .show message => .ack (L.messageId message)
  | .clear => .ack "clear"
  | .configure _ => .ack "configure"
  | .ping nonce => .pong nonce
  | .resetSafetyFault authorization => .ack (L.authorizationId authorization)
  | .stageFirmware | .activateStagedFirmware =>
    .error "firmware_update_not_configured"
      "this controller has no provisioned firmware update keyring"

/-- The replies due after an effect: a command is due its reply, and an error instead where
`reset_authorized` has rejected it. -/
def Effect.due (before : List L.Event) : Effect L → List L.Event
  | .took (.connect _) => []
  | .took (.select (.incoming (.text (.ok command))) _) => L.replyTo command :: before
  | .reset _ (.error error) => .error "safety_reset_rejected" error :: before.tail
  | _ => before

/-- The replies due to the commands of the last session, latest first. -/
def repliesDue (history : List (Effect L)) : List L.Event :=
  history.foldr (fun effect before => effect.due before) []

/-- The events sent after an effect. -/
def Effect.sends (before : List L.Event) : Effect L → List L.Event
  | .took (.connect _) => []
  | .sent event _ (.ok _) => event :: before
  | _ => before

/-- The events the last session has sent, latest first. -/
def eventsSent (history : List (Effect L)) : List L.Event :=
  history.foldr (fun effect before => effect.sends before) []

/-- The arm taken last after an effect. -/
def Effect.takes (before : Option (Arm L)) : Effect L → Option (Arm L)
  | .took (.connect _) => none
  | .took (.select arm _) => some arm
  | _ => before

/-- The arm the loop of the last session has taken last. -/
def lastArm (history : List (Effect L)) : Option (Arm L) :=
  history.foldr (fun effect before => effect.takes before) none

/-- A telemetry event. -/
def DeviceEvent.isTelemetry {Nonce Fault FaultRecord : Type} :
    DeviceEvent Nonce Fault FaultRecord → Bool
  | .telemetry _ => true
  | _ => false

/-- The events that are no telemetry. -/
def withoutTelemetry (events : List L.Event) : List L.Event :=
  events.filter fun event => !event.isTelemetry

/-- The last call of the sink. -/
def lastSinkCall (history : List (Effect L)) : Option (Effect L) :=
  history.find? fun effect => effect.presents || effect.clears

/-- The last call of the sink was a clear with this configuration, and it returned. -/
def LastCleared (config : DisplayConfig) (history : List (Effect L)) : Prop :=
  ∃ before after, lastSinkCall history = some (.cleared config before after (.ok ()))

/-! ## One reply for each command -/

/-- The first event sent is the Hello, and the others but telemetry are the replies due. -/
def Answered (settings : RuntimeSettings) (history : List (Effect L)) : Prop :=
  ∃ later, eventsSent history = later ++ [Session.hello L settings] ∧
    withoutTelemetry later = repliesDue history

/-- The arm taken last is a command, and its reply is the only one due that has not been sent. -/
def Owes (settings : RuntimeSettings) (reply : L.Event) (history : List (Effect L)) : Prop :=
  ∃ command later, lastArm history = some (.incoming (.text (.ok command))) ∧
    eventsSent history = later ++ [Session.hello L settings] ∧
    repliesDue history = reply :: withoutTelemetry later

/-- A session that is over, or has not begun: nothing was sent and no command taken, or each command
has been answered, or each but the one that ended the session. -/
def Over (settings : RuntimeSettings) (history : List (Effect L)) : Prop :=
  (eventsSent history = [] ∧ repliesDue history = []) ∨ Answered settings history ∨
    ∃ reply, Owes settings reply history

/-- The conversation as it stands. -/
def Machine.Conversation (settings : RuntimeSettings) (machine : Machine L) : Prop :=
  match machine.phase with
  | .running .. => Answered settings machine.world.history
  | _ => Over settings machine.world.history

/-! ## What is done when an Ack is sent -/

/-- The file at the path holds the configuration. -/
def OnDisk (L : Leddy) (fs : FileSystem) (path : Path) (config : DisplayConfig) : Prop :=
  ∃ bytes, L.toVecPretty config = .ok bytes ∧ fs path = .file bytes

/-- What a command has done when its Ack is sent. `kept` says that the sink does not write to the
configuration file. -/
def Done (settings : RuntimeSettings) (kept : Prop) (past : List (Effect L)) (state : Snapshot L)
    (locals : Locals L) : L.Command → Prop
  | .show message => ∃ active, locals.active = some active ∧ active.message = message
  | .clear => locals.active = none ∧ LastCleared state.config past
  | .configure next =>
    state.config = next ∧ (kept → OnDisk L state.fs settings.configPath next) ∧
      L.safetyNew (safetyLimits next) = .ok locals.safety ∧ LastCleared next past
  | _ => True

/-- An Ack is sent in the pass of a command, when that command is done. -/
def AcksDone (settings : RuntimeSettings) (kept : Prop) (past : List (Effect L)) :
    Effect L → Prop
  | .sent (.ack _) state _ => ∃ locals command outside, state.locals = some locals ∧
      lastTaken past = some (.select (.incoming (.text (.ok command))) outside) ∧
      Done settings kept past state locals command
  | _ => True

/-- Every Ack was sent when its command was done, and the sink writes where it always has. -/
structure Spoken (settings : RuntimeSettings) (kept : Prop) (world : World L) : Prop where
  path : kept → world.sink.snapshotPath ≠ some settings.configPath
  acks : Always (AcksDone settings kept) world.history

/-- In the session loop every command has been answered, elsewhere the session is over. -/
def repliesLaw (L : Leddy) (settings : RuntimeSettings) (kept : Prop) : Law L where
  ready world := Over settings world.history ∧ Spoken settings kept world
  running session := Answered settings session.world.history ∧ Spoken settings kept session.world
  ended world := Over settings world.history ∧ Spoken settings kept world
  exited world := Over settings world.history ∧ Spoken settings kept world

section
variable {kept : Prop} {world : World L} {outside : Outside}

/-- An entry that tells no untruth about what was done leaves the replies in order. -/
theorem Spoken.note {effect : Effect L} (hack : AcksDone settings kept world.history effect)
    (h : Spoken settings kept world) : Spoken settings kept (world.note effect) :=
  ⟨h.path, hack, h.acks⟩

/-- So does a call of the sink. -/
theorem Spoken.called {effect : Effect L} {after : FrameSink × FileSystem}
    (hack : AcksDone settings kept world.history effect)
    (honly : OnlySnapshot (world.sink, world.fs) after) (h : Spoken settings kept world) :
    Spoken settings kept (world.called after effect) :=
  ⟨fun hkept => honly.path ▸ h.path hkept, hack, h.acks⟩

/-- A clear by itself changes nothing of the conversation. -/
theorem Spoken.clearSink_ends (hanswered : Answered settings world.history)
    (h : Spoken settings kept world) :
    Ends (World.clearSink outside) world
      (fun _ world' => Answered settings world'.history ∧ Spoken settings kept world')
      (fun _ world' => Over settings world'.history ∧ Spoken settings kept world') := by
  refine World.clearSink_ends (fun after honly _ => ?_) fun _ after honly => ?_
  · exact ⟨hanswered, h.called trivial honly⟩
  · exact ⟨.inr (.inl hanswered), h.called trivial honly⟩

/-- The state behind the Hello, whether it could be sent or not. -/
theorem over_greeted (world : World L) :
    Over settings (Session.greeted settings outside
      (world.note (.took (.connect outside)))).history := by
  cases hsend : outside.send with
  | ok u =>
    refine .inr (.inl ⟨[], ?_, rfl⟩)
    simp only [Session.greeted, hsend]
    rfl
  | error error =>
    refine .inl ⟨?_, rfl⟩
    simp only [Session.greeted, hsend]
    rfl

/-- The reply that is due settles the account; if it cannot be sent, the session is over. -/
theorem passes_due {event : L.Event} {session : Session L}
    (htelemetry : event.isTelemetry = false) (howes : Owes settings event session.world.history)
    (hspoken : Spoken settings kept session.world)
    (hack : AcksDone settings kept session.world.history
      (.sent event ⟨session.world.config, session.world.fs, some session.locals⟩ outside.send)) :
    (repliesLaw L settings kept).Passes (Session.reply outside event) session := by
  obtain ⟨command, later, harm, hsent, hdue⟩ := howes
  refine Session.reply_ends.2 ⟨fun hok => ⟨⟨event :: later, ?_, ?_⟩, hspoken.note hack⟩, ?_⟩
  · rw [Session.sent, hok]
    exact congrArg (event :: ·) hsent
  · rw [withoutTelemetry, List.filter_cons_of_pos (by rw [htelemetry]; rfl)]
    exact hdue.symm
  · intro error herror
    refine ⟨.inr (.inr ⟨event, command, later, harm, ?_, hdue⟩), hspoken.note hack⟩
    rw [Session.sent, herror]
    exact hsent

/-- The Hello opens the conversation, where the session gets that far. -/
theorem repliesLaw_start (hspoken : Spoken settings kept world) :
    Ends (Session.start settings outside) (world.note (.took (.connect outside)))
      (fun locals world' => (repliesLaw L settings kept).running ⟨world', locals⟩)
      (fun _ => (repliesLaw L settings kept).ended) := by
  have htook : Spoken settings kept (world.note (.took (.connect outside))) := hspoken.note trivial
  have hgreeted : Spoken settings kept (Session.greeted settings outside
      (world.note (.took (.connect outside)))) := htook.note trivial
  refine Session.start_ends (fun _ => ⟨.inl ⟨rfl, rfl⟩, htook⟩)
    (fun _ => ⟨over_greeted world, hgreeted⟩)
    (fun _ => ⟨over_greeted world, hgreeted.note trivial⟩) ?_
  intro _ _ hsend _ _
  refine ⟨⟨[], ?_, rfl⟩, hgreeted.note trivial⟩
  simp only [Session.greeted, hsend]
  rfl

section
variable {session : Session L}

/-- The Ack of a `Show` goes out with the message active. -/
theorem passes_show {message : L.MessageEnvelope}
    (howes : Owes settings (.ack (L.messageId message)) session.world.history)
    (hspoken : Spoken settings kept session.world)
    (htook : lastTaken session.world.history =
      some (.select (.incoming (.text (.ok (.show message)))) outside)) :
    (repliesLaw L settings kept).Passes (Session.handleShow outside message) session := by
  refine Session.handleShow_ends (fun _ => ⟨.inr (.inr ⟨_, howes⟩), hspoken⟩) ?_
  exact passes_due rfl howes hspoken ⟨_, _, _, rfl, htook, _, rfl, rfl⟩

/-- That of a `Clear` goes out behind a clear of the sink. -/
theorem passes_clear (howes : Owes settings (.ack "clear") session.world.history)
    (hspoken : Spoken settings kept session.world)
    (htook : lastTaken session.world.history =
      some (.select (.incoming (.text (.ok .clear))) outside)) :
    (repliesLaw L settings kept).Passes (Session.handleClear outside) session := by
  refine Session.handleClear_ends (World.clearSink_ends (fun after honly _ => ?_) ?_)
  · exact passes_due rfl howes (hspoken.called trivial honly) ⟨_, _, _, rfl, htook, rfl, _, _, rfl⟩
  · exact fun _ _ honly => ⟨.inr (.inr ⟨_, howes⟩), hspoken.called trivial honly⟩

/-- That of a `Configure` goes out behind the file, the new controller and a clear of the sink, which
leaves the file alone if snapshots go elsewhere. -/
theorem passes_configure {next : DisplayConfig}
    (howes : Owes settings (.ack "configure") session.world.history)
    (hspoken : Spoken settings kept session.world)
    (htook : lastTaken session.world.history =
      some (.select (.incoming (.text (.ok (.configure next)))) outside)) :
    (repliesLaw L settings kept).Passes (Session.handleConfigure settings outside next) session := by
  refine Session.handleConfigure_ends (fun _ fs _ => ?_) (fun fs hpersisted _ _ => ?_) ?_
  · exact ⟨.inr (.inr ⟨_, howes⟩), hspoken.path, hspoken.acks⟩
  · exact ⟨.inr (.inr ⟨_, howes⟩), hspoken.path, trivial, trivial, hspoken.acks⟩
  · intro fs hpersisted safety hsafety
    have hrebuilt : Spoken settings kept (session.rebuilt outside next fs safety).world :=
      ⟨hspoken.path, trivial, trivial, hspoken.acks⟩
    refine World.clearSink_ends (fun after honly _ => ?_) ?_
    · refine passes_due rfl howes (hrebuilt.called trivial honly)
        ⟨_, _, _, rfl, htook, rfl, fun hkept => ?_, hsafety, _, _, rfl⟩
      obtain ⟨bytes, hencode, hfile⟩ := hpersisted.written
      exact ⟨bytes, hencode, (honly.files _ (hspoken.path hkept)).trans hfile⟩
    · exact fun _ _ honly => ⟨.inr (.inr ⟨_, howes⟩), hrebuilt.called trivial honly⟩

/-- A reset that is rejected is due an error in place of its Ack. -/
theorem passes_reset {authorization : L.SafetyResetAuthorization}
    (howes : Owes settings (.ack (L.authorizationId authorization)) session.world.history)
    (hspoken : Spoken settings kept session.world)
    (htook : lastTaken session.world.history =
      some (.select (.incoming (.text (.ok (.resetSafetyFault authorization)))) outside)) :
    (repliesLaw L settings kept).Passes (Session.handleResetSafetyFault outside authorization)
      session := by
  refine Session.handleResetSafetyFault_ends (fun safety _ => ?_) fun error safety _ => ?_
  · exact passes_due rfl howes (hspoken.note trivial) ⟨_, _, _, rfl, htook, trivial⟩
  · refine passes_due rfl ?_ (hspoken.note trivial) trivial
    obtain ⟨command, later, harm, hsent, hdue⟩ := howes
    refine ⟨command, later, harm, hsent, ?_⟩
    exact congrArg (fun due => _ :: due.tail) hdue

end

/-- A command is due its reply, and gets it or ends the session. -/
theorem repliesLaw_command (command : L.Command) {session : Session L}
    (hanswered : Answered settings session.world.history)
    (hspoken : Spoken settings kept session.world) :
    (repliesLaw L settings kept).Passes (Session.handleCommand settings outside command)
      ((session.note (.took (.select (.incoming (.text (.ok command))) outside))).touched
        outside) := by
  obtain ⟨later, hsent, hdue⟩ := hanswered
  have howes : Owes settings (L.replyTo command) (session.note
      (.took (.select (.incoming (.text (.ok command))) outside))).world.history :=
    ⟨command, later, rfl, hsent, congrArg (L.replyTo command :: ·) hdue.symm⟩
  have htook : Spoken settings kept (session.note
      (.took (.select (.incoming (.text (.ok command))) outside))).world := hspoken.note trivial
  cases command with
  | «show» message => exact passes_show howes htook rfl
  | clear => exact passes_clear howes htook rfl
  | configure next => exact passes_configure howes htook rfl
  | ping nonce => exact passes_due rfl howes htook trivial
  | resetSafetyFault authorization => exact passes_reset howes htook rfl
  | stageFirmware => exact passes_due rfl howes htook trivial
  | activateStagedFirmware => exact passes_due rfl howes htook trivial

/-- A frame tick is due nothing. -/
theorem repliesLaw_frameTick {session : Session L}
    (hanswered : Answered settings session.world.history)
    (hspoken : Spoken settings kept session.world) :
    (repliesLaw L settings kept).Passes (Session.frameTick outside)
      (session.note (.took (.select .frameTick outside))) := by
  have htook : Spoken settings kept
      (session.note (.took (.select .frameTick outside))).world := hspoken.note trivial
  have hobserved : ∀ decision, Spoken settings kept
      ((session.note (.took (.select .frameTick outside))).world.note
        (.observed (session.observation outside) decision)) := fun _ => htook.note trivial
  refine Session.frameTick_ends (fun decision safety _ _ => ?_) fun decision safety _ _ => ?_
  · exact (hobserved decision).clearSink_ends hanswered
  · have hrendered : ∀ active, Spoken settings kept (Session.rendered outside active
        (((session.note (.took (.select .frameTick outside))).withSafety safety).note
          (.observed (session.observation outside) decision))).world := fun _ =>
      (hobserved decision).note trivial
    refine Session.presentActive_ends (fun _ => ⟨hanswered, hobserved decision⟩)
      (fun active _ _ _ => ?_) ?_ ?_
    · exact ⟨.inr (.inl hanswered), hrendered active⟩
    · intro active _ frame _
      refine World.presentSink_ends (fun _ after honly _ => ?_) fun _ after honly => ?_
      · exact ⟨hanswered, (hrendered active).called trivial honly⟩
      · exact ⟨.inr (.inl hanswered), (hrendered active).called trivial honly⟩
    · intro active _ _
      exact (hrendered active).clearSink_ends hanswered

/-- Telemetry does not count, whether it could be sent or not. -/
theorem repliesLaw_telemetryTick {session : Session L}
    (telemetry : DeviceTelemetry L.Fault L.FaultRecord)
    (hanswered : Answered settings session.world.history)
    (hspoken : Spoken settings kept session.world) :
    (repliesLaw L settings kept).running
      ((session.note (.took (.select .telemetryTick outside))).sent outside
        (.telemetry telemetry)) := by
  obtain ⟨later, hsent, hdue⟩ := hanswered
  have htook : Spoken settings kept
      (session.note (.took (.select .telemetryTick outside))).world := hspoken.note trivial
  refine ⟨?_, htook.note trivial⟩
  cases hsend : outside.send with
  | ok u =>
    refine ⟨.telemetry telemetry :: later, ?_, hdue⟩
    rw [Session.sent, hsend]
    exact congrArg (.telemetry telemetry :: ·) hsent
  | error error =>
    refine ⟨later, ?_, hdue⟩
    rw [Session.sent, hsend]
    exact hsent

/-- The end of a session adds nothing to what was said in it. -/
theorem repliesLaw_finish (started : Nat) (hover : Over settings world.history)
    (hspoken : Spoken settings kept world) :
    Ends (World.finish started outside) (world.note (.took (.finish outside)))
      (fun _ => (repliesLaw L settings kept).ready)
      (fun _ => (repliesLaw L settings kept).exited) := by
  have htook : Spoken settings kept (world.note (.took (.finish outside))) := hspoken.note trivial
  refine World.finish_ends (World.clearSink_ends (fun after honly _ backoff => ?_) ?_)
  · have hcleared : Spoken settings kept ((world.note (.took (.finish outside))).called after
        (.cleared world.config (world.sink, world.fs) after (.ok ()))) :=
      htook.called trivial honly
    exact ⟨hover, hcleared.path, trivial, hcleared.acks⟩
  · exact fun _ after honly => ⟨hover, htook.called trivial honly⟩

/-- The conversation is kept by every input. -/
theorem repliesLaw_parts :
    (repliesLaw L settings kept).Parts settings fun _ _ => True where
  weaken h := ⟨.inr (.inl h.1), h.2⟩
  start outside world _ hready := repliesLaw_start hready.2
  idle incoming outside session hincoming hrunning := by
    cases incoming with
    | text command =>
      cases command with
      | ok command => cases hincoming
      | error error => exact ⟨hrunning.1, hrunning.2.note trivial⟩
    | ping => cases hincoming
    | _ => exact ⟨hrunning.1, hrunning.2.note trivial⟩
  ping outside session hrunning :=
    have htook : Spoken settings kept
        (session.note (.took (.select (.incoming .ping) outside))).world :=
      hrunning.2.note trivial
    ⟨hrunning.1, htook.note trivial⟩
  command started command outside session _ hrunning :=
    repliesLaw_command command hrunning.1 hrunning.2
  frameTick started outside session _ hrunning := repliesLaw_frameTick hrunning.1 hrunning.2
  telemetryTick outside telemetry session hrunning :=
    repliesLaw_telemetryTick telemetry hrunning.1 hrunning.2
  finish started outside world _ hended := repliesLaw_finish started hended.1 hended.2

/-- In every run, the first event of a session is its Hello, and the events behind it but telemetry
are the replies due to its commands, one for each, in order; only the command that has ended the
session, the last one then, may be without its reply. And when an Ack is sent, what the command asks
for is done: the message of a `Show` is active; for a `Clear` no message is active and the last call
of the sink is a clear; the configuration of a `Configure` is in memory and, unless snapshots are
written onto the configuration file, on disk, the controller was built with its limits, and the last
call of the sink is a clear with it. -/
theorem replies_in_order (settings : RuntimeSettings) (config : DisplayConfig) (sink : FrameSink)
    (fs : FileSystem) (inputs : List (Input L)) :
    Machine.Conversation settings ((Machine.initial config sink fs).run settings inputs) ∧
    Always (AcksDone settings (sink.snapshotPath ≠ some settings.configPath))
      ((Machine.initial config sink fs).run settings inputs).world.history := by
  have hinitial : (repliesLaw L settings (sink.snapshotPath ≠ some settings.configPath)).Holds
      (Machine.initial config sink fs) := ⟨.inl ⟨rfl, rfl⟩, id, trivial⟩
  have hholds := (repliesLaw_parts (L := L)).kept.run_all hinitial inputs
  generalize (Machine.initial config sink fs).run settings inputs = machine at hholds
  obtain ⟨world, phase⟩ := machine
  cases phase <;> exact ⟨hholds.1, hholds.2.acks⟩

end

/-! ## With the reference instance -/

/-- In this environment the file does not hold the new configuration when the Ack of the `Configure`
is sent: the clear has replaced it by a black frame. -/
theorem snapshot_over_config : ∃ world : World Leddy.reference,
    startUp Leddy.reference snapshotOverConfig (fun _ => .absent) (.ok true) =
      .ok (.fromEnv snapshotOverConfig, world) ∧
    ¬ Always (AcksDone (.fromEnv snapshotOverConfig) True)
      (Machine.run (.fromEnv snapshotOverConfig) ⟨world, .ready⟩ configuredOnce).world.history := by
  refine ⟨_, rfl, fun h => ?_⟩
  obtain ⟨locals, command, outside, _, hlast, hdone⟩ := h.1
  cases hlast
  obtain ⟨bytes, hencode, hfile⟩ := hdone.2.1 trivial
  cases hencode
  exact absurd hfile (by decide +kernel)

end LeddyRaspPi
