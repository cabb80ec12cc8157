import LeddyRaspPi.Helper.Passes
import LeddyRaspPi.Rig.Ledger

/-!
# The agent and its helper

The two processes side by side. The agent writes into the pipe, the helper reads from it, each at
its own pace; either may be killed at any moment, the agent in the middle of a packet, and the
helper may be signalled. `Rig.step` is one move of one of them. `panels_follow_agent` says what holds
across any interleaving: the panels show the paintings of the first few packets the agent has sent,
in their order, between black canvases.
-/

namespace LeddyRaspPi

open Fallible History Helper

variable {L : Leddy}

/-! ## The rig -/

/-- Where the helper process stands: before its loop, at the test of `g_stop`, in `read_packet`, in
`paint_packet`, before `SwapOnVSync`, or gone. -/
inductive HelperPhase where
  | starting
  | looping (canvas : Nat)
  | reading (canvas : Nat)
  | painting (canvas : Nat)
  | swapping (canvas : Nat)
  | exited (exit : Exit)
  | killed
  deriving DecidableEq

/-- The process has not ended. -/
def HelperPhase.alive : HelperPhase → Bool
  | .exited _ => false
  | .killed => false
  | _ => true

/-- The agent and the helper. What is in the pipe is what is still to come on the input stream of
the helper; `hungUp` says that the agent's end of it is closed, `stop` is `g_stop`, and `piped`
lists what has gone into the pipe. If the agent was killed while it worked on an input, `agent` is
where that input would have led. -/
structure Rig (L : Leddy) where
  agent : Machine L
  hungUp : Bool
  stop : Bool
  helper : Process
  phase : HelperPhase
  piped : List UInt8

/-- A move of the rig. -/
inductive Move (L : Leddy) where
  /-- The agent takes an input. -/
  | agent (input : Input L)
  /-- The agent is killed while it works on an input, when so many bytes of what it writes are in
  the pipe. -/
  | hangUp (input : Input L) (written : Nat)
  /-- The helper goes on to where it waits next. -/
  | helper
  /-- `SIGINT` or `SIGTERM` is delivered to the helper. -/
  | signal
  /-- The helper is killed. -/
  | kill

namespace Rig

/-- The rig behind `Hub75Sink::spawn`. -/
def initial (options : Options) (pixels : Nat → Int → Int → Rgb) (world : World L) : Rig L where
  agent := ⟨world, .ready⟩
  hungUp := false
  stop := false
  helper := ⟨⟨.ofBytes [], {}⟩, .create options pixels⟩
  phase := .starting
  piped := []

/-- Bytes go into the pipe. -/
def feed (bytes : List UInt8) (rig : Rig L) : Rig L :=
  let reader := rig.helper.reader
  { rig with
    piped := rig.piped ++ bytes
    helper := { rig.helper with reader := { reader with
      input := { reader.input with rest := reader.input.rest ++ bytes } } } }

/-- The helper is killed, unless it has ended. -/
def slay (rig : Rig L) : Rig L :=
  { rig with phase := if rig.phase.alive then .killed else rig.phase }

/-- What the agent puts into the pipe on the way to where it stands next. -/
def outgoing (rig : Rig L) (agent : Machine L) : List UInt8 :=
  agent.world.sink.stdin.drop rig.agent.world.sink.stdin.length

/-- The agent takes an input. Where `main` returns, `Drop for Hub75Sink` kills the helper. -/
def agentStep (settings : RuntimeSettings) (input : Input L) (rig : Rig L) : Rig L :=
  let agent := rig.agent.step settings input
  let rig := feed (rig.outgoing agent) { rig with agent }
  match agent.phase with
  | .exited _ => { rig.slay with hungUp := true }
  | _ => rig

/-- The helper has run to the end of `main`, or an exception has. -/
def helperExit (exit : Exit) (process : Process) (rig : Rig L) : Rig L :=
  { rig with helper := unwind process, phase := .exited exit }

/-- The helper leaves by a failure. -/
def helperFail (failure : Failure) (process : Process) (rig : Rig L) : Rig L :=
  match failure with
  | .exception _ => rig.helperExit (.status 1) process
  | .outOfBounds _ => { rig with helper := process, phase := .exited .undefined }

/-- The helper has left its loop. The rest is one move, which shows black canvases only. -/
def helperLeave (canvas : Nat) (process : Process) (rig : Rig L) : Rig L :=
  match shutDown canvas process with
  | .ok _ process => rig.helperExit (.status 0) process
  | .error failure process => rig.helperFail failure process

/-- `read_packet` would read past what is in the pipe. -/
def starved (rig : Rig L) : Bool :=
  match readPacket rig.helper.reader with
  | .ok _ reader => reader.input.eof
  | .error _ reader => reader.input.eof

/-- The helper goes on. In `read_packet` it waits as long as the pipe is open and holds too
little. -/
def helperStep (options : Options) (rig : Rig L) : Rig L :=
  match rig.phase with
  | .starting =>
    match boot options rig.helper with
    | .ok canvas process => { rig with helper := process, phase := .looping canvas }
    | .error failure process => rig.helperFail failure process
  | .looping canvas =>
    if rig.stop then rig.helperLeave canvas rig.helper else { rig with phase := .reading canvas }
  | .reading canvas =>
    if !rig.hungUp && rig.starved then rig
    else
      match onReader readPacket rig.helper with
      | .ok true process => { rig with helper := process, phase := .painting canvas }
      | .ok false process => rig.helperLeave canvas process
      | .error failure process => rig.helperFail failure process
  | .painting canvas =>
    match paint options canvas rig.helper with
    | .ok _ process => { rig with helper := process, phase := .swapping canvas }
    | .error failure process => rig.helperFail failure process
  | .swapping canvas =>
    match onMatrix (RgbMatrix.swapOnVSync canvas) rig.helper with
    | .ok canvas process => { rig with helper := process, phase := .looping canvas }
    | .error failure process => rig.helperFail failure process
  | .exited _ => rig
  | .killed => rig

/-- One move. An agent that was killed takes no input. -/
def step (settings : RuntimeSettings) (options : Options) (rig : Rig L) : Move L → Rig L
  | .agent input => if rig.hungUp then rig else rig.agentStep settings input
  | .hangUp input written =>
    if rig.hungUp then rig
    else
      let agent := rig.agent.step settings input
      { feed ((rig.outgoing agent).take written) { rig with agent } with hungUp := true }
  | .helper => rig.helperStep options
  | .signal => { rig with stop := true }
  | .kill => rig.slay

/-- The rig after a sequence of moves. -/
def run (settings : RuntimeSettings) (options : Options) : Rig L → List (Move L) → Rig L :=
  Transition.run (step settings options)

/-- What the panels have shown, in order. -/
def shown (rig : Rig L) : List FrameCanvas := rig.helper.matrix.shown.reverse

end Rig

/-- The input of the agent a move is about. -/
def Move.input? : Move L → Option (Input L)
  | .agent input => some input
  | .hangUp input _ => some input
  | _ => none

/-- As long as the helper is alive its pipe takes everything, sooner or later. -/
def Honest (rig : Rig L) (move : Move L) : Prop :=
  rig.phase.alive = true → ∀ input, move.input? = some input → input.outside.sink.room = none

/-! ## What holds of the rig -/

/-- The packets the agent has sent. -/
def Rig.sent (rig : Rig L) : List FramePacket := packetsSent rig.agent.world.history

/-- The packet that the helper has read and does not show yet. -/
def Rig.inHand (rig : Rig L) : List FramePacket :=
  match rig.phase with
  | .painting _ | .swapping _ => [rig.helper.reader.packet]
  | _ => []

/-- Why the helper has ended with a status: it was told to, or the agent is gone and the helper has
received every packet that is whole. -/
def Rig.Explains (received : List FramePacket) (rig : Rig L) : Exit → Prop
  | .status 0 => rig.stop = true ∨ rig.hungUp = true ∧ packetCode.Leading rig.piped received []
  | .status 1 => rig.hungUp = true ∧ ∃ tail ≠ [], packetCode.Leading rig.piped received tail
  | _ => False

/-- The panels have shown the paintings of the packets received, between black canvases. -/
def Rig.Follows (options : Options) (received : List FramePacket) (rig : Rig L) : Prop :=
  match rig.phase with
  | .starting => received = [] ∧ ∃ pixels, rig.helper.matrix = .create options pixels
  | .looping canvas | .reading canvas | .painting canvas =>
      OffScreen options canvas rig.helper.matrix ∧
        rig.shown = options.black :: options.paintings received
  | .swapping canvas => OffScreen options canvas rig.helper.matrix ∧
      rig.shown = options.black :: options.paintings received ∧
        rig.helper.matrix.canvases canvas =
          painting options.physicalWidth options.physicalHeight rig.helper.reader.packet
  | .exited exit => rig.Explains received exit ∧ ∃ n, rig.shown =
      options.black :: (options.paintings received ++ List.replicate (n + 1) options.black)
  | .killed => received = [] ∧ rig.shown = [] ∨
      rig.shown = options.black :: options.paintings received

/-- As long as the helper is alive the pipe carries the packets of the agent to it. -/
structure Connected (rig : Rig L) (sent received : List FramePacket) (tail : List UInt8) :
    Prop where
  roomy : Roomy rig.agent.world.history
  good : rig.helper.reader.input.Good
  carries : packetCode.Carries sent (received ++ rig.inHand) tail rig.helper.reader.input.rest
  piped : rig.piped = packetCode.stream sent ++ tail
  sent_prefix : sent <+: rig.sent
  whole : rig.hungUp = false → sent = rig.sent ∧ tail = []

/-- What holds of the rig in every state it reaches. -/
structure Linked (options : Options) (rig : Rig L) (received : List FramePacket) : Prop where
  ledger : (relaxLaw Mended Tearable Ledger).Holds rig.agent
  follows : rig.Follows options received
  received_prefix : received <+: rig.sent
  piped_prefix : packetCode.stream received <+: rig.piped
  connected : rig.phase.alive = true → ∃ sent tail, Connected rig sent received tail

/-- The helper waits for the next packet. -/
def Rig.Waits (rig : Rig L) : Prop :=
  ∃ canvas, rig.phase = .reading canvas ∧ rig.hungUp = false ∧ rig.starved = true

/-- The helper has ended, or it waits for the next packet. -/
def Rig.Settled (rig : Rig L) : Prop := rig.phase.alive = true → rig.Waits

/-- A bound on the moves the helper can make until it has settled. A packet has more bytes than a
pass has moves. -/
def Rig.work (rig : Rig L) : Nat :=
  match rig.phase with
  | .starting => rig.helper.reader.input.rest.length + 3
  | .looping _ => rig.helper.reader.input.rest.length + 2
  | .reading _ => rig.helper.reader.input.rest.length + 1
  | .painting _ => rig.helper.reader.input.rest.length + 4
  | .swapping _ => rig.helper.reader.input.rest.length + 3
  | .exited _ => 0
  | .killed => 0

section
variable {settings : RuntimeSettings} {options : Options} {rig : Rig L}
  {sent received : List FramePacket} {tail : List UInt8}

/-! ## Moves of the agent -/

/-- The history only grows. -/
theorem Machine.step_history (settings : RuntimeSettings) (machine : Machine L) (input : Input L) :
    machine.world.history <:+ (machine.step settings input).world.history := by
  have hstable : Stable settings fun world : World L =>
      machine.world.history <:+ world.history := by
    refine ⟨fun h => h.trans (List.suffix_cons _ _), fun h _ => h.trans (List.suffix_cons _ _),
      fun h _ => h, fun h _ => h.trans (List.suffix_cons _ _), fun h => h⟩
  have hkept := (worldLaw_parts (C := fun _ _ => True) hstable).kept
  exact worldLaw_holds.1 (hkept.step input trivial (worldLaw_holds.2 (List.suffix_refl _)))

/-- A pass that finds room writes packets, and those are the ones it has sent. -/
theorem Rig.outgoing_eq (hL : L.Documented) {input : Input L}
    (hledger : (relaxLaw Mended Tearable Ledger).Holds rig.agent)
    (hroomy : Roomy rig.agent.world.history) (hroom : input.outside.sink.room = none) :
    ∃ packets, (∀ packet ∈ packets, packet.WellFormed) ∧
      rig.outgoing (rig.agent.step settings input) = packetCode.stream packets ∧
      packetsSent (rig.agent.step settings input).world.history = rig.sent ++ packets := by
  have hledger' : Ledger (rig.agent.step settings input).world :=
    Ledger.of_holds ((ledger_kept hL (C := fun _ _ => True)).step input trivial hledger)
  have hroomy' : Roomy (rig.agent.step settings input).world.history :=
    worldLaw_holds.1 (roomy_kept.step input hroom (worldLaw_holds.2 hroomy))
  obtain ⟨new, hnew⟩ := rig.agent.step_history settings input
  have hstdin := hroomy.framed (Ledger.of_holds hledger).entered
  have hstdin' := hroomy'.framed hledger'.entered
  have hsent : packetsSent (rig.agent.step settings input).world.history =
      rig.sent ++ packetsSent new := by rw [← hnew, packetsSent_append]; rfl
  refine ⟨packetsSent new, fun packet hpacket => sent_wellFormed hledger'.entered ?_, ?_, hsent⟩
  · rw [hsent]
    exact List.mem_append_right _ hpacket
  · rw [Rig.outgoing, hledger'.stdin, hstdin', hsent, Code.stream_append,
      (Ledger.of_holds hledger).stdin, hstdin]
    exact List.drop_left

/-- What the panels have shown does not depend on the agent. -/
theorem Rig.Follows.congr {rig' : Rig L} (h : rig.Follows options received)
    (hphase : rig'.phase = rig.phase) (hmatrix : rig'.helper.matrix = rig.helper.matrix)
    (hpacket : rig'.helper.reader.packet = rig.helper.reader.packet)
    (hexplains : ∀ exit, rig.Explains received exit → rig'.Explains received exit) :
    rig'.Follows options received := by
  unfold Rig.Follows Rig.shown at h ⊢
  rw [hphase, hmatrix, hpacket]
  cases hcase : rig.phase with
  | exited exit =>
    rw [hcase] at h
    exact ⟨hexplains exit h.1, h.2⟩
  | _ => rwa [hcase] at h

/-- The agent has worked on an input, and some or all of what it writes is in the pipe. -/
theorem Linked.advance (hL : L.Documented) (h : Linked options rig received) {input : Input L}
    (hopen : rig.hungUp = false)
    (hroom : rig.phase.alive = true → input.outside.sink.room = none) {bytes : List UInt8}
    (hbytes : bytes <+: rig.outgoing (rig.agent.step settings input)) {hungUp : Bool}
    (hwhole : hungUp = false → bytes = rig.outgoing (rig.agent.step settings input)) :
    Linked options
      { Rig.feed bytes { rig with agent := rig.agent.step settings input } with hungUp }
      received where
  ledger := (ledger_kept hL (C := fun _ _ => True)).step input trivial h.ledger
  follows := by
    refine h.follows.congr rfl rfl rfl fun exit hexplains => ?_
    unfold Rig.Explains at hexplains ⊢
    split at hexplains
    · rcases hexplains with hstop | ⟨hgone, _⟩
      · exact .inl hstop
      · exact absurd (hopen.symm.trans hgone) Bool.false_ne_true
    · exact absurd (hopen.symm.trans hexplains.1) Bool.false_ne_true
    · exact hexplains
  received_prefix := by
    obtain ⟨new, hnew⟩ := rig.agent.step_history settings input
    refine h.received_prefix.trans ⟨packetsSent new, ?_⟩
    show packetsSent _ ++ _ = packetsSent (rig.agent.step settings input).world.history
    rw [← hnew, packetsSent_append]
  piped_prefix := h.piped_prefix.trans (List.prefix_append _ _)
  connected halive := by
    obtain ⟨sent, tail, hconnected⟩ := h.connected halive
    obtain ⟨rfl, rfl⟩ := hconnected.whole hopen
    obtain ⟨packets, hvalid, houtgoing, hsent⟩ :
        ∃ packets, (∀ packet ∈ packets, packet.WellFormed) ∧
          rig.outgoing (rig.agent.step settings input) = packetCode.stream packets ∧
          packetsSent (rig.agent.step settings input).world.history = rig.sent ++ packets :=
      Rig.outgoing_eq hL h.ledger hconnected.roomy (hroom halive)
    rw [houtgoing] at hbytes hwhole
    obtain ⟨n, rest, -, -, hleading, -⟩ := Code.leading_take hvalid hbytes.length_le
    rw [← List.prefix_iff_eq_take.1 hbytes] at hleading
    refine ⟨rig.sent ++ packets.take n, rest, worldLaw_holds.1 (roomy_kept.step input (hroom halive)
      (worldLaw_holds.2 hconnected.roomy)), hconnected.good, hconnected.carries.send hleading, ?_,
      ?_, fun hgone => ?_⟩
    · show rig.piped ++ bytes = _
      rw [hconnected.piped, List.append_nil, hleading.split, Code.stream_append, List.append_assoc]
    · show _ <+: packetsSent (rig.agent.step settings input).world.history
      rw [hsent, List.prefix_append_right_inj]
      exact List.take_prefix _ _
    · have hall : packetCode.Leading bytes packets [] := by
        rw [hwhole hgone]
        exact Code.leading_stream hvalid
      obtain ⟨htake, hrest⟩ := hleading.unique hall
      exact ⟨htake.symm ▸ hsent.symm, hrest⟩

/-- Killing the helper leaves the panels as they are. -/
theorem Linked.slay (h : Linked options rig received) : Linked options rig.slay received where
  ledger := h.ledger
  follows := by
    have hfollows := h.follows
    unfold Rig.Follows Rig.shown at hfollows ⊢
    unfold Rig.slay
    cases hphase : rig.phase with
    | starting =>
      rw [hphase] at hfollows
      obtain ⟨hnil, pixels, hmatrix⟩ := hfollows
      refine .inl ⟨hnil, ?_⟩
      show rig.helper.matrix.shown.reverse = []
      rw [hmatrix]
      rfl
    | looping canvas => rw [hphase] at hfollows; exact .inr hfollows.2
    | reading canvas => rw [hphase] at hfollows; exact .inr hfollows.2
    | painting canvas => rw [hphase] at hfollows; exact .inr hfollows.2
    | swapping canvas => rw [hphase] at hfollows; exact .inr hfollows.2.1
    | exited exit => rw [hphase] at hfollows; exact hfollows
    | killed => rw [hphase] at hfollows; exact hfollows
  received_prefix := h.received_prefix
  piped_prefix := h.piped_prefix
  connected halive := by
    have hdead : rig.slay.phase.alive = false := by
      unfold Rig.slay
      cases hphase : rig.phase <;> rfl
    exact absurd (hdead.symm.trans halive) Bool.false_ne_true

/-- Nor does closing the pipe. -/
theorem Linked.close (h : Linked options rig received) :
    Linked options { rig with hungUp := true } received where
  ledger := h.ledger
  follows := by
    refine h.follows.congr rfl rfl rfl fun exit hexplains => ?_
    unfold Rig.Explains at hexplains ⊢
    split at hexplains
    · exact hexplains.imp_right fun hgone => ⟨rfl, hgone.2⟩
    · exact ⟨rfl, hexplains.2⟩
    · exact hexplains
  received_prefix := h.received_prefix
  piped_prefix := h.piped_prefix
  connected halive := by
    obtain ⟨sent, tail, hconnected⟩ := h.connected halive
    exact ⟨sent, tail, hconnected.roomy, hconnected.good, hconnected.carries, hconnected.piped,
      hconnected.sent_prefix, nofun⟩

/-- Nor does setting the flag. -/
theorem Linked.signal (h : Linked options rig received) :
    Linked options { rig with stop := true } received where
  ledger := h.ledger
  follows := by
    refine h.follows.congr rfl rfl rfl fun exit hexplains => ?_
    unfold Rig.Explains at hexplains ⊢
    split at hexplains
    · exact .inl rfl
    · exact hexplains
    · exact hexplains
  received_prefix := h.received_prefix
  piped_prefix := h.piped_prefix
  connected halive := by
    obtain ⟨sent, tail, hconnected⟩ := h.connected halive
    exact ⟨sent, tail, hconnected.roomy, hconnected.good, hconnected.carries, hconnected.piped,
      hconnected.sent_prefix, hconnected.whole⟩

/-- A move of the agent keeps the link: what it adds to the pipe comes behind what was sent. -/
theorem Linked.agentStep (hL : L.Documented) (h : Linked options rig received) {input : Input L}
    (hopen : rig.hungUp = false)
    (hroom : rig.phase.alive = true → input.outside.sink.room = none) :
    Linked options (rig.agentStep settings input) received := by
  have hadvanced : Linked options
      { Rig.feed (rig.outgoing (rig.agent.step settings input))
          { rig with agent := rig.agent.step settings input } with hungUp := rig.hungUp }
      received := h.advance hL hopen hroom List.prefix_rfl fun _ => rfl
  simp only [Rig.agentStep]
  split
  · exact hadvanced.slay.close
  · exact hadvanced

/-! ## Moves of the helper -/

/-- The helper ends. -/
theorem Linked.helperExit (h : Linked options rig received) {exit : Exit} {process : Process}
    {n : Nat} (hexplains : rig.Explains received exit)
    (hsized : ∀ m, (process.matrix.canvases m).Sized options)
    (hshown : process.matrix.shown.reverse =
      options.black :: (options.paintings received ++ List.replicate n options.black)) :
    Linked options (rig.helperExit exit process) received where
  ledger := h.ledger
  follows := by
    refine ⟨hexplains, n, ?_⟩
    show (unwind process).matrix.shown.reverse = _
    rw [unwind_shown hsized, List.reverse_cons, hshown, List.replicate_succ']
    simp
  received_prefix := h.received_prefix
  piped_prefix := h.piped_prefix
  connected halive := absurd halive Bool.false_ne_true

/-- A failure ends the helper as it ends `main`, and changes nothing else. -/
theorem Rig.helperFail_ends (rig : Rig L) (failure : Failure) (process : Process) :
    ∃ process' exit, rig.helperFail failure process =
        { rig with helper := process', phase := .exited exit } ∧
      finish (.error failure process) = ⟨exit, process'.matrix.shown.reverse⟩ := by
  cases failure with
  | exception error =>
    exact ⟨unwind process, .status 1, rfl, congrArg (Run.mk _) (deleteMatrix_unwind process)⟩
  | outOfBounds index => exact ⟨process, .undefined, rfl, rfl⟩

/-- So does leaving the loop. -/
theorem Rig.helperLeave_ends (rig : Rig L) (canvas : Nat) (process : Process) :
    ∃ process' exit, rig.helperLeave canvas process =
        { rig with helper := process', phase := .exited exit } ∧
      finish (ending canvas process) = ⟨exit, process'.matrix.shown.reverse⟩ := by
  unfold Rig.helperLeave ending
  cases hrun : shutDown canvas process with
  | ok u process' =>
    rw [bind_of_ok hrun]
    exact ⟨unwind process', .status 0, rfl, congrArg (Run.mk _) (deleteMatrix_unwind process')⟩
  | error failure process' =>
    rw [bind_of_error hrun]
    exact rig.helperFail_ends failure process'

/-- A helper that leaves the loop has nothing left to do. -/
theorem Rig.work_helperLeave (rig : Rig L) (canvas : Nat) (process : Process) :
    (rig.helperLeave canvas process).work = 0 := by
  obtain ⟨process', exit, hleave, -⟩ := rig.helperLeave_ends canvas process
  rw [hleave]
  rfl

/-- The helper leaves its loop and ends. -/
theorem Linked.helperLeave (h : Linked options rig received) {canvas : Nat} {process : Process}
    (hexplains : rig.Explains received (.status 0)) (hoff : OffScreen options canvas process.matrix)
    (hshown : process.matrix.shown.reverse = options.black :: options.paintings received) :
    Linked options (rig.helperLeave canvas process) received := by
  have hends := shutDown_ends hoff
  unfold Ends at hends
  unfold Rig.helperLeave
  cases hrun : shutDown canvas process with
  | ok u process' =>
    rw [hrun] at hends
    refine h.helperExit (n := 2) hexplains hends.1 ?_
    rw [hends.2, List.reverse_cons, List.reverse_cons, hshown]
    simp [List.replicate]
  | error failure process' =>
    rw [hrun] at hends
    exact hends.elim

/-- On an open pipe the helper waits for the next packet, and only for that. -/
theorem Connected.starved_iff (h : Connected rig sent received tail) (hopen : rig.hungUp = false) :
    rig.starved = true ↔ received ++ rig.inHand = rig.sent := by
  obtain ⟨rfl, rfl⟩ := h.whole hopen
  by_cases hbegins : packetCode.Begins rig.helper.reader.input.rest
  · obtain ⟨packet, rest, hwf, hrest⟩ := hbegins
    obtain ⟨count, hread⟩ := readPacket_bytes h.good hwf hrest
    have hstarved : rig.starved = false := by rw [Rig.starved, hread]
    rw [hstarved]
    refine iff_of_false Bool.false_ne_true fun hall => ?_
    obtain ⟨pending, hsent, hflight⟩ := h.carries.split
    have hnil : pending = [] := by simpa [hall] using hsent
    rw [hnil, Code.stream_nil, List.nil_append, hrest] at hflight
    exact packetCode.encode_ne_nil hwf (List.append_eq_nil_iff.1 hflight).1
  · obtain ⟨hall, hnil⟩ := h.carries.drained hbegins
    have hstarved : rig.starved = true := by rw [Rig.starved, readPacket_empty h.good hnil]
    exact iff_of_true hstarved hall

/-- Outside the body of the loop the helper holds no packet. -/
theorem Connected.carries_idle (h : Connected rig sent received tail) (hidle : rig.inHand = []) :
    packetCode.Carries sent received tail rig.helper.reader.input.rest := by
  have hcarries := h.carries
  rwa [hidle, List.append_nil] at hcarries

/-- In the body it holds a well-formed packet that was sent and has gone into the pipe whole. -/
theorem Connected.inHand (h : Connected rig sent received tail)
    (hhand : rig.inHand = [rig.helper.reader.packet]) : rig.helper.reader.packet.WellFormed ∧
      received ++ [rig.helper.reader.packet] <+: rig.sent ∧
      packetCode.stream (received ++ [rig.helper.reader.packet]) <+: rig.piped := by
  have hcarries := h.carries
  rw [hhand] at hcarries
  obtain ⟨pending, hsent⟩ := hcarries.received_prefix
  refine ⟨hcarries.valid _ ?_, hcarries.received_prefix.trans h.sent_prefix, ?_⟩
  · exact hcarries.received_prefix.subset (by simp)
  · rw [h.piped, ← hsent, Code.stream_append (received ++ _), List.append_assoc]
    exact List.prefix_append _ _

/-- On the way from the one state to the other the panels get nothing more, or the swap of the
canvases gets them one packet more. -/
inductive Gains (rig rig' : Rig L) (received : List FramePacket) : List FramePacket → Prop where
  | nothing : Gains rig rig' received received
  | packet {canvas canvas' : Nat} (packet : FramePacket) (hswapping : rig.phase = .swapping canvas)
    (hlooping : rig'.phase = .looping canvas') : Gains rig rig' received (received ++ [packet])

/-- What has been received stays received. -/
theorem Gains.received_prefix {rig' : Rig L} {received' : List FramePacket}
    (h : Gains rig rig' received received') : received <+: received' := by
  cases h with
  | nothing => exact List.prefix_rfl
  | packet packet => exact List.prefix_append _ _

/-- The helper has got on, perhaps with another packet received, and has less left to do. -/
def Advances (options : Options) (received : List FramePacket) (rig rig' : Rig L) : Prop :=
  ∃ received', Gains rig rig' received received' ∧ Linked options rig' received' ∧
    rig'.work < rig.work

/-- The start-up of the helper. -/
theorem Linked.boots (hfits : options.Fits) (h : Linked options rig received)
    (hphase : rig.phase = .starting) :
    Advances options received rig (rig.helperStep options) := by
  have hfollows := h.follows
  unfold Rig.Follows at hfollows
  rw [hphase] at hfollows
  obtain ⟨rfl, pixels, hmatrix⟩ := hfollows
  have hboot := boot_ends hfits rig.helper.reader pixels
  rw [← hmatrix] at hboot
  unfold Ends at hboot
  unfold Rig.helperStep
  rw [hphase]
  dsimp only
  cases hrun : boot options rig.helper with
  | ok canvas process =>
    rw [hrun] at hboot
    obtain ⟨hoff, hshown, hreader⟩ := hboot
    refine ⟨[], .nothing, ⟨h.ledger, ⟨hoff, ?_⟩, h.received_prefix, h.piped_prefix, fun _ => ?_⟩, ?_⟩
    · exact congrArg List.reverse hshown
    · obtain ⟨sent, tail, hconnected⟩ := h.connected (by rw [hphase]; rfl)
      have hcarries := hconnected.carries_idle (by rw [Rig.inHand, hphase])
      exact ⟨sent, tail, hconnected.roomy, hreader ▸ hconnected.good, hreader ▸ hcarries,
        hconnected.piped, hconnected.sent_prefix, hconnected.whole⟩
    · simp only [Rig.work, hphase, hreader]
      omega
  | error failure process => rw [hrun] at hboot; exact hboot.elim

/-- The condition of its loop. -/
theorem Linked.loops (h : Linked options rig received) {canvas : Nat}
    (hphase : rig.phase = .looping canvas) :
    Advances options received rig (rig.helperStep options) := by
  have hfollows := h.follows
  unfold Rig.Follows at hfollows
  rw [hphase] at hfollows
  obtain ⟨hoff, hshown⟩ := hfollows
  unfold Rig.helperStep
  rw [hphase]
  dsimp only
  by_cases hstop : rig.stop = true
  · rw [if_pos hstop]
    refine ⟨received, .nothing, h.helperLeave (.inl hstop) hoff hshown, ?_⟩
    rw [Rig.work_helperLeave, Rig.work, hphase]
    exact Nat.succ_pos _
  · rw [if_neg hstop]
    refine ⟨received, .nothing, ⟨h.ledger, ⟨hoff, hshown⟩, h.received_prefix, h.piped_prefix,
      fun _ => ?_⟩, ?_⟩
    · obtain ⟨sent, tail, hconnected⟩ := h.connected (by rw [hphase]; rfl)
      have hcarries := hconnected.carries_idle (by rw [Rig.inHand, hphase])
      refine ⟨sent, tail, hconnected.roomy, hconnected.good, ?_, hconnected.piped,
        hconnected.sent_prefix, hconnected.whole⟩
      rwa [Rig.inHand, List.append_nil]
    · simp only [Rig.work, hphase]
      omega

/-- Behind the last packet the helper gets on only if the agent is gone. -/
theorem Connected.gone (h : Connected rig sent received tail) (hidle : rig.inHand = [])
    (hwaits : ¬ (!rig.hungUp && rig.starved) = true) (hall : received = sent) :
    rig.hungUp = true ∧ packetCode.Leading rig.piped received tail := by
  have hcarries := h.carries_idle hidle
  refine ⟨?_, by rw [hall]; exact ⟨hcarries.valid, h.piped, hcarries.stuck⟩⟩
  by_contra hopen
  have hfalse : rig.hungUp = false := by simpa using hopen
  have hstarved : rig.starved = true := by
    rw [h.starved_iff hfalse, hidle, List.append_nil]
    exact hall.trans (h.whole hfalse).1
  exact hwaits (by rw [hfalse, hstarved]; rfl)

/-- A read that does not have to wait. -/
theorem Linked.reads (h : Linked options rig received) {canvas : Nat}
    (hphase : rig.phase = .reading canvas) (hwaits : ¬ (!rig.hungUp && rig.starved) = true) :
    Advances options received rig (rig.helperStep options) := by
  have hfollows := h.follows
  unfold Rig.Follows at hfollows
  rw [hphase] at hfollows
  obtain ⟨hoff, hshown⟩ := hfollows
  obtain ⟨sent, tail, hconnected⟩ := h.connected (by rw [hphase]; rfl)
  have hidle : rig.inHand = [] := by rw [Rig.inHand, hphase]
  have hcarries := hconnected.carries_idle hidle
  have hwork : 0 < rig.work := by
    rw [Rig.work, hphase]
    exact Nat.succ_pos _
  have hread := read_ends hconnected.good hcarries
  unfold Ends at hread
  unfold Rig.helperStep
  rw [hphase]
  dsimp only
  rw [if_neg hwaits]
  cases hrun : onReader readPacket rig.helper with
  | ok more process =>
    rw [hrun] at hread
    obtain ⟨hmatrix, ⟨rfl, hgood, hcarries'⟩ | ⟨rfl, hall, htail⟩⟩ := hread
    · refine ⟨received, .nothing, ⟨h.ledger, ⟨hmatrix ▸ hoff, ?_⟩, h.received_prefix, h.piped_prefix,
        fun _ => ⟨sent, tail, ?_⟩⟩, ?_⟩
      · show process.matrix.shown.reverse = _
        rw [hmatrix]
        exact hshown
      · exact ⟨hconnected.roomy, hgood, hcarries', hconnected.piped, hconnected.sent_prefix,
          hconnected.whole⟩
      · have hlength := congrArg List.length (hcarries.front hcarries')
        have hpacket : 8 ≤ (packetCode.encode process.reader.packet).length := by
          simp [packetCode, FramePacket.bytes, kMagic]
        simp only [Rig.work, hphase]
        rw [List.length_append] at hlength
        omega
    · obtain ⟨hgone, hleading⟩ := hconnected.gone hidle hwaits hall
      refine ⟨received, .nothing,
        h.helperLeave (.inr ⟨hgone, htail ▸ hleading⟩) (hmatrix ▸ hoff) (hmatrix ▸ hshown), ?_⟩
      exact (rig.work_helperLeave canvas process).trans_lt hwork
  | error failure process =>
    rw [hrun] at hread
    obtain ⟨⟨error, rfl⟩, hmatrix, hall, htail⟩ := hread
    obtain ⟨hgone, hleading⟩ := hconnected.gone hidle hwaits hall
    refine ⟨received, .nothing, h.helperExit (n := 0) ⟨hgone, tail, htail, hleading⟩
      (hmatrix ▸ hoff.sized) ?_, hwork⟩
    rw [List.replicate_zero, List.append_nil, hmatrix]
    exact hshown

/-- The packet goes onto the canvas that is off the panels. -/
theorem Linked.paints (hfits : options.Fits) (h : Linked options rig received) {canvas : Nat}
    (hphase : rig.phase = .painting canvas) :
    Advances options received rig (rig.helperStep options) := by
  have hfollows := h.follows
  unfold Rig.Follows at hfollows
  rw [hphase] at hfollows
  obtain ⟨hoff, hshown⟩ := hfollows
  obtain ⟨sent, tail, hconnected⟩ := h.connected (by rw [hphase]; rfl)
  have hhand : rig.inHand = [rig.helper.reader.packet] := by rw [Rig.inHand, hphase]
  have hcarries := hconnected.carries
  rw [hhand] at hcarries
  have hpaint := paint_ends hfits (hconnected.inHand hhand).1 hoff
  unfold Ends at hpaint
  unfold Rig.helperStep
  rw [hphase]
  dsimp only
  cases hrun : paint options canvas rig.helper with
  | ok u process =>
    rw [hrun] at hpaint
    obtain ⟨hreader, hoff', hshown', hpainted⟩ := hpaint
    refine ⟨received, .nothing, ⟨h.ledger, ⟨hoff', ?_, ?_⟩, h.received_prefix, h.piped_prefix,
      fun _ => ⟨sent, tail, ?_⟩⟩, ?_⟩
    · exact (congrArg List.reverse hshown').trans hshown
    · rw [hreader]
      exact hpainted
    · rw [← hreader] at hcarries
      exact ⟨hconnected.roomy, hreader ▸ hconnected.good, hcarries, hconnected.piped,
        hconnected.sent_prefix, hconnected.whole⟩
    · simp only [Rig.work, hphase, hreader]
      omega
  | error failure process => rw [hrun] at hpaint; exact hpaint.elim

/-- The swap of the canvases shows the painting. -/
theorem Linked.swaps (h : Linked options rig received) {canvas : Nat}
    (hphase : rig.phase = .swapping canvas) :
    Advances options received rig (rig.helperStep options) := by
  have hfollows := h.follows
  unfold Rig.Follows at hfollows
  rw [hphase] at hfollows
  obtain ⟨hoff, hshown, hpainted⟩ := hfollows
  obtain ⟨sent, tail, hconnected⟩ := h.connected (by rw [hphase]; rfl)
  have hhand : rig.inHand = [rig.helper.reader.packet] := by rw [Rig.inHand, hphase]
  have hcarries := hconnected.carries
  rw [hhand] at hcarries
  obtain ⟨-, hsent, hpiped⟩ := hconnected.inHand hhand
  have hswap := swap_ends hoff
  unfold Ends at hswap
  unfold Rig.helperStep
  rw [hphase]
  dsimp only
  cases hrun : onMatrix (RgbMatrix.swapOnVSync canvas) rig.helper with
  | ok canvas' process =>
    rw [hrun] at hswap
    obtain ⟨hreader, hoff', hshown'⟩ := hswap
    refine ⟨received ++ [rig.helper.reader.packet], .packet _ hphase rfl, ⟨h.ledger, ⟨hoff', ?_⟩,
      hsent, hpiped, fun _ => ⟨sent, tail, ?_⟩⟩, ?_⟩
    · show process.matrix.shown.reverse = _
      rw [hshown', hpainted, List.reverse_cons, Options.paintings, List.map_append]
      exact congrArg (· ++ _) hshown
    · rw [← hreader] at hcarries
      refine ⟨hconnected.roomy, hreader ▸ hconnected.good, ?_, hconnected.piped,
        hconnected.sent_prefix, hconnected.whole⟩
      rwa [Rig.inHand, List.append_nil, ← hreader]
    · simp only [Rig.work, hphase, hreader]
      omega
  | error failure process => rw [hrun] at hswap; exact hswap.elim

/-- A helper that waits stays where it is. -/
theorem Rig.helperStep_waits {canvas : Nat} (hphase : rig.phase = .reading canvas)
    (hwaits : (!rig.hungUp && rig.starved) = true) : rig.helperStep options = rig := by
  unfold Rig.helperStep
  rw [hphase]
  exact if_pos hwaits

/-- So does one that has ended. -/
theorem Rig.helperStep_ended (hended : rig.phase.alive = false) : rig.helperStep options = rig := by
  unfold Rig.helperStep
  cases hphase : rig.phase with
  | exited exit => rfl
  | killed => rfl
  | _ => rw [hphase] at hended; cases hended

/-- And it has settled. -/
theorem Rig.settled_of_ended (hended : rig.phase.alive = false) : rig.Settled := fun halive =>
  absurd (hended.symm.trans halive) Bool.false_ne_true

/-- The helper goes on, or it has settled and stays where it is. -/
theorem Linked.helperStep (hfits : options.Fits) (h : Linked options rig received) :
    Advances options received rig (rig.helperStep options) ∨
      rig.Settled ∧ rig.helperStep options = rig := by
  cases hphase : rig.phase with
  | starting => exact .inl (h.boots hfits hphase)
  | looping canvas => exact .inl (h.loops hphase)
  | reading canvas =>
    by_cases hwaits : (!rig.hungUp && rig.starved) = true
    · have hwaits' : rig.hungUp = false ∧ rig.starved = true := by simpa using hwaits
      exact .inr ⟨fun _ => ⟨canvas, hphase, hwaits'⟩, Rig.helperStep_waits hphase hwaits⟩
    · exact .inl (h.reads hphase hwaits)
  | painting canvas => exact .inl (h.paints hfits hphase)
  | swapping canvas => exact .inl (h.swaps hphase)
  | exited exit =>
    have hended : rig.phase.alive = false := by rw [hphase]; rfl
    exact .inr ⟨Rig.settled_of_ended hended, Rig.helperStep_ended hended⟩
  | killed =>
    have hended : rig.phase.alive = false := by rw [hphase]; rfl
    exact .inr ⟨Rig.settled_of_ended hended, Rig.helperStep_ended hended⟩

/-! ## Any interleaving -/

/-- Whoever moves, the panels get one packet more at most, and the two stay linked. -/
theorem Linked.step (hL : L.Documented) (hfits : options.Fits) (h : Linked options rig received)
    {move : Move L} (hhonest : Honest rig move) :
    ∃ received', Gains rig (rig.step settings options move) received received' ∧
      Linked options (rig.step settings options move) received' := by
  cases move with
  | agent input =>
    refine ⟨received, .nothing, ?_⟩
    unfold Rig.step
    cases hopen : rig.hungUp with
    | true => exact h
    | false => exact h.agentStep hL hopen fun halive => hhonest halive input rfl
  | hangUp input written =>
    refine ⟨received, .nothing, ?_⟩
    unfold Rig.step
    cases hopen : rig.hungUp with
    | true => exact h
    | false =>
      exact h.advance hL hopen (fun halive => hhonest halive input rfl) (List.take_prefix _ _) nofun
  | helper =>
    rcases h.helperStep hfits with ⟨received', hgains, hlinked, _⟩ | ⟨_, hstays⟩
    · exact ⟨received', hgains, hlinked⟩
    · refine ⟨received, .nothing, ?_⟩
      rw [Rig.step, hstays]
      exact h
  | signal => exact ⟨received, .nothing, h.signal⟩
  | kill => exact ⟨received, .nothing, h.slay⟩

/-- With a helper configured, start-up links the two. -/
theorem linked_initial {env : Environment} {fs : FileSystem} {spawn : Except IoError Bool}
    {world : World L} (hstart : startUp L env fs spawn = .ok (settings, world))
    (hhelper : settings.hub75Helper.isSome = true) (pixels : Nat → Int → Int → Rgb) :
    Linked options (Rig.initial options pixels world) [] where
  ledger := ledger_startUp hstart hhelper
  follows := ⟨rfl, pixels, rfl⟩
  received_prefix := List.nil_prefix
  piped_prefix := List.nil_prefix
  connected _ := by
    obtain ⟨_, config, sink, rfl, _⟩ := startUp_ok hstart
    exact ⟨[], [], fun _ h => absurd h List.not_mem_nil, ⟨rfl, rfl⟩, Code.carries_nil, rfl,
      List.prefix_rfl, fun _ => ⟨rfl, rfl⟩⟩

/-- Any number of moves, in any order. What has been received stays received. -/
theorem linked_run (hL : L.Documented) (hfits : options.Fits) (h : Linked options rig received)
    {moves : List (Move L)}
    (hhonest : Transition.Along (Rig.step settings options) Honest rig moves) :
    ∃ received', received <+: received' ∧
      Linked options (rig.run settings options moves) received' := by
  refine Transition.run_preserves_along (I := fun rig => ∃ received', received <+: received' ∧
    Linked options rig received') (fun rig move hhonest hlinked => ?_)
    ⟨received, List.prefix_rfl, h⟩ hhonest
  obtain ⟨before, hbefore, hlinked⟩ := hlinked
  obtain ⟨after, hgains, hlinked'⟩ := hlinked.step hL hfits hhonest
  exact ⟨after, hbefore.trans hgains.received_prefix, hlinked'⟩

/-- In every state the rig reaches, the two are linked. -/
theorem linked_of_run (hL : L.Documented) (hfits : options.Fits) {env : Environment}
    {fs : FileSystem} {spawn : Except IoError Bool} {world : World L}
    (hstart : startUp L env fs spawn = .ok (settings, world))
    (hhelper : settings.hub75Helper.isSome = true) (pixels : Nat → Int → Int → Rgb)
    {moves : List (Move L)} (hhonest : Transition.Along (Rig.step settings options) Honest
      (Rig.initial options pixels world) moves)
    (hrig : rig = Rig.run settings options (.initial options pixels world) moves) :
    ∃ received, Linked options rig received := by
  subst hrig
  obtain ⟨received, -, hlinked⟩ :=
    linked_run hL hfits (linked_initial hstart hhelper pixels) hhonest
  exact ⟨received, hlinked⟩

/-- Whatever the order of the moves, the panels have shown nothing yet, or a black canvas and then
the paintings of the first few packets the agent has sent, in their order, each of which has gone
into the pipe whole, followed by black canvases once the helper has ended by itself. It has then
ended with status 0, told to or behind the last packet of an agent that is gone, or with status 1,
because the agent was killed in the middle of a packet. -/
theorem panels_follow_agent (hL : L.Documented) (hfits : options.Fits) {env : Environment}
    {fs : FileSystem} {spawn : Except IoError Bool} {world : World L}
    (hstart : startUp L env fs spawn = .ok (settings, world))
    (hhelper : settings.hub75Helper.isSome = true) (pixels : Nat → Int → Int → Rgb)
    {moves : List (Move L)} (hhonest : Transition.Along (Rig.step settings options) Honest
      (Rig.initial options pixels world) moves)
    (hrig : rig = Rig.run settings options (.initial options pixels world) moves) :
    ∃ received, received <+: rig.sent ∧ packetCode.stream received <+: rig.piped ∧
      rig.Follows options received := by
  obtain ⟨received, hlinked⟩ := linked_of_run hL hfits hstart hhelper pixels hhonest hrig
  exact ⟨received, hlinked.received_prefix, hlinked.piped_prefix, hlinked.follows⟩

end

/-! ## With the reference instance -/

/-- A helper is as honest as the outside of the inputs of the agent. -/
theorem honest_of_all {settings : RuntimeSettings} {options : Options} {rig : Rig L}
    {moves : List (Move L)} (h : moves.all (fun move =>
      move.input?.all fun input => input.outside.sink.room.isNone) = true) :
    Transition.Along (Rig.step settings options) Honest rig moves := by
  refine Transition.along_of_mem fun move hmove _ _ input hinput => ?_
  have hroom := List.all_eq_true.1 h move hmove
  rw [hinput, Option.all_some, Option.isNone_iff_eq_none] at hroom
  exact hroom

/-- The options of the helper by default. -/
def defaultOptions : Options := ⟨32, 64, 5, 1⟩

/-- The default canvas is 320 by 32. -/
theorem defaultOptions_fits : defaultOptions.Fits := by
  unfold Options.Fits Options.physicalWidth Options.physicalHeight
  decide

/-- The rig of the examples. -/
def Rig.sample : Rig Leddy.reference :=
  .initial defaultOptions (fun _ _ _ => ⟨9, 9, 9⟩) .withHelper

/-- With the environment of the helper the agent starts with the world of the helper. -/
theorem startUp_withHelper : startUp Leddy.reference helperEnvironment (fun _ => .absent) (.ok true) =
    .ok (.fromEnv helperEnvironment, .withHelper) := rfl

/-- The agent presents a frame while the helper is in `read_packet`. -/
def shownMoves : List (Move Leddy.reference) :=
  [.helper, .agent (.connect (.calm ⟨0, 0⟩)),
   .agent (.select (.incoming (.text (.ok (.show ⟨"m", 255, 3600000⟩)))) (.calm ⟨1000000, 1000000⟩)),
   .helper, .agent (.select .frameTick (.calm ⟨50000000, 50000000⟩))]

/-- The helper is told to stop in the middle of painting that frame, and the agent is killed while it
presents the next one. -/
def brokenOffMoves : List (Move Leddy.reference) :=
  shownMoves ++ [.helper, .signal,
    .hangUp (.select .frameTick (.calm ⟨100000000, 100000000⟩)) 700, .helper, .helper, .helper]

/-- The pipe takes ten bytes of a packet and breaks. -/
theorem panels_follow_agent_brokenOff : ∃ received,
    received <+: (Rig.sample.run (.fromEnv helperEnvironment) defaultOptions brokenOffMoves).sent ∧
      packetCode.stream received <+:
        (Rig.sample.run (.fromEnv helperEnvironment) defaultOptions brokenOffMoves).piped ∧
      (Rig.sample.run (.fromEnv helperEnvironment) defaultOptions brokenOffMoves).Follows
        defaultOptions received :=
  panels_follow_agent Leddy.reference_documented defaultOptions_fits startUp_withHelper rfl _
    (honest_of_all rfl) rfl

end LeddyRaspPi
