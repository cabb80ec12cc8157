import LeddyRaspPi.Agent.Blackout
import LeddyRaspPi.Helper.Viewport
import LeddyRaspPi.Rig.System

/-!
# What the panels show in the end

Left alone, the helper catches up: in a bounded number of moves it has ended, behind a black canvas,
or it waits on an empty pipe and has shown everything the agent has sent (`helper_settles`). Where it
waits, the panels show the agent's last call, so they are black whenever the agent has nothing to
show or its last observation latched a fault (`panels_dark`). And whatever is lit was presented with
the configuration in force, and stays within its brightness (`panels_within`).
-/

namespace LeddyRaspPi

open Fallible History Helper

variable {L : Leddy} {settings : RuntimeSettings} {options : Options} {rig rig' : Rig L}
  {received : List FramePacket}

/-! ## Catching up -/

/-- What the helper has no part in: the agent, its end of the pipe, and the signals. -/
def Rig.aside (rig : Rig L) : Machine L × Bool × Bool := (rig.agent, rig.hungUp, rig.stop)

/-- So two rigs with the same of it have the same agent, the same end of the pipe and the same flag. -/
theorem Rig.aside_eq (h : rig'.aside = rig.aside) :
    rig'.agent = rig.agent ∧ rig'.hungUp = rig.hungUp ∧ rig'.stop = rig.stop := by
  simpa [Rig.aside] using h

/-- Where a move takes the helper, `stop` being what it finds in `g_stop`. -/
inductive HelperPhase.Next (stop : Bool) : HelperPhase → HelperPhase → Prop where
  | stays (phase : HelperPhase) : Next stop phase phase
  | boots (canvas : Nat) : Next stop .starting (.looping canvas)
  | loops (canvas : Nat) (hclear : stop = false) : Next stop (.looping canvas) (.reading canvas)
  | reads (canvas : Nat) : Next stop (.reading canvas) (.painting canvas)
  | paints (canvas : Nat) : Next stop (.painting canvas) (.swapping canvas)
  | swaps (canvas canvas' : Nat) : Next stop (.swapping canvas) (.looping canvas')
  | exits (phase : HelperPhase) (exit : Exit) : Next stop phase (.exited exit)

/-- Leaving by a failure is an exit. -/
theorem Rig.helperFail_next (rig : Rig L) (failure : Failure) (process : Process) :
    ∃ process' phase, rig.helperFail failure process = { rig with helper := process', phase } ∧
      rig.phase.Next rig.stop phase := by
  obtain ⟨process', exit, h, -⟩ := rig.helperFail_ends failure process
  exact ⟨process', .exited exit, h, .exits _ _⟩

/-- Leaving the loop is one too. -/
theorem Rig.helperLeave_next (rig : Rig L) (canvas : Nat) (process : Process) :
    ∃ process' phase, rig.helperLeave canvas process = { rig with helper := process', phase } ∧
      rig.phase.Next rig.stop phase := by
  obtain ⟨process', exit, h, -⟩ := rig.helperLeave_ends canvas process
  exact ⟨process', .exited exit, h, .exits _ _⟩

/-- A move of the helper changes its process and its phase, and that to the next one. -/
theorem Rig.helperStep_next (rig : Rig L) : ∃ process phase,
    rig.helperStep options = { rig with helper := process, phase } ∧
      rig.phase.Next rig.stop phase := by
  have hfail := rig.helperFail_next
  have hleave := rig.helperLeave_next
  have hstays : ∃ process phase, rig = { rig with helper := process, phase } ∧
      rig.phase.Next rig.stop phase := ⟨rig.helper, rig.phase, rfl, .stays _⟩
  unfold Rig.helperStep
  cases hphase : rig.phase with
  | starting =>
    rw [hphase] at hfail
    dsimp only
    cases boot options rig.helper with
    | ok canvas process => exact ⟨process, _, rfl, .boots canvas⟩
    | error failure process => exact hfail failure process
  | looping canvas =>
    rw [hphase] at hleave
    dsimp only
    split
    · exact hleave canvas rig.helper
    · next hclear => exact ⟨rig.helper, _, rfl, .loops canvas (by simpa using hclear)⟩
  | reading canvas =>
    rw [hphase] at hfail hleave hstays
    dsimp only
    split
    · exact hstays
    · cases onReader readPacket rig.helper with
      | ok more process =>
        cases more with
        | true => exact ⟨process, _, rfl, .reads canvas⟩
        | false => exact hleave canvas process
      | error failure process => exact hfail failure process
  | painting canvas =>
    rw [hphase] at hfail
    dsimp only
    cases paint options canvas rig.helper with
    | ok u process => exact ⟨process, _, rfl, .paints canvas⟩
    | error failure process => exact hfail failure process
  | swapping canvas =>
    rw [hphase] at hfail
    dsimp only
    cases onMatrix (RgbMatrix.swapOnVSync canvas) rig.helper with
    | ok canvas' process => exact ⟨process, _, rfl, .swaps canvas canvas'⟩
    | error failure process => exact hfail failure process
  | exited exit => rwa [hphase] at hstays
  | killed => rwa [hphase] at hstays

/-- The helper does nothing to the agent, the pipe's other end and the flag. -/
theorem Rig.helperStep_aside (rig : Rig L) : (rig.helperStep options).aside = rig.aside := by
  obtain ⟨process, phase, hstep, -⟩ := @Rig.helperStep_next _ options rig
  rw [hstep]
  rfl

/-- In particular nothing to the agent. -/
theorem Rig.helperStep_agent (rig : Rig L) : (rig.helperStep options).agent = rig.agent :=
  (Rig.aside_eq rig.helperStep_aside).1

/-- And nothing to the agent's end of the pipe. -/
theorem Rig.helperStep_hungUp (rig : Rig L) : (rig.helperStep options).hungUp = rig.hungUp :=
  (Rig.aside_eq rig.helperStep_aside).2.1

/-- Nor is it killed by what it does. -/
theorem Rig.helperStep_killed (h : (rig.helperStep options).phase = .killed) :
    rig.phase = .killed := by
  obtain ⟨process, phase, hstep, hnext⟩ := @Rig.helperStep_next _ options rig
  rw [hstep] at h
  cases (h : phase = .killed)
  cases hcase : rig.phase with
  | killed => rfl
  | _ => rw [hcase] at hnext; cases hnext

/-- A run may go on with the helper alone. -/
theorem Rig.run_helper (rig : Rig L) (moves : List (Move L)) (n : Nat) :
    rig.run settings options (moves ++ List.replicate n .helper) =
      (Rig.helperStep options)^[n] (rig.run settings options moves) :=
  Transition.run_append.trans Transition.run_replicate

/-- What a number of moves of the helper alone lead to. -/
structure Leads (options : Options) (rig rig' : Rig L) (received : List FramePacket) : Prop where
  linked : Linked options rig' received
  settled : rig'.Settled
  aside : rig'.aside = rig.aside
  killed : rig'.phase = .killed → rig.phase = .killed

/-- After as many moves as it has work, the helper has settled. -/
theorem Linked.settles (hfits : options.Fits) (h : Linked options rig received) :
    ∃ n ≤ rig.work, ∃ received', Leads options rig ((Rig.helperStep options)^[n] rig) received' := by
  induction hwork : rig.work using Nat.strongRecOn generalizing rig received with
  | _ work ih =>
    rcases h.helperStep hfits with ⟨received', _, hlinked, hless⟩ | ⟨hsettled, _⟩
    · obtain ⟨n, hn, received'', hleads⟩ := ih _ (hwork ▸ hless) hlinked rfl
      refine ⟨n + 1, by omega, received'', hleads.linked, hleads.settled, ?_, fun hkilled => ?_⟩
      · exact hleads.aside.trans (Rig.helperStep_aside rig)
      · exact Rig.helperStep_killed (hleads.killed hkilled)
    · exact ⟨0, Nat.zero_le _, received, h, hsettled, rfl, id⟩

/-- The agent and the helper are there, and nobody has told the helper to stop. -/
structure Rig.Working (rig : Rig L) : Prop where
  alive : rig.phase.alive = true
  listens : rig.hungUp = false
  goes : rig.stop = false

/-- A helper that was working, and has settled, waits. -/
theorem Leads.waits (h : Leads options rig rig' received) (hworks : rig.Working) : rig'.Waits := by
  obtain ⟨-, hlistens, hstops⟩ := Rig.aside_eq h.aside
  have hopen : rig'.hungUp = false := hlistens.trans hworks.listens
  have hfollows := h.linked.follows
  unfold Rig.Follows at hfollows
  refine h.settled ?_
  cases hphase : rig'.phase with
  | exited exit =>
    rw [hphase] at hfollows
    have hexplains := hfollows.1
    unfold Rig.Explains at hexplains
    split at hexplains
    · rcases hexplains with hstop | ⟨hgone, _⟩
      · exact absurd (hworks.goes.symm.trans (hstops.symm.trans hstop)) Bool.false_ne_true
      · exact absurd (hopen.symm.trans hgone) Bool.false_ne_true
    · exact absurd (hopen.symm.trans hexplains.1) Bool.false_ne_true
    · exact hexplains.elim
  | killed =>
    have hkilled := hworks.alive
    rw [h.killed hphase] at hkilled
    exact absurd hkilled Bool.false_ne_true
  | _ => rfl

/-- The bytes in the pipe bound the work. -/
theorem Rig.work_le (rig : Rig L) : rig.work ≤ rig.helper.reader.input.rest.length + 4 := by
  unfold Rig.work
  split <;> omega

/-- How the helper stands once it has settled: it is over, with the panels black unless it was
killed, or it has shown everything and waits. -/
inductive Rig.CaughtUp (options : Options) (rig : Rig L) : Prop where
  | killed (hphase : rig.phase = .killed)
  | exited (exit : Exit) (hphase : rig.phase = .exited exit)
      (hdark : rig.shown.getLast? = some options.black)
  | waits (canvas : Nat) (hphase : rig.phase = .reading canvas) (hopen : rig.hungUp = false)
      (hshown : rig.shown = options.black :: options.paintings rig.sent)

/-- A settled helper has shown all that was sent, or it has ended dark, or it was killed. -/
theorem Linked.caughtUp (h : Linked options rig received) (hsettled : rig.Settled) :
    rig.CaughtUp options := by
  have hfollows := h.follows
  unfold Rig.Follows at hfollows
  by_cases halive : rig.phase.alive = true
  · obtain ⟨canvas, hphase, hopen, hstarved⟩ := hsettled halive
    obtain ⟨sent, tail, hconnected⟩ := h.connected halive
    have hidle : rig.inHand = [] := by rw [Rig.inHand, hphase]
    have hall : received = rig.sent := by
      rw [← (hconnected.starved_iff hopen).1 hstarved, hidle, List.append_nil]
    rw [hphase] at hfollows
    exact .waits canvas hphase hopen (hall ▸ hfollows.2)
  · cases hphase : rig.phase with
    | exited exit =>
      rw [hphase] at hfollows
      obtain ⟨_, n, hshown⟩ := hfollows
      refine .exited exit hphase ?_
      rw [hshown, List.replicate_succ', ← List.append_assoc, ← List.cons_append,
        List.getLast?_concat]
    | killed => exact .killed hphase
    | _ => exact absurd (by rw [hphase]; rfl) halive

/-- From every state the two processes reach, the helper alone gets, in at most as many moves as
there are bytes in the pipe and four, to where it has shown everything the agent has sent and waits
on the open pipe, or to its end. It is killed only if it was before; if it ends by itself, the
last canvas on the panels is black. -/
theorem helper_settles (hL : L.Documented) (hfits : options.Fits) {env : Environment}
    {fs : FileSystem} {spawn : Except IoError Bool} {world : World L}
    (hstart : startUp L env fs spawn = .ok (settings, world))
    (hhelper : settings.hub75Helper.isSome = true) (pixels : Nat → Int → Int → Rgb)
    {moves : List (Move L)} (hhonest : Transition.Along (Rig.step settings options) Honest
      (Rig.initial options pixels world) moves)
    (hrig : rig = Rig.run settings options (.initial options pixels world) moves) :
    ∃ n ≤ rig.helper.reader.input.rest.length + 4,
      ((Rig.helperStep options)^[n] rig).CaughtUp options ∧
      ((Rig.helperStep options)^[n] rig).agent = rig.agent ∧
      (((Rig.helperStep options)^[n] rig).phase = .killed → rig.phase = .killed) := by
  obtain ⟨received, hlinked⟩ := linked_of_run hL hfits hstart hhelper pixels hhonest hrig
  obtain ⟨n, hn, received', hleads⟩ := hlinked.settles hfits
  exact ⟨n, hn.trans rig.work_le, hleads.linked.caughtUp hleads.settled,
    (Rig.aside_eq hleads.aside).1, hleads.killed⟩

/-! ## What the agent has called last -/

/-- The agent of the rig is moved by its own inputs only. -/
theorem Rig.run_agent {law : Law L} (hkept : law.Kept settings fun _ _ => True)
    (hholds : law.Holds rig.agent) (moves : List (Move L)) :
    law.Holds (rig.run settings options moves).agent := by
  refine Transition.run_preserves (I := fun rig : Rig L => law.Holds rig.agent)
    (fun rig move hholds => ?_) hholds
  have hstep : ∀ input, law.Holds (rig.agent.step settings input) := fun input =>
    hkept.step input trivial hholds
  cases move with
  | agent input =>
    unfold Rig.step
    cases rig.hungUp with
    | true => exact hholds
    | false =>
      simp only [Bool.false_eq_true, if_false, Rig.agentStep]
      split <;> exact hstep input
  | hangUp input written =>
    unfold Rig.step
    cases rig.hungUp with
    | true => exact hholds
    | false => exact hstep input
  | helper => exact (Rig.helperStep_agent rig).symm ▸ hholds
  | signal => exact hholds
  | kill => exact hholds

/-- What the panels show now. -/
def Rig.panel (rig : Rig L) : Option FrameCanvas := rig.shown.getLast?

/-- What the last call of the sink put on the panels. -/
def canvasOf (options : Options) (history : List (Effect L)) : FrameCanvas :=
  (lastCall history).elim options.black fun call =>
    painting options.physicalWidth options.physicalHeight call.packet

/-- The last packet sent is that of the last call. -/
theorem getLast?_paintings (options : Options) (history : List (Effect L)) :
    (options.black :: options.paintings (packetsSent history)).getLast? =
      some (canvasOf options history) := by
  rw [canvasOf, lastCall, packetsSent, Options.paintings]
  cases calls history with
  | nil => rfl
  | cons call earlier =>
    rw [List.reverse_cons, List.map_append, List.map_append, ← List.cons_append]
    exact List.getLast?_concat

/-- After a call of the sink for a frame, that is what the panels are to show. -/
theorem canvasOf_frame {history : List (Effect L)} {call : Call L} {frame : L.FrameBuffer}
    (hcall : lastCall history = some call) (hframe : call.frame = some frame) :
    canvasOf options history = painting options.physicalWidth options.physicalHeight
      (framePacket call.config (L.rowMajor frame)) := by
  rw [canvasOf, hcall, Option.elim_some, Call.packet, hframe]
  rfl

/-- Where the helper waits for the next packet, the panels show what the last call put there. -/
theorem Linked.panel (h : Linked options rig received) (hwaits : rig.Waits) :
    rig.panel = some (canvasOf options rig.agent.world.history) := by
  have hcaught := h.caughtUp fun _ => hwaits
  obtain ⟨canvas, hphase, _⟩ := hwaits
  cases hcaught with
  | killed hkilled => cases hphase.symm.trans hkilled
  | exited exit hexited => cases hphase.symm.trans hexited
  | waits _ _ _ hshown =>
    rw [Rig.panel, hshown]
    exact getLast?_paintings options _

/-- A pixel that is off is not shown. -/
theorem scaleBrightness_off (brightness : UInt8) : scaleBrightness 0 brightness = 0 := by
  rw [← UInt8.toNat_inj, scaleBrightness_toNat]
  simp

/-- A clear paints the black canvas. -/
theorem Call.painting_dark (hfits : options.Fits) {call : Call L} (hwf : call.packet.WellFormed)
    (hframe : call.frame = none) :
    painting options.physicalWidth options.physicalHeight call.packet = options.black := by
  refine painting_unlit hwf hfits fun pixel hpixel => ?_
  rw [Call.packet, hframe] at hpixel
  rw [List.eq_of_mem_replicate hpixel, scaleBrightness_off]

/-- Behind a clear the panels are black. -/
theorem canvasOf_dark (hfits : options.Fits) {history : List (Effect L)}
    (hvalid : ∀ packet ∈ packetsSent history, packet.WellFormed) (hdark : Dark history) :
    canvasOf options history = options.black := by
  unfold canvasOf
  cases hlast : lastCall history with
  | none => rfl
  | some call =>
    refine Call.painting_dark hfits (hvalid _ (List.mem_map_of_mem (List.mem_reverse.2 ?_)))
      (hdark call hlast)
    exact List.mem_of_mem_head? hlast

section
variable {env : Environment} {fs : FileSystem} {spawn : Except IoError Bool} {world : World L}
  {moves : List (Move L)}

/-- Every law that start-up establishes holds of the agent of the rig. -/
theorem Rig.agent_holds {law : DisplayConfig → Law L}
    (hkept : ∀ config, (law config).Kept settings fun _ _ => True)
    (hinitial : ∀ config sink, (law config).Holds (Machine.initial config sink fs))
    (hstart : startUp L env fs spawn = .ok (settings, world)) (pixels : Nat → Int → Int → Rgb)
    (hrig : rig = Rig.run settings options (.initial options pixels world) moves) :
    (law world.config).Holds rig.agent := by
  obtain ⟨_, config, sink, rfl, _⟩ := startUp_ok hstart
  subst hrig
  exact Rig.run_agent (hkept config) (hinitial config sink) moves

/-- Where the helper waits for the next packet, the panels show what the last call of the sink has
put there. They are black if the agent has no message to show or sleeps between two sessions, and
also if its last observation latched a fault. -/
theorem panels_dark (hL : L.Documented) (hfits : options.Fits)
    (hstart : startUp L env fs spawn = .ok (settings, world))
    (hhelper : settings.hub75Helper.isSome = true) (pixels : Nat → Int → Int → Rgb)
    (hhonest : Transition.Along (Rig.step settings options) Honest
      (Rig.initial options pixels world) moves)
    (hrig : rig = Rig.run settings options (.initial options pixels world) moves)
    (hwaits : rig.Waits) :
    rig.panel = some (canvasOf options rig.agent.world.history) ∧
      (rig.agent.Quiet → rig.panel = some options.black) := by
  have hscreen : (screenLaw L world.config).Holds rig.agent :=
    Rig.agent_holds (fun _ => screenLaw_parts.kept) (fun _ sink => screenLaw_initial sink fs) hstart
      pixels hrig
  have hblackout : (blackoutLaw L).Holds rig.agent :=
    Rig.agent_holds (fun _ => blackoutLaw_parts.kept)
      (fun config sink => blackoutLaw_initial config sink fs) hstart pixels hrig
  obtain ⟨received, hlinked⟩ := linked_of_run hL hfits hstart hhelper pixels hhonest hrig
  have hpanel := hlinked.panel hwaits
  refine ⟨hpanel, fun hquiet => ?_⟩
  rw [hpanel, canvasOf_dark hfits (fun packet hpacket =>
    sent_wellFormed (Ledger.of_holds hlinked.ledger).entered hpacket)
    (hquiet.dark hscreen hblackout)]

/-! ## What may be lit -/

/-- The canvas is the painting of a frame that the agent presented for the message it was to show,
with the configuration in force, and it stays within the brightness of that. -/
def Lit (options : Options) (config₀ : DisplayConfig) (history : List (Effect L))
    (canvas : FrameCanvas) : Prop :=
  ∃ past config frame before after stats,
    .presented config frame before after (.ok stats) :: past <:+ history ∧
    Truthful config₀ past (.presented config frame before after (.ok stats)) ∧
    canvas = painting options.physicalWidth options.physicalHeight
      (framePacket config (L.rowMajor frame)) ∧
    canvas.Within options config.brightness

/-- Every canvas the panels have shown is black, or lit that way. -/
def Rig.OnlyLit (options : Options) (config₀ : DisplayConfig) (rig : Rig L) : Prop :=
  ∀ canvas ∈ rig.shown, canvas = options.black ∨
    Lit options config₀ rig.agent.world.history canvas

/-- The painting of a packet that was sent is lit that way, or it is black. -/
theorem lit_or_black (hfits : options.Fits) {config₀ : DisplayConfig} {history : List (Effect L)}
    (hentered : Always Entered history) (htruthful : Always (Truthful config₀) history)
    {packet : FramePacket} (hpacket : packet ∈ packetsSent history) :
    painting options.physicalWidth options.physicalHeight packet = options.black ∨
      Lit options config₀ history
        (painting options.physicalWidth options.physicalHeight packet) := by
  have hwf := sent_wellFormed hentered hpacket
  obtain ⟨call, hmem, rfl⟩ := List.mem_map.1 hpacket
  obtain ⟨effect, heffect, hcall⟩ := List.mem_filterMap.1 (List.mem_reverse.1 hmem)
  obtain ⟨later, past, rfl⟩ := List.append_of_mem heffect
  cases effect with
  | presented config frame before after result =>
    cases result with
    | error error => cases hcall
    | ok stats =>
      cases hcall
      exact .inr ⟨past, config, frame, before, after, stats, List.suffix_append _ _,
        htruthful.of_suffix (List.suffix_append _ _), rfl, painting_within hwf hfits⟩
  | cleared config before after result =>
    cases result with
    | error error => cases hcall
    | ok u =>
      cases hcall
      exact .inl (Call.painting_dark hfits hwf rfl)
  | _ => cases hcall

/-- What holds of every entry of the agent's history holds of that of the rig. -/
theorem Rig.agent_always {P : DisplayConfig → List (Effect L) → Effect L → Prop}
    (hjudges : ∀ config, Judges (P config))
    (hpresents : ∀ config (machine : Machine L) input, (screenLaw L config).Holds machine →
      Presentable (P config) machine input)
    (hstart : startUp L env fs spawn = .ok (settings, world)) (pixels : Nat → Int → Int → Rgb)
    (hrig : rig = Rig.run settings options (.initial options pixels world) moves) :
    Always (P world.config) rig.agent.world.history := by
  have hkept : ∀ config, ((screenLaw L config).and (historyLaw (P config))).Kept settings
      fun _ _ => True := fun config =>
    screenLaw_parts.kept.and (historyLaw_parts (hjudges config)).kept
      fun machine input h _ => hpresents config machine input h
  have hholds := Rig.agent_holds hkept (fun config sink =>
    Law.holds_and.2 ⟨screenLaw_initial sink fs, worldLaw_holds.2 trivial⟩) hstart pixels hrig
  exact worldLaw_holds.1 (Law.holds_and.1 hholds).2

/-- What the agent of the rig presents is what it was to show. -/
theorem Rig.agent_truthful (hstart : startUp L env fs spawn = .ok (settings, world))
    (pixels : Nat → Int → Int → Rgb)
    (hrig : rig = Rig.run settings options (.initial options pixels world) moves) :
    Always (Truthful world.config) rig.agent.world.history :=
  Rig.agent_always (P := Truthful) (fun _ => truthful_judges) (fun _ => presentable_truthful) hstart
    pixels hrig

/-- In every interleaving, a canvas the panels have shown is black, or it is the painting of a frame
presented with the configuration in force for the message that was to be shown, grey, black outside
the largest viewport and nowhere brighter than that configuration says. -/
theorem panels_within (hL : L.Documented) (hfits : options.Fits)
    (hstart : startUp L env fs spawn = .ok (settings, world))
    (hhelper : settings.hub75Helper.isSome = true) (pixels : Nat → Int → Int → Rgb)
    (hhonest : Transition.Along (Rig.step settings options) Honest
      (Rig.initial options pixels world) moves)
    (hrig : rig = Rig.run settings options (.initial options pixels world) moves) :
    rig.OnlyLit options world.config := by
  intro canvas hcanvas
  have htruthful := Rig.agent_truthful hstart pixels hrig
  obtain ⟨received, hlinked⟩ := linked_of_run hL hfits hstart hhelper pixels hhonest hrig
  have hpainted : canvas ∈ options.paintings received →
      canvas = options.black ∨ Lit options world.config rig.agent.world.history canvas := by
    intro hmem
    obtain ⟨packet, hpacket, rfl⟩ := List.mem_map.1 hmem
    exact lit_or_black hfits (Ledger.of_holds hlinked.ledger).entered htruthful
      (hlinked.received_prefix.subset hpacket)
  have hbetween : rig.shown = options.black :: options.paintings received →
      canvas = options.black ∨ Lit options world.config rig.agent.world.history canvas := by
    intro hshown
    rw [hshown] at hcanvas
    rcases List.mem_cons.1 hcanvas with rfl | hmem
    · exact .inl rfl
    · exact hpainted hmem
  have hfollows := hlinked.follows
  unfold Rig.Follows at hfollows
  cases hphase : rig.phase with
  | starting =>
    rw [hphase] at hfollows
    obtain ⟨_, _, hmatrix⟩ := hfollows
    rw [Rig.shown, hmatrix] at hcanvas
    cases hcanvas
  | looping canvas => rw [hphase] at hfollows; exact hbetween hfollows.2
  | reading canvas => rw [hphase] at hfollows; exact hbetween hfollows.2
  | painting canvas => rw [hphase] at hfollows; exact hbetween hfollows.2
  | swapping canvas => rw [hphase] at hfollows; exact hbetween hfollows.2.1
  | exited exit =>
    rw [hphase] at hfollows
    obtain ⟨_, n, hshown⟩ := hfollows
    rw [hshown] at hcanvas
    rcases List.mem_cons.1 hcanvas with rfl | hmem
    · exact .inl rfl
    · rcases List.mem_append.1 hmem with hmem | hmem
      · exact hpainted hmem
      · exact .inl (List.eq_of_mem_replicate hmem)
  | killed =>
    rw [hphase] at hfollows
    rcases hfollows with ⟨_, hnil⟩ | hshown
    · rw [hnil] at hcanvas
      cases hcanvas
    · exact hbetween hshown

/-! ## Between two configurations -/

end

/-! ## With the reference instance -/

/-- The rig of the examples after these moves, and so many of the helper alone. -/
def Rig.sampleRun (moves : List (Move Leddy.reference)) (n : Nat) : Rig Leddy.reference :=
  Rig.sample.run (.fromEnv helperEnvironment) defaultOptions (moves ++ List.replicate n .helper)

/-- If the pipe takes all the agent writes in these moves, the run is honest. -/
theorem sampleRun_honest {moves : List (Move Leddy.reference)}
    (h : moves.all (fun move => move.input?.all fun input => input.outside.sink.room.isNone) = true)
    (n : Nat) : Transition.Along (Rig.step (.fromEnv helperEnvironment) defaultOptions) Honest
      (Rig.initial defaultOptions (fun _ _ _ => ⟨9, 9, 9⟩) .withHelper)
      (moves ++ List.replicate n .helper) := by
  refine honest_of_all ?_
  rw [List.all_append, h, List.all_replicate]
  simp [Move.input?]

/-- If the helper works, so many moves lead to where it waits, and change nothing else. -/
theorem Rig.sampleRun_waits {moves : List (Move Leddy.reference)}
    (h : moves.all (fun move => move.input?.all fun input => input.outside.sink.room.isNone) = true)
    (hworks : (Rig.sample.run (.fromEnv helperEnvironment) defaultOptions moves).Working) :
    ∃ n, (Rig.sampleRun moves n).Waits ∧ (Rig.sampleRun moves n).aside =
      (Rig.sample.run (.fromEnv helperEnvironment) defaultOptions moves).aside := by
  obtain ⟨received, hlinked⟩ := linked_of_run Leddy.reference_documented defaultOptions_fits
    startUp_withHelper rfl _ (honest_of_all h) rfl
  obtain ⟨n, -, received', hleads⟩ := hlinked.settles defaultOptions_fits
  refine ⟨n, ?_⟩
  rw [Rig.sampleRun, Rig.run_helper]
  exact ⟨hleads.waits hworks, hleads.aside⟩

/-- The frame of the example gets onto the panels. -/
theorem Rig.sampleRun_lit : ∃ n, (Rig.sampleRun shownMoves n).Waits ∧
    (Rig.sampleRun shownMoves n).aside =
      (Rig.sample.run (.fromEnv helperEnvironment) defaultOptions shownMoves).aside ∧
    (Rig.sampleRun shownMoves n).panel =
      some (painting defaultOptions.physicalWidth defaultOptions.physicalHeight
        (framePacket World.withHelper.config (List.replicate 1000 255))) := by
  obtain ⟨n, hwaits, haside⟩ := @Rig.sampleRun_waits shownMoves rfl
    ⟨by decide +kernel, by decide +kernel, by decide +kernel⟩
  have hagent : (Rig.sampleRun shownMoves n).agent =
      (Rig.sample.run (.fromEnv helperEnvironment) defaultOptions shownMoves).agent :=
    (Rig.aside_eq haside).1
  obtain ⟨received, hlinked⟩ : ∃ received,
      Linked defaultOptions (Rig.sampleRun shownMoves n) received :=
    linked_of_run Leddy.reference_documented defaultOptions_fits startUp_withHelper rfl _
      (sampleRun_honest rfl n) rfl
  have hcalled : (lastCall (Rig.sample.run (.fromEnv helperEnvironment) defaultOptions
      shownMoves).agent.world.history).map (fun call => (call.config, call.frame)) =
        some (World.withHelper.config, some ⟨World.withHelper.config, List.replicate 1000 255⟩) := by
    decide +kernel
  obtain ⟨call, hcall, heq⟩ := Option.map_eq_some_iff.1 hcalled
  obtain ⟨hconfig, hframe⟩ := Prod.mk.inj heq
  have hpanel := hlinked.panel hwaits
  rw [hagent, canvasOf_frame hcall hframe, hconfig] at hpanel
  exact ⟨n, hwaits, haside, hpanel⟩

/-- The rig whose pipe broke off within a packet settles. -/
theorem helper_settles_brokenOff :
    ∃ n ≤ (Rig.sample.run (.fromEnv helperEnvironment) defaultOptions
        brokenOffMoves).helper.reader.input.rest.length + 4,
      ((Rig.helperStep defaultOptions)^[n] (Rig.sample.run (.fromEnv helperEnvironment)
        defaultOptions brokenOffMoves)).CaughtUp defaultOptions ∧
      ((Rig.helperStep defaultOptions)^[n] (Rig.sample.run (.fromEnv helperEnvironment)
        defaultOptions brokenOffMoves)).agent = (Rig.sample.run (.fromEnv helperEnvironment)
        defaultOptions brokenOffMoves).agent ∧
      (((Rig.helperStep defaultOptions)^[n] (Rig.sample.run (.fromEnv helperEnvironment)
        defaultOptions brokenOffMoves)).phase = .killed →
        (Rig.sample.run (.fromEnv helperEnvironment) defaultOptions brokenOffMoves).phase =
          .killed) :=
  helper_settles Leddy.reference_documented defaultOptions_fits startUp_withHelper rfl _
    (honest_of_all rfl) rfl

/-- A message is shown and cleared. -/
def clearedMoves : List (Move Leddy.reference) :=
  shownMoves ++ [.agent (.select (.incoming (.text (.ok .clear))) (.calm ⟨60000000, 60000000⟩))]

/-- A message is shown, painted and cleared; the settled panel is black again. -/
theorem panels_dark_cleared : ∃ n,
    (Rig.sampleRun clearedMoves n).panel = some (canvasOf defaultOptions
        (Rig.sampleRun clearedMoves n).agent.world.history) ∧
      ((Rig.sampleRun clearedMoves n).agent.Quiet →
        (Rig.sampleRun clearedMoves n).panel = some defaultOptions.black) := by
  obtain ⟨n, hwaits, -⟩ := @Rig.sampleRun_waits clearedMoves rfl
    ⟨by decide +kernel, by decide +kernel, by decide +kernel⟩
  exact ⟨n, panels_dark Leddy.reference_documented defaultOptions_fits startUp_withHelper rfl _
    (sampleRun_honest rfl n) rfl hwaits⟩

/-- What was shown before the pipe broke off is within the viewport. -/
theorem panels_within_brokenOff :
    (Rig.sample.run (.fromEnv helperEnvironment) defaultOptions brokenOffMoves).OnlyLit
      defaultOptions World.withHelper.config :=
  panels_within Leddy.reference_documented defaultOptions_fits startUp_withHelper rfl _
    (honest_of_all rfl) rfl

end LeddyRaspPi
