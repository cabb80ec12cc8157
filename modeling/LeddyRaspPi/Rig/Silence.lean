import LeddyRaspPi.Agent.Watchdog
import LeddyRaspPi.Rig.Delivery

/-!
# A silent link takes the panels to black

If the wall clock has gone on by the timeout and another millisecond since the last contact, a frame
tick latches a fault and clears the sink (`Session.frameTick_latched`), and no later pass brings a
frame back as long as nothing comes from the server (`Machine.Hushed.run`). The helper follows
(`silence_goes_dark`).
-/

namespace LeddyRaspPi

open Fallible History Helper

variable {L : Leddy} {settings : RuntimeSettings} {options : Options}
  {timeoutMs : L.SafetyController → UInt64} {latches : L.SafetyController → SafetyObservation → Prop}

/-! ## A pass in the silence -/

/-- A pass that is no contact, and at a frame tick the timeout and another millisecond have passed
on the wall clock since the last one. -/
def ServedPass.Silent (timeout : UInt64) (contact : Clock) (served : ServedPass L) : Prop :=
  match served.arm with
  | .frameTick => ((timeout.toNat + 1) * 1000000 : Int) ≤
      served.outside.first.wall - contact.wall ∧ served.outside.first.wall < 2 ^ 64 * 1000000
  | .telemetryTick | .incoming .other => True
  | .incoming _ => False

/-- What such a pass leaves: the configuration, the last contact, and a dark sink, which a frame
tick also makes. -/
structure World.Hushes (arm : Arm L) (world after : World L) : Prop where
  config : after.config = world.config
  contact : lastContact after.history = lastContact world.history
  dark : arm = .frameTick ∨ Dark world.history → Dark after.history

namespace Session

variable {session : Session L} {served : ServedPass L} {timeout : UInt64} {contact : Clock}

/-- A frame tick that latches a fault clears the sink, and nothing else. -/
theorem frameTick_latched {outside : Outside} (hlatches : session.Latches outside) :
    Ends (frameTick outside) session
      (fun _ after => session.world.Hushes .frameTick after.world) fun _ _ => True := by
  refine frameTick_ends (fun decision safety _ _ => ?_) fun decision safety hobserve hclear => ?_
  · exact World.clearSink_ends (fun _ _ _ => ⟨rfl, rfl, fun _ => dark_cleared⟩) fun _ _ _ => trivial
  · rw [Latches, hobserve] at hlatches
    simp [hclear] at hlatches

/-- A silent pass goes on and hushes the session, if its frame tick latches a fault. -/
theorem select_silent (settings : RuntimeSettings) (hsilent : served.Silent timeout contact)
    (hlatches : served.arm = .frameTick → session.Latches served.outside) :
    session.GoesOn served.outside served.arm ∧
      Ends (select settings served.outside served.arm)
        (session.note (.took (.select served.arm served.outside)))
        (fun _ after => session.world.Hushes served.arm after.world) fun _ _ => True := by
  obtain ⟨arm, outside, hserves⟩ := served
  cases arm with
  | frameTick =>
    refine ⟨.inl (hlatches rfl), ?_⟩
    have hlatched : (session.note (.took (.select .frameTick outside))).Latches outside :=
      hlatches rfl
    rw [select, ends_bind]
    exact (frameTick_latched hlatched).mono (fun _ _ h => ⟨h.config, h.contact, fun _ =>
      h.dark (.inl rfl)⟩) fun _ _ h => h
  | telemetryTick =>
    refine ⟨trivial, ?_⟩
    rw [select, ends_bind, telemetryTick, ends_bind, ends_get]
    refine reply_ends.2 ⟨fun _ => ⟨rfl, rfl, fun hdark => ?_⟩, fun _ _ => trivial⟩
    exact hdark.resolve_left (by simp)
  | incoming incoming =>
    cases incoming with
    | other => exact ⟨trivial, rfl, rfl, fun hdark => hdark.resolve_left (by simp)⟩
    | _ => exact hsilent.elim

end Session

/-! ## The agent -/

namespace Machine

variable {machine : Machine L} {started : Nat} {contact : Clock} {config : DisplayConfig}
  {served : ServedPass L} {passes : List (ServedPass L)}

/-- The agent is in a session with this configuration, and this was the last contact. -/
structure Hushed (timeoutMs : L.SafetyController → UInt64) (started : Nat) (contact : Clock)
    (config : DisplayConfig) (machine : Machine L) : Prop where
  session : machine.InSession started
  contact : lastContact machine.world.history = some contact
  config : machine.world.config = config
  watched : (contactLaw timeoutMs).Holds machine

/-- The controller of a session finds the silence. -/
theorem Hushed.latched (hwatches : L.WatchesContact timeoutMs latches) (hcontact : 0 ≤ contact.wall)
    {world : World L} {locals : Locals L}
    (h : Hushed timeoutMs started contact config ⟨world, .running started locals⟩)
    (hsilent : served.Silent (safetyLimits config).communicationTimeoutMs contact)
    (harm : served.arm = .frameTick) : Session.Latches served.outside ⟨world, locals⟩ := by
  obtain ⟨⟨contact', hcontact', hlast⟩, htimeout⟩ := h.watched
  obtain rfl := Option.some.inj (h.contact.symm.trans hcontact')
  have hconfig : world.config = config := h.config
  have hlast' : locals.lastAuthenticatedContactUnixMs = nowUnixMs contact := hlast
  have htimeout' : timeoutMs locals.safety = (safetyLimits config).communicationTimeoutMs :=
    hconfig ▸ htimeout
  refine (hwatches.observe rfl).2 (hwatches.latches_iff.2 ?_)
  rw [ServedPass.Silent, harm] at hsilent
  rw [Session.observation, hlast', htimeout']
  exact nowUnixMs_gt_of_wall hcontact hsilent.2 hsilent.1

/-- Silence keeps the last contact and the configuration, keeps a dark sink dark, and darkens it at
a frame tick. -/
theorem Hushed.pass (hL : L.Documented) (settings : RuntimeSettings)
    (hwatches : L.WatchesContact timeoutMs latches) (hcontact : 0 ≤ contact.wall)
    (hsilent : served.Silent (safetyLimits config).communicationTimeoutMs contact)
    (h : machine.Hushed timeoutMs started contact config) :
    (machine.pass settings served).Hushed timeoutMs started contact config ∧
      (served.arm = .frameTick ∨ Dark machine.world.history →
        Dark (machine.pass settings served).world.history) := by
  have hkept : (contactLaw timeoutMs).Kept settings fun _ _ => True :=
    (contactLaw_parts hwatches).kept
  have hwatched : (contactLaw timeoutMs).Holds (machine.pass settings served) :=
    hkept.run_all h.watched [.select served.arm served.outside]
  obtain ⟨world, phase⟩ := machine
  obtain ⟨locals, rfl⟩ := h.session
  obtain ⟨hgoesOn, hends⟩ := Session.select_silent settings hsilent
    fun harm => h.latched hwatches hcontact hsilent harm
  obtain ⟨after, hhushes, hpass⟩ := pass_ends hL settings hgoesOn hends
  rw [hpass] at hwatched ⊢
  exact ⟨⟨⟨_, rfl⟩, hhushes.contact.trans h.contact, hhushes.config.trans h.config, hwatched⟩,
    hhushes.dark⟩

/-- A frame tick in the silence darkens the sink, and it stays dark. -/
theorem Hushed.run (hL : L.Documented) (hwatches : L.WatchesContact timeoutMs latches)
    (hcontact : 0 ≤ contact.wall)
    (hsilent : ∀ served ∈ passes,
      served.Silent (safetyLimits config).communicationTimeoutMs contact)
    (h : machine.Hushed timeoutMs started contact config)
    (htick : Dark machine.world.history ∨ ∃ served ∈ passes, served.arm = .frameTick) :
    Dark (Transition.run (Machine.pass settings) machine passes).world.history := by
  induction passes generalizing machine with
  | nil => simpa using htick
  | cons served passes ih =>
    obtain ⟨hhushed, hdarkens⟩ :=
      h.pass hL settings hwatches hcontact (hsilent served List.mem_cons_self)
    refine ih (fun later hlater => hsilent later (List.mem_cons_of_mem _ hlater)) hhushed ?_
    rcases htick with hdark | ⟨later, hlater, harm⟩
    · exact .inl (hdarkens (.inr hdark))
    · rcases List.mem_cons.1 hlater with rfl | hlater
      · exact .inl (hdarkens (.inl harm))
      · exact .inr ⟨later, hlater, harm⟩

end Machine

/-! ## The rig -/

section
variable {env : Environment} {fs : FileSystem} {spawn : Except IoError Bool} {world : World L}
  {moves later : List (Move L)} {rig rig' : Rig L} {passes : List (ServedPass L)}

/-- Take a rig that any interleaving has led to, whose agent is in a session. Let nothing come from
the server from then on, and let there be a frame tick, each at least the timeout and a millisecond
behind the last contact on the wall clock. If nothing outside the agent fails and the helper still
works, it gets in a bounded number of its own moves to where the panels are black. -/
theorem silence_goes_dark (hL : L.Documented) (hwatches : L.WatchesContact timeoutMs latches)
    (hfits : options.Fits) (hstart : startUp L env fs spawn = .ok (settings, world))
    (hhelper : settings.hub75Helper.isSome = true) (pixels : Nat → Int → Int → Rgb)
    (hhonest : Transition.Along (Rig.step settings options) Honest
      (Rig.initial options pixels world) (moves ++ later))
    (hrig : rig = Rig.run settings options (.initial options pixels world) moves)
    (hrig' : rig' = rig.run settings options later) {started : Nat}
    (hsession : rig.agent.InSession started) {contact : Clock}
    (hlast : lastContact rig.agent.world.history = some contact) (hcontact : 0 ≤ contact.wall)
    (hinputs : later.filterMap Move.input? = passes.map ServedPass.input)
    (hsilent : ∀ served ∈ passes,
      served.Silent (safetyLimits rig.agent.world.config).communicationTimeoutMs contact)
    (htick : ∃ served ∈ passes, served.arm = .frameTick) (hworks : rig'.Working) :
    ∃ n ≤ rig'.helper.reader.input.rest.length + 4,
      ((Rig.helperStep options)^[n] rig').panel = some options.black := by
  have hwatched : (contactLaw timeoutMs).Holds rig.agent :=
    Rig.agent_holds (fun _ => (contactLaw_parts hwatches).kept) (fun _ _ => trivial) hstart pixels
      hrig
  have hhushed : rig.agent.Hushed timeoutMs started contact rig.agent.world.config :=
    ⟨hsession, hlast, rfl, hwatched⟩
  obtain ⟨⟨received, hlinked⟩, hagent⟩ :=
    Rig.Working.linked hL hfits hstart hhelper pixels hhonest hrig hrig' hinputs hworks
  have hdark : Dark rig'.agent.world.history := by
    rw [hagent]
    exact hhushed.run hL hwatches hcontact hsilent (.inr htick)
  obtain ⟨n, hn, hpanel⟩ := hlinked.catchesUp hfits hworks
  refine ⟨n, hn, hpanel.trans (congrArg some ?_)⟩
  exact canvasOf_dark hfits (fun packet hpacket =>
    sent_wellFormed (Ledger.of_holds hlinked.ledger).entered hpacket) hdark

end

/-! ## With the reference instance -/

/-- Nothing comes for twenty seconds. -/
def silentPasses : List (ServedPass Leddy.reference) :=
  [.calm .telemetryTick ⟨15000000000, 15000000000⟩, .calm .frameTick ⟨20000000000, 20000000000⟩,
    .calm .telemetryTick ⟨30000000000, 30000000000⟩]

/-- The moves of an agent that takes these passes. -/
def silentMoves : List (Move Leddy.reference) :=
  silentPasses.map fun served => .agent served.input

set_option maxRecDepth 10000 in
/-- A message is lit on the panel, then the server falls silent. -/
theorem silence_goes_dark_shown : ∃ n,
    (Rig.sampleRun shownMoves n).panel =
        some (painting defaultOptions.physicalWidth defaultOptions.physicalHeight
          (framePacket World.withHelper.config (List.replicate 1000 255))) ∧
      ∃ m ≤ ((Rig.sampleRun shownMoves n).run (.fromEnv helperEnvironment) defaultOptions
          silentMoves).helper.reader.input.rest.length + 4,
        ((Rig.helperStep defaultOptions)^[m] ((Rig.sampleRun shownMoves n).run
          (.fromEnv helperEnvironment) defaultOptions silentMoves)).panel =
            some defaultOptions.black := by
  obtain ⟨n, ⟨canvas, hphase, hopen, -⟩, haside, hlit⟩ := Rig.sampleRun_lit
  have hagent : (Rig.sampleRun shownMoves n).agent =
      (Rig.sample.run (.fromEnv helperEnvironment) defaultOptions shownMoves).agent :=
    (Rig.aside_eq haside).1
  refine ⟨n, hlit, ?_⟩
  have hhonest : Transition.Along (Rig.step (.fromEnv helperEnvironment) defaultOptions) Honest
      Rig.sample ((shownMoves ++ List.replicate n .helper) ++ silentMoves) :=
    Transition.along_append.2 ⟨sampleRun_honest rfl n, honest_of_all rfl⟩
  have hsession : (Rig.sampleRun shownMoves n).agent.InSession 0 := by
    rw [hagent]
    exact ⟨_, rfl⟩
  have hlast : lastContact (Rig.sampleRun shownMoves n).agent.world.history =
      some ⟨1000000, 1000000⟩ := by
    rw [hagent]
    rfl
  have hinputs : silentMoves.filterMap Move.input? = silentPasses.map ServedPass.input := rfl
  have hsilent : ∀ served ∈ silentPasses, served.Silent
      (safetyLimits (Rig.sampleRun shownMoves n).agent.world.config).communicationTimeoutMs
      ⟨1000000, 1000000⟩ := by
    rw [hagent]
    intro served hserved
    simp only [silentPasses, List.mem_cons, List.not_mem_nil, or_false] at hserved
    rcases hserved with rfl | rfl | rfl
    · trivial
    · exact ⟨by decide +kernel, by decide +kernel⟩
    · trivial
  have hworks : ((Rig.sampleRun shownMoves n).run (.fromEnv helperEnvironment) defaultOptions
      silentMoves).Working := by
    have hstop : (Rig.sampleRun shownMoves n).stop = false :=
      (Rig.aside_eq haside).2.2.trans rfl
    have hbefore : (Rig.sampleRun shownMoves n).Working :=
      ⟨by rw [hphase]; rfl, hopen, hstop⟩
    refine @Rig.Working.agents _ _ _ _ hbefore 0 (silentPasses.map ServedPass.input) ?_
    rw [hagent]
    exact ⟨⟨_, rfl⟩, ⟨_, rfl⟩, ⟨_, rfl⟩, trivial⟩
  exact silence_goes_dark Leddy.reference_documented Leddy.reference_watchesContact
    defaultOptions_fits startUp_withHelper rfl _ hhonest rfl rfl hsession hlast
    (by decide) hinputs hsilent
    ⟨.calm .frameTick ⟨20000000000, 20000000000⟩, by simp [silentPasses], rfl⟩ hworks

end LeddyRaspPi
