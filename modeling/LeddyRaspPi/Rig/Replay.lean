import LeddyRaspPi.Rig.Stops

/-!
# The helper of the rig is `main`

The rig moves the helper piece by piece, and the bytes come to it bit by bit; `Helper.main` is one
run over the whole input. Both are the same: where the helper of the rig has ended, `main` on what
has gone into the pipe shows the same canvases and ends the same way (`helper_ends_as_main`). The
invariant is that `main` on what is in the pipe, and on anything that may still come, goes on from
where the helper stands with what is left of it (`Rig.Replays`).
-/

namespace LeddyRaspPi

open Fallible History Helper

variable {L : Leddy} {settings : RuntimeSettings} {options : Options} {rig rig' : Rig L}
  {pixels : Nat → Int → Int → Rgb}

/-! ## What is left of `main` -/

/-- What is left of `main` where the helper stands; the next test of the flag is the `i`-th. -/
def HelperPhase.rest (options : Options) (stop : Nat → Bool) (fuel i : Nat) :
    HelperPhase → EStateM Failure Process (Option Unit)
  | .starting => boot options >>= fromTest options stop fuel i
  | .looping canvas => fromTest options stop fuel i canvas
  | .reading canvas => fromRead options stop fuel i canvas
  | .painting canvas => fromPaint options stop fuel i canvas
  | .swapping canvas => fromSwap options stop fuel i canvas
  | .exited _ | .killed => pure none

/-- These bytes may still come. -/
def Rig.Awaits (rig : Rig L) (more : List UInt8) : Prop := rig.hungUp = true → more = []

/-- `serve` on what has gone into the pipe and on more. -/
def Rig.served (options : Options) (pixels : Nat → Int → Int → Rgb) (stop : Nat → Bool)
    (fuel : Nat) (more : List UInt8) (rig : Rig L) : EStateM.Result Failure Process (Option Unit) :=
  serve options stop fuel ⟨⟨.ofBytes (rig.piped ++ more), {}⟩, .create options pixels⟩

/-- The helper stands where `main` is behind `i` tests of the flag, whatever still comes. -/
def Rig.Resumes (options : Options) (pixels : Nat → Int → Int → Rgb) (i : Nat) (rig : Rig L) : Prop :=
  ∀ stop : Nat → Bool, (∀ j < i, stop j = false) → ∀ fuel more, rig.Awaits more →
    rig.served options pixels stop (fuel + i) more =
      rig.phase.rest options stop fuel i (rig.helper.behind more)

/-- The helper does what `main` does: as long as it is alive it stands where `main` is, and it ends
as `main` does. The flag is found set by some test only if it has been set. -/
structure Rig.Replays (options : Options) (pixels : Nat → Int → Int → Rgb) (rig : Rig L) : Prop where
  resumes : rig.phase.alive = true → ∃ i, rig.Resumes options pixels i
  ended : ∀ exit, rig.phase = .exited exit → ∃ (stop : Nat → Bool) (n : Nat),
    (∀ i, stop i = true → rig.stop = true) ∧ ∀ fuel ≥ n, ∀ more, rig.Awaits more →
      finish (rig.served options pixels stop fuel more) = ⟨exit, rig.shown⟩

/-! ## Moves of the others -/

/-- More bytes in the pipe are some of those that might still come. -/
theorem Rig.Replays.feed (h : rig.Replays options pixels) (hopen : rig.hungUp = false)
    (bytes : List UInt8) (agent : Machine L) (hungUp : Bool) :
    Rig.Replays options pixels { Rig.feed bytes { rig with agent } with hungUp } where
  resumes halive := by
    obtain ⟨i, hresumes⟩ := h.resumes halive
    refine ⟨i, fun stop hstop fuel more _ => ?_⟩
    have hbefore := hresumes stop hstop fuel (bytes ++ more)
      fun hgone => absurd (hopen.symm.trans hgone) Bool.false_ne_true
    simp only [Rig.served, Process.behind, Reader.behind, IStream.behind, ← List.append_assoc]
      at hbefore ⊢
    exact hbefore
  ended exit hexit := by
    obtain ⟨stop, n, hstop, hends⟩ := h.ended exit hexit
    refine ⟨stop, n, hstop, fun fuel hfuel more _ => ?_⟩
    have hbefore := hends fuel hfuel (bytes ++ more)
      fun hgone => absurd (hopen.symm.trans hgone) Bool.false_ne_true
    simp only [Rig.served, ← List.append_assoc] at hbefore ⊢
    exact hbefore

/-- A helper that is killed has ended another way. -/
theorem Rig.Replays.slay (h : rig.Replays options pixels) : rig.slay.Replays options pixels where
  resumes halive := by
    have hdead : rig.slay.phase.alive = false := by
      unfold Rig.slay
      cases hphase : rig.phase <;> rfl
    exact absurd (hdead.symm.trans halive) Bool.false_ne_true
  ended exit hexit := by
    refine h.ended exit ?_
    unfold Rig.slay at hexit
    dsimp only at hexit
    split at hexit
    · cases hexit
    · exact hexit

/-- Behind a closed pipe less may still come. -/
theorem Rig.Replays.close (h : rig.Replays options pixels) :
    Rig.Replays options pixels { rig with hungUp := true } where
  resumes halive := by
    obtain ⟨i, hresumes⟩ := h.resumes halive
    exact ⟨i, fun stop hstop fuel more hmore =>
      hresumes stop hstop fuel more fun _ => hmore rfl⟩
  ended exit hexit := by
    obtain ⟨stop, n, hstop, hends⟩ := h.ended exit hexit
    exact ⟨stop, n, hstop, fun fuel hfuel more hmore => hends fuel hfuel more fun _ => hmore rfl⟩

/-- With the flag set, any test may find it so. -/
theorem Rig.Replays.signal (h : rig.Replays options pixels) :
    Rig.Replays options pixels { rig with stop := true } where
  resumes := h.resumes
  ended exit hexit := by
    obtain ⟨stop, n, -, hends⟩ := h.ended exit hexit
    exact ⟨stop, n, fun _ _ => rfl, hends⟩

/-- The agent feeds the pipe, and closes it where it ends. -/
theorem Rig.Replays.agentStep (h : rig.Replays options pixels) (hopen : rig.hungUp = false)
    (input : Input L) : (rig.agentStep settings input).Replays options pixels := by
  have hfed := h.feed hopen (rig.outgoing (rig.agent.step settings input))
    (rig.agent.step settings input) rig.hungUp
  simp only [Rig.agentStep]
  split
  · exact hfed.slay.close
  · exact hfed

/-! ## Moves of the helper -/

/-- The helper stands at its end where what was left of `main` ends so, for a flag that is found set
only if it has been. -/
theorem Rig.Replays.exits (h : rig.Replays options pixels) (halive : rig.phase.alive = true)
    {process : Process} {exit : Exit}
    (hrig : rig' = { rig with helper := process, phase := .exited exit })
    (hends : ∀ i, ∃ (stop : Nat → Bool) (n : Nat), (∀ j < i, stop j = false) ∧
      (∀ j, stop j = true → rig.stop = true) ∧ ∀ fuel ≥ n, ∀ more, rig.Awaits more →
        finish (rig.phase.rest options stop fuel i (rig.helper.behind more)) =
          ⟨exit, process.matrix.shown.reverse⟩) :
    rig'.Replays options pixels where
  resumes halive' := by
    rw [hrig] at halive'
    exact absurd halive' Bool.false_ne_true
  ended exit' hexit := by
    subst hrig
    cases hexit
    obtain ⟨i, hresumes⟩ := h.resumes halive
    obtain ⟨stop, n, hclear, hstop, hfinish⟩ := hends i
    refine ⟨stop, n + i, hstop, fun fuel hfuel more hmore => ?_⟩
    obtain ⟨left, rfl⟩ : ∃ left, fuel = left + i := ⟨fuel - i, by omega⟩
    refine (congrArg finish (hresumes stop hclear left more hmore)).trans ?_
    exact hfinish left (by omega) more hmore

/-- Where the helper does not have to wait, `read_packet` does the same whatever still comes. -/
theorem Rig.readPacket_behind (hwaits : ¬ (!rig.hungUp && rig.starved) = true) {more : List UInt8}
    (hmore : rig.Awaits more) : onReader readPacket (rig.helper.behind more) =
      mapState (Process.behind more) (onReader readPacket rig.helper) := by
  have hend : (outcome (onReader readPacket rig.helper)).2.reader.input.eof = rig.starved := by
    rw [Rig.starved]
    unfold onReader EStateM.adaptExcept focus
    cases readPacket rig.helper.reader <;> rfl
  cases hopen : rig.hungUp with
  | true =>
    -- Nothing comes any more.
    obtain rfl := hmore hopen
    have hnone : Process.behind [] = id := by
      funext process
      simp [Process.behind, Reader.behind, IStream.behind]
    rw [hnone]
    exact (ignores_id _).commutes _ id
  | false =>
    refine (readPacket_ignores more).commutes _ fun hmet => hwaits ?_
    rw [hopen, ← hend]
    exact hmet

/-- What is left of `main` begins with `m`, which does the same whatever still comes, and goes on
with `k`. -/
structure Rig.Begins {α : Type} (options : Options) (m : EStateM Failure Process α)
    (k : (Nat → Bool) → Nat → Nat → α → EStateM Failure Process (Option Unit)) (rig : Rig L) :
    Prop where
  alive : rig.phase.alive = true
  rest : ∀ stop fuel i, rig.phase.rest options stop fuel i = m >>= k stop fuel i
  behind : ∀ more, rig.Awaits more →
    m (rig.helper.behind more) = mapState (Process.behind more) (m rig.helper)

section
variable {α : Type} {m : EStateM Failure Process α}
  {k : (Nat → Bool) → Nat → Nat → α → EStateM Failure Process (Option Unit)}
  {process : Process}

/-- Where it returns, the helper goes on with the rest. -/
theorem Rig.Begins.goesOn (hbegins : rig.Begins options m k) (h : rig.Replays options pixels)
    {a : α} (hrun : m rig.helper = .ok a process) {phase : HelperPhase}
    (halive : phase.alive = true)
    (hrest : ∀ stop fuel i, k stop fuel i a = phase.rest options stop fuel i) :
    Rig.Replays options pixels { rig with helper := process, phase } where
  resumes _ := by
    obtain ⟨i, hresumes⟩ := h.resumes hbegins.alive
    refine ⟨i, fun stop hstop fuel more hmore => (hresumes stop hstop fuel more hmore).trans ?_⟩
    have hreturns : m (rig.helper.behind more) = .ok a (process.behind more) :=
      (hbegins.behind more hmore).trans (congrArg (mapState _) hrun)
    rw [hbegins.rest, bind_of_ok hreturns, hrest]
  ended exit hexit := by
    cases hexit
    exact absurd halive Bool.false_ne_true

/-- Where it fails, the helper ends. -/
theorem Rig.Begins.fails (hbegins : rig.Begins options m k) (h : rig.Replays options pixels)
    {failure : Failure} (hrun : m rig.helper = .error failure process) :
    (rig.helperFail failure process).Replays options pixels := by
  obtain ⟨process', exit, hfail, hfinish⟩ := rig.helperFail_ends failure process
  refine h.exits hbegins.alive hfail fun i => ⟨fun _ => false, 0, fun _ _ => rfl, nofun, ?_⟩
  intro fuel _ more hmore
  have hthrows : m (rig.helper.behind more) = .error failure (process.behind more) :=
    (hbegins.behind more hmore).trans (congrArg (mapState _) hrun)
  rw [hbegins.rest, bind_of_error hthrows, ← hfinish]
  exact finish_behind more (.error failure process)

end

/-- The start-up. -/
theorem Rig.Replays.boots (h : rig.Replays options pixels) (hphase : rig.phase = .starting) :
    (rig.helperStep options).Replays options pixels := by
  have hbegins : rig.Begins options (boot options) (fromTest options) := by
    refine ⟨by rw [hphase]; rfl, fun _ _ _ => by rw [hphase]; rfl, fun more _ => ?_⟩
    exact (boot_ignores more).commutes _ id
  unfold Rig.helperStep
  rw [hphase]
  dsimp only
  cases hrun : boot options rig.helper with
  | ok canvas process => exact hbegins.goesOn h hrun rfl fun _ _ _ => rfl
  | error failure process => exact hbegins.fails h hrun

/-- The test of the flag. If it is set, it is this test that finds it so. -/
theorem Rig.Replays.loops (h : rig.Replays options pixels) {canvas : Nat}
    (hphase : rig.phase = .looping canvas) : (rig.helperStep options).Replays options pixels := by
  have halive : rig.phase.alive = true := by rw [hphase]; rfl
  unfold Rig.helperStep
  rw [hphase]
  dsimp only
  by_cases hstop : rig.stop = true
  · rw [if_pos hstop]
    obtain ⟨process', exit, hleave, hfinish⟩ := rig.helperLeave_ends canvas rig.helper
    refine h.exits halive hleave fun i =>
      ⟨fun j => decide (i ≤ j), 1, fun j hj => by simpa using hj, fun _ _ => hstop, ?_⟩
    intro fuel hfuel more _
    obtain ⟨left, rfl⟩ : ∃ left, fuel = left + 1 := ⟨fuel - 1, by omega⟩
    rw [hphase, HelperPhase.rest, fromTest_succ, if_pos (by simp), finish_ending_behind, hfinish]
  · rw [if_neg hstop]
    refine ⟨fun _ => ?_, fun exit hexit => by cases hexit⟩
    obtain ⟨i, hresumes⟩ := h.resumes halive
    refine ⟨i + 1, fun stop hclear fuel more hmore => ?_⟩
    have hbefore := hresumes stop (fun j hj => hclear j (by omega)) (fuel + 1) more hmore
    rw [hphase, HelperPhase.rest, fromTest_succ, hclear i (by omega),
      if_neg Bool.false_ne_true] at hbefore
    rw [← Nat.add_assoc, Nat.add_right_comm]
    exact hbefore

/-- A read that does not have to wait. -/
theorem Rig.Replays.reads (h : rig.Replays options pixels) {canvas : Nat}
    (hphase : rig.phase = .reading canvas) (hwaits : ¬ (!rig.hungUp && rig.starved) = true) :
    (rig.helperStep options).Replays options pixels := by
  have hbegins : rig.Begins options (onReader readPacket) fun stop fuel i more =>
      if more then fromPaint options stop fuel i canvas else ending canvas :=
    ⟨by rw [hphase]; rfl, fun _ _ _ => by rw [hphase]; rfl,
      fun more hmore => Rig.readPacket_behind hwaits hmore⟩
  unfold Rig.helperStep
  rw [hphase]
  dsimp only
  rw [if_neg hwaits]
  cases hrun : onReader readPacket rig.helper with
  | ok got process =>
    cases got with
    | true => exact hbegins.goesOn h hrun rfl fun _ _ _ => rfl
    | false =>
      obtain ⟨process', exit, hleave, hfinish⟩ := rig.helperLeave_ends canvas process
      refine h.exits hbegins.alive hleave fun i => ⟨fun _ => false, 0, fun _ _ => rfl, nofun, ?_⟩
      intro fuel _ more hmore
      have hreturns := (hbegins.behind more hmore).trans (congrArg (mapState _) hrun)
      rw [hbegins.rest, bind_of_ok hreturns, if_neg Bool.false_ne_true, finish_ending_behind,
        hfinish]
  | error failure process => exact hbegins.fails h hrun

/-- Painting. -/
theorem Rig.Replays.paints (h : rig.Replays options pixels) {canvas : Nat}
    (hphase : rig.phase = .painting canvas) : (rig.helperStep options).Replays options pixels := by
  have hbegins : rig.Begins options (paint options canvas) fun stop fuel i _ =>
      fromSwap options stop fuel i canvas := by
    refine ⟨by rw [hphase]; rfl, fun _ _ _ => by rw [hphase]; rfl, fun more _ => ?_⟩
    exact (paint_ignores more canvas).commutes _ id
  unfold Rig.helperStep
  rw [hphase]
  dsimp only
  cases hrun : paint options canvas rig.helper with
  | ok u process => exact hbegins.goesOn h hrun rfl fun _ _ _ => rfl
  | error failure process => exact hbegins.fails h hrun

/-- The swap of the canvases. -/
theorem Rig.Replays.swaps (h : rig.Replays options pixels) {canvas : Nat}
    (hphase : rig.phase = .swapping canvas) : (rig.helperStep options).Replays options pixels := by
  have hbegins : rig.Begins options (onMatrix (RgbMatrix.swapOnVSync canvas))
      (fromTest options) := by
    refine ⟨by rw [hphase]; rfl, fun _ _ _ => by rw [hphase]; rfl, fun more _ => ?_⟩
    exact (onMatrix_ignores more _).commutes _ id
  unfold Rig.helperStep
  rw [hphase]
  dsimp only
  cases hrun : onMatrix (RgbMatrix.swapOnVSync canvas) rig.helper with
  | ok canvas' process => exact hbegins.goesOn h hrun rfl fun _ _ _ => rfl
  | error failure process => exact hbegins.fails h hrun

/-- The helper goes on as `main` does. -/
theorem Rig.Replays.helperStep (h : rig.Replays options pixels) :
    (rig.helperStep options).Replays options pixels := by
  cases hphase : rig.phase with
  | starting => exact h.boots hphase
  | looping canvas => exact h.loops hphase
  | reading canvas =>
    by_cases hwaits : (!rig.hungUp && rig.starved) = true
    · rwa [Rig.helperStep_waits hphase hwaits]
    · exact h.reads hphase hwaits
  | painting canvas => exact h.paints hphase
  | swapping canvas => exact h.swaps hphase
  | exited exit => rwa [Rig.helperStep_ended (by rw [hphase]; rfl)]
  | killed => rwa [Rig.helperStep_ended (by rw [hphase]; rfl)]

/-! ## Any interleaving -/

/-- Whoever moves, the helper does what `main` does. -/
theorem Rig.Replays.step (h : rig.Replays options pixels) (move : Move L) :
    (rig.step settings options move).Replays options pixels := by
  cases move with
  | agent input =>
    unfold Rig.step
    cases hopen : rig.hungUp with
    | true => exact h
    | false => exact h.agentStep hopen input
  | hangUp input written =>
    unfold Rig.step
    cases hopen : rig.hungUp with
    | true => exact h
    | false => exact h.feed hopen _ _ true
  | helper => exact h.helperStep
  | signal => exact h.signal
  | kill => exact h.slay

/-- A helper that starts has all of `main` before it. -/
theorem Rig.replays_initial (world : World L) :
    (Rig.initial options pixels world).Replays options pixels where
  resumes _ := ⟨0, fun stop _ fuel more _ => congrFun (serve_eq stop fuel) _⟩
  ended exit hexit := by cases hexit

/-- In every interleaving, whatever comes through the pipe: a helper that has ended has shown what
`main` shows on what has gone into the pipe, and has ended as `main` does. The tests that find the
flag set are there only if a signal has come. -/
theorem helper_ends_as_main {getenv : String → Option String}
    (hoptions : readOptions getenv = .ok options) (pixels : Nat → Int → Int → Rgb)
    (world : World L) {moves : List (Move L)}
    (hrig : rig = Rig.run settings options (.initial options pixels world) moves) {exit : Exit}
    (hexit : rig.phase = .exited exit) :
    ∃ (stop : Nat → Bool) (n : Nat), (∀ i, stop i = true → rig.stop = true) ∧
      ∀ fuel ≥ n, main getenv true pixels stop rig.piped fuel = ⟨exit, rig.shown⟩ := by
  have hreplays : rig.Replays options pixels := by
    subst hrig
    exact Transition.run_preserves (I := fun rig : Rig L => rig.Replays options pixels)
      (fun _ move h => h.step move) (Rig.replays_initial world)
  obtain ⟨stop, n, hstop, hends⟩ := hreplays.ended exit hexit
  refine ⟨stop, n, hstop, fun fuel hfuel => ?_⟩
  have hfinish := hends fuel hfuel [] fun _ => rfl
  rw [Rig.served, List.append_nil] at hfinish
  rw [main_eq hoptions, hfinish]

/-! ## With the reference instance -/

/-- A frame gets onto the panels, the agent is killed while it presents the next one, and the helper
gets to its end. -/
theorem helper_ends_as_main_gone : ∃ n m exit,
    (Rig.sampleRun shownMoves n).panel =
        some (painting defaultOptions.physicalWidth defaultOptions.physicalHeight
          (framePacket World.withHelper.config (List.replicate 1000 255))) ∧
      ((Rig.helperStep defaultOptions)^[m] (Rig.gone n)).phase = .exited exit ∧
      ∃ (stop : Nat → Bool) (k : Nat),
        (∀ i, stop i = true → ((Rig.helperStep defaultOptions)^[m] (Rig.gone n)).stop = true) ∧
        ∀ fuel ≥ k, main (fun _ => none) true (fun _ _ _ => ⟨9, 9, 9⟩) stop
            ((Rig.helperStep defaultOptions)^[m] (Rig.gone n)).piped fuel =
          ⟨exit, ((Rig.helperStep defaultOptions)^[m] (Rig.gone n)).shown⟩ := by
  obtain ⟨n, hwaits, -, hlit⟩ := Rig.sampleRun_lit
  obtain ⟨received, hlinked⟩ : ∃ received, Linked defaultOptions (Rig.gone n) received :=
    linked_of_run Leddy.reference_documented defaultOptions_fits startUp_withHelper rfl _
      (goneMoves_honest n) rfl
  have halive : (Rig.gone n).phase ≠ .killed := by
    obtain ⟨canvas, hphase, -⟩ := hwaits
    rw [Rig.gone_phase, hphase]
    nofun
  rcases hlinked.goesDark defaultOptions_fits (.inl (Rig.gone_hungUp n)) with
    hkilled | ⟨m, -, exit, hexit, -⟩
  · exact absurd hkilled halive
  · have hrun : (Rig.helperStep defaultOptions)^[m] (Rig.gone n) =
        Rig.run (.fromEnv helperEnvironment) defaultOptions
          (.initial defaultOptions (fun _ _ _ => ⟨9, 9, 9⟩) .withHelper)
          (goneMoves n ++ List.replicate m .helper) := by
      rw [Rig.run_helper]
      rfl
    exact ⟨n, m, exit, hlit, hexit, helper_ends_as_main rfl _ _ hrun hexit⟩

end LeddyRaspPi
