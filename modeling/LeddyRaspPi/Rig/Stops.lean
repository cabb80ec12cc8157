import LeddyRaspPi.Rig.Panels

/-!
# Signals and the end of the agent

A signal only sets a flag, which the helper tests between two packets. So after a signal it shows
one more packet at most, and none if it is not in the body of its loop at that moment
(`signal_stops`). Once
the helper finds the flag set, or the agent is gone, it gets to its end by itself, behind a black
canvas (`helper_goes_dark`).
-/

namespace LeddyRaspPi

open Fallible History Helper

variable {L : Leddy} {settings : RuntimeSettings} {options : Options} {rig rig' : Rig L}
  {received received' : List FramePacket}

/-! ## With the flag set -/

/-- The helper is in the body of its loop, behind the test of the flag. -/
def HelperPhase.inPass : HelperPhase → Bool
  | .reading _ | .painting _ | .swapping _ => true
  | _ => false

/-- How many packets a helper may still show once the flag is set. -/
def Rig.allowance (rig : Rig L) : Nat := rig.phase.inPass.toNat

/-- A helper that finds the flag set does not go into the body of its loop. -/
theorem HelperPhase.Next.inPass {phase phase' : HelperPhase} (h : phase.Next true phase')
    (hafter : phase'.inPass = true) : phase.inPass = true := by
  cases h with
  | stays => exact hafter
  | loops canvas hclear => cases hclear
  | reads canvas => rfl
  | paints canvas => rfl
  | _ => cases hafter

/-- Nor into `read_packet`. -/
theorem HelperPhase.Next.reading {phase : HelperPhase} {canvas : Nat}
    (h : phase.Next true (.reading canvas)) : phase = .reading canvas := by
  cases h with
  | stays => rfl
  | loops canvas hclear => cases hclear

/-- Killing the helper does not take it there. -/
theorem Rig.slay_inPass (h : rig.slay.phase.inPass = true) : rig.phase.inPass = true := by
  unfold Rig.slay at h
  dsimp only at h
  split at h
  · cases h
  · exact h

/-- The agent does not touch the flag, and it changes the phase by killing the helper only. -/
theorem Rig.agentStep_aside (rig : Rig L) (settings : RuntimeSettings) (input : Input L) :
    (rig.agentStep settings input).stop = rig.stop ∧
      ((rig.agentStep settings input).phase = rig.phase ∨
        (rig.agentStep settings input).phase = rig.slay.phase) := by
  unfold Rig.agentStep
  dsimp only
  split
  · exact ⟨rfl, .inr rfl⟩
  · exact ⟨rfl, .inl rfl⟩

/-- The flag stays set, and no move takes the helper into the body of its loop. -/
theorem Rig.step_stopping (hstop : rig.stop = true) (move : Move L) :
    (rig.step settings options move).stop = true ∧
      ((rig.step settings options move).phase.inPass = true → rig.phase.inPass = true) := by
  cases move with
  | agent input =>
    unfold Rig.step
    cases rig.hungUp with
    | true => exact ⟨hstop, id⟩
    | false =>
      obtain ⟨hsame, hphase⟩ := rig.agentStep_aside settings input
      refine ⟨hsame.trans hstop, fun h => ?_⟩
      rcases hphase with hphase | hphase
      · exact hphase ▸ h
      · exact Rig.slay_inPass (hphase ▸ h)
  | hangUp input written =>
    unfold Rig.step
    cases rig.hungUp with
    | true => exact ⟨hstop, id⟩
    | false => exact ⟨hstop, id⟩
  | helper =>
    obtain ⟨process, phase, hstep, hnext⟩ := @Rig.helperStep_next _ options rig
    rw [Rig.step, hstep]
    exact ⟨hstop, (hstop ▸ hnext).inPass⟩
  | signal => exact ⟨rfl, id⟩
  | kill => exact ⟨hstop, Rig.slay_inPass⟩

/-- So the allowance does not grow. -/
theorem Rig.step_allowance (hstop : rig.stop = true) (move : Move L) :
    (rig.step settings options move).allowance ≤ rig.allowance :=
  Bool.toNat_le_toNat (Rig.step_stopping hstop move).2

/-- A packet that is shown uses the allowance up. -/
theorem Gains.allowance (h : Gains rig rig' received received')
    (hallowance : rig'.allowance ≤ rig.allowance) :
    received'.length + rig'.allowance ≤ received.length + rig.allowance := by
  cases h with
  | nothing => omega
  | packet packet hswapping hlooping =>
    rw [Rig.allowance, Rig.allowance, hswapping, hlooping, List.length_append]
    simp [HelperPhase.inPass]

/-- The flag is set, and what the helper has shown and may still show is within a bound. -/
def Stopping (options : Options) (bound : Nat) (received : List FramePacket) (rig : Rig L) : Prop :=
  rig.stop = true ∧ ∃ received', received <+: received' ∧ Linked options rig received' ∧
    received'.length + rig.allowance ≤ bound

/-- A move of a rig whose flag is set shows no packet beyond the bound. -/
theorem Stopping.step (hL : L.Documented) (hfits : options.Fits) {bound : Nat} {move : Move L}
    (hhonest : Honest rig move) (h : Stopping options bound received rig) :
    Stopping options bound received (rig.step settings options move) := by
  obtain ⟨hstop, before, hbegins, hlinked, hbound⟩ := h
  obtain ⟨after, hgains, hlinked'⟩ := hlinked.step hL hfits hhonest
  refine ⟨(Rig.step_stopping hstop move).1, after, hbegins.trans hgains.received_prefix, hlinked', ?_⟩
  exact (hgains.allowance (Rig.step_allowance hstop move)).trans hbound

/-- So every run from the signal on stays within what was shown and the allowance. -/
theorem Linked.stopping (hL : L.Documented) (hfits : options.Fits)
    (h : Linked options rig received) (hstop : rig.stop = true) {moves : List (Move L)}
    (hhonest : Transition.Along (Rig.step settings options) Honest rig moves) :
    Stopping options (received.length + rig.allowance) received
      (rig.run settings options moves) :=
  Transition.run_preserves_along (fun _ _ hhonest h => h.step hL hfits hhonest)
    ⟨hstop, received, List.prefix_rfl, h, le_rfl⟩ hhonest

section
variable {env : Environment} {fs : FileSystem} {spawn : Except IoError Bool} {world : World L}
  {moves later : List (Move L)}

/-- After a signal, in any interleaving, the panels show the painting of one more packet at most,
and of none if the signal has found the helper outside the body of its loop. -/
theorem signal_stops (hL : L.Documented) (hfits : options.Fits)
    (hstart : startUp L env fs spawn = .ok (settings, world))
    (hhelper : settings.hub75Helper.isSome = true) (pixels : Nat → Int → Int → Rgb)
    (hhonest : Transition.Along (Rig.step settings options) Honest
      (Rig.initial options pixels world) (moves ++ .signal :: later))
    (hrig : rig = Rig.run settings options (.initial options pixels world) moves)
    (hrig' : rig' = rig.run settings options (.signal :: later)) :
    ∃ received received', rig.Follows options received ∧ rig'.Follows options received' ∧
      received <+: received' ∧ received' <+: rig'.sent ∧
      packetCode.stream received' <+: rig'.piped ∧
      received'.length ≤ received.length + 1 ∧
      (rig.phase.inPass = false → received' = received) := by
  obtain ⟨hbefore, hafter⟩ := Transition.along_append.1 hhonest
  obtain ⟨received, hlinked⟩ := linked_of_run hL hfits hstart hhelper pixels hbefore hrig
  change Transition.Along _ _ (Rig.run _ _ _ _) _ at hafter
  rw [← hrig] at hafter
  obtain ⟨-, received', hbegins, hlinked', hbound⟩ :=
    hlinked.signal.stopping hL hfits rfl hafter.2
  change Linked options (rig.run settings options (.signal :: later)) received' at hlinked'
  rw [← hrig'] at hlinked'
  have hallowance : ({ rig with stop := true } : Rig L).allowance = rig.allowance := rfl
  rw [hallowance] at hbound
  refine ⟨received, received', hlinked.follows, hlinked'.follows, hbegins,
    hlinked'.received_prefix, hlinked'.piped_prefix, ?_, fun hidle => ?_⟩
  · have hone : rig.allowance ≤ 1 := Bool.toNat_le _
    omega
  · have hnone : rig.allowance = 0 := congrArg Bool.toNat hidle
    exact (hbegins.eq_of_length_le (by omega)).symm

/-- Left alone, it does not go there either. -/
theorem Rig.iterate_reading (hstop : rig.stop = true) {canvas n : Nat}
    (h : ((Rig.helperStep options)^[n] rig).phase = .reading canvas) :
    rig.phase = .reading canvas := by
  induction n generalizing rig with
  | zero => exact h
  | succ n ih =>
    rw [Function.iterate_succ_apply] at h
    obtain ⟨process, phase, hstep, hnext⟩ := @Rig.helperStep_next _ options rig
    rw [hstep] at h
    have hphase : phase = .reading canvas := @ih { rig with helper := process, phase } hstop h
    exact (hstop ▸ hphase ▸ hnext : rig.phase.Next true (.reading canvas)).reading

/-- If the agent is gone, or the helper finds the flag set, a helper that has not been killed ends,
behind black panels. -/
theorem Linked.goesDark (hfits : options.Fits) (h : Linked options rig received)
    (hover : rig.hungUp = true ∨ rig.stop = true ∧ ∀ canvas, rig.phase ≠ .reading canvas) :
    rig.phase = .killed ∨ ∃ n ≤ rig.work, ∃ exit,
      ((Rig.helperStep options)^[n] rig).phase = .exited exit ∧
        ((Rig.helperStep options)^[n] rig).panel = some options.black := by
  obtain ⟨n, hn, received', hleads⟩ := h.settles hfits
  have hopen : ((Rig.helperStep options)^[n] rig).hungUp = rig.hungUp :=
    (Rig.aside_eq hleads.aside).2.1
  cases hleads.linked.caughtUp hleads.settled with
  | killed hkilled => exact .inl (hleads.killed hkilled)
  | exited exit hphase hdark => exact .inr ⟨n, hn, exit, hphase, hdark⟩
  | waits canvas hphase hlistens hshown =>
    rcases hover with hgone | ⟨hstop, hidle⟩
    · exact absurd (hlistens.symm.trans (hopen.trans hgone)) Bool.false_ne_true
    · exact absurd (Rig.iterate_reading hstop hphase) (hidle canvas)

/-- If the agent is gone, or the helper finds the flag set, the helper alone gets to its end in a
bounded number of moves, and the panels are black. It cannot if it has been killed. -/
theorem helper_goes_dark (hL : L.Documented) (hfits : options.Fits)
    (hstart : startUp L env fs spawn = .ok (settings, world))
    (hhelper : settings.hub75Helper.isSome = true) (pixels : Nat → Int → Int → Rgb)
    (hhonest : Transition.Along (Rig.step settings options) Honest
      (Rig.initial options pixels world) moves)
    (hrig : rig = Rig.run settings options (.initial options pixels world) moves)
    (hover : rig.hungUp = true ∨ rig.stop = true ∧ ∀ canvas, rig.phase ≠ .reading canvas) :
    rig.phase = .killed ∨ ∃ n ≤ rig.helper.reader.input.rest.length + 4, ∃ exit,
      ((Rig.helperStep options)^[n] rig).phase = .exited exit ∧
        ((Rig.helperStep options)^[n] rig).panel = some options.black := by
  obtain ⟨received, hlinked⟩ := linked_of_run hL hfits hstart hhelper pixels hhonest hrig
  rcases hlinked.goesDark hfits hover with hkilled | ⟨n, hn, hends⟩
  · exact .inl hkilled
  · exact .inr ⟨n, hn.trans rig.work_le, hends⟩

end

/-! ## With the reference instance -/

/-- The frame after it, and some moves of the helper. -/
def signalledAfter : List (Move Leddy.reference) :=
  [.helper, .agent (.select .frameTick (.calm ⟨100000000, 100000000⟩)), .helper, .helper]

/-- The signal finds the helper with a message shown, and the agent shows another one. -/
theorem signal_stops_shown : ∃ received received',
    (Rig.sample.run (.fromEnv helperEnvironment) defaultOptions shownMoves).Follows
        defaultOptions received ∧
      ((Rig.sample.run (.fromEnv helperEnvironment) defaultOptions shownMoves).run
        (.fromEnv helperEnvironment) defaultOptions (.signal :: signalledAfter)).Follows
          defaultOptions received' ∧
      received <+: received' ∧
      received' <+: ((Rig.sample.run (.fromEnv helperEnvironment) defaultOptions shownMoves).run
        (.fromEnv helperEnvironment) defaultOptions (.signal :: signalledAfter)).sent ∧
      packetCode.stream received' <+:
        ((Rig.sample.run (.fromEnv helperEnvironment) defaultOptions shownMoves).run
          (.fromEnv helperEnvironment) defaultOptions (.signal :: signalledAfter)).piped ∧
      received'.length ≤ received.length + 1 ∧
      ((Rig.sample.run (.fromEnv helperEnvironment) defaultOptions shownMoves).phase.inPass =
        false → received' = received) :=
  signal_stops Leddy.reference_documented defaultOptions_fits startUp_withHelper rfl _
    (honest_of_all rfl) rfl rfl

/-- With a frame on the panels the agent is killed while it presents the next one. -/
def goneMoves (n : Nat) : List (Move Leddy.reference) :=
  shownMoves ++ List.replicate n .helper ++
    [.hangUp (.select .frameTick (.calm ⟨100000000, 100000000⟩)) 700]

/-- The rig then. -/
def Rig.gone (n : Nat) : Rig Leddy.reference :=
  Rig.sample.run (.fromEnv helperEnvironment) defaultOptions (goneMoves n)

/-- Up to its end the agent is served, and the pipe takes what it writes. -/
theorem goneMoves_honest (n : Nat) : Transition.Along
    (Rig.step (.fromEnv helperEnvironment) defaultOptions) Honest
    (Rig.initial defaultOptions (fun _ _ _ => ⟨9, 9, 9⟩) .withHelper) (goneMoves n) :=
  Transition.along_append.2 ⟨sampleRun_honest rfl n, honest_of_all rfl⟩

/-- Nobody writes to its pipe any more. -/
theorem Rig.gone_hungUp (n : Nat) : (Rig.gone n).hungUp = true := by
  rw [Rig.gone, goneMoves, Rig.run, Transition.run_append, Transition.run_cons, Transition.run_nil,
    Rig.step]
  split
  · assumption
  · rfl

/-- The helper does not notice. -/
theorem Rig.gone_phase (n : Nat) : (Rig.gone n).phase = (Rig.sampleRun shownMoves n).phase := by
  rw [Rig.gone, goneMoves, Rig.run, Transition.run_append, Transition.run_cons, Transition.run_nil,
    Rig.step]
  split
  · rfl
  · rfl

/-- A message is lit on the panel, then the agent is killed. -/
theorem helper_goes_dark_gone : ∃ n,
    (Rig.sampleRun shownMoves n).panel =
        some (painting defaultOptions.physicalWidth defaultOptions.physicalHeight
          (framePacket World.withHelper.config (List.replicate 1000 255))) ∧
      ((Rig.gone n).phase = .killed ∨
        ∃ m ≤ (Rig.gone n).helper.reader.input.rest.length + 4, ∃ exit,
          ((Rig.helperStep defaultOptions)^[m] (Rig.gone n)).phase = .exited exit ∧
          ((Rig.helperStep defaultOptions)^[m] (Rig.gone n)).panel = some defaultOptions.black) := by
  obtain ⟨n, -, -, hlit⟩ := Rig.sampleRun_lit
  exact ⟨n, hlit, helper_goes_dark Leddy.reference_documented defaultOptions_fits startUp_withHelper
    rfl _ (goneMoves_honest n) rfl (.inl (Rig.gone_hungUp n))⟩

end LeddyRaspPi
