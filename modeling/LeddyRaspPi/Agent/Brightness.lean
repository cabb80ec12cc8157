import LeddyRaspPi.Agent.Passes

/-!
# The brightness limit

Telemetry reports the smaller of the configured brightness and the limit of the controller's
decision. A frame is driven with the configured brightness alone, whatever the decision of its tick
says, so the reported limit is kept exactly as far as the configuration already keeps it
(`presents_enforced`).
-/

namespace LeddyRaspPi

open History

variable {L : Leddy}

/-- The decision after an effect, if `before` was the decision of the current input so far. -/
def Effect.decides (before : Option (SafetyDecision L.Fault)) :
    Effect L → Option (SafetyDecision L.Fault)
  | .took _ => none
  | .observed _ decision => some decision
  | _ => before

/-- The decision `observe` returned since the last input was taken. -/
def currentDecision (history : List (Effect L)) : Option (SafetyDecision L.Fault) :=
  history.foldr (fun effect before => effect.decides before) none

/-- The current decision, one entry further. -/
@[simp] theorem currentDecision_cons (effect : Effect L) (past : List (Effect L)) :
    currentDecision (effect :: past) = effect.decides (currentDecision past) := rfl

/-- The brightness an output drives the LEDs with: the brightness byte of a packet, the non-zero
bytes of a snapshot. -/
def FrameSink.brightness (sink : FrameSink) (output : List UInt8) : List UInt8 :=
  match sink with
  | .hub75 _ => output[11]?.toList
  | .snapshot _ => output.filter (· ≠ 0)

/-- The output for a frame. -/
def FrameSink.output (L : Leddy) (sink : FrameSink) (config : DisplayConfig)
    (frame : L.FrameBuffer) : List UInt8 :=
  sink.encoding config (L.rowMajor frame) (encodeDeviceFrame L config frame)

/-- A frame is driven with at most the brightness that a telemetry event with the decision of its
tick would report. -/
def Enforced (past : List (Effect L)) : Effect L → Prop
  | .presented config frame before _ _ =>
    ∃ decision, currentDecision past = some decision ∧
      ∀ b ∈ before.1.brightness (before.1.output L config frame),
        b ≤ min decision.brightnessLimit config.brightness
  | _ => True

/-- If the input is a frame tick at which a frame with a lit LED is presented, the configured
brightness is within the limit of the controller's decision. -/
def WithinLimit (machine : Machine L) (input : Input L) : Prop :=
  match machine.phase, input with
  | .running _ locals, .select .frameTick outside =>
    let session : Session L := ⟨machine.world, locals⟩
    let decision := (L.safetyObserve locals.safety (session.observation outside)).1
    ∀ active frame, decision.faultLatched = false → locals.active = some active →
      session.rendering outside active = .ok (some frame) →
      machine.world.sink.brightness (machine.world.sink.output L machine.world.config frame) ≠ [] →
      machine.world.config.brightness ≤ decision.brightnessLimit
  | _, _ => True

/-- What is driven is driven with the configured brightness. -/
theorem FrameSink.brightness_output {sink : FrameSink} {config : DisplayConfig}
    {frame : L.FrameBuffer} : ∀ b ∈ sink.brightness (sink.output L config frame),
    b = config.brightness := by
  intro b hb
  cases sink with
  | hub75 sink =>
    have hbyte : (packetBytes config (L.rowMajor frame))[11]? = some config.brightness := by
      simp [packetBytes, hub75PacketMagic]
    simp only [brightness, output, encoding, hbyte, Option.toList_some, List.mem_singleton] at hb
    exact hb
  | snapshot sink =>
    obtain ⟨_ | path⟩ := sink
    · cases hb
    · simp only [brightness, output, encoding, List.mem_filter, encodeDeviceFrame,
        List.mem_map] at hb
      obtain ⟨⟨pixel, _, rfl⟩, hne⟩ := hb
      split at hne
      · simp at hne
      · next hpixel => exact if_neg hpixel

/-- Only a call of `sink.present` can be too bright. -/
theorem enforced_judges : Judges (Enforced : List (Effect L) → Effect L → Prop) := by
  refine .of_presents fun past effect hpresents => ?_
  cases effect with
  | presented => cases hpresents
  | _ => trivial

/-- Within the limit of the decision, what a tick gets as far as presenting keeps to it. -/
theorem presentable_enforced {machine : Machine L} {input : Input L}
    (h : WithinLimit machine input) : Presentable Enforced machine input := by
  unfold Presentable
  unfold WithinLimit at h
  split
  · next started locals outside hphase =>
    intro decision safety hobserve hdecision active hactive frame hframe after result _ _
    simp only [hphase, hobserve] at h
    refine ⟨decision, rfl, fun b hb => ?_⟩
    have hlimit := h active frame hdecision hactive hframe (List.ne_nil_of_mem hb)
    rw [FrameSink.brightness_output b hb]
    show _ ≤ if decision.brightnessLimit ≤ machine.world.config.brightness then _ else _
    split
    · exact hlimit
    · exact UInt8.le_refl _
  · trivial

/-- As long as every lit frame is presented with a configured brightness within the limit of its
tick, no frame is driven with more than telemetry would report. -/
theorem presents_enforced {settings : RuntimeSettings} (config : DisplayConfig) (sink : FrameSink)
    (fs : FileSystem) {inputs : List (Input L)}
    (hwithin : Transition.Along (Machine.step settings) WithinLimit (.initial config sink fs)
      inputs) :
    Always Enforced ((Machine.initial config sink fs).run settings inputs).world.history := by
  have hpresentable : Transition.Along (Machine.step settings) (Presentable Enforced)
      (.initial config sink fs) inputs := hwithin.imp fun _ _ => presentable_enforced
  have hinitial : (historyLaw Enforced).Holds (Machine.initial config sink fs : Machine L) :=
    worldLaw_holds.2 trivial
  exact worldLaw_holds.1 ((historyLaw_parts enforced_judges).kept.run hinitial hpresentable)

/-! ## With a controller that limits without latching -/

/-- The reference instance with a controller that asks for a brightness of 10. -/
@[reducible] def Leddy.dimming : Leddy :=
  { Leddy.reference with
    safetyObserve := fun safety _ => (⟨10, false, []⟩, safety)
    safetyDecision := fun _ => ⟨10, false, []⟩ }

/-- A message is shown and a frame of it presented. -/
def shownFrame : List (Input Leddy.dimming) :=
  [.connect (.calm ⟨0, 0⟩),
   .select (.incoming (.text (.ok (.show ⟨"m", 255, 3600000⟩)))) (.calm ⟨1000000, 1000000⟩),
   .select .frameTick (.calm ⟨50000000, 50000000⟩)]

set_option maxRecDepth 4000 in
/-- With a configured brightness of 8 the frame is within the limit. -/
theorem presents_enforced_dim :
    Always Enforced ((Machine.initial { Reference.supportedConfig with brightness := 8 }
      (.hub75 ⟨[]⟩) fun _ => .absent : Machine Leddy.dimming).run (.fromEnv fun _ => none)
        shownFrame).world.history :=
  presents_enforced _ _ _
    ⟨trivial, trivial, fun _ _ _ _ _ _ => (by decide : (8 : UInt8) ≤ 10), trivial⟩

set_option maxRecDepth 4000 in
/-- With a configured brightness of 80 the panel is driven with 80, on either backend, where
telemetry would report 10. -/
theorem limit_ignored :
    (¬ Always Enforced ((Machine.initial Reference.supportedConfig (.hub75 ⟨[]⟩)
      fun _ => .absent : Machine Leddy.dimming).run (.fromEnv fun _ => none)
        shownFrame).world.history) ∧
    ¬ Always Enforced ((Machine.initial Reference.supportedConfig
      (.snapshot ⟨some ⟨[.normal (.text "frame.bin")]⟩⟩)
      fun _ => .absent : Machine Leddy.dimming).run (.fromEnv fun _ => none)
        shownFrame).world.history := by
  constructor
  · intro h
    obtain ⟨decision, hdecision, hb⟩ := (always_cons _ _).1 h |>.1
    cases hdecision
    exact absurd (hb 80 (by decide)) (by decide)
  · intro h
    obtain ⟨decision, hdecision, hb⟩ := (always_cons _ _).1 h |>.1
    cases hdecision
    exact absurd (hb 80 (by decide)) (by decide)

end LeddyRaspPi
