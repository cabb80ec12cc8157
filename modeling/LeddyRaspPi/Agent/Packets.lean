import LeddyRaspPi.Agent.Persistence
import LeddyRaspPi.Backends
import LeddyRaspPi.Helper.Shows

/-!
# The agent and the helper together

The agent checks a configuration against the recommended geometry before it lets it into its memory;
the helper has limits of its own, in another language, and throws where they are exceeded. Under the
documented constants the first check implies the second (`Supported.inRange`), so every packet the
agent writes as a whole is well formed, and the helper accepts and paints it (`HarmlessCall`). As
long as no call of the sink has failed, the stdin of the helper is a stream of such packets, on
which the helper as a whole exits with status 0 (`agent_never_fails_helper`).
-/

namespace LeddyRaspPi

open Fallible History Helper

variable {L : Leddy} {config : DisplayConfig} {outcome : SinkOutcome} {fs : FileSystem}

/-! ## What is assumed of the libraries -/

/-- The documented behaviour of the shared libraries. -/
structure Leddy.Documented (L : Leddy) : Prop where
  minWidth : L.recommendedMinWidth = 100
  maxWidth : L.recommendedMaxWidth = 300
  minHeight : L.recommendedMinHeight = 5
  maxHeight : L.recommendedMaxHeight = 20
  counts : L.CountsPixels
  renders : ∀ {config message ms frame}, L.renderMessageFrame config message ms = .ok (some frame) →
    (L.rowMajor frame).length = L.pixelCount config

/-- A supported configuration is within the limits of the helper. -/
theorem Supported.inRange (hL : L.Documented) (h : Supported L config) : config.InRange := by
  unfold Supported validateSupportedConfig at h
  cases hvalid : L.validate config with
  | error error => rw [hvalid] at h; cases h
  | ok u =>
    rw [hvalid] at h
    simp only [hL.minWidth, hL.maxWidth, hL.minHeight, hL.maxHeight] at h
    by_cases hwidth : 100 ≤ config.width ∧ config.width ≤ 300
    · by_cases hheight : 5 ≤ config.height ∧ config.height ≤ 20
      · simp only [UInt16.le_iff_toNat_le] at hwidth hheight
        have h5 : UInt16.toNat 5 = 5 := rfl
        have h20 : UInt16.toNat 20 = 20 := rfl
        have h100 : UInt16.toNat 100 = 100 := rfl
        have h300 : UInt16.toNat 300 = 300 := rfl
        exact ⟨by omega, by omega⟩
      · simp only [hwidth, hheight] at h
        cases h
    · simp only [hwidth] at h
      cases h

/-! ## Errors of the sink -/

/-- The operating system reports this error to a call of the sink. -/
def SinkOutcome.Reports (outcome : SinkOutcome) (error : IoError) : Prop :=
  outcome.tryWait = .error error ∨ (∃ room, outcome.room = some (room, error)) ∨
    outcome.createDir = .error error ∨ ∃ kept, outcome.write = .failed error kept

/-- The error is not an `InvalidInput` of the sink's own making. -/
def SinkOutcome.Explains (outcome : SinkOutcome) (error : IoError) : Prop :=
  error.kind = .invalidInput → outcome.Reports error

/-- An error that the operating system reported needs no further explanation. -/
theorem SinkOutcome.Reports.explains {error : IoError} (h : outcome.Reports error) :
    outcome.Explains error := fun _ => h

/-- A write to the pipe fails with the error of the pipe. -/
theorem ChildStdin.writeAll_fails (bytes : List UInt8) (stdin : ChildStdin) :
    Ends (Write.writeAll bytes : EStateM IoError ChildStdin Unit) stdin (fun _ _ => True)
      (fun error _ => ∃ room, stdin.room = some (room, error)) := by
  obtain ⟨written, _ | ⟨room, error⟩⟩ := stdin
  · trivial
  · by_cases hroom : bytes.length ≤ room
    · simp [Ends, Write.writeAll, hroom]
    · simp only [Ends, Write.writeAll, hroom, if_false]
      exact ⟨room, rfl⟩

namespace Hub75Sink

variable {sink : Hub75Sink} {pixels : List UInt8}

/-- A packet of the right size fails to be written with the error of the pipe only. -/
theorem writePacket_fails (hlen : pixels.length = L.pixelCount config)
    (hsize : pixels.length < UInt32.size) :
    Ends (writePacket L config pixels outcome) sink (fun _ _ => True)
      (fun error _ => outcome.Explains error) := by
  rw [writePacket, ends_focus, writeHub75Packet_eq hlen hsize]
  refine (ChildStdin.writeAll_fails _ _).mono (fun _ _ h => h) fun error _ h => ?_
  exact SinkOutcome.Reports.explains (.inr (.inl h))

/-- `ensure_running` passes on the error of `try_wait`, or has one of another kind. -/
theorem ensureRunning_fails :
    Ends (ensureRunning outcome) sink (fun _ _ => True)
      (fun error _ => outcome.Explains error) := by
  unfold ensureRunning
  split
  · next error hwait => exact SinkOutcome.Reports.explains (.inl hwait)
  · trivial
  · intro hkind
    cases hkind

/-- Where the buffer has the configured size, `present` fails with an error of the outside only. -/
theorem present_fails {frame : L.FrameBuffer}
    (hlen : (L.rowMajor frame).length = L.pixelCount config)
    (hsize : (L.rowMajor frame).length < UInt32.size) :
    Ends (present L config frame outcome) sink (fun _ _ => True)
      (fun error _ => outcome.Explains error) := by
  simp only [present, ends_bind, ends_pure]
  refine ensureRunning_fails.mono (fun _ _ _ => ?_) fun _ _ h => h
  exact writePacket_fails hlen hsize

/-- So does `clear`. -/
theorem clear_fails (hsize : L.pixelCount config < UInt32.size) :
    Ends (clear L config outcome) sink (fun _ _ => True)
      (fun error _ => outcome.Explains error) := by
  simp only [clear, ends_bind]
  refine ensureRunning_fails.mono (fun _ _ _ => ?_) fun _ _ h => h
  exact writePacket_fails List.length_replicate (by rwa [blankPixels, List.length_replicate])

end Hub75Sink

/-- Writing a snapshot fails with an error of the file system only. -/
theorem SnapshotSink.writeSnapshot_fails (sink : SnapshotSink) (pixels : List UInt8) :
    Ends (sink.writeSnapshot pixels outcome) fs (fun _ _ => True)
      (fun error _ => outcome.Explains error) := by
  unfold writeSnapshot
  cases sink.snapshotPath with
  | none => trivial
  | some path =>
    rw [ends_bind, FileSystem.createParent]
    have hwrite : ∀ fs, Ends (FileSystem.write path pixels outcome.write) fs (fun _ _ => True)
        (fun error _ => outcome.Explains error) := by
      intro fs
      cases hwrite : outcome.write with
      | complete => trivial
      | failed error kept =>
        have hreports : outcome.Reports error := .inr (.inr (.inr ⟨kept, hwrite⟩))
        cases kept <;> exact hreports.explains
    cases path.nonemptyParent with
    | none => exact hwrite fs
    | some parent =>
      simp only [FileSystem.createDirAll, ends_ofExcept]
      refine ⟨fun _ _ => hwrite fs, fun error hcreate => ?_⟩
      exact SinkOutcome.Reports.explains (.inr (.inr (.inl hcreate)))

/-! ## A call of the sink -/

/-- What a call of the sink for these pixels does: an error of kind `InvalidInput` is one that the
operating system has reported, and a helper gets the whole packet from a call that returns. -/
structure Behaves {α : Type} (config : DisplayConfig) (pixels : List UInt8) (outcome : SinkOutcome)
    (before after : FrameSink × FileSystem) (result : Except IoError α) : Prop where
  error : ∀ error, result = .error error → outcome.Explains error
  written : ∀ a, result = .ok a → ∀ sink, before.1 = .hub75 sink →
    after.1 = .hub75 ⟨sink.stdin ++ (framePacket config pixels).bytes⟩

/-- A call behaves if each of its ends does. -/
theorem Behaves.of_ends {α : Type} {pixels : List UInt8}
    {m : EStateM IoError (FrameSink × FileSystem) α} {before after : FrameSink × FileSystem}
    {result : Except IoError α}
    (h : Ends m before
      (fun _ after => ∀ sink, before.1 = .hub75 sink →
        after.1 = .hub75 ⟨sink.stdin ++ (framePacket config pixels).bytes⟩)
      (fun error _ => outcome.Explains error))
    (hran : Fallible.outcome (m before) = (result, after)) :
    Behaves config pixels outcome before after result := by
  rw [ends_outcome] at h
  refine ⟨fun error hresult => ?_, fun a hresult => ?_⟩
  · subst hresult
    exact h.2 error after hran
  · subst hresult
    exact h.1 a after hran

/-- A call of `present` behaves, for a frame of the configured size. -/
theorem FrameSink.present_behaves {frame : L.FrameBuffer} {before after : FrameSink × FileSystem}
    {result : Except IoError FrameStats}
    (hlen : (L.rowMajor frame).length = L.pixelCount config)
    (hsize : L.pixelCount config < UInt32.size)
    (hran : Fallible.outcome (FrameSink.present L config frame outcome before) = (result, after)) :
    Behaves config (L.rowMajor frame) outcome before after result := by
  refine Behaves.of_ends ?_ hran
  obtain ⟨_ | sink, fs⟩ := before
  · rw [present, ends_bind, ends_get]
    refine (ends_onSnapshot _).2 ?_
    rw [SnapshotSink.present, ends_bind]
    refine (SnapshotSink.writeSnapshot_fails _ _).mono (fun _ _ _ sink hsink => ?_) fun _ _ h => h
    cases hsink
  · rw [present, ends_bind, ends_get]
    refine (ends_onHub75 _).2 ((Hub75Sink.present_ends.and
      (Hub75Sink.present_fails hlen (hlen ▸ hsize))).mono ?_ fun _ _ h => h.2)
    intro _ sink' h _ hsink
    cases hsink
    exact congrArg (fun stdin => FrameSink.hub75 ⟨stdin⟩) h.1.2.2.1

/-- So does a call of `clear`. -/
theorem FrameSink.clear_behaves {before after : FrameSink × FileSystem}
    {result : Except IoError Unit} (hsize : L.pixelCount config < UInt32.size)
    (hran : Fallible.outcome (FrameSink.clear L config outcome before) = (result, after)) :
    Behaves config (blankPixels L config) outcome before after result := by
  refine Behaves.of_ends ?_ hran
  obtain ⟨_ | sink, fs⟩ := before
  · rw [clear, ends_bind, ends_get]
    refine (ends_onSnapshot _).2 ?_
    refine (SnapshotSink.writeSnapshot_fails _ _).mono (fun _ _ _ sink hsink => ?_) fun _ _ h => h
    cases hsink
  · rw [clear, ends_bind, ends_get]
    refine (ends_onHub75 _).2 ((Hub75Sink.clear_ends.and
      (Hub75Sink.clear_fails hsize)).mono ?_ fun _ _ h => h.2)
    intro _ sink' h _ hsink
    cases hsink
    exact congrArg (fun stdin => FrameSink.hub75 ⟨stdin⟩) h.1.2

/-! ## What the helper makes of a packet -/

/-- Whatever follows these bytes, `read_packet` accepts them as one packet, and `paint_packet`
paints it without an exception on every canvas of a size the helper's `main` accepts. -/
def Accepted (bytes : List UInt8) : Prop :=
  ∀ (reader : Reader) (rest : List UInt8), reader.input.Good → reader.input.rest = bytes ++ rest →
    ∃ reader', readPacket reader = .ok true reader' ∧ reader'.input.Good ∧
      reader'.input.rest = rest ∧
      ∀ (options : Options) (canvas : FrameCanvas), options.Fits → canvas.Sized options →
        ∃ canvas', paintPacket reader'.packet options.physicalWidth options.physicalHeight canvas =
          .ok () canvas'

/-- A well-formed packet is accepted. -/
theorem accepted_of_wellFormed {packet : FramePacket} (hwf : packet.WellFormed) :
    Accepted packet.bytes := by
  intro reader rest hgood hrest
  obtain ⟨n, hread⟩ := readPacket_bytes hgood hwf hrest
  refine ⟨_, hread, ⟨rfl, rfl⟩, rfl, fun options canvas hfits hsized => ?_⟩
  exact ⟨_, (paintPacket_eq hwf hfits hsized).1⟩

/-- On a stream of well-formed packets the helper runs to its end and returns 0. -/
theorem main_stream {getenv : String → Option String} {options : Options}
    (hoptions : readOptions getenv = .ok options) (hfits : options.Fits)
    (pixels : Nat → Int → Int → Rgb) (stop : Nat → Bool) {packets : List FramePacket}
    (hwf : ∀ packet ∈ packets, packet.WellFormed) {fuel : Nat}
    (hfuel : (packetCode.stream packets).length < fuel) :
    (Helper.main getenv true pixels stop (packetCode.stream packets) fuel).exit = .status 0 := by
  have hleading : packetCode.Leading (packetCode.stream packets) packets [] :=
    ⟨hwf, (List.append_nil _).symm, packetCode.not_begins_nil⟩
  have hserve := serve_ends hfits pixels stop hleading
    (Nat.lt_of_le_of_lt hleading.length_le hfuel)
  unfold Ends at hserve
  unfold Helper.main
  simp only [hoptions, if_true]
  cases hrun : serve options stop fuel
      ⟨⟨.ofBytes (packetCode.stream packets), {}⟩, .create options pixels⟩ with
  | ok out process =>
    rw [hrun] at hserve
    obtain ⟨rfl, _⟩ := hserve
    rfl
  | error e process =>
    rw [hrun] at hserve
    obtain ⟨error, n, rfl, hn, hend, _⟩ := hserve
    exact absurd (.inr rfl) hend

/-! ## The agent -/

/-- A call of the sink behaves; in particular the helper accepts the packet of a call that
returns. -/
structure Harmless {α : Type} (past : List (Effect L)) (before after : FrameSink × FileSystem)
    (result : Except IoError α) : Prop where
  error : ∀ error, result = .error error → error.kind = .invalidInput →
    ∃ outside, lastOutside past = some outside ∧ outside.sink.Reports error
  written : ∀ a, result = .ok a → ∀ sink, before.1 = .hub75 sink →
    ∃ bytes, after.1 = .hub75 ⟨sink.stdin ++ bytes⟩ ∧ Accepted bytes

/-- No call of the sink drives the helper into an error. -/
def HarmlessCall (past : List (Effect L)) : Effect L → Prop
  | .presented _ _ before after result => Harmless past before after result
  | .cleared _ before after result => Harmless past before after result
  | _ => True

/-- A call of the sink that failed. -/
def Effect.sinkFails : Effect L → Bool
  | .presented _ _ _ _ (.error _) => true
  | .cleared _ _ _ (.error _) => true
  | _ => false

/-- The stdin of the helper is a stream of well-formed packets. -/
def FrameSink.Framed (sink : FrameSink) : Prop :=
  ∀ hub75, sink = .hub75 hub75 →
    ∃ packets, (∀ packet ∈ packets, FramePacket.WellFormed packet) ∧
      hub75.stdin = packetCode.stream packets

/-- The configuration in memory is supported, no call has driven the helper into an error, and as
long as none has failed the helper's stdin is framed. -/
structure Feeds (world : World L) : Prop where
  supported : Supported L world.config
  harmless : Always HarmlessCall world.history
  framed : (∀ effect ∈ world.history, effect.sinkFails = false) → world.sink.Framed

section
variable {α : Type} {past : List (Effect L)} {outside : Outside} {pixels : List UInt8}
  {before after : FrameSink × FileSystem} {result : Except IoError α}

/-- A call for pixels that make a well-formed packet is harmless. -/
theorem Behaves.harmless (hwf : (framePacket config pixels).WellFormed)
    (houtside : lastOutside past = some outside)
    (h : Behaves config pixels outside.sink before after result) :
    Harmless past before after result where
  error error hresult hkind := ⟨outside, houtside, h.error error hresult hkind⟩
  written a hresult sink hsink :=
    ⟨_, h.written a hresult sink hsink, accepted_of_wellFormed hwf⟩

/-- A call that returns keeps the stdin of the helper framed. -/
theorem Behaves.framed {a : α} (hwf : (framePacket config pixels).WellFormed)
    (hkind : after.1.isHub75 = before.1.isHub75)
    (h : Behaves config pixels outside.sink before after (.ok a)) (hframed : before.1.Framed) :
    after.1.Framed := by
  intro hub75 hafter
  cases hbefore : before.1 with
  | snapshot sink => rw [hbefore, hafter] at hkind; cases hkind
  | hub75 sink =>
    obtain ⟨packets, hpackets, hstdin⟩ := hframed sink hbefore
    have hwritten := h.written a rfl sink hbefore
    rw [hafter] at hwritten
    cases hwritten
    refine ⟨packets ++ [framePacket config pixels], fun packet hpacket => ?_, ?_⟩
    · rcases List.mem_append.1 hpacket with hold | hnew
      · exact hpackets packet hold
      · rwa [List.mem_singleton.1 hnew]
    · simp [hstdin, Code.stream, packetCode]

end

section
variable {settings : RuntimeSettings} {world : World L}

/-- An entry that is no call of the sink. -/
theorem Feeds.note {effect : Effect L} (hpresents : effect.presents = false)
    (hclears : effect.clears = false) (h : Feeds world) : Feeds (world.note effect) where
  supported := h.supported
  harmless := by
    refine ⟨?_, h.harmless⟩
    cases effect with
    | presented => cases hpresents
    | cleared => cases hclears
    | _ => trivial
  framed hok := h.framed fun effect' heffect' => hok effect' (List.mem_cons_of_mem _ heffect')

/-- A call of the sink for pixels that make a well-formed packet. -/
theorem Feeds.called {α : Type} {outside : Outside} {pixels : List UInt8}
    {after : FrameSink × FileSystem} {result : Except IoError α} {effect : Effect L}
    (h : Feeds world) (hwf : (framePacket config pixels).WellFormed)
    (honly : OnlySnapshot (world.sink, world.fs) after)
    (hbehaves : Behaves config pixels outside.sink (world.sink, world.fs) after result)
    (hcall : HarmlessCall world.history effect)
    (hfails : ∀ error, result = .error error → effect.sinkFails = true) :
    Feeds (world.called after effect) where
  supported := h.supported
  harmless := ⟨hcall, h.harmless⟩
  framed hok := by
    cases result with
    | ok a =>
      exact hbehaves.framed hwf honly.kind (h.framed fun effect' heffect' =>
        hok effect' (List.mem_cons_of_mem _ heffect'))
    | error error =>
      have hfailed := hfails error rfl
      rw [hok effect List.mem_cons_self] at hfailed
      cases hfailed

/-- Every call within an attempt keeps this: the packet it writes is well-formed. -/
theorem feeds_sustained (hL : L.Documented) : Sustained settings (Feeds : World L → Prop) where
  note _ hpresents hclears h := h.note hpresents hclears
  cleared {world outside result after} h houtside hran := by
    have hwf : (framePacket world.config (blankPixels L world.config)).WellFormed :=
      framePacket_wellFormed (h.supported.inRange hL)
        (List.length_replicate.trans (hL.counts world.config))
    have hsize : L.pixelCount world.config < UInt32.size :=
      Leddy.CountsPixels.lt_size hL.counts world.config
    have hbehaves := FrameSink.clear_behaves hsize hran
    have honly := (FrameSink.clear_ends.mono (fun _ _ h => h.1) fun _ _ h => h).of_outcome hran
    refine h.called hwf honly hbehaves (hbehaves.harmless hwf houtside) fun error hresult => ?_
    rw [hresult, Effect.sinkFails]
  presented {world outside message ms frame result after} h houtside hframe hran := by
    have hlen : (L.rowMajor frame).length = L.pixelCount world.config := hL.renders hframe
    have hwf : (framePacket world.config (L.rowMajor frame)).WellFormed :=
      framePacket_wellFormed (h.supported.inRange hL) (hlen.trans (hL.counts world.config))
    have hsize : L.pixelCount world.config < UInt32.size :=
      Leddy.CountsPixels.lt_size hL.counts world.config
    have hbehaves := FrameSink.present_behaves hlen hsize hran
    have honly := (FrameSink.present_ends.mono (fun _ _ h => h.1) fun _ _ h => h).of_outcome hran
    refine h.called hwf honly hbehaves (hbehaves.harmless hwf houtside) fun error hresult => ?_
    rw [hresult, Effect.sinkFails]
  refused h _ := ⟨h.supported, h.harmless, h.framed⟩
  configured h hpersisted :=
    have hnoted : Feeds (World.note (.configured _) _) := h.note rfl rfl
    ⟨hpersisted.supported, hnoted.harmless, hnoted.framed⟩

/-- Every run of the agent feeds the helper. -/
theorem feeds_run (hL : L.Documented) (settings : RuntimeSettings) (hinitial : Feeds world)
    (inputs : List (Input L)) : Feeds (Machine.run settings ⟨world, .ready⟩ inputs).world := by
  have hsustained : Sustained settings (Feeds : World L → Prop) := feeds_sustained hL
  have hkept : (worldLaw Feeds).Kept settings fun _ _ => True :=
    (attemptLaw_parts hsustained fun started outside world _ h => by
      refine World.finish_ends ((hsustained.clearSink_ends (h.note rfl rfl) rfl).mono
        (fun _ _ h backoff => ?_) fun _ _ h => h)
      have hslept : Feeds (World.note (.slept backoff) _) := h.note rfl rfl
      exact ⟨hslept.supported, hslept.harmless, hslept.framed⟩).kept
  exact worldLaw_holds.1 (hkept.run_all (worldLaw_holds.2 hinitial) inputs)

/-- The agent starts with nothing written to the helper. -/
theorem feeds_startUp {env : Environment} {fs : FileSystem} {spawn : Except IoError Bool}
    (hstart : startUp L env fs spawn = .ok (settings, world)) : Feeds world := by
  obtain ⟨_, config, sink, rfl, hsupported, hsink, _⟩ := startUp_ok hstart
  refine ⟨hsupported, trivial, fun _ hub75 hhub75 => ⟨[], fun _ h => absurd h List.not_mem_nil, ?_⟩⟩
  have hsink' : sink = .hub75 hub75 := hhub75
  subst hsink'
  unfold FrameSink.new at hsink
  cases hhelper : settings.hub75Helper with
  | none => rw [hhelper] at hsink; cases hsink
  | some helper =>
    rw [hhelper] at hsink
    simp only [Hub75Sink.spawn] at hsink
    rcases spawn with error | piped
    · cases hsink
    · cases piped
      · cases hsink
      · cases hsink
        rfl

/-- In every run of the agent, from every start-up that succeeds, no call of the sink fails with
`InvalidInput` unless the operating system has reported it, and what a call that returns has written
to the helper is one packet that the helper accepts and paints on every canvas its `main` accepts.
As long as no call of the sink has failed, the helper that is given all of it ends with status 0. -/
theorem agent_never_fails_helper (hL : L.Documented) {env : Environment} {fs : FileSystem}
    {spawn : Except IoError Bool} (hstart : startUp L env fs spawn = .ok (settings, world))
    (inputs : List (Input L)) :
    Always HarmlessCall (Machine.run settings ⟨world, .ready⟩ inputs).world.history ∧
    ((∀ effect ∈ (Machine.run settings ⟨world, .ready⟩ inputs).world.history,
        effect.sinkFails = false) →
      ∀ sink, (Machine.run settings ⟨world, .ready⟩ inputs).world.sink = .hub75 sink →
      ∀ getenv options, readOptions getenv = .ok options → options.Fits → ∀ pixels stop fuel,
        sink.stdin.length < fuel →
        (Helper.main getenv true pixels stop sink.stdin fuel).exit = .status 0) := by
  have hfeeds := feeds_run hL settings (feeds_startUp hstart) inputs
  refine ⟨hfeeds.harmless, fun hok sink hsink getenv options hoptions hfits pixels stop fuel => ?_⟩
  obtain ⟨packets, hwf, hstdin⟩ := hfeeds.framed hok sink hsink
  rw [hstdin]
  exact main_stream hoptions hfits pixels stop hwf

end

/-! ## With the reference instance -/

/-- The reference instance renders frames of the configured size and behaves as documented. -/
theorem Leddy.reference_documented : Leddy.reference.Documented where
  minWidth := rfl
  maxWidth := rfl
  minHeight := rfl
  maxHeight := rfl
  counts := Leddy.reference_countsPixels
  renders {config message ms frame} h := by
    have hsome := Except.ok.inj h
    split at hsome
    · cases hsome
      exact List.length_replicate
    · cases hsome

/-- An environment that names a helper and nothing else. -/
def helperEnvironment : Environment := fun name =>
  if name = "LEDDY_HUB75_HELPER" then some (.text "leddy-hub75") else none

/-- A session in which one frame of a message is shown. -/
def shownOnce : List (Input Leddy.reference) :=
  [.connect (.calm ⟨0, 0⟩),
   .select (.incoming (.text (.ok (.show ⟨"m", 255, 3600000⟩)))) (.calm ⟨1000000, 1000000⟩),
   .select .frameTick (.calm ⟨50000000, 50000000⟩),
   .finish (.calm ⟨60000000, 60000000⟩)]

/-- What start-up makes of it. -/
def World.withHelper : World Leddy.reference :=
  .initial ⟨100, 10, 96, true, .topLeft, some defaultSafetyLimits⟩ (.hub75 ⟨[]⟩) fun _ => .absent

/-- Its helper shows the frame and returns 0. -/
theorem agent_never_fails_helper_shown :
    Always HarmlessCall
      (Machine.run (.fromEnv helperEnvironment) ⟨.withHelper, .ready⟩ shownOnce).world.history ∧
    ∀ sink, (Machine.run (.fromEnv helperEnvironment) ⟨.withHelper, .ready⟩ shownOnce).world.sink =
      .hub75 sink →
      (Helper.main (fun _ => none) true (fun _ _ _ => ⟨0, 0, 0⟩) (fun _ => false) sink.stdin
        (sink.stdin.length + 1)).exit = .status 0 := by
  have hstart : startUp Leddy.reference helperEnvironment (fun _ => .absent) (.ok true) =
      .ok (.fromEnv helperEnvironment, .withHelper) := rfl
  have hoptions : readOptions (fun _ => none) = .ok ⟨32, 64, 5, 1⟩ := rfl
  have hfits : Options.Fits ⟨32, 64, 5, 1⟩ := by
    unfold Options.Fits Options.physicalWidth Options.physicalHeight
    decide
  refine (agent_never_fails_helper Leddy.reference_documented hstart shownOnce).imp_right ?_
  intro hserved sink hsink
  exact hserved (by decide +kernel) sink hsink _ _ hoptions hfits _ _ _ (Nat.lt_succ_self _)

end LeddyRaspPi
