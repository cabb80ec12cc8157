import LeddyRaspPi.Agent.Frames
import LeddyRaspPi.Agent.Packets
import LeddyRaspPi.Agent.Unbroken
import LeddyRaspPi.Lib.Channel

/-!
# What goes into the pipe

A call of the HUB75 sink writes one packet to the helper's stdin, as far as the pipe takes it: its
`Segment`. The stdin is made of the segments, in the order of the calls (`Ledger`); each is a prefix
of a well-formed packet, and it is the whole packet exactly if the call returned. A call that breaks
off in the middle of its packet ends the session, so the next call is the clear of `main` with the
same configuration (`Mends`).
-/

namespace LeddyRaspPi

open Fallible History Helper

variable {L : Leddy} {settings : RuntimeSettings}

/-! ## Segments -/

/-- What has gone into the helper's stdin. -/
def FrameSink.stdin : FrameSink → List UInt8
  | .snapshot _ => []
  | .hub75 sink => sink.stdin

/-- What a call of the HUB75 sink was to show, and the bytes the pipe has taken of its packet. -/
structure Segment where
  config : DisplayConfig
  pixels : List UInt8
  taken : List UInt8
  deriving DecidableEq

namespace Segment

/-- The segment of a call, from the sinks before and after it. -/
def between (config : DisplayConfig) (pixels : List UInt8) (before after : FrameSink) : Segment :=
  ⟨config, pixels, after.stdin.drop before.stdin.length⟩

/-- The packet of the call. -/
def packet (segment : Segment) : FramePacket := framePacket segment.config segment.pixels

/-- The pipe has taken the whole packet. -/
def Whole (segment : Segment) : Prop := segment.taken = segment.packet.bytes

/-- The pipe has taken a part of the packet only. -/
def Torn (segment : Segment) : Prop :=
  segment.taken ≠ [] ∧ segment.taken ≠ segment.packet.bytes

instance (segment : Segment) : Decidable segment.Torn := inferInstanceAs (Decidable (_ ∧ _))

/-- A segment that is not torn is whole or empty. -/
theorem whole_or_nil {segment : Segment} (h : ¬ segment.Torn) :
    segment.Whole ∨ segment.taken = [] := by
  by_cases hnil : segment.taken = []
  · exact .inr hnil
  · exact .inl (by_contra fun hne => h ⟨hnil, hne⟩)

end Segment

/-- The segment of an entry that is a call of the sink. -/
def Effect.segment? : Effect L → Option Segment
  | .presented config frame before after _ =>
    some (.between config (L.rowMajor frame) before.1 after.1)
  | .cleared config before after _ =>
    some (.between config (blankPixels L config) before.1 after.1)
  | _ => none

/-- The segments of the calls of the sink, latest first. -/
def segments (history : List (Effect L)) : List Segment := history.filterMap Effect.segment?

/-- The segment of the last call of the sink. -/
def lastSegment (history : List (Effect L)) : Option Segment := (segments history).head?

/-- The packet a call that returned has written. -/
def Call.packet (call : Call L) : FramePacket :=
  framePacket call.config ((call.frame.map L.rowMajor).getD (blankPixels L call.config))

/-- The packets of the calls that returned, first to last. -/
def packetsSent (history : List (Effect L)) : List FramePacket :=
  (calls history).reverse.map Call.packet

section
variable {effect : Effect L} {history : List (Effect L)}

/-- A call adds its segment. -/
theorem segments_cons_some {segment : Segment} (h : effect.segment? = some segment) :
    segments (effect :: history) = segment :: segments history := List.filterMap_cons_some h

/-- Another entry adds none. -/
theorem segments_cons_none (h : effect.segment? = none) :
    segments (effect :: history) = segments history := List.filterMap_cons_none h

/-- A minor entry is no call of the sink. -/
theorem Effect.segment?_of_minor (h : effect.minor = true) : effect.segment? = none := by
  cases effect with
  | presented => cases h
  | cleared => cases h
  | _ => rfl

/-- An entry without a segment is no call. -/
theorem Effect.call?_eq_none (h : effect.segment? = none) : effect.call? = none := by
  cases effect with
  | presented => cases h
  | cleared => cases h
  | _ => rfl

/-- A call that returned has the packet of its segment. -/
theorem Effect.call?_packet {segment : Segment} {call : Call L}
    (hsegment : effect.segment? = some segment) (hcall : effect.call? = some call) :
    call.packet = segment.packet := by
  cases effect with
  | presented config frame before after result =>
    cases hsegment
    cases result with
    | ok stats => cases hcall; rfl
    | error error => cases hcall
  | cleared config before after result =>
    cases hsegment
    cases result with
    | ok u => cases hcall; rfl
    | error error => cases hcall
  | _ => cases hsegment

end

/-! ## What a call puts into the pipe -/

/-- What a call of a HUB75 sink does to the helper's stdin. -/
structure Fills {α : Type} (segment : Segment) (outcome : SinkOutcome) (before after : FrameSink)
    (result : Except IoError α) : Prop where
  stdin : after.stdin = before.stdin ++ segment.taken
  taken_prefix : segment.taken <+: segment.packet.bytes
  roomy : outcome.room = none → ¬ segment.Torn
  whole_iff : segment.Whole ↔ result.isOk = true

section
variable {config : DisplayConfig} {pixels : List UInt8} {outcome : SinkOutcome} {sink : Hub75Sink}

/-- Writing a packet to a helper that may have exited: it is written as a whole, or the call fails
and it is not; and nothing is written where the failure is not one of the pipe. -/
theorem Hub75Sink.write_ends {Q : Unit → Hub75Sink → Prop} {E : IoError → Hub75Sink → Prop}
    (hlen : pixels.length = L.pixelCount config) (hsize : pixels.length < UInt32.size)
    (hok : ∀ sink' : Hub75Sink, sink'.stdin = sink.stdin ++ packetBytes config pixels → Q () sink')
    (herror : ∀ e (sink' : Hub75Sink) n, sink'.stdin = sink.stdin ++
      (packetBytes config pixels).take n → n < 20 + pixels.length →
      (outcome.room = none → n = 0) → E e sink') :
    Ends (ensureRunning outcome) sink
      (fun _ sink => Ends (writePacket L config pixels outcome) sink Q E) E := by
  refine ensureRunning_ends.mono (fun _ _ h => ?_) fun e _ h => ?_
  · obtain ⟨rfl, _⟩ := h
    rw [writePacket, ends_focus, writeHub75Packet_eq hlen hsize]
    show Ends (Write.writeAll _) (⟨_, outcome.room⟩ : ChildStdin) _ _
    cases hroom : outcome.room with
    | none => exact hok _ rfl
    | some room =>
      obtain ⟨room, error⟩ := room
      by_cases hfits : (packetBytes config pixels).length ≤ room
      · simp only [Ends, Write.writeAll, hfits, if_true]
        exact hok _ rfl
      · simp only [Ends, Write.writeAll, hfits, if_false]
        refine herror error _ room rfl ?_ fun h => ?_
        · rw [packetBytes_length] at hfits
          omega
        · rw [hroom] at h
          cases h
  · obtain ⟨rfl, _⟩ := h
    exact herror e _ 0 (by simp) (by omega) fun _ => rfl

/-- The segment of a call that has written the packet. -/
theorem Fills.of_ok {α : Type} {sink' : Hub75Sink} {a : α}
    (h : sink'.stdin = sink.stdin ++ packetBytes config pixels) :
    Fills (.between config pixels (.hub75 sink) (.hub75 sink')) outcome (.hub75 sink) (.hub75 sink')
      (.ok a) := by
  have htaken : sink'.stdin.drop sink.stdin.length = (framePacket config pixels).bytes := by
    rw [h, List.drop_left, framePacket_bytes]
  refine ⟨?_, ?_, fun _ htorn => htorn.2 htaken, iff_of_true htaken rfl⟩
  · show sink'.stdin = sink.stdin ++ sink'.stdin.drop sink.stdin.length
    rw [h, List.drop_left]
  · show sink'.stdin.drop sink.stdin.length <+: (framePacket config pixels).bytes
    exact htaken.symm ▸ List.prefix_rfl

/-- The segment of a call that has not. -/
theorem Fills.of_error {α : Type} {sink' : Hub75Sink} {error : IoError} {n : Nat}
    (h : sink'.stdin = sink.stdin ++ (packetBytes config pixels).take n)
    (hn : n < 20 + pixels.length) (hroom : outcome.room = none → n = 0) :
    Fills (.between config pixels (.hub75 sink) (.hub75 sink')) outcome (.hub75 sink) (.hub75 sink')
      (.error error : Except IoError α) := by
  have htaken : sink'.stdin.drop sink.stdin.length = (framePacket config pixels).bytes.take n := by
    rw [h, List.drop_left, framePacket_bytes]
  refine ⟨?_, ?_, fun hnone htorn => htorn.1 ?_, iff_of_false (fun hwhole => ?_) nofun⟩
  · show sink'.stdin = sink.stdin ++ sink'.stdin.drop sink.stdin.length
    rw [h, List.drop_left]
  · show sink'.stdin.drop sink.stdin.length <+: (framePacket config pixels).bytes
    exact htaken.symm ▸ List.take_prefix _ _
  · rw [Segment.between, FrameSink.stdin, FrameSink.stdin, htaken, hroom hnone, List.take_zero]
  · have hlength := congrArg List.length (htaken.symm.trans hwhole)
    rw [Segment.packet, List.length_take] at hlength
    rw [Segment.between, framePacket_bytes, packetBytes_length] at hlength
    omega

/-- The segment of a call, whichever way it ends. -/
theorem Fills.of_ends {α : Type} {m : EStateM IoError (FrameSink × FileSystem) α}
    {before after : FrameSink × FileSystem} {result : Except IoError α}
    (h : Ends m before
      (fun a after => Fills (.between config pixels before.1 after.1) outcome before.1 after.1
        (.ok a : Except IoError α))
      (fun error after => Fills (.between config pixels before.1 after.1) outcome before.1 after.1
        (.error error : Except IoError α)))
    (hran : Fallible.outcome (m before) = (result, after)) :
    Fills (.between config pixels before.1 after.1) outcome before.1 after.1 result := by
  rw [ends_outcome] at h
  cases result with
  | ok a => exact h.1 a after hran
  | error error => exact h.2 error after hran

end

section
variable {config : DisplayConfig} {outcome : SinkOutcome} {before after : FrameSink × FileSystem}

/-- What `present` adds to the pipe: its packet, or as much as the pipe took. -/
theorem FrameSink.present_fills {frame : L.FrameBuffer} {result : Except IoError FrameStats}
    (hhub : before.1.isHub75 = true) (hlen : (L.rowMajor frame).length = L.pixelCount config)
    (hsize : L.pixelCount config < UInt32.size)
    (hran : Fallible.outcome (FrameSink.present L config frame outcome before) = (result, after)) :
    Fills (.between config (L.rowMajor frame) before.1 after.1) outcome before.1 after.1
      result := by
  refine Fills.of_ends ?_ hran
  obtain ⟨_ | sink, fs⟩ := before
  · cases hhub
  rw [present, ends_bind, ends_get]
  refine (ends_onHub75 _).2 ?_
  simp only [Hub75Sink.present, ends_bind, ends_pure]
  exact Hub75Sink.write_ends hlen (hlen ▸ hsize) (fun _ h => .of_ok h) fun _ _ _ h hn hroom =>
    .of_error h hn hroom

/-- What `clear` adds to it. -/
theorem FrameSink.clear_fills {result : Except IoError Unit} (hhub : before.1.isHub75 = true)
    (hsize : L.pixelCount config < UInt32.size)
    (hran : Fallible.outcome (FrameSink.clear L config outcome before) = (result, after)) :
    Fills (.between config (blankPixels L config) before.1 after.1) outcome before.1 after.1
      result := by
  have hlen : (blankPixels L config).length = L.pixelCount config := List.length_replicate
  refine Fills.of_ends ?_ hran
  obtain ⟨_ | sink, fs⟩ := before
  · cases hhub
  rw [clear, ends_bind, ends_get]
  refine (ends_onHub75 _).2 ?_
  simp only [Hub75Sink.clear, ends_bind]
  exact Hub75Sink.write_ends hlen (hlen ▸ hsize) (fun _ h => .of_ok h) fun _ _ _ h hn hroom =>
    .of_error h hn hroom

end

/-! ## The ledger -/

/-- What the ledger says of a call. A torn segment is followed by that of a clear with the same
configuration. -/
structure Booked (past : List (Effect L)) (effect : Effect L) (segment : Segment) : Prop where
  wellFormed : segment.packet.WellFormed
  taken_prefix : segment.taken <+: segment.packet.bytes
  whole_iff : segment.Whole ↔ effect.call?.isSome = true
  roomy : ∃ outside, lastOutside past = some outside ∧
    (outside.sink.room = none → ¬ segment.Torn)
  mends : ∀ last, lastSegment past = some last → last.Torn →
    segment.config = last.config ∧ segment.pixels = blankPixels L last.config

/-- A call is entered. -/
def Entered (past : List (Effect L)) (effect : Effect L) : Prop :=
  ∀ segment, effect.segment? = some segment → Booked past effect segment

/-- The helper's stdin is made of the segments of the calls, and each call is entered. -/
structure Ledger (world : World L) : Prop where
  hub : world.sink.isHub75 = true
  supported : Supported L world.config
  entered : Always Entered world.history
  stdin : world.sink.stdin = (segments world.history).reverse.flatMap Segment.taken

/-- The last call has not torn its packet. -/
def Mended (world : World L) : Prop :=
  Ledger world ∧ ∀ segment, lastSegment world.history = some segment → ¬ segment.Torn

/-- If the last call has torn its packet, it was a call with the configuration in force. -/
def Tearable (world : World L) : Prop :=
  Ledger world ∧
    ∀ segment, lastSegment world.history = some segment → segment.Torn →
      segment.config = world.config

section
variable {world : World L} {effect : Effect L} {outside : Outside}

/-- Where no packet is torn, none is torn with another configuration. -/
theorem Mended.tearable (h : Mended world) : Tearable world :=
  ⟨h.1, fun segment hsegment htorn => absurd htorn (h.2 segment hsegment)⟩

/-- An entry that is no call. -/
theorem Ledger.note (hsegment : effect.segment? = none) (h : Ledger world) :
    Ledger (world.note effect) where
  hub := h.hub
  supported := h.supported
  entered := by
    refine ⟨fun segment hcall => ?_, h.entered⟩
    cases hsegment.symm.trans hcall
  stdin := by
    rw [World.note_history, segments_cons_none hsegment]
    exact h.stdin

/-- No such entry changes which call was the last. -/
theorem lastSegment_note {history : List (Effect L)} (hsegment : effect.segment? = none) :
    lastSegment (effect :: history) = lastSegment history := by
  rw [lastSegment, segments_cons_none hsegment, lastSegment]

/-- A call. -/
theorem Ledger.called {α : Type} {segment : Segment} {outcome : SinkOutcome}
    {after : FrameSink × FileSystem} {result : Except IoError α} (h : Ledger world)
    (hsegment : effect.segment? = some segment) (hentry : Booked world.history effect segment)
    (honly : OnlySnapshot (world.sink, world.fs) after)
    (hfills : Fills segment outcome world.sink after.1 result) :
    Ledger (world.called after effect) where
  hub := honly.kind.trans h.hub
  supported := h.supported
  entered := by
    refine ⟨fun segment' hsegment' => ?_, h.entered⟩
    cases hsegment.symm.trans hsegment'
    exact hentry
  stdin := by
    rw [World.called_history, segments_cons_some hsegment, List.reverse_cons, List.flatMap_append,
      ← h.stdin]
    show after.1.stdin = world.sink.stdin ++ [segment].flatMap Segment.taken
    rw [List.flatMap_singleton]
    exact hfills.stdin

/-- No other entry changes whether the pipe is mended. -/
theorem Mended.note (hsegment : effect.segment? = none) (h : Mended world) :
    Mended (world.note effect) := by
  refine ⟨h.1.note hsegment, fun segment hlast => h.2 segment ?_⟩
  rwa [World.note_history, lastSegment_note hsegment] at hlast

/-- An entry that is no call tears nothing. -/
theorem Tearable.note (hsegment : effect.segment? = none) (h : Tearable world) :
    Tearable (world.note effect) := by
  refine ⟨h.1.note hsegment, fun segment hlast => h.2 segment ?_⟩
  rwa [World.note_history, lastSegment_note hsegment] at hlast

/-- A clear, wherever it is made, leaves a mended pipe if it returns. -/
theorem Tearable.clearSink_ends (hL : L.Documented) (h : Tearable world)
    (houtside : lastOutside world.history = some outside) :
    Ends (World.clearSink outside) world (fun _ => Mended) fun _ => Tearable := by
  have hsize : L.pixelCount world.config < UInt32.size :=
    Leddy.CountsPixels.lt_size hL.counts world.config
  have hwf : (framePacket world.config (blankPixels L world.config)).WellFormed :=
    framePacket_wellFormed (h.1.supported.inRange hL)
      (List.length_replicate.trans (hL.counts world.config))
  have hmends : ∀ last, lastSegment world.history = some last → last.Torn →
      world.config = last.config ∧ blankPixels L world.config = blankPixels L last.config := by
    intro last hlast htorn
    rw [h.2 last hlast htorn]
    exact ⟨rfl, rfl⟩
  rw [World.clearSink, ends_bind, ends_get, World.onSink_ends]
  refine ends_outcome.2 ⟨fun u after hran => ?_, fun error after hran => ?_⟩
  · have hfills := FrameSink.clear_fills h.1.hub hsize hran
    have honly := (FrameSink.clear_ends.mono (fun _ _ h => h.1) fun _ _ h => h).of_outcome hran
    refine ⟨h.1.called rfl ⟨hwf, hfills.taken_prefix, ?_, ⟨outside, houtside, hfills.roomy⟩,
      hmends⟩ honly hfills, fun segment hsegment => ?_⟩
    · exact hfills.whole_iff.trans (iff_of_true rfl rfl)
    · cases hsegment
      exact fun htorn => htorn.2 (hfills.whole_iff.2 rfl)
  · have hfills := FrameSink.clear_fills h.1.hub hsize hran
    have honly := (FrameSink.clear_ends.mono (fun _ _ h => h.1) fun _ _ h => h).of_outcome hran
    refine ⟨h.1.called rfl ⟨hwf, hfills.taken_prefix, ?_, ⟨outside, houtside, hfills.roomy⟩,
      hmends⟩ honly hfills, fun segment hsegment _ => ?_⟩
    · exact hfills.whole_iff.trans (iff_of_false Bool.false_ne_true Bool.false_ne_true)
    · cases hsegment
      rfl

/-- A frame is presented on a mended pipe only. -/
theorem Mended.presentSink_ends (hL : L.Documented) (h : Mended world)
    (houtside : lastOutside world.history = some outside) {message : L.MessageEnvelope}
    {ms : UInt64} {frame : L.FrameBuffer}
    (hframe : L.renderMessageFrame world.config message ms = .ok (some frame)) :
    Ends (World.presentSink outside frame) world (fun _ => Mended) fun _ => Tearable := by
  have hlen : (L.rowMajor frame).length = L.pixelCount world.config := hL.renders hframe
  have hsize : L.pixelCount world.config < UInt32.size :=
    Leddy.CountsPixels.lt_size hL.counts world.config
  have hwf : (framePacket world.config (L.rowMajor frame)).WellFormed :=
    framePacket_wellFormed (h.1.supported.inRange hL) (hlen.trans (hL.counts world.config))
  have hmends : ∀ last, lastSegment world.history = some last → last.Torn →
      world.config = last.config ∧ L.rowMajor frame = blankPixels L last.config := by
    intro last hlast htorn
    exact absurd htorn (h.2 last hlast)
  rw [World.presentSink, ends_bind, ends_get, World.onSink_ends]
  refine ends_outcome.2 ⟨fun stats after hran => ?_, fun error after hran => ?_⟩
  · have hfills := FrameSink.present_fills h.1.hub hlen hsize hran
    have honly := (FrameSink.present_ends.mono (fun _ _ h => h.1) fun _ _ h => h).of_outcome hran
    refine ⟨h.1.called rfl ⟨hwf, hfills.taken_prefix, ?_, ⟨outside, houtside, hfills.roomy⟩,
      hmends⟩ honly hfills, fun segment hsegment => ?_⟩
    · exact hfills.whole_iff.trans (iff_of_true rfl rfl)
    · cases hsegment
      exact fun htorn => htorn.2 (hfills.whole_iff.2 rfl)
  · have hfills := FrameSink.present_fills h.1.hub hlen hsize hran
    have honly := (FrameSink.present_ends.mono (fun _ _ h => h.1) fun _ _ h => h).of_outcome hran
    refine ⟨h.1.called rfl ⟨hwf, hfills.taken_prefix, ?_, ⟨outside, houtside, hfills.roomy⟩,
      hmends⟩ honly hfills, fun segment hsegment _ => ?_⟩
    · exact hfills.whole_iff.trans (iff_of_false Bool.false_ne_true Bool.false_ne_true)
    · cases hsegment
      rfl

/-- The calls keep the ledger, and as long as they return the pipe is mended. -/
theorem ledger_unbroken (hL : L.Documented) :
    Unbroken settings outside (Mended : World L → Prop) Tearable where
  weaken := Mended.tearable
  took _ h := h.note rfl
  note hminor h := h.note (Effect.segment?_of_minor hminor)
  cleared h houtside := h.tearable.clearSink_ends hL houtside
  presented h houtside hframe := h.presentSink_ends hL houtside hframe
  refused h _ :=
    ⟨⟨h.1.hub, h.1.supported, h.1.entered, h.1.stdin⟩, h.tearable.2⟩
  configured {world next fs} h hpersisted := by
    have hnoted : Ledger (world.note (.configured next)) := h.1.note rfl
    exact ⟨⟨hnoted.hub, hpersisted.supported, hnoted.entered, hnoted.stdin⟩, h.2⟩

/-- So the agent keeps it. The clear at the end of an attempt mends the pipe, or it is the last call
there is. -/
theorem ledger_kept (hL : L.Documented) {C : Machine L → Input L → Prop} :
    (relaxLaw (Mended : World L → Prop) Tearable Ledger).Kept settings C :=
  relaxLaw_kept (fun _ _ _ => ledger_unbroken hL) (fun _ _ _ _ h => h.note rfl)
    fun started outside world _ hended => by
    have htook : Tearable (world.note (.took (.finish outside))) := hended.note rfl
    refine World.finish_ends ((htook.clearSink_ends hL rfl).mono (fun _ world' h backoff => ?_)
      fun _ _ h => h.1)
    obtain ⟨hslept, hmended⟩ : Mended (world'.note (.slept backoff)) := h.note rfl
    exact ⟨⟨hslept.hub, hslept.supported, hslept.entered, hslept.stdin⟩, hmended⟩

/-- With a helper configured, start-up opens the ledger. -/
theorem ledger_startUp {env : Environment} {fs : FileSystem} {spawn : Except IoError Bool}
    (hstart : startUp L env fs spawn = .ok (settings, world))
    (hhelper : settings.hub75Helper.isSome = true) : Mended world := by
  obtain ⟨_, config, sink, rfl, hsupported, hsink, _⟩ := startUp_ok hstart
  obtain ⟨helper, hhelper⟩ := Option.isSome_iff_exists.1 hhelper
  have hempty : sink = .hub75 ⟨[]⟩ := by
    unfold FrameSink.new at hsink
    rw [hhelper] at hsink
    simp only [Hub75Sink.spawn] at hsink
    rcases spawn with error | piped
    · cases hsink
    · cases piped
      · cases hsink
      · cases hsink
        rfl
  subst hempty
  exact ⟨⟨rfl, hsupported, trivial, rfl⟩, fun _ h => (Option.some_ne_none _ h.symm).elim⟩

/-- Every run of an agent with a helper keeps the ledger. -/
theorem ledger_run (hL : L.Documented) (h : Mended world) (inputs : List (Input L)) :
    (relaxLaw Mended Tearable Ledger).Holds (Machine.run settings ⟨world, .ready⟩ inputs) := by
  have hinitial : (relaxLaw Mended Tearable Ledger).Holds (⟨world, .ready⟩ : Machine L) := h
  exact (ledger_kept hL).run_all hinitial inputs

/-- In every phase there is a ledger. -/
theorem Ledger.of_holds {machine : Machine L}
    (h : (relaxLaw Mended Tearable Ledger).Holds machine) : Ledger machine.world := by
  obtain ⟨world, phase⟩ := machine
  cases phase with
  | ready => exact h.1
  | running started locals => exact h.1
  | ended started => exact h.1
  | exited error => exact h

end

/-! ## A pipe that takes everything -/

/-- Every pass found room for what it had to write. -/
def Roomy (history : List (Effect L)) : Prop :=
  ∀ input, .took input ∈ history → input.outside.sink.room = none

section
variable {world : World L} {effect : Effect L} {history : List (Effect L)} {outside : Outside}

/-- An entry that records no input needs no room. -/
theorem Roomy.cons (heffect : effect.taken? = none) (h : Roomy history) :
    Roomy (effect :: history) := by
  intro input hinput
  rcases List.mem_cons.1 hinput with rfl | hinput
  · cases heffect
  · exact h input hinput

/-- The pass in progress is one of those. -/
theorem Roomy.lastOutside (h : Roomy history) (houtside : lastOutside history = some outside) :
    outside.sink.room = none := by
  induction history with
  | nil => cases houtside
  | cons effect history ih =>
    cases htaken : effect.taken? with
    | none =>
      rw [lastOutside_cons htaken] at houtside
      exact ih (fun input hinput => h input (List.mem_cons_of_mem _ hinput)) houtside
    | some input =>
      cases effect with
      | took input =>
        cases houtside
        exact h input List.mem_cons_self
      | _ => cases htaken

/-- A pass that finds room keeps it so. -/
theorem roomy_unbroken (houtside : outside.sink.room = none) :
    Unbroken settings outside (fun world : World L => Roomy world.history)
      fun world => Roomy world.history where
  weaken h := h
  took {world input} hinput h input' hinput' := by
    rcases List.mem_cons.1 hinput' with heq | hmem
    · cases heq
      rw [hinput, houtside]
    · exact h input' hmem
  note hminor h := h.cons (Effect.taken?_of_minor hminor)
  cleared h _ := World.clearSink_ends (fun _ _ _ => h.cons rfl) fun _ _ _ => h.cons rfl
  presented h _ _ := World.presentSink_ends (fun _ _ _ _ => h.cons rfl) fun _ _ _ => h.cons rfl
  refused h _ := h
  configured h _ := h.cons rfl

/-- Behind a pass that found room, so it is in whatever phase. -/
theorem roomy_kept : (worldLaw fun world : World L => Roomy world.history).Kept settings
    fun _ input => input.outside.sink.room = none :=
  relaxLaw_kept (fun _ _ h => roomy_unbroken h) (fun _ _ _ _ h => h.cons rfl)
    fun started outside world hroom hended => by
    have htook : Roomy (world.note (.took (.finish outside))).history := by
      intro input hinput
      rcases List.mem_cons.1 hinput with heq | hmem
      · cases heq
        exact hroom
      · exact hended input hmem
    exact World.finish_ends (World.clearSink_ends (fun _ _ _ _ => (htook.cons rfl).cons rfl)
      fun _ _ _ => htook.cons rfl)

/-- A call that returned has sent one packet more. -/
theorem packetsSent_cons (effect : Effect L) (history : List (Effect L)) :
    packetsSent (effect :: history) =
      packetsSent history ++ (effect.call?.map Call.packet).toList := by
  cases hcall : effect.call? with
  | none => simp [packetsSent, calls, List.filterMap_cons_none hcall]
  | some call => simp [packetsSent, calls, List.filterMap_cons_some hcall]

/-- What the newer entries have sent comes behind. -/
theorem packetsSent_append (new history : List (Effect L)) :
    packetsSent (new ++ history) = packetsSent history ++ packetsSent new := by
  simp [packetsSent, calls]

/-- A call that returned has sent a well-formed packet. -/
theorem sent_wellFormed (hentered : Always Entered history) {packet : FramePacket}
    (hpacket : packet ∈ packetsSent history) : packet.WellFormed := by
  obtain ⟨call, hmem, rfl⟩ := List.mem_map.1 hpacket
  obtain ⟨effect, heffect, hcall⟩ := List.mem_filterMap.1 (List.mem_reverse.1 hmem)
  obtain ⟨later, past, rfl⟩ := List.append_of_mem heffect
  have hbooked : Entered past effect := hentered.of_suffix (List.suffix_append _ _)
  cases hsegment : effect.segment? with
  | none =>
    cases hcall.symm.trans (Effect.call?_eq_none hsegment)
  | some segment =>
    rw [Effect.call?_packet hsegment hcall]
    exact (hbooked segment hsegment).wellFormed

/-- Then what went into the pipe are the packets of the calls that returned. -/
theorem Roomy.framed (hroomy : Roomy history) (hentered : Always Entered history) :
    (segments history).reverse.flatMap Segment.taken =
      packetCode.stream (packetsSent history) := by
  induction history with
  | nil => rfl
  | cons effect history ih =>
    have hpast : Roomy history := fun input hinput => hroomy input (List.mem_cons_of_mem _ hinput)
    have hstream := ih hpast hentered.2
    rw [packetsSent_cons]
    cases hsegment : effect.segment? with
    | none =>
      rw [segments_cons_none hsegment, Effect.call?_eq_none hsegment, Option.map_none,
        Option.toList_none, List.append_nil]
      exact hstream
    | some segment =>
      have hbooked := hentered.1 segment hsegment
      obtain ⟨outside, houtside, huntorn⟩ := hbooked.roomy
      rw [segments_cons_some hsegment, List.reverse_cons, List.flatMap_append, hstream,
        List.flatMap_singleton, Code.stream_append]
      rcases Segment.whole_or_nil (huntorn (hpast.lastOutside houtside)) with hwhole | hnil
      · obtain ⟨call, hcall⟩ := Option.isSome_iff_exists.1 (hbooked.whole_iff.1 hwhole)
        have hpacket : call.packet = segment.packet := Effect.call?_packet hsegment hcall
        rw [hcall, Option.map_some, Option.toList_some, hpacket, hwhole, Code.stream_cons,
          Code.stream_nil, List.append_nil]
        rfl
      · have hcall : effect.call? = none := by
          rw [← Option.not_isSome_iff_eq_none, ← hbooked.whole_iff]
          intro hwhole
          have hbytes : segment.packet.bytes = [] := hwhole.symm.trans hnil
          exact packetCode.encode_ne_nil hbooked.wellFormed hbytes
        rw [hcall, hnil, Option.map_none, Option.toList_none, Code.stream_nil,
          List.append_nil]

end

/-! ## With any failures -/

/-- In every run of an agent with a helper, whatever fails, the helper's stdin is what the pipe has
taken of the packets of the calls, in their order, and each call is entered: its packet is
well-formed, the pipe has taken a part of it from its start, the whole of it if and only if the call
returned; and if it is torn, the next call is the black packet of the same configuration. Wherever
the agent waits, the last packet is not torn. -/
theorem pipe_ledger (hL : L.Documented) {env : Environment} {fs : FileSystem}
    {spawn : Except IoError Bool} {world : World L}
    (hstart : startUp L env fs spawn = .ok (settings, world))
    (hhelper : settings.hub75Helper.isSome = true) (inputs : List (Input L)) {machine : Machine L}
    (hmachine : machine = Machine.run settings ⟨world, .ready⟩ inputs) :
    machine.world.sink.stdin =
        (segments machine.world.history).reverse.flatMap Segment.taken ∧
      Always Entered machine.world.history ∧
      (machine.Waits → ∀ segment, lastSegment machine.world.history = some segment →
        ¬ segment.Torn) := by
  have hholds : (relaxLaw Mended Tearable Ledger).Holds machine := by
    subst hmachine
    exact ledger_run hL (ledger_startUp hstart hhelper) inputs
  have hledger := Ledger.of_holds hholds
  exact ⟨hledger.stdin, hledger.entered, fun hwaits => (relaxLaw_waits hholds hwaits).2⟩

/-- The pipe takes a part of the first frame, and the clear behind the session mends it. -/
def tornOnce : List (Input Leddy.reference) :=
  [.connect (.calm ⟨0, 0⟩),
   .select (.incoming (.text (.ok (.show ⟨"m", 255, 3600000⟩)))) (.calm ⟨1000000, 1000000⟩),
   .select .frameTick { Outside.calm ⟨50000000, 50000000⟩ with
     sink := ⟨.ok none, some (700, ⟨.other, "broken pipe"⟩), .ok (), .complete⟩ },
   .finish (.calm ⟨60000000, 60000000⟩)]

/-- The first frame is torn, and the black packet behind it is whole. -/
theorem pipe_ledger_tornOnce :
    (Machine.run (.fromEnv helperEnvironment) ⟨.withHelper, .ready⟩ tornOnce).world.sink.stdin =
        (segments (Machine.run (.fromEnv helperEnvironment) ⟨.withHelper, .ready⟩
          tornOnce).world.history).reverse.flatMap Segment.taken ∧
      Always Entered (Machine.run (.fromEnv helperEnvironment) ⟨.withHelper, .ready⟩
        tornOnce).world.history ∧
      ((Machine.run (.fromEnv helperEnvironment) ⟨.withHelper, .ready⟩ tornOnce).Waits →
        ∀ segment, lastSegment (Machine.run (.fromEnv helperEnvironment) ⟨.withHelper, .ready⟩
          tornOnce).world.history = some segment → ¬ segment.Torn) := by
  have hstart : startUp Leddy.reference helperEnvironment (fun _ => .absent) (.ok true) =
      .ok (.fromEnv helperEnvironment, .withHelper) := rfl
  exact pipe_ledger Leddy.reference_documented hstart rfl tornOnce rfl

end LeddyRaspPi
