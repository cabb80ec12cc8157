import LeddyRaspPi.Files
import LeddyRaspPi.Packet

/-!
# The frame sinks

The snapshot sink and the HUB75 sink of `frame_sink.rs`. Whether the helper is found dead, how much
of a packet its stdin takes and whether a snapshot gets written is decided outside, so it is an
argument of a call (`SinkOutcome`). `FrameSink.present_ends` and `FrameSink.clear_ends` say what a
call does for either backend; the session proofs use nothing else about the sinks.
-/

namespace LeddyRaspPi

open Fallible

/-! ## The sinks -/

/-- `FrameStats`. -/
structure FrameStats where
  pixels : Nat
  litPixels : Nat
  deriving DecidableEq

/-- How the calls outside of one call of the sink go: what `try_wait` finds (the exit status of a
dead helper), how much of the packet the pipe takes, and the two file-system calls of the snapshot
backend. -/
structure SinkOutcome where
  tryWait : Except IoError (Option String)
  room : Option (Nat × IoError)
  createDir : Except IoError Unit
  write : WriteOutcome

/-- `SnapshotSink`. -/
structure SnapshotSink where
  snapshotPath : Option Path
  deriving DecidableEq

/-- `Hub75Sink`: what has gone into the helper's stdin. -/
structure Hub75Sink where
  stdin : List UInt8
  deriving DecidableEq

/-- `FrameSink`. -/
inductive FrameSink where
  | snapshot (sink : SnapshotSink)
  | hub75 (sink : Hub75Sink)
  deriving DecidableEq

/-- `encode_device_frame`. -/
def encodeDeviceFrame (L : Leddy) (config : DisplayConfig) (frame : L.FrameBuffer) : List UInt8 :=
  (L.deviceOrder frame).map fun pixel => if pixel = 0 then 0 else config.brightness

/-- `vec![0; config.pixel_count()]`. -/
def blankPixels (L : Leddy) (config : DisplayConfig) : List UInt8 :=
  List.replicate (L.pixelCount config) 0

namespace SnapshotSink

/-- `SnapshotSink::write_snapshot`. -/
def writeSnapshot (sink : SnapshotSink) (pixels : List UInt8) (outcome : SinkOutcome) :
    EStateM IoError FileSystem Unit :=
  match sink.snapshotPath with
  | none => pure ()
  | some path => do
    FileSystem.createParent path outcome.createDir
    FileSystem.write path pixels outcome.write

/-- `SnapshotSink::present`. -/
def present (L : Leddy) (sink : SnapshotSink) (config : DisplayConfig) (frame : L.FrameBuffer)
    (outcome : SinkOutcome) : EStateM IoError FileSystem FrameStats := do
  let pixels := encodeDeviceFrame L config frame
  let stats : FrameStats := ⟨pixels.length, pixels.countP (· ≠ 0)⟩
  sink.writeSnapshot pixels outcome
  pure stats

/-- `SnapshotSink::clear`. -/
def clear (L : Leddy) (sink : SnapshotSink) (config : DisplayConfig) (outcome : SinkOutcome) :
    EStateM IoError FileSystem Unit :=
  sink.writeSnapshot (blankPixels L config) outcome

end SnapshotSink

namespace Hub75Sink

/-- `Hub75Sink::spawn`. `outcome` says whether the process starts and whether it has a stdin. -/
def spawn (outcome : Except IoError Bool) : Except IoError Hub75Sink := do
  let piped ← outcome
  if piped then pure ⟨[]⟩ else throw ⟨.other, "HUB75 helper did not expose stdin"⟩

/-- `Hub75Sink::ensure_running`. -/
def ensureRunning (outcome : SinkOutcome) : EStateM IoError Hub75Sink Unit :=
  match outcome.tryWait with
  | .error error => throw error
  | .ok none => pure ()
  | .ok (some status) => throw ⟨.brokenPipe, s!"HUB75 helper exited with {status}"⟩

/-- `write_hub75_packet(&mut self.stdin, ..)`. -/
def writePacket (L : Leddy) (config : DisplayConfig) (pixels : List UInt8)
    (outcome : SinkOutcome) : EStateM IoError Hub75Sink Unit :=
  focus (fun sink => (⟨sink.stdin, outcome.room⟩ : ChildStdin)) (fun stdin _ => ⟨stdin.written⟩)
    (writeHub75Packet L config pixels)

/-- `Hub75Sink::present`. -/
def present (L : Leddy) (config : DisplayConfig) (frame : L.FrameBuffer) (outcome : SinkOutcome) :
    EStateM IoError Hub75Sink FrameStats := do
  ensureRunning outcome
  let pixels := L.rowMajor frame
  writePacket L config pixels outcome
  pure ⟨pixels.length, pixels.countP (· ≠ 0)⟩

/-- `Hub75Sink::clear`. -/
def clear (L : Leddy) (config : DisplayConfig) (outcome : SinkOutcome) :
    EStateM IoError Hub75Sink Unit := do
  ensureRunning outcome
  writePacket L config (blankPixels L config) outcome

end Hub75Sink

namespace FrameSink

/-- `FrameSink::new`. -/
def new (snapshotPath hub75Helper : Option Path) (spawn : Except IoError Bool) :
    Except IoError FrameSink :=
  match hub75Helper with
  | some _ => (Hub75Sink.spawn spawn).map .hub75
  | none => .ok (.snapshot ⟨snapshotPath⟩)

/-- Runs a method of the HUB75 sink. -/
def onHub75 {α : Type} (sink : Hub75Sink) :
    EStateM IoError Hub75Sink α → EStateM IoError (FrameSink × FileSystem) α :=
  focus (fun _ => sink) fun sink s => (.hub75 sink, s.2)

/-- Runs a method of the snapshot sink, which changes files only. -/
def onSnapshot {α : Type} :
    EStateM IoError FileSystem α → EStateM IoError (FrameSink × FileSystem) α :=
  focus Prod.snd fun fs s => (s.1, fs)

/-- `FrameSink::present`. -/
def present (L : Leddy) (config : DisplayConfig) (frame : L.FrameBuffer) (outcome : SinkOutcome) :
    EStateM IoError (FrameSink × FileSystem) FrameStats := do
  match (← get).1 with
  | .snapshot sink => onSnapshot (sink.present L config frame outcome)
  | .hub75 sink => onHub75 sink (Hub75Sink.present L config frame outcome)

/-- `FrameSink::clear`. -/
def clear (L : Leddy) (config : DisplayConfig) (outcome : SinkOutcome) :
    EStateM IoError (FrameSink × FileSystem) Unit := do
  match (← get).1 with
  | .snapshot sink => onSnapshot (sink.clear L config outcome)
  | .hub75 sink => onHub75 sink (Hub75Sink.clear L config outcome)

/-- The file a sink writes to. -/
def snapshotPath : FrameSink → Option Path
  | .snapshot sink => sink.snapshotPath
  | .hub75 _ => none

/-- What a call has sent to the display: what it added to the helper's stdin, or what the snapshot
file holds afterwards. -/
def sent (before after : FrameSink × FileSystem) : List UInt8 :=
  match before.1, after.1 with
  | .hub75 old, .hub75 new => new.stdin.drop old.stdin.length
  | .snapshot ⟨some path⟩, _ =>
    match after.2 path with
    | .file bytes => bytes
    | _ => []
  | _, _ => []

/-- What a display is sent to show the pixels `rowMajor` of a frame, or `device` in chain order. -/
def encoding (sink : FrameSink) (config : DisplayConfig) (rowMajor device : List UInt8) :
    List UInt8 :=
  match sink with
  | .hub75 _ => packetBytes config rowMajor
  | .snapshot ⟨some _⟩ => device
  | .snapshot ⟨none⟩ => []

end FrameSink

/-! ## What a call of a sink does -/

/-- The packets of a 16-bit geometry fit a 32-bit length. -/
theorem Leddy.CountsPixels.lt_size {L : Leddy} (hL : L.CountsPixels)
    (config : DisplayConfig) :
    L.pixelCount config < UInt32.size := by
  have hwidth := config.width.toNat_lt
  have hheight := config.height.toNat_lt
  rw [hL config]
  calc config.width.toNat * config.height.toNat
      ≤ (2 ^ 16 - 1) * (2 ^ 16 - 1) := Nat.mul_le_mul (by omega) (by omega)
    _ < UInt32.size := by decide

/-- The helper is running and the pipe takes the next `n` bytes. -/
def SinkOutcome.Takes (outcome : SinkOutcome) (n : Nat) : Prop :=
  outcome.tryWait = .ok none ∧ ∀ room error, outcome.room = some (room, error) → n ≤ room

instance (outcome : SinkOutcome) (n : Nat) : Decidable (outcome.Takes n) :=
  match hroom : outcome.room with
  | none => decidable_of_iff (outcome.tryWait = .ok none) (by simp [SinkOutcome.Takes, hroom])
  | some (room, error) =>
    decidable_of_iff (outcome.tryWait = .ok none ∧ n ≤ room) (by simp [SinkOutcome.Takes, hroom])

/-- The HUB75 backend. -/
def FrameSink.isHub75 : FrameSink → Bool
  | .snapshot _ => false
  | .hub75 _ => true

/-- A call of a sink writes nothing but the snapshot file, and the sink keeps its kind. -/
structure OnlySnapshot (before after : FrameSink × FileSystem) : Prop where
  kind : after.1.isHub75 = before.1.isHub75
  path : after.1.snapshotPath = before.1.snapshotPath
  files : ∀ p, before.1.snapshotPath ≠ some p → after.2 p = before.2 p

/-- The pipe takes a whole write if there is room for it, and otherwise a prefix. -/
theorem ChildStdin.writeAll_ends (bytes : List UInt8) (stdin : ChildStdin) :
    Ends (Write.writeAll bytes : EStateM IoError ChildStdin Unit) stdin
      (fun _ stdin' => stdin'.written = stdin.written ++ bytes ∧
        ∀ room error, stdin.room = some (room, error) → bytes.length ≤ room)
      (fun _ stdin' => (∃ n, stdin'.written = stdin.written ++ bytes.take n) ∧
        ∃ room error, stdin.room = some (room, error) ∧ room < bytes.length) := by
  obtain ⟨written, room⟩ := stdin
  cases room with
  | none => exact ⟨rfl, fun _ _ h => (Option.some_ne_none _ h.symm).elim⟩
  | some room =>
    obtain ⟨room, error⟩ := room
    by_cases hroom : bytes.length ≤ room
    · simp [Ends, Write.writeAll, hroom]
    · simp only [Ends, Write.writeAll, hroom, if_false]
      exact ⟨⟨room, rfl⟩, room, error, rfl, by omega⟩

namespace Hub75Sink

variable {L : Leddy} {config : DisplayConfig} {pixels : List UInt8} {outcome : SinkOutcome}
  {sink : Hub75Sink}

/-- What writing a packet does: returning, it has written the whole packet; failing, at most a
prefix of it. With a frame of the right length it fails only where the pipe does. -/
theorem writePacket_ends :
    Ends (writePacket L config pixels outcome) sink
      (fun _ sink' => pixels.length = L.pixelCount config ∧
        sink'.stdin = sink.stdin ++ packetBytes config pixels ∧
        ∀ room error, outcome.room = some (room, error) → 20 + pixels.length ≤ room)
      (fun _ sink' => (∃ n, sink'.stdin = sink.stdin ++ (packetBytes config pixels).take n) ∧
        (pixels.length = L.pixelCount config → pixels.length < UInt32.size →
          ∃ room error, outcome.room = some (room, error) ∧ room < 20 + pixels.length)) := by
  rw [writePacket, ends_focus]
  by_cases hlen : pixels.length = L.pixelCount config
  · by_cases hsize : pixels.length < UInt32.size
    · rw [writeHub75Packet_eq hlen hsize]
      refine (ChildStdin.writeAll_ends _ _).mono ?_ ?_
      · intro _ stdin h
        obtain ⟨hwritten, hroom⟩ := h
        exact ⟨hlen, hwritten, by simpa using hroom⟩
      · intro _ stdin h
        obtain ⟨hwritten, hroom⟩ := h
        exact ⟨hwritten, fun _ _ => by simpa using hroom⟩
    · simp only [writeHub75Packet, ends_bind, ends_require, payloadLen, if_neg hsize, ends_ofExcept]
      refine ⟨fun _ => ⟨fun _ h => ?_, fun _ _ => ⟨⟨0, by simp⟩, fun _ h => absurd h hsize⟩⟩,
        fun h => absurd hlen h⟩
      cases h
  · rw [Ends, writeHub75Packet_wrong_length hlen]
    exact ⟨⟨0, by simp⟩, fun h => absurd h hlen⟩

/-- A helper that has exited is noticed before anything is written. -/
theorem ensureRunning_ends :
    Ends (ensureRunning outcome) sink
      (fun _ sink' => sink' = sink ∧ outcome.tryWait = .ok none)
      (fun _ sink' => sink' = sink ∧ outcome.tryWait ≠ .ok none) := by
  unfold ensureRunning
  split <;> simp [*]

/-- What `present` does: returning, the helper was running and has the whole packet. -/
theorem present_ends {frame : L.FrameBuffer} :
    Ends (present L config frame outcome) sink
      (fun stats sink' => outcome.Takes (20 + (L.rowMajor frame).length) ∧
        (L.rowMajor frame).length = L.pixelCount config ∧
        sink'.stdin = sink.stdin ++ packetBytes config (L.rowMajor frame) ∧
        stats = ⟨(L.rowMajor frame).length, (L.rowMajor frame).countP (· ≠ 0)⟩)
      (fun _ sink' => ∃ n,
        sink'.stdin = sink.stdin ++ (packetBytes config (L.rowMajor frame)).take n) := by
  simp only [present, ends_bind, ends_pure]
  refine ensureRunning_ends.mono ?_ ?_
  · intro _ _ h
    obtain ⟨rfl, hwait⟩ := h
    refine writePacket_ends.mono ?_ ?_
    · intro _ sink' h
      obtain ⟨hlen, hstdin, hroom⟩ := h
      exact ⟨⟨hwait, hroom⟩, hlen, hstdin, trivial⟩
    · intro _ _ h
      obtain ⟨h, _⟩ := h
      exact h
  · intro _ _ h
    obtain ⟨rfl, _⟩ := h
    exact ⟨0, by simp⟩

/-- What `clear` does: returning, the helper was running and has a whole black packet. -/
theorem clear_ends :
    Ends (clear L config outcome) sink
      (fun _ sink' => outcome.Takes (20 + L.pixelCount config) ∧
        sink'.stdin = sink.stdin ++ packetBytes config (blankPixels L config))
      (fun _ sink' => (∃ n,
          sink'.stdin = sink.stdin ++ (packetBytes config (blankPixels L config)).take n) ∧
        (L.pixelCount config < UInt32.size → ¬ outcome.Takes (20 + L.pixelCount config))) := by
  simp only [clear, ends_bind]
  refine ensureRunning_ends.mono ?_ ?_
  · intro _ _ h
    obtain ⟨rfl, hwait⟩ := h
    refine writePacket_ends.mono ?_ ?_
    · intro _ sink' h
      obtain ⟨_, hstdin, hroom⟩ := h
      exact ⟨⟨hwait, by simpa [blankPixels] using hroom⟩, hstdin⟩
    · intro _ _ h
      obtain ⟨hsent, hfail⟩ := h
      refine ⟨hsent, fun hsize htakes => ?_⟩
      obtain ⟨room, error, hroom, hlt⟩ := hfail (by simp [blankPixels]) (by simpa [blankPixels])
      have hle := htakes.2 room error hroom
      simp only [blankPixels, List.length_replicate] at hlt
      omega
  · intro _ _ h
    obtain ⟨rfl, hwait⟩ := h
    exact ⟨⟨0, by simp⟩, fun _ htakes => hwait htakes.1⟩

end Hub75Sink

/-- What writing a snapshot does: only the snapshot file changes, and returning it holds the
pixels. -/
theorem SnapshotSink.writeSnapshot_ends (sink : SnapshotSink) (pixels : List UInt8)
    (outcome : SinkOutcome) (fs : FileSystem) :
    Ends (sink.writeSnapshot pixels outcome) fs
      (fun _ fs' => (∀ p, sink.snapshotPath ≠ some p → fs' p = fs p) ∧
        ∀ p, sink.snapshotPath = some p → fs' p = .file pixels)
      (fun _ fs' => ∀ p, sink.snapshotPath ≠ some p → fs' p = fs p) := by
  unfold writeSnapshot
  cases hpath : sink.snapshotPath with
  | none => simp
  | some path =>
    simp only [ends_bind]
    refine (FileSystem.createParent_ends path outcome.createDir fs).mono ?_ fun _ _ h _ _ => by
      rw [h]
    intro _ _ h
    obtain rfl := h
    refine (FileSystem.write_ends path pixels outcome.write _).mono ?_ ?_
    · intro _ _ h
      obtain rfl := h
      refine ⟨fun p hp => Function.update_of_ne (by simpa using Ne.symm hp) _ _, ?_⟩
      intro p hp
      cases hp
      exact Function.update_self ..
    · intro _ fs' hother p hp
      exact hother p (by simpa using Ne.symm hp)

namespace FrameSink

variable {L : Leddy} {config : DisplayConfig} {outcome : SinkOutcome} {fs : FileSystem}

section
variable {α : Type} {Q : α → FrameSink × FileSystem → Prop}
  {E : IoError → FrameSink × FileSystem → Prop}

/-- What is run on the helper's sink leaves the files alone. -/
theorem ends_onHub75 {sink : Hub75Sink} (m : EStateM IoError Hub75Sink α) :
    Ends (onHub75 sink m) (.hub75 sink, fs) Q E ↔
      Ends m sink (fun a t => Q a (.hub75 t, fs)) (fun e t => E e (.hub75 t, fs)) := ends_focus ..

/-- What is run on the files leaves the snapshot sink alone. -/
theorem ends_onSnapshot {sink : SnapshotSink} (m : EStateM IoError FileSystem α) :
    Ends (onSnapshot m) (.snapshot sink, fs) Q E ↔
      Ends m fs (fun a t => Q a (.snapshot sink, t)) (fun e t => E e (.snapshot sink, t)) :=
  ends_focus ..

end

variable {sink : FrameSink}

/-- A `present` that returns has sent the whole frame; no `present` writes anything but the
snapshot file. -/
theorem present_ends {frame : L.FrameBuffer} :
    Ends (present L config frame outcome) (sink, fs)
      (fun _ after => OnlySnapshot (sink, fs) after ∧ sent (sink, fs) after =
        sink.encoding config (L.rowMajor frame) (encodeDeviceFrame L config frame))
      (fun _ after => OnlySnapshot (sink, fs) after) := by
  cases sink with
  | hub75 sink =>
    rw [present, ends_bind, ends_get]
    refine (ends_onHub75 _).2 (Hub75Sink.present_ends.mono ?_ ?_)
    · intro _ sink' h
      obtain ⟨-, -, hstdin, -⟩ := h
      exact ⟨⟨rfl, rfl, fun _ _ => rfl⟩, by simp [sent, encoding, hstdin]⟩
    · exact fun _ _ _ => ⟨rfl, rfl, fun _ _ => rfl⟩
  | snapshot sink =>
    rw [present, ends_bind, ends_get]
    refine (ends_onSnapshot _).2 ?_
    rw [SnapshotSink.present, ends_bind]
    refine (SnapshotSink.writeSnapshot_ends _ _ _ _).mono ?_ fun _ _ h => ⟨rfl, rfl, h⟩
    intro _ fs' h
    obtain ⟨hother, hfile⟩ := h
    refine ⟨⟨rfl, rfl, hother⟩, ?_⟩
    obtain ⟨_ | path⟩ := sink
    · rfl
    · simp [sent, encoding, hfile path rfl]

/-- A `clear` that returns has sent a black frame; no `clear` writes anything but the snapshot
file. -/
theorem clear_ends :
    Ends (clear L config outcome) (sink, fs)
      (fun _ after => OnlySnapshot (sink, fs) after ∧ sent (sink, fs) after =
        sink.encoding config (blankPixels L config) (blankPixels L config))
      (fun _ after => OnlySnapshot (sink, fs) after) := by
  cases sink with
  | hub75 sink =>
    rw [clear, ends_bind, ends_get]
    refine (ends_onHub75 _).2 (Hub75Sink.clear_ends.mono ?_ ?_)
    · intro _ sink' h
      obtain ⟨-, hstdin⟩ := h
      exact ⟨⟨rfl, rfl, fun _ _ => rfl⟩, by simp [sent, encoding, hstdin]⟩
    · exact fun _ _ _ => ⟨rfl, rfl, fun _ _ => rfl⟩
  | snapshot sink =>
    rw [clear, ends_bind, ends_get]
    refine (ends_onSnapshot _).2 ?_
    rw [SnapshotSink.clear]
    refine (SnapshotSink.writeSnapshot_ends _ _ _ _).mono ?_ fun _ _ h => ⟨rfl, rfl, h⟩
    intro _ fs' h
    obtain ⟨hother, hfile⟩ := h
    refine ⟨⟨rfl, rfl, hother⟩, ?_⟩
    obtain ⟨_ | path⟩ := sink
    · rfl
    · simp [sent, encoding, hfile path rfl]

end FrameSink

end LeddyRaspPi
