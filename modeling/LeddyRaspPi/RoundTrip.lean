import LeddyRaspPi.Helper.Grammar
import LeddyRaspPi.Reference

/-!
# The encoder and the decoder of `LEDDYF01`

The agent encodes packets in Rust, the helper decodes them in C++. `framePacket` says which packet a
configuration and its pixels are written as. The well-formed packets of the decoder are exactly the
packets the encoder writes (`exists_framePacket`), so the general facts about the code of packets
say what the decoder makes of any string, and of any cut of the encoder's output.
-/

namespace LeddyRaspPi

open Fallible Helper

/-! ## What a frame is written as -/

/-- The geometry the protocol can carry. -/
structure DisplayConfig.InRange (config : DisplayConfig) : Prop where
  width : 1 ≤ config.width.toNat ∧ config.width.toNat ≤ 300
  height : 1 ≤ config.height.toNat ∧ config.height.toNat ≤ 20

/-- The packet a frame is written as. -/
def framePacket (config : DisplayConfig) (pixels : List UInt8) : FramePacket where
  origin := originCode config.origin
  serpentine := config.serpentine
  brightness := config.brightness
  width := config.width
  height := config.height
  pixels := pixels

/-- The packet of a frame is written as the bytes the agent writes. -/
theorem framePacket_bytes (config : DisplayConfig) (pixels : List UInt8) :
    (framePacket config pixels).bytes = packetBytes config pixels := rfl

/-- An origin is one of four. -/
theorem originCode_le (origin : PixelOrigin) : originCode origin ≤ 3 := by
  cases origin <;> decide

/-- No two origins have one code. -/
theorem originCode_inj {a b : PixelOrigin} (h : originCode a = originCode b) : a = b := by
  cases a <;> cases b <;> first | rfl | exact absurd h (by decide)

/-- Every origin byte the decoder accepts is the code of an origin. -/
theorem exists_originCode {code : UInt8} (h : code ≤ 3) : ∃ origin, originCode origin = code := by
  have hle : code.toNat ≤ 3 := by simpa [UInt8.le_iff_toNat_le] using h
  have hcases : code = 0 ∨ code = 1 ∨ code = 2 ∨ code = 3 := by
    simp only [← UInt8.toNat_inj]
    have h0 : UInt8.toNat 0 = 0 := rfl
    have h1 : UInt8.toNat 1 = 1 := rfl
    have h2 : UInt8.toNat 2 = 2 := rfl
    have h3 : UInt8.toNat 3 = 3 := rfl
    omega
  rcases hcases with rfl | rfl | rfl | rfl
  exacts [⟨.topLeft, rfl⟩, ⟨.topRight, rfl⟩, ⟨.bottomLeft, rfl⟩, ⟨.bottomRight, rfl⟩]

/-- A frame in range is written as a well-formed packet. -/
theorem framePacket_wellFormed {config : DisplayConfig} {pixels : List UInt8}
    (hrange : config.InRange) (hlen : pixels.length = config.width.toNat * config.height.toNat) :
    (framePacket config pixels).WellFormed :=
  ⟨originCode_le _, hrange.width, hrange.height, hlen⟩

/-- A well-formed packet is what some frame in range is written as. -/
theorem exists_framePacket {packet : FramePacket} (h : packet.WellFormed) :
    ∃ config : DisplayConfig, config.InRange ∧
      packet.pixels.length = config.width.toNat * config.height.toNat ∧
      framePacket config packet.pixels = packet := by
  obtain ⟨origin, horigin⟩ := exists_originCode h.origin
  refine ⟨⟨packet.width, packet.height, packet.brightness, packet.serpentine, origin, none⟩,
    ⟨h.width, h.height⟩, h.pixels, ?_⟩
  rw [framePacket, horigin]

/-- The packet determines the wiring and the pixels it was written for. -/
theorem framePacket_inj {config config' : DisplayConfig} {pixels pixels' : List UInt8}
    (h : framePacket config pixels = framePacket config' pixels') :
    config.wiring = config'.wiring ∧ pixels = pixels' := by
  simp only [framePacket, FramePacket.mk.injEq] at h
  obtain ⟨horigin, hserpentine, hbrightness, hwidth, hheight, hpixels⟩ := h
  simp only [DisplayConfig.wiring, Wiring.mk.injEq]
  exact ⟨⟨hwidth, hheight, hbrightness, hserpentine, originCode_inj horigin⟩, hpixels⟩

/-- Into memory, a frame in range is written as its packet, behind what is there. -/
theorem writeHub75Packet_vec {L : Leddy} (hL : L.CountsPixels) {config : DisplayConfig}
    {pixels : List UInt8} (hrange : config.InRange)
    (hlen : pixels.length = config.width.toNat * config.height.toNat) (written : List UInt8) :
    writeHub75Packet L config pixels written =
      .ok () (written ++ packetBytes config pixels) := by
  have harea : config.width.toNat * config.height.toNat ≤ 300 * 20 :=
    Nat.mul_le_mul hrange.width.2 hrange.height.2
  have hsize : pixels.length < UInt32.size := by
    rw [hlen]
    exact Nat.lt_of_le_of_lt harea (by decide)
  rw [writeHub75Packet_eq (hlen.trans (hL config).symm) hsize]
  rfl

/-! ## Every string on the helper's input -/

/-- `written` is what `write_hub75_packet` writes for a frame in range. -/
structure Encodes (L : Leddy) (config : DisplayConfig) (pixels written : List UInt8) : Prop where
  range : config.InRange
  length : pixels.length = config.width.toNat * config.height.toNat
  run : writeHub75Packet L config pixels ([] : List UInt8) = .ok () written

/-- The encoder writes a frame's packet and nothing else. -/
theorem encodes_iff {L : Leddy} (hL : L.CountsPixels) {config : DisplayConfig}
    {pixels written : List UInt8} : Encodes L config pixels written ↔
      config.InRange ∧ pixels.length = config.width.toNat * config.height.toNat ∧
        written = packetBytes config pixels := by
  constructor
  · intro h
    obtain ⟨hrange, hlen, hrun⟩ := h
    rw [writeHub75Packet_vec hL hrange hlen] at hrun
    cases hrun
    exact ⟨hrange, hlen, rfl⟩
  · intro h
    obtain ⟨hrange, hlen, rfl⟩ := h
    exact ⟨hrange, hlen, writeHub75Packet_vec hL hrange hlen []⟩

/-- A string begins with a packet of the code exactly if it begins with an encoder output. -/
theorem begins_iff {L : Leddy} (hL : L.CountsPixels) {s : List UInt8} :
    packetCode.Begins s ↔
      ∃ config pixels written rest, Encodes L config pixels written ∧ s = written ++ rest := by
  constructor
  · intro h
    obtain ⟨packet, rest, hwf, rfl⟩ := h
    obtain ⟨config, hrange, hlen, hpacket⟩ := exists_framePacket hwf
    refine ⟨config, packet.pixels, _, rest, (encodes_iff hL).2 ⟨hrange, hlen, rfl⟩, ?_⟩
    rw [← framePacket_bytes, hpacket]
    rfl
  · intro h
    obtain ⟨config, pixels, written, rest, hencodes, rfl⟩ := h
    obtain ⟨hrange, hlen, rfl⟩ := (encodes_iff hL).1 hencodes
    exact ⟨framePacket config pixels, rest, framePacket_wellFormed hrange hlen, rfl⟩

/-- `read_packet` accepts exactly the encoder's outputs, whatever follows them: it returns true iff
the input begins with one, which is then unique, is what was consumed and is what the argument
holds; it returns false iff the input is empty and throws otherwise, and then the argument is as it
was. -/
theorem readPacket_accepts_encodings {L : Leddy} (hL : L.CountsPixels) (s : List UInt8)
    (previous : FramePacket) :
    ((∃ reader', readPacket ⟨.ofBytes s, previous⟩ = .ok true reader') ↔
      ∃ config pixels written rest, Encodes L config pixels written ∧ s = written ++ rest) ∧
    (∀ config pixels written rest, Encodes L config pixels written → s = written ++ rest →
      ∃ input, readPacket ⟨.ofBytes s, previous⟩ = .ok true ⟨input, framePacket config pixels⟩ ∧
        input.rest = rest ∧
        ∀ config' pixels' written' rest', Encodes L config' pixels' written' →
          s = written' ++ rest' →
          written' = written ∧ config'.wiring = config.wiring ∧ pixels' = pixels) ∧
    ((∃ reader', readPacket ⟨.ofBytes s, previous⟩ = .ok false reader') ↔ s = []) ∧
    ((∃ e reader', readPacket ⟨.ofBytes s, previous⟩ = .error e reader') ↔
      s ≠ [] ∧
        ¬ ∃ config pixels written rest, Encodes L config pixels written ∧ s = written ++ rest) ∧
    (∀ reader', (readPacket ⟨.ofBytes s, previous⟩ = .ok false reader' ∨
        ∃ e, readPacket ⟨.ofBytes s, previous⟩ = .error e reader') →
      reader'.packet = previous) := by
  have hgood : (IStream.ofBytes s).Good := ⟨rfl, rfl⟩
  rw [← begins_iff hL]
  by_cases hbegins : packetCode.Begins s
  · -- The input begins with a packet, and that is what is read.
    obtain ⟨packet, rest, hwf, hs⟩ := hbegins
    have hne : s ≠ [] := by
      intro h
      obtain rfl := h
      exact Code.not_begins_nil ⟨packet, rest, hwf, hs⟩
    obtain ⟨n, hread⟩ := @readPacket_bytes ⟨.ofBytes s, previous⟩ packet rest hgood hwf hs
    have hunique : ∀ config pixels written rest', Encodes L config pixels written →
        s = written ++ rest' → framePacket config pixels = packet ∧ rest' = rest ∧
          written = packet.bytes := by
      intro config pixels written rest' hencodes hs'
      obtain ⟨hrange, hlen, rfl⟩ := (encodes_iff hL).1 hencodes
      obtain ⟨rfl, hrest⟩ := packetCode.encode_inj (framePacket_wellFormed hrange hlen) hwf
        (hs'.symm.trans hs)
      exact ⟨rfl, hrest, rfl⟩
    rw [hread]
    refine ⟨⟨fun _ => ⟨packet, rest, hwf, hs⟩, fun _ => ⟨_, rfl⟩⟩, ?_,
      ⟨nofun, fun h => absurd h hne⟩, ⟨nofun, fun h => absurd ⟨packet, rest, hwf, hs⟩ h.2⟩,
      by rintro _ (h | ⟨_, h⟩) <;> cases h⟩
    intro config pixels written rest' hencodes hs'
    obtain ⟨hpacket, rfl, hwritten⟩ := hunique _ _ _ _ hencodes hs'
    refine ⟨_, by rw [hpacket], rfl, ?_⟩
    intro config' pixels' written' rest'' hencodes' hs''
    obtain ⟨hpacket', -, hwritten'⟩ := hunique _ _ _ _ hencodes' hs''
    obtain ⟨hwiring, hpixels⟩ := framePacket_inj (hpacket'.trans hpacket.symm)
    exact ⟨hwritten'.trans hwritten.symm, hwiring, hpixels⟩
  · have hnone : ¬ ∃ config pixels written rest, Encodes L config pixels written ∧
        s = written ++ rest := fun h => hbegins ((begins_iff hL).2 h)
    have hvacuous : ∀ config pixels written rest, Encodes L config pixels written →
        s = written ++ rest → False :=
      fun config pixels written rest h h' => hnone ⟨config, pixels, written, rest, h, h'⟩
    rcases @readPacket_stuck ⟨.ofBytes s, previous⟩ hgood hbegins with
      ⟨hnil, input, hread⟩ | ⟨hne, e, input, hread⟩
    · rw [hread]
      refine ⟨⟨nofun, fun h => absurd h hbegins⟩,
        fun c p w r h h' => (hvacuous c p w r h h').elim, ⟨fun _ => hnil, fun _ => ⟨_, rfl⟩⟩,
        ⟨nofun, fun h => absurd hnil h.1⟩, ?_⟩
      rintro _ (h | ⟨_, h⟩) <;> cases h
      rfl
    · rw [hread]
      refine ⟨⟨nofun, fun h => absurd h hbegins⟩,
        fun c p w r h h' => (hvacuous c p w r h h').elim, ⟨nofun, fun h => absurd h hne⟩,
        ⟨fun _ => ⟨hne, hbegins⟩, fun _ => ⟨_, _, rfl⟩⟩, ?_⟩
      rintro _ (h | ⟨_, h⟩) <;> cases h
      rfl

/-- The packet of the unit test of the protocol. -/
def samplePacket : DisplayConfig × List UInt8 :=
  (⟨3, 2, 96, true, .bottomRight, none⟩, [1, 2, 3, 4, 5, 6])

/-- The sample packet keeps to the ranges of the header. -/
theorem samplePacket_inRange : samplePacket.1.InRange := ⟨by decide, by decide⟩

/-- The unit test's packet, followed by half of another one, is accepted. -/
theorem readPacket_accepts_sample :
    ∃ reader', readPacket ⟨.ofBytes (packetBytes samplePacket.1 samplePacket.2 ++ [76, 69]), {}⟩ =
      .ok true reader' :=
  (readPacket_accepts_encodings Leddy.reference_countsPixels _ _).1.2
    ⟨samplePacket.1, samplePacket.2, _, [76, 69],
      (encodes_iff Leddy.reference_countsPixels).2 ⟨samplePacket_inRange, rfl, rfl⟩, rfl⟩

/-! ## A stream of packets, cut anywhere -/

/-- Writes frame after frame with `write_hub75_packet`. -/
def writeFrames {W : Type} [Write W] (L : Leddy) :
    List (DisplayConfig × List UInt8) → EStateM IoError W Unit
  | [] => pure ()
  | frame :: frames => do
    writeHub75Packet L frame.1 frame.2
    writeFrames L frames

/-- The packets of a sequence of frames. -/
def framePackets (frames : List (DisplayConfig × List UInt8)) : List FramePacket :=
  frames.map fun frame => framePacket frame.1 frame.2

/-- The first packets are those of the first frames. -/
theorem framePackets_take (frames : List (DisplayConfig × List UInt8)) (n : Nat) :
    framePackets (frames.take n) = (framePackets frames).take n :=
  List.map_take

/-- Frames the protocol can carry. -/
def InRangeFrames (frames : List (DisplayConfig × List UInt8)) : Prop :=
  ∀ frame ∈ frames, frame.1.InRange ∧
    frame.2.length = frame.1.width.toNat * frame.1.height.toNat

/-- Frames in range are written one after the other, and none of them fails. -/
theorem writeFrames_vec {L : Leddy} (hL : L.CountsPixels)
    {frames : List (DisplayConfig × List UInt8)} (hframes : InRangeFrames frames)
    (written : List UInt8) :
    writeFrames L frames written =
      .ok () (written ++ packetCode.stream (framePackets frames)) := by
  induction frames generalizing written with
  | nil => simp [writeFrames, framePackets, pure, EStateM.pure]
  | cons frame frames ih =>
    obtain ⟨hrange, hlen⟩ := hframes frame (by simp)
    simp only [writeFrames, Bind.bind, EStateM.bind, writeHub75Packet_vec hL hrange hlen,
      ih fun f hf => hframes f (by simp [hf])]
    rw [List.append_assoc]
    rfl

/-- Frames in range give packets that the helper accepts. -/
theorem framePackets_wellFormed {frames : List (DisplayConfig × List UInt8)}
    (hframes : InRangeFrames frames) : ∀ packet ∈ framePackets frames, packet.WellFormed := by
  intro packet hpacket
  obtain ⟨frame, hframe, rfl⟩ := List.mem_map.1 hpacket
  exact framePacket_wellFormed (hframes frame hframe).1 (hframes frame hframe).2

/-- **The round trip.** The encoder writes any sequence of frames in range; `bytes i` are the bytes
of the first `i` of them. Of this stream cut at any byte `k` the decoder reads, in order, the packets
that end inside the cut, each as it was written, and then returns false if the cut is the end of a
packet and throws otherwise. And the encoder refuses a frame of the wrong length before it has
written a byte, whatever it writes to. -/
theorem hub75_stream_roundTrip {L : Leddy} (hL : L.CountsPixels)
    {frames : List (DisplayConfig × List UInt8)} (hframes : InRangeFrames frames) :
    (∃ bytes : Nat → List UInt8,
      (∀ i, writeFrames L (frames.take i) ([] : List UInt8) = .ok () (bytes i)) ∧
      ∀ k ≤ (bytes frames.length).length, ∃ n ≤ frames.length,
        (∀ i < frames.length, (bytes (i + 1)).length ≤ k ↔ i < n) ∧
        ∀ previous, ∃ reader',
          Reads ⟨.ofBytes ((bytes frames.length).take k), previous⟩
            (framePackets (frames.take n)) reader' ∧
          ((∃ m ≤ frames.length, k = (bytes m).length) →
            ∃ reader'', readPacket reader' = .ok false reader'') ∧
          ((¬ ∃ m ≤ frames.length, k = (bytes m).length) →
            ∃ e reader'', readPacket reader' = .error e reader'')) ∧
    ∀ (W : Type) [Write W] (w : W) (config : DisplayConfig) (pixels : List UInt8),
      pixels.length ≠ L.pixelCount config →
        ∃ e, writeHub75Packet L config pixels w = .error e w ∧ e.kind = .invalidInput := by
  refine ⟨⟨fun i => packetCode.stream ((framePackets frames).take i), fun i => ?_, ?_⟩,
    fun W _ w config pixels hlen => ⟨_, writeHub75Packet_wrong_length hlen w, rfl⟩⟩
  · rw [writeFrames_vec hL fun f hf => hframes f (List.mem_of_mem_take hf)]
    rw [framePackets_take, List.nil_append]
  · intro k hk
    have hcount : frames.length = (framePackets frames).length := by simp [framePackets]
    dsimp only at hk ⊢
    rw [hcount, List.take_length] at hk
    obtain ⟨n, rest, hn, hends, hleading, hrest⟩ :=
      Code.leading_take (C := packetCode) (framePackets_wellFormed hframes) hk
    refine ⟨n, by rwa [hcount], by rwa [hcount], fun previous => ?_⟩
    obtain ⟨reader', hreads, hgood', hrest'⟩ :=
      @reads_leading ⟨.ofBytes ((packetCode.stream (framePackets frames)).take k), previous⟩
        _ _ ⟨rfl, rfl⟩ hleading
    rw [hcount, ← hrest, List.take_length]
    refine ⟨reader', by rwa [framePackets_take], ?_⟩
    rcases readPacket_stuck hgood' (by rw [hrest']; exact hleading.stuck) with
      ⟨hnil, input, hread⟩ | ⟨hne, e, input, hread⟩
    · exact ⟨fun _ => ⟨_, hread⟩, fun h => absurd (hrest'.symm.trans hnil) h⟩
    · exact ⟨fun h => absurd (hrest'.trans h) hne, fun _ => ⟨_, _, hread⟩⟩

/-- The unit test's frame twice, cut anywhere. -/
theorem hub75_stream_roundTrip_sample :
    ∃ bytes : Nat → List UInt8,
      (∀ i, writeFrames Leddy.reference ([samplePacket, samplePacket].take i) [] =
        .ok () (bytes i)) ∧
      ∀ k ≤ (bytes 2).length, ∃ n ≤ 2, ∀ previous, ∃ reader',
        Reads ⟨.ofBytes ((bytes 2).take k), previous⟩
          (framePackets ([samplePacket, samplePacket].take n)) reader' := by
  have hframes : InRangeFrames [samplePacket, samplePacket] := by
    simp only [InRangeFrames, List.mem_cons, List.not_mem_nil, or_false, or_self, forall_eq]
    exact ⟨samplePacket_inRange, rfl⟩
  obtain ⟨⟨bytes, hbytes, hcut⟩, -⟩ :=
    hub75_stream_roundTrip Leddy.reference_countsPixels hframes
  refine ⟨bytes, hbytes, fun k hk => ?_⟩
  obtain ⟨n, hn, -, hread⟩ := hcut k hk
  exact ⟨n, hn, fun previous => (hread previous).imp fun _ h => h.1⟩

end LeddyRaspPi
