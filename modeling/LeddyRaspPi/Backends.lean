import LeddyRaspPi.RoundTrip
import LeddyRaspPi.FrameSink
import LeddyRaspPi.Helper.Painting

/-!
# The two backends compared

The snapshot backend writes the pixels in the order of the LED chain, with the brightness put in
place of what is lit; the HUB75 backend ships them row by row, and the helper finds the chain and
applies the brightness. What the helper makes of a packet is `Painted`
(`Hub75Sink.present_painted`), so the comparison is one of the chain with its inverse
(`Leddy.Chained.deviceOrder_eq`), and the statistics are a comparison of two counts
(`countP_eq_countP_iff`).
-/

namespace LeddyRaspPi

open Fallible Helper

/-! ## Frames and the chain -/

namespace DisplayConfig

/-- The chain starts at the right end of its first row. -/
def startsRight (config : DisplayConfig) : Bool :=
  config.origin = .topRight ∨ config.origin = .bottomRight

/-- The chain starts with the bottom row. -/
def startsBottom (config : DisplayConfig) : Bool :=
  config.origin = .bottomLeft ∨ config.origin = .bottomRight

/-- The logical row that is row `r` of the chain. -/
def logicalRow (config : DisplayConfig) (r : Nat) : Nat :=
  if config.startsBottom then config.height.toNat - 1 - r else r

/-- The logical column of the `c`-th LED in row `r` of the chain. -/
def logicalColumn (config : DisplayConfig) (r c : Nat) : Nat :=
  if xor config.startsRight (config.serpentine && r % 2 == 1) then config.width.toNat - 1 - c
  else c

end DisplayConfig

/-- What is assumed of a frame of a configuration: `row_major()` lists its pixels row by row and
`device_order()` lists them along the chain. -/
structure Leddy.Chained (L : Leddy) (config : DisplayConfig) (frame : L.FrameBuffer) : Prop where
  rowMajor : (L.rowMajor frame).length = config.width.toNat * config.height.toNat
  deviceOrder : (L.deviceOrder frame).length = config.width.toNat * config.height.toNat
  chain : ∀ r < config.height.toNat, ∀ c < config.width.toNat,
    (L.deviceOrder frame)[r * config.width.toNat + c]? =
      (L.rowMajor frame)[config.logicalRow r * config.width.toNat + config.logicalColumn r c]?

variable {L : Leddy} {config : DisplayConfig} {frame : L.FrameBuffer}

/-- The helper finds the chain of the configuration. -/
theorem framePacket_chain (config : DisplayConfig) (pixels : List UInt8) :
    (framePacket config pixels).chain =
      ⟨config.startsRight, config.startsBottom, config.serpentine⟩ := by
  obtain ⟨_, _, _, serpentine, origin, _⟩ := config
  cases origin <;> rfl

/-- The LED at a cell of the chain shows the pixel that the helper moves to that cell. -/
theorem Leddy.Chained.deviceOrder_eq (h : L.Chained config frame) (pixels : List UInt8)
    (cell : (framePacket config pixels).Cell) :
    (L.deviceOrder frame)[(Grid.rowMajor cell).val]? = (L.rowMajor frame)[(Grid.rowMajor
      (((framePacket config pixels).chain.place _ _).symm cell)).val]? := by
  have hrow : (Grid.mirror config.startsBottom config.height.toNat cell.1).val =
      config.logicalRow cell.1.val := Grid.mirror_val ..
  have hcolumn : ∀ b, (Grid.mirror b config.width.toNat cell.2).val =
      if b then config.width.toNat - 1 - cell.2.val else cell.2.val :=
    fun b => Grid.mirror_val b _ cell.2
  have hchain := h.chain cell.1.val cell.1.isLt cell.2.val cell.2.isLt
  rw [Grid.rowMajor_val, Grid.rowMajor_val, Grid.Chain.place_symm_fst, Grid.Chain.place_symm_snd,
    framePacket_chain]
  refine hchain.trans ?_
  rw [← hrow, DisplayConfig.logicalColumn, ← hcolumn]
  rfl

/-! ## The way of a frame through the helper -/

section
variable {sink sink' : Hub75Sink} {outcome : SinkOutcome} {stats : FrameStats} {reader : Reader}
  {rest : List UInt8} {canvas : FrameCanvas}

/-- A frame of the right size has a well-formed packet, which fits where the configuration fits. -/
theorem framePacket_fitsOn {pixels : List UInt8} (hwidth : config.width.toNat ≤ canvas.width)
    (hheight : config.height.toNat ≤ canvas.height) :
    (framePacket config pixels).FitsOn canvas.width canvas.height := ⟨hwidth, hheight⟩

/-- What a successful `present` has written, the helper reads as one packet, and it paints the frame
with it. -/
theorem Hub75Sink.present_painted (hrange : config.InRange)
    (hlen : (L.rowMajor frame).length = config.width.toNat * config.height.toNat)
    (hpresent : Hub75Sink.present L config frame outcome sink = .ok stats sink')
    (hgood : reader.input.Good)
    (hrest : reader.input.rest = sink'.stdin.drop sink.stdin.length ++ rest)
    (canvas : FrameCanvas) (hwidth : config.width.toNat ≤ canvas.width)
    (hheight : config.height.toNat ≤ canvas.height) :
    stats = ⟨(L.rowMajor frame).length, (L.rowMajor frame).countP (· ≠ 0)⟩ ∧
      ∃ reader' canvas', readPacket reader = .ok true reader' ∧
        reader'.packet = framePacket config (L.rowMajor frame) ∧
        paintPacket reader'.packet canvas.width canvas.height canvas = .ok () canvas' ∧
        Painted (framePacket config (L.rowMajor frame)) canvas.width canvas.height
          (config.height.toNat * config.width.toNat) canvas' := by
  have hwf : (framePacket config (L.rowMajor frame)).WellFormed :=
    framePacket_wellFormed hrange hlen
  have hends := @Hub75Sink.present_ends L config outcome sink frame
  rw [Ends, hpresent] at hends
  obtain ⟨-, -, hstdin, hstats⟩ := hends
  rw [hstdin, List.drop_left, ← framePacket_bytes] at hrest
  obtain ⟨n, hread⟩ := readPacket_bytes hgood hwf hrest
  have hpaint := paintPacket_painted hwf canvas (framePacket_fitsOn hwidth hheight)
  unfold Ends at hpaint
  refine ⟨hstats, ⟨⟨rest, n, false, false⟩, framePacket config (L.rowMajor frame)⟩, ?_⟩
  cases hrun : paintPacket (framePacket config (L.rowMajor frame)) canvas.width canvas.height
      canvas with
  | error e canvas' => rw [hrun] at hpaint; exact hpaint.elim
  | ok u canvas' =>
    rw [hrun] at hpaint
    exact ⟨canvas', hread, rfl, rfl, hpaint⟩

/-- A pixel that is fully on is shown with the brightness, and one that is off is not shown. -/
theorem scaleBrightness_of_binary {pixel brightness : UInt8} (h : pixel = 0 ∨ pixel = 255) :
    scaleBrightness pixel brightness = if pixel = 0 then 0 else brightness := by
  apply UInt8.toNat_inj.1
  rw [scaleBrightness_toNat]
  rcases h with rfl | rfl
  · simp
  · have h255 : UInt8.toNat 255 = 255 := rfl
    rw [if_neg (by decide), h255]
    omega

/-- For a frame of pixels that are off or fully on, the helper leaves at each point of the viewport
the byte that the snapshot backend writes for the LED of the chain at that point. -/
theorem encodeDeviceFrame_eq_painted (hrange : config.InRange) (hframe : L.Chained config frame)
    (hbinary : ∀ pixel ∈ L.rowMajor frame, pixel = 0 ∨ pixel = 255)
    (hpresent : Hub75Sink.present L config frame outcome sink = .ok stats sink')
    (hgood : reader.input.Good)
    (hrest : reader.input.rest = sink'.stdin.drop sink.stdin.length ++ rest)
    (canvas : FrameCanvas) (hwidth : config.width.toNat ≤ canvas.width)
    (hheight : config.height.toNat ≤ canvas.height) :
    ∃ reader' canvas', readPacket reader = .ok true reader' ∧
      paintPacket reader'.packet canvas.width canvas.height canvas = .ok () canvas' ∧
      ∀ i < config.width.toNat * config.height.toNat,
        ∃ b, (encodeDeviceFrame L config frame)[i]? = some b ∧
          canvas'.pixel
              ((canvas.width - config.width.toNat) / 2 + (i % config.width.toNat : Nat))
              ((canvas.height - config.height.toNat) / 2 + (i / config.width.toNat : Nat)) =
            ⟨b, b, b⟩ := by
  obtain ⟨-, reader', canvas', hread, hpacket, hpaint, hpainted⟩ :=
    Hub75Sink.present_painted hrange hframe.rowMajor hpresent hgood hrest canvas hwidth hheight
  refine ⟨reader', canvas', hread, hpaint, fun i hi => ?_⟩
  have hwf : (framePacket config (L.rowMajor frame)).WellFormed :=
    framePacket_wellFormed hrange hframe.rowMajor
  -- The cell of the chain at `i`, and the cell of the display that the helper moves there.
  obtain ⟨cell, hcell⟩ : ∃ cell : (framePacket config (L.rowMajor frame)).Cell,
      Grid.rowMajor cell = ⟨i, by rwa [Nat.mul_comm] at hi⟩ := Grid.rowMajor.surjective _
  obtain ⟨source, rfl⟩ :=
    ((framePacket config (L.rowMajor frame)).chain.place _ _).surjective cell
  have hdevice := hframe.deviceOrder_eq (L.rowMajor frame)
    ((framePacket config (L.rowMajor frame)).chain.place _ _ source)
  rw [Equiv.symm_apply_apply, hcell] at hdevice
  have hpixel : (L.rowMajor frame)[(Grid.rowMajor source).val]? =
      some ((L.rowMajor frame).getD (Grid.rowMajor source).val 0) := hwf.getElem?_rowMajor source
  have hshown := hpainted.shown source (Grid.rowMajor source).isLt
  have hmem := List.mem_of_getElem? hpixel
  refine ⟨_, by rw [encodeDeviceFrame, List.getElem?_map, hdevice, hpixel, Option.map_some], ?_⟩
  rw [← scaleBrightness_of_binary (hbinary _ hmem)]
  have hrow := congrArg Prod.fst (Grid.rowMajor.eq_symm_apply.2 hcell)
  have hcolumn := congrArg Prod.snd (Grid.rowMajor.eq_symm_apply.2 hcell)
  rw [FramePacket.image, FramePacket.point, hrow, hcolumn] at hshown
  exact hshown

/-- A display of three by two LEDs, wired as a serpentine from the bottom right. -/
def sampleDisplay : DisplayConfig := ⟨3, 2, 100, true, .bottomRight, none⟩

/-- A frame for it. -/
def sampleFrame : Leddy.reference.FrameBuffer :=
  (⟨sampleDisplay, [255, 0, 0, 0, 255, 255]⟩ : Reference.Frame)

/-- The helper runs and its stdin takes everything. -/
def calmSink : SinkOutcome := ⟨.ok none, none, .ok (), .complete⟩

/-- The sample frame is wired as the sample display says. -/
theorem sampleFrame_chained : Leddy.reference.Chained sampleDisplay sampleFrame :=
  ⟨rfl, rfl, by decide⟩

/-- The packet of the sample frame on a canvas of five by five points. -/
theorem encodeDeviceFrame_eq_painted_sample :
    ∃ reader' canvas',
      readPacket ⟨.ofBytes (packetBytes sampleDisplay [255, 0, 0, 0, 255, 255]), {}⟩ =
        .ok true reader' ∧
      paintPacket reader'.packet 5 5 (.blank 5 5) = .ok () canvas' ∧
      ∀ i < 3 * 2, ∃ b, (encodeDeviceFrame Leddy.reference sampleDisplay sampleFrame)[i]? = some b ∧
        canvas'.pixel ((5 - 3) / 2 + (i % 3 : Nat)) ((5 - 2) / 2 + (i / 3 : Nat)) = ⟨b, b, b⟩ := by
  have hrange : sampleDisplay.InRange := ⟨by decide, by decide⟩
  have hpresent : Hub75Sink.present Leddy.reference sampleDisplay sampleFrame calmSink ⟨[]⟩ =
      .ok ⟨6, 3⟩ ⟨packetBytes sampleDisplay [255, 0, 0, 0, 255, 255]⟩ := rfl
  have hrest := (List.append_nil (packetBytes sampleDisplay [255, 0, 0, 0, 255, 255])).symm
  have hwidth : sampleDisplay.width.toNat ≤ (FrameCanvas.blank 5 5).width := by decide
  have hheight : sampleDisplay.height.toNat ≤ (FrameCanvas.blank 5 5).height := by decide
  have hbinary : ∀ pixel ∈ Leddy.reference.rowMajor sampleFrame, pixel = 0 ∨ pixel = 255 := by
    intro pixel hpixel
    have hmem : pixel ∈ ([255, 0, 0, 0, 255, 255] : List UInt8) := hpixel
    simp only [List.mem_cons, List.not_mem_nil, or_false] at hmem
    rcases hmem with rfl | rfl | rfl | rfl | rfl | rfl <;> simp
  exact encodeDeviceFrame_eq_painted hrange sampleFrame_chained hbinary hpresent
    (show (⟨.ofBytes _, {}⟩ : Reader).input.Good from ⟨rfl, rfl⟩) hrest (.blank 5 5) hwidth hheight

end

/-! ## The statistics of a frame -/

/-- Of two counts of which the one counts whatever the other counts, they agree if nothing is left
out. -/
theorem countP_eq_countP_iff {α : Type} {p q : α → Bool} (hpq : ∀ a, p a = true → q a = true)
    (l : List α) : l.countP q = l.countP p ↔ ∀ a ∈ l, q a = true → p a = true := by
  induction l with
  | nil => simp
  | cons a l ih =>
    have hle : l.countP p ≤ l.countP q := List.countP_mono_left fun b _ => hpq b
    rw [List.forall_mem_cons, ← ih, List.countP_cons, List.countP_cons]
    cases hp : p a with
    | true => simp [hpq a hp]
    | false =>
      cases hq : q a with
      | true => simp; omega
      | false => simp

/-- A pixel is shown if its product with the brightness rounds up to one. -/
theorem scaleBrightness_ne_zero_iff (pixel brightness : UInt8) :
    scaleBrightness pixel brightness ≠ 0 ↔ 128 ≤ pixel.toNat * brightness.toNat := by
  rw [Ne, ← UInt8.toNat_inj, scaleBrightness_toNat]
  show ¬ _ = 0 ↔ _
  omega

/-- The lit pixels of the statistics are the LEDs the backend leaves at an intensity other than
zero: the non-zero bytes the snapshot backend writes, or the points that `paint_packet` sets for the
packet that went to the helper. -/
def TellsLit (L : Leddy) (config : DisplayConfig) (frame : L.FrameBuffer) (stats : FrameStats)
    (before after : FrameSink × FileSystem) : Prop :=
  match before.1 with
  | .snapshot sink =>
    stats.litPixels = (encodeDeviceFrame L config frame).countP (· ≠ 0) ∧
      ∀ path, sink.snapshotPath = some path →
        after.2 path = .file (encodeDeviceFrame L config frame)
  | .hub75 _ =>
    ∀ (reader : Reader) (rest : List UInt8) (canvas : FrameCanvas), reader.input.Good →
      reader.input.rest = FrameSink.sent before after ++ rest →
      config.width.toNat ≤ canvas.width → config.height.toNat ≤ canvas.height →
      ∃ reader' canvas', readPacket reader = .ok true reader' ∧
        paintPacket reader'.packet canvas.width canvas.height canvas = .ok () canvas' ∧
        canvas'.calls.Nodup ∧ (∀ p, p ∈ canvas'.calls ↔ canvas'.pixel p.x p.y ≠ ⟨0, 0, 0⟩) ∧
        stats.litPixels = canvas'.calls.length

/-- The HUB75 backend counts the pixels that are not zero, the helper shows those whose product with
the brightness does not round to zero. -/
theorem litCount_eq_iff (config : DisplayConfig) {pixels : List UInt8}
    (hlen : pixels.length = config.width.toNat * config.height.toNat) :
    pixels.countP (· ≠ 0) =
        (framePacket config pixels).litCount (config.height.toNat * config.width.toNat) ↔
      ∀ pixel ∈ pixels, pixel ≠ 0 → 128 ≤ pixel.toNat * config.brightness.toNat := by
  have hlit : (framePacket config pixels).litCount (config.height.toNat * config.width.toNat) =
      pixels.countP fun pixel => scaleBrightness pixel config.brightness ≠ 0 := by
    rw [FramePacket.litCount, List.take_of_length_le]
    · rfl
    · show pixels.length ≤ _
      rw [hlen, Nat.mul_comm]
  rw [hlit, countP_eq_countP_iff]
  · simp only [decide_eq_true_eq, scaleBrightness_ne_zero_iff]
  · intro pixel hscaled
    simp only [decide_eq_true_eq, scaleBrightness_ne_zero_iff] at hscaled ⊢
    rintro rfl
    simp at hscaled

/-- The statistics of the HUB75 backend tell what is lit if no pixel is dimmed to zero. -/
theorem Hub75Sink.tellsLit_iff {sink sink' : Hub75Sink} {outcome : SinkOutcome} {stats : FrameStats}
    (fs : FileSystem) (hrange : config.InRange)
    (hlen : (L.rowMajor frame).length = config.width.toNat * config.height.toNat)
    (hpresent : Hub75Sink.present L config frame outcome sink = .ok stats sink') :
    TellsLit L config frame stats (.hub75 sink, fs) (.hub75 sink', fs) ↔
      ∀ pixel ∈ L.rowMajor frame, pixel ≠ 0 → 128 ≤ pixel.toNat * config.brightness.toNat := by
  rw [← litCount_eq_iff config hlen]
  constructor
  · intro htells
    -- Any reader and any canvas will do: here the packet alone and a canvas of its size.
    have hgood : (⟨.ofBytes (sink'.stdin.drop sink.stdin.length), {}⟩ : Reader).input.Good :=
      ⟨rfl, rfl⟩
    have hrest := (List.append_nil (sink'.stdin.drop sink.stdin.length)).symm
    obtain ⟨reader', canvas', hread, hpaint, -, -, hlit⟩ := htells ⟨.ofBytes _, {}⟩ []
      (.blank config.width.toNat config.height.toNat) hgood hrest le_rfl le_rfl
    obtain ⟨hstats, reader'', canvas'', hread', -, hpaint', hpainted⟩ :=
      present_painted hrange hlen hpresent hgood hrest
        (.blank config.width.toNat config.height.toNat) le_rfl le_rfl
    rw [hread'] at hread
    obtain rfl := (EStateM.Result.ok.inj hread).2
    rw [hpaint'] at hpaint
    obtain rfl := (EStateM.Result.ok.inj hpaint).2
    rw [hstats, hpainted.count] at hlit
    exact hlit
  · intro heq reader rest canvas hgood hrest hwidth hheight
    obtain ⟨hstats, reader', canvas', hread, -, hpaint, hpainted⟩ :=
      present_painted hrange hlen hpresent hgood hrest canvas hwidth hheight
    refine ⟨reader', canvas', hread, hpaint, hpainted.nodup, hpainted.mem_calls_iff, ?_⟩
    rw [hstats, hpainted.count]
    exact heq

/-- The snapshot backend counts the bytes it writes. -/
theorem SnapshotSink.present_ends (sink : SnapshotSink) (outcome : SinkOutcome) (fs : FileSystem) :
    Ends (sink.present L config frame outcome) fs
      (fun stats fs' => stats = ⟨(encodeDeviceFrame L config frame).length,
          (encodeDeviceFrame L config frame).countP (· ≠ 0)⟩ ∧
        ∀ path, sink.snapshotPath = some path → fs' path = .file (encodeDeviceFrame L config frame))
      (fun _ _ => True) := by
  rw [SnapshotSink.present, ends_bind]
  refine (SnapshotSink.writeSnapshot_ends _ _ _ _).mono ?_ fun _ _ _ => trivial
  intro _ fs' h
  exact ⟨rfl, h.2⟩

/-- The statistics of a successful `present` tell how many pixels there are and how many are lit on
the snapshot backend, and on the HUB75 backend if no pixel is dimmed to zero. -/
theorem present_tellsLit_iff (hrange : config.InRange)
    (hlen : (L.rowMajor frame).length = config.width.toNat * config.height.toNat)
    (hperm : (L.deviceOrder frame).Perm (L.rowMajor frame)) {sink : FrameSink} {fs : FileSystem}
    {outcome : SinkOutcome} {stats : FrameStats} {after : FrameSink × FileSystem}
    (hpresent : FrameSink.present L config frame outcome (sink, fs) = .ok stats after) :
    (stats.pixels = config.width.toNat * config.height.toNat ∧
        TellsLit L config frame stats (sink, fs) after) ↔
      (sink.isHub75 = true →
        ∀ pixel ∈ L.rowMajor frame, pixel ≠ 0 → 128 ≤ pixel.toNat * config.brightness.toNat) := by
  cases sink with
  | snapshot sink =>
    have hends : Ends (FrameSink.present L config frame outcome) (.snapshot sink, fs)
        (fun stats after => stats.pixels = config.width.toNat * config.height.toNat ∧
          TellsLit L config frame stats (.snapshot sink, fs) after) (fun _ _ => True) := by
      rw [FrameSink.present, ends_bind, ends_get]
      refine (FrameSink.ends_onSnapshot _).2 ((sink.present_ends outcome fs).mono ?_ ?_)
      · intro stats fs' h
        obtain ⟨rfl, hfile⟩ := h
        refine ⟨?_, rfl, hfile⟩
        simp [encodeDeviceFrame, hperm.length_eq, hlen]
      · exact fun _ _ _ => trivial
    rw [Ends, hpresent] at hends
    exact iff_of_true hends fun h => absurd h Bool.false_ne_true
  | hub75 sink =>
    obtain ⟨sink', hsink, rfl⟩ : ∃ sink', Hub75Sink.present L config frame outcome sink =
        .ok stats sink' ∧ after = (.hub75 sink', fs) := by
      have hfocus : FrameSink.present L config frame outcome (.hub75 sink, fs) =
          FrameSink.onHub75 sink (Hub75Sink.present L config frame outcome) (.hub75 sink, fs) := rfl
      rw [hfocus, FrameSink.onHub75, focus] at hpresent
      cases hrun : Hub75Sink.present L config frame outcome sink with
      | error e sink' => rw [hrun] at hpresent; cases hpresent
      | ok stats' sink' =>
        rw [hrun] at hpresent
        obtain ⟨rfl, rfl⟩ := EStateM.Result.ok.inj hpresent
        exact ⟨sink', rfl, rfl⟩
    have hends := @Hub75Sink.present_ends L config outcome sink frame
    rw [Ends, hsink] at hends
    obtain ⟨-, -, -, hstats⟩ := hends
    have hpixels : stats.pixels = config.width.toNat * config.height.toNat := by rw [hstats, hlen]
    rw [and_iff_right hpixels, Hub75Sink.tellsLit_iff fs hrange hlen hsink]
    exact ⟨fun h _ => h, fun h => h rfl⟩

/-- The sample frame on the HUB75 backend. -/
theorem present_tellsLit_iff_sample :
    ((⟨6, 3⟩ : FrameStats).pixels = 3 * 2 ∧
        TellsLit Leddy.reference sampleDisplay sampleFrame ⟨6, 3⟩ (.hub75 ⟨[]⟩, fun _ => .absent)
          (.hub75 ⟨packetBytes sampleDisplay [255, 0, 0, 0, 255, 255]⟩, fun _ => .absent)) ↔
      (true = true → ∀ pixel ∈ Leddy.reference.rowMajor sampleFrame, pixel ≠ 0 →
        128 ≤ pixel.toNat * sampleDisplay.brightness.toNat) := by
  have hrange : sampleDisplay.InRange := ⟨by decide, by decide⟩
  have hpresent : FrameSink.present Leddy.reference sampleDisplay sampleFrame calmSink
      (.hub75 ⟨[]⟩, fun _ => .absent) = .ok ⟨6, 3⟩
        (.hub75 ⟨packetBytes sampleDisplay [255, 0, 0, 0, 255, 255]⟩, fun _ => .absent) := rfl
  exact present_tellsLit_iff hrange sampleFrame_chained.rowMajor (by decide) hpresent

/-- A frame with one dim pixel. -/
def dimFrame : Leddy.reference.FrameBuffer :=
  (⟨sampleDisplay, [255, 0, 0, 0, 255, 1]⟩ : Reference.Frame)

/-- The HUB75 backend counts a dim pixel that the helper does not show. -/
theorem present_counts_dim_pixel :
    Hub75Sink.present Leddy.reference sampleDisplay dimFrame calmSink ⟨[]⟩ =
        .ok ⟨6, 3⟩ ⟨packetBytes sampleDisplay [255, 0, 0, 0, 255, 1]⟩ ∧
      (∃ canvas', paintPacket (framePacket sampleDisplay [255, 0, 0, 0, 255, 1]) 5 5 (.blank 5 5) =
        .ok () canvas' ∧ canvas'.calls.length = 2) ∧
      ∀ fs, ¬ TellsLit Leddy.reference sampleDisplay dimFrame ⟨6, 3⟩ (.hub75 ⟨[]⟩, fs)
        (.hub75 ⟨packetBytes sampleDisplay [255, 0, 0, 0, 255, 1]⟩, fs) := by
  have hrange : sampleDisplay.InRange := ⟨by decide, by decide⟩
  have hpresent : Hub75Sink.present Leddy.reference sampleDisplay dimFrame calmSink ⟨[]⟩ =
      .ok ⟨6, 3⟩ ⟨packetBytes sampleDisplay [255, 0, 0, 0, 255, 1]⟩ := rfl
  refine ⟨hpresent, ⟨_, rfl, rfl⟩, fun fs htells => ?_⟩
  have hdim := (Hub75Sink.tellsLit_iff fs hrange rfl hpresent).1 htells 1 (by decide) (by decide)
  exact absurd hdim (by decide)

end LeddyRaspPi
