import LeddyRaspPi.Helper.Shows

/-!
# What can be on the panels

A painting is grey, black outside the largest viewport and nowhere brighter than its packet says
(`painting_within`); a packet in which nothing is lit paints the black canvas (`painting_unlit`). So
whatever the helper reads, that is all the panels ever show (`main_within`).
-/

namespace LeddyRaspPi.Helper

open Fallible

variable {options : Options} {packet : FramePacket} {canvas : FrameCanvas}

/-- The centred rectangle of the largest size the protocol can carry. -/
def Options.viewport (options : Options) : Set Point :=
  {p | (options.physicalWidth - 300) / 2 ≤ p.x ∧
    p.x < (options.physicalWidth - 300) / 2 + 300 ∧
    (options.physicalHeight - 20) / 2 ≤ p.y ∧
    p.y < (options.physicalHeight - 20) / 2 + 20}

/-- A canvas that is grey up to a brightness, and black outside the largest viewport. -/
structure FrameCanvas.Within (options : Options) (brightness : UInt8) (canvas : FrameCanvas) :
    Prop where
  grey : ∀ p : Point, ∃ v ≤ brightness, canvas.pixel p.x p.y = .grey v
  black : ∀ p : Point, p ∉ options.viewport → canvas.pixel p.x p.y = .grey 0

/-- The viewport of a packet lies in the largest one. -/
theorem viewport_subset (hwf : packet.WellFormed) :
    packet.viewport options.physicalWidth options.physicalHeight ⊆ options.viewport := by
  intro p hp
  obtain ⟨hleft, hright, htop, hbottom⟩ := hp
  have hw := hwf.width
  have hh := hwf.height
  refine ⟨?_, ?_, ?_, ?_⟩ <;> omega

/-- Scaling does not make a pixel brighter than the brightness. -/
theorem scaleBrightness_le (pixel brightness : UInt8) :
    scaleBrightness pixel brightness ≤ brightness := by
  rw [UInt8.le_iff_toNat_le, scaleBrightness_toNat]
  have hle : pixel.toNat * brightness.toNat ≤ 255 * brightness.toNat :=
    Nat.mul_le_mul_right _ (Nat.le_of_lt_succ pixel.toNat_lt)
  omega

/-- The painting of a packet shows all its pixels. -/
theorem painting_painted (hwf : packet.WellFormed) (hfits : options.Fits) :
    Painted packet options.physicalWidth options.physicalHeight
      (packet.height.toNat * packet.width.toNat)
      (painting options.physicalWidth options.physicalHeight packet) := by
  have hends := paintPacket_painted hwf options.black (hfits.fitsOn hwf)
  have hsized : options.black.Sized options := ⟨rfl, rfl⟩
  have hrun := (paintPacket_eq hwf hfits hsized).1
  exact (ends_of_ok hrun).1 hends

/-- A painting is black, or shows some pixel, at each point. -/
theorem Painted.cases (h : Painted packet options.physicalWidth options.physicalHeight
    (packet.height.toNat * packet.width.toNat) canvas) (p : Point) :
    canvas.pixel p.x p.y = .grey 0 ∨ ∃ cell,
      packet.image options.physicalWidth options.physicalHeight cell = p ∧
      canvas.pixel p.x p.y = .grey (packet.intensity (Grid.rowMajor cell).val) := by
  by_cases hcell : ∃ cell, packet.image options.physicalWidth options.physicalHeight cell = p
  · obtain ⟨cell, rfl⟩ := hcell
    exact .inr ⟨cell, rfl, h.shown cell (Fin.isLt _)⟩
  · exact .inl (h.black p fun cell _ heq => hcell ⟨cell, heq⟩)

/-- A painting is within the brightness of its packet. -/
theorem painting_within (hwf : packet.WellFormed) (hfits : options.Fits) :
    (painting options.physicalWidth options.physicalHeight packet).Within options
      packet.brightness where
  grey p := by
    rcases (painting_painted hwf hfits).cases p with hblack | ⟨cell, -, hshown⟩
    · exact ⟨0, UInt8.le_iff_toNat_le.2 (Nat.zero_le _), hblack⟩
    · exact ⟨_, scaleBrightness_le _ _, hshown⟩
  black p hp := by
    rcases (painting_painted hwf hfits).cases p with hblack | ⟨cell, rfl, -⟩
    · exact hblack
    · exact absurd (viewport_subset hwf (FramePacket.image_mem_viewport cell)) hp

/-- A packet of which no pixel is lit paints the black canvas. -/
theorem painting_unlit (hwf : packet.WellFormed) (hfits : options.Fits)
    (hunlit : ∀ pixel ∈ packet.pixels, scaleBrightness pixel packet.brightness = 0) :
    painting options.physicalWidth options.physicalHeight packet = options.black := by
  have hpainted := painting_painted hwf hfits
  have hpixel : ∀ x y, (painting options.physicalWidth options.physicalHeight packet).pixel x y =
      .grey 0 := by
    intro x y
    rcases hpainted.cases ⟨x, y⟩ with hblack | ⟨cell, -, hshown⟩
    · exact hblack
    · refine hshown.trans (congrArg Rgb.grey (hunlit _ ?_))
      exact List.mem_of_getElem? (hwf.getElem?_rowMajor cell)
  have hcalls : (painting options.physicalWidth options.physicalHeight packet).calls = [] := by
    refine List.eq_nil_iff_forall_not_mem.2 fun p hp => ?_
    exact (hpainted.mem_calls_iff p).1 hp (hpixel p.x p.y)
  generalize painting options.physicalWidth options.physicalHeight packet = canvas at *
  obtain ⟨width, height, pixel, calls⟩ := canvas
  obtain rfl : width = options.physicalWidth := hpainted.width
  obtain rfl : height = options.physicalHeight := hpainted.height
  obtain rfl : calls = [] := hcalls
  rw [Options.black, FrameCanvas.blank]
  congr 1
  funext x y
  exact hpixel x y

/-- With a canvas that is too small `main` throws before it shows anything, and the deleter of the
matrix shows the black canvas. -/
theorem main_unfit {getenv : String → Option String} (hoptions : readOptions getenv = .ok options)
    (hunfit : ¬ options.Fits) (pixels : Nat → Int → Int → Rgb) (stop : Nat → Bool)
    (input : List UInt8) (fuel : Nat) :
    main getenv true pixels stop input fuel = ⟨.status 1, [options.black]⟩ := by
  have hroom : options.physicalWidth < kMaxLogicalWidth.toNat ∨
      options.physicalHeight < kMaxLogicalHeight.toNat := by
    have hw : (kMaxLogicalWidth.toNat : Int) = 300 := by decide
    have hh : (kMaxLogicalHeight.toNat : Int) = 20 := by decide
    unfold Options.Fits at hunfit
    omega
  have hserve : serve options stop fuel ⟨⟨.ofBytes input, {}⟩, .create options pixels⟩ =
      .error (.exception ⟨"configured HUB75 canvas cannot fit the maximum Leddy viewport"⟩)
        ⟨⟨.ofBytes input, {}⟩, .create options pixels⟩ := by
    rw [serve, require, if_neg (not_not_intro hroom)]
    rfl
  unfold main
  simp only [hoptions, if_true, hserve]
  rw [deleteMatrix_eq fun _ => ⟨rfl, rfl⟩]
  rfl

/-- A canvas among the paintings of some packets. -/
theorem mem_paintings (hfits : options.Fits) {packets : List FramePacket}
    (hvalid : ∀ packet ∈ packets, packet.WellFormed) {n : Nat}
    (hcanvas : canvas ∈ options.paintings (packets.take n)) :
    ∃ packet ∈ packets,
      canvas = painting options.physicalWidth options.physicalHeight packet ∧
      canvas.Within options packet.brightness := by
  obtain ⟨packet, hpacket, rfl⟩ := List.mem_map.1 hcanvas
  have hmem := List.mem_of_mem_take hpacket
  exact ⟨packet, hmem, rfl, painting_within (hvalid packet hmem) hfits⟩

/-- Whatever the helper is given to read, a canvas on the panels is black, or it is the painting of
one of the leading packets of the input: grey, black outside the largest viewport, and nowhere
brighter than that packet says. -/
theorem main_within {getenv : String → Option String} (hoptions : readOptions getenv = .ok options)
    (created : Bool) (pixels : Nat → Int → Int → Rgb) (stop : Nat → Bool) (input : List UInt8)
    {fuel : Nat} (hfuel : input.length < fuel) :
    ∃ packets rest, packetCode.Leading input packets rest ∧
      ∀ canvas ∈ (main getenv created pixels stop input fuel).shown,
        canvas = options.black ∨ ∃ packet ∈ packets,
          canvas = painting options.physicalWidth options.physicalHeight packet ∧
          canvas.Within options packet.brightness := by
  cases created with
  | false =>
    obtain ⟨packets, rest, hleading⟩ := packetCode.exists_leading input
    refine ⟨packets, rest, hleading, fun canvas hcanvas => ?_⟩
    unfold main at hcanvas
    simp only [hoptions, Bool.false_eq_true, if_false] at hcanvas
    cases hcanvas
  | true =>
    by_cases hfits : options.Fits
    · obtain ⟨packets, rest, hleading⟩ := packetCode.exists_leading input
      have hserve := serve_ends hfits pixels stop hleading
        (Nat.lt_of_le_of_lt hleading.length_le hfuel)
      refine ⟨packets, rest, hleading, fun canvas hcanvas => ?_⟩
      unfold Ends at hserve
      unfold main at hcanvas
      simp only [hoptions, if_true] at hcanvas
      cases hrun : serve options stop fuel ⟨⟨.ofBytes input, {}⟩, .create options pixels⟩ with
      | ok out process =>
        rw [hrun] at hserve hcanvas
        obtain ⟨rfl, n, -, -, hsized, hshown⟩ := hserve
        simp only [deleteMatrix_eq hsized, hshown, List.mem_append, List.mem_reverse,
          List.mem_cons, List.not_mem_nil, or_false] at hcanvas
        rcases hcanvas with (rfl | rfl | hpainted | rfl) | rfl
        · exact .inl rfl
        · exact .inl rfl
        · exact .inr (mem_paintings hfits hleading.valid hpainted)
        · exact .inl rfl
        · exact .inl rfl
      | error failure process =>
        rw [hrun] at hserve hcanvas
        obtain ⟨error, n, rfl, -, -, hsized, hshown⟩ := hserve
        simp only [deleteMatrix_eq hsized, hshown, List.mem_append, List.mem_reverse,
          List.mem_cons, List.not_mem_nil, or_false] at hcanvas
        rcases hcanvas with (hpainted | rfl) | rfl
        · exact .inr (mem_paintings hfits hleading.valid hpainted)
        · exact .inl rfl
        · exact .inl rfl
    · obtain ⟨packets, rest, hleading⟩ := packetCode.exists_leading input
      refine ⟨packets, rest, hleading, fun canvas hcanvas => .inl ?_⟩
      rw [main_unfit hoptions hfits] at hcanvas
      exact List.mem_singleton.1 hcanvas

/-- With the default options, on a packet of two pixels and the start of another one. -/
theorem main_within_truncated :
    ∃ packets rest, packetCode.Leading (sampleReader.packet.bytes ++ [0x4C]) packets rest ∧
      ∀ canvas ∈ (main (fun _ => none) true (fun _ _ _ => ⟨9, 9, 9⟩) (fun _ => false)
          (sampleReader.packet.bytes ++ [0x4C]) 30).shown,
        canvas = Options.black ⟨32, 64, 5, 1⟩ ∨ ∃ packet ∈ packets,
          canvas = painting 320 32 packet ∧ canvas.Within ⟨32, 64, 5, 1⟩ packet.brightness :=
  main_within rfl _ _ _ _ (by decide)

end LeddyRaspPi.Helper
