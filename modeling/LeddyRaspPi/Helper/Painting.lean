import LeddyRaspPi.Helper.Grammar
import LeddyRaspPi.Helper.Main
import LeddyRaspPi.Lib.Grid

/-!
# What `paint_packet` paints

`map_logical_pixel` computes in 16-bit and in signed integers; on the pixels of a packet that fits
it is the chain of the packet (`FramePacket.chain`) moved to the centre of the canvas
(`mapLogicalPixel_eq`), so it inherits from `Grid.Chain.place` that it hits every point of the
viewport once. The double loop visits the pixels row by row; `Painted n` is what the canvas is like
once the first `n` of them have been visited.
-/

namespace LeddyRaspPi.Helper

open Fallible

attribute [ext] Point

/-! ## The mapping -/

namespace FramePacket

/-- The chain through the viewport. -/
def chain (packet : FramePacket) : Grid.Chain where
  startsRight := packet.origin == 1 || packet.origin == 3
  startsBottom := packet.origin == 2 || packet.origin == 3
  serpentine := packet.serpentine

/-- The pixels of a packet, by row and column. -/
abbrev Cell (packet : FramePacket) : Type := Fin packet.height.toNat × Fin packet.width.toNat

/-- The point of the viewport that its row and column stand for. -/
def point (packet : FramePacket) (physicalWidth physicalHeight : Int) (cell : packet.Cell) :
    Point :=
  ⟨(physicalWidth - packet.width.toNat) / 2 + cell.2.val,
    (physicalHeight - packet.height.toNat) / 2 + cell.1.val⟩

/-- The centred rectangle of the size of the packet. -/
def viewport (packet : FramePacket) (physicalWidth physicalHeight : Int) : Set Point :=
  {p | (physicalWidth - packet.width.toNat) / 2 ≤ p.x ∧
    p.x < (physicalWidth - packet.width.toNat) / 2 + packet.width.toNat ∧
    (physicalHeight - packet.height.toNat) / 2 ≤ p.y ∧
    p.y < (physicalHeight - packet.height.toNat) / 2 + packet.height.toNat}

/-- The arguments `paint_packet` calls `map_logical_pixel` with. -/
def logicalPixels (packet : FramePacket) : Set (UInt16 × UInt16) :=
  {xy | xy.1 < packet.width ∧ xy.2 < packet.height}

/-- The canvas is large enough for the packet. -/
structure FitsOn (packet : FramePacket) (physicalWidth physicalHeight : Int) : Prop where
  width : packet.width.toNat ≤ physicalWidth
  height : packet.height.toNat ≤ physicalHeight

variable {packet : FramePacket} {physicalWidth physicalHeight : Int}

/-- No two cells of the packet have one point. -/
theorem point_injective : Function.Injective (packet.point physicalWidth physicalHeight) := by
  intro a b h
  simp only [point, Point.mk.injEq] at h
  refine Prod.ext (Fin.ext ?_) (Fin.ext ?_) <;> omega

/-- Every cell lies in the viewport. -/
theorem point_mem_viewport (cell : packet.Cell) :
    packet.point physicalWidth physicalHeight cell ∈
      packet.viewport physicalWidth physicalHeight := by
  obtain ⟨y, x⟩ := cell
  simp only [point, viewport, Set.mem_ofPred_eq]
  omega

/-- Every point of the viewport is one of a cell. -/
theorem exists_point {p : Point} (hp : p ∈ packet.viewport physicalWidth physicalHeight) :
    ∃ cell : packet.Cell, packet.point physicalWidth physicalHeight cell = p := by
  obtain ⟨hleft, hright, htop, hbottom⟩ := hp
  refine ⟨(⟨(p.y - (physicalHeight - packet.height.toNat) / 2).toNat, by omega⟩,
    ⟨(p.x - (physicalWidth - packet.width.toNat) / 2).toNat, by omega⟩), ?_⟩
  obtain ⟨x, y⟩ := p
  simp only [point, Point.mk.injEq]
  simp only at hleft hright htop hbottom
  omega

/-- A viewport that fits lies on the canvas. -/
theorem FitsOn.viewport_inside (h : packet.FitsOn physicalWidth physicalHeight) {p : Point}
    (hp : p ∈ packet.viewport physicalWidth physicalHeight) :
    0 ≤ p.x ∧ p.x < physicalWidth ∧ 0 ≤ p.y ∧ p.y < physicalHeight := by
  obtain ⟨hleft, hright, htop, hbottom⟩ := hp
  have hw := h.width
  have hh := h.height
  omega

end FramePacket

variable {packet : FramePacket} {physicalWidth physicalHeight : Int}

/-- A subtraction of `unsigned` that stays above zero survives the narrowing to 16 bits. -/
theorem toNat_mirrored {n i : UInt16} (hi : i.toNat < n.toNat) :
    (n - 1 - i).toNat = n.toNat - 1 - i.toNat := by
  have hn := n.toNat_lt
  have h1 : (n - 1).toNat = n.toNat - 1 := by
    rw [UInt16.toNat_sub_of_le]
    · rfl
    · rw [UInt16.le_iff_toNat_le]
      exact Nat.one_le_of_lt hi
  rw [UInt16.toNat_sub_of_le, h1]
  rw [UInt16.le_iff_toNat_le, h1]
  omega

/-- The counting from the other end in `paint_packet` does not wrap around. -/
theorem toNat_mirror {b : Bool} {n i : UInt16} (hi : i.toNat < n.toNat) :
    (if b then n - 1 - i else i).toNat = (Grid.mirror b n.toNat ⟨i.toNat, hi⟩).val := by
  rw [Grid.mirror_val]
  cases b
  · rfl
  · exact toNat_mirrored hi

/-- On the pixels of a packet that fits, `map_logical_pixel` follows the chain through the centred
viewport. -/
theorem mapLogicalPixel_eq (hfits : packet.FitsOn physicalWidth physicalHeight) {x y : UInt16}
    (hy : y.toNat < packet.height.toNat) (hx : x.toNat < packet.width.toNat) :
    mapLogicalPixel x y packet physicalWidth physicalHeight =
      .ok (packet.point physicalWidth physicalHeight
        (packet.chain.place _ _ (⟨y.toNat, hy⟩, ⟨x.toNat, hx⟩))) := by
  have hw := hfits.width
  have hh := hfits.height
  have hparity : ∀ r : UInt16, (r % 2 == 1) = (r.toNat % 2 == 1) := by
    intro r
    rw [Bool.eq_iff_iff, beq_iff_eq, beq_iff_eq, ← UInt16.toNat_inj]
    rfl
  rw [mapLogicalPixel, if_neg (by omega)]
  simp only [FramePacket.point, Grid.Chain.place_fst, Grid.Chain.place_snd]
  rw [Int.tdiv_eq_ediv_of_nonneg (by omega), Int.tdiv_eq_ediv_of_nonneg (by omega)]
  rw [← toNat_mirror hy, ← toNat_mirror hx, Grid.Chain.leftwards, ← hparity]
  rfl

/-- `map_logical_pixel` is a bijection from the pixels of a packet that fits onto the viewport. -/
theorem mapLogicalPixel_bijOn (hfits : packet.FitsOn physicalWidth physicalHeight) :
    Set.BijOn (fun xy => mapLogicalPixel xy.1 xy.2 packet physicalWidth physicalHeight)
      packet.logicalPixels (Except.ok '' packet.viewport physicalWidth physicalHeight) := by
  refine ⟨?_, ?_, ?_⟩
  · intro xy hxy
    obtain ⟨hx, hy⟩ := hxy
    exact ⟨_, FramePacket.point_mem_viewport _, (mapLogicalPixel_eq hfits hy hx).symm⟩
  · intro a ha b hb h
    obtain ⟨hax, hay⟩ := ha
    obtain ⟨hbx, hby⟩ := hb
    simp only [mapLogicalPixel_eq hfits hay hax, mapLogicalPixel_eq hfits hby hbx,
      Except.ok.injEq] at h
    have hcell := (packet.chain.place _ _).injective (FramePacket.point_injective h)
    have hy := congrArg (fun cell : packet.Cell => cell.1.val) hcell
    have hx := congrArg (fun cell : packet.Cell => cell.2.val) hcell
    exact Prod.ext (UInt16.toNat_inj.1 hx) (UInt16.toNat_inj.1 hy)
  · intro r hr
    obtain ⟨p, hp, rfl⟩ := hr
    obtain ⟨cell, rfl⟩ := FramePacket.exists_point hp
    -- The chain leads back from the point to the pixel that is shown there.
    obtain ⟨⟨y, x⟩, rfl⟩ := (packet.chain.place _ _).surjective cell
    have hy : (UInt16.ofNat y.val).toNat = y.val :=
      UInt16.toNat_ofNat_of_lt' (y.isLt.trans packet.height.toNat_lt)
    have hx : (UInt16.ofNat x.val).toNat = x.val :=
      UInt16.toNat_ofNat_of_lt' (x.isLt.trans packet.width.toNat_lt)
    refine ⟨(.ofNat x.val, .ofNat y.val), ⟨?_, ?_⟩, ?_⟩
    · rw [UInt16.lt_iff_toNat_lt, hx]
      exact x.isLt
    · rw [UInt16.lt_iff_toNat_lt, hy]
      exact y.isLt
    · simp only [mapLogicalPixel_eq hfits (hy.trans_lt y.isLt) (hx.trans_lt x.isLt), hy, hx]

/-! ## The loops -/

namespace FramePacket

/-- The point of the canvas at which a pixel is shown. -/
def image (packet : FramePacket) (physicalWidth physicalHeight : Int) (cell : packet.Cell) :
    Point :=
  packet.point physicalWidth physicalHeight (packet.chain.place _ _ cell)

/-- The intensity the `i`-th pixel is shown with. -/
def intensity (packet : FramePacket) (i : Nat) : UInt8 :=
  scaleBrightness (packet.pixels.getD i 0) packet.brightness

/-- How many of the first `n` pixels are shown with an intensity other than zero. -/
def litCount (packet : FramePacket) (n : Nat) : Nat :=
  (packet.pixels.take n).countP fun pixel => scaleBrightness pixel packet.brightness ≠ 0

/-- No two pixels have one point. -/
theorem image_injective : Function.Injective (packet.image physicalWidth physicalHeight) :=
  point_injective.comp (packet.chain.place _ _).injective

/-- Every pixel has its point in the viewport. -/
theorem image_mem_viewport (cell : packet.Cell) :
    packet.image physicalWidth physicalHeight cell ∈ packet.viewport physicalWidth physicalHeight :=
  point_mem_viewport _

/-- One pixel more is lit or it is not. -/
theorem litCount_succ {i : Nat} (hi : i < packet.pixels.length) :
    packet.litCount (i + 1) = packet.litCount i + if packet.intensity i ≠ 0 then 1 else 0 := by
  rw [litCount, List.take_succ_eq_append_getElem hi, List.countP_append, List.countP_singleton]
  simp [litCount, intensity, List.getD_eq_getElem?_getD, List.getElem?_eq_getElem hi]

/-- A well-formed packet has a pixel for each of its cells. -/
theorem WellFormed.rowMajor_lt (hwf : packet.WellFormed) (cell : packet.Cell) :
    (Grid.rowMajor cell).val < packet.pixels.length :=
  calc (Grid.rowMajor cell).val < packet.height.toNat * packet.width.toNat :=
        (Grid.rowMajor cell).isLt
    _ = packet.pixels.length := by rw [hwf.pixels, Nat.mul_comm]

/-- So reading the pixel of a cell never falls outside the payload. -/
theorem WellFormed.getElem?_rowMajor (hwf : packet.WellFormed) (cell : packet.Cell) :
    packet.pixels[(Grid.rowMajor cell).val]? =
      some (packet.pixels.getD (Grid.rowMajor cell).val 0) := by
  simp [List.getElem?_eq_getElem (hwf.rowMajor_lt cell)]

end FramePacket

/-- A colour with all three channels alike. -/
def Rgb.grey (v : UInt8) : Rgb := ⟨v, v, v⟩

/-- What the canvas is like once the first `n` pixels of the packet have been visited. -/
structure Painted (packet : FramePacket) (physicalWidth physicalHeight : Int) (n : Nat)
    (canvas : FrameCanvas) : Prop where
  width : canvas.width = physicalWidth
  height : canvas.height = physicalHeight
  shown : ∀ cell, (Grid.rowMajor cell).val < n →
    canvas.pixel (packet.image physicalWidth physicalHeight cell).x
        (packet.image physicalWidth physicalHeight cell).y =
      .grey (packet.intensity (Grid.rowMajor cell).val)
  black : ∀ p : Point, (∀ cell, (Grid.rowMajor cell).val < n →
    packet.image physicalWidth physicalHeight cell ≠ p) → canvas.pixel p.x p.y = .grey 0
  calls : ∀ p, p ∈ canvas.calls ↔ ∃ cell, (Grid.rowMajor cell).val < n ∧
    packet.intensity (Grid.rowMajor cell).val ≠ 0 ∧
    packet.image physicalWidth physicalHeight cell = p
  nodup : canvas.calls.Nodup
  count : canvas.calls.length = packet.litCount n

/-- A cleared canvas is painted up to the first pixel. -/
theorem painted_blank :
    Painted packet physicalWidth physicalHeight 0 (.blank physicalWidth physicalHeight) where
  width := rfl
  height := rfl
  shown _ h := absurd h (Nat.not_lt_zero _)
  black _ _ := rfl
  calls p := by
    constructor
    · exact fun h => absurd h List.not_mem_nil
    · intro h
      obtain ⟨_, hlt, _⟩ := h
      exact absurd hlt (Nat.not_lt_zero _)
  nodup := List.nodup_nil
  count := rfl

variable {canvas : FrameCanvas} {last : packet.Cell}

/-- A pixel that is not lit is painted by leaving its point black. -/
theorem Painted.skip (hwf : packet.WellFormed)
    (h : Painted packet physicalWidth physicalHeight (Grid.rowMajor last).val canvas)
    (hzero : packet.intensity (Grid.rowMajor last).val = 0) :
    Painted packet physicalWidth physicalHeight ((Grid.rowMajor last).val + 1) canvas where
  width := h.width
  height := h.height
  shown cell hcell := by
    rcases Grid.rowMajor_lt_succ.1 hcell with hlt | rfl
    · exact h.shown cell hlt
    · rw [hzero]
      refine h.black _ fun cell' hlt heq => ?_
      rw [FramePacket.image_injective heq] at hlt
      exact Nat.lt_irrefl _ hlt
  black p hp := h.black p fun cell hlt => hp cell (hlt.trans (Nat.lt_succ_self _))
  calls p := by
    rw [h.calls p]
    constructor
    · intro hp
      obtain ⟨cell, hlt, hcell⟩ := hp
      exact ⟨cell, hlt.trans (Nat.lt_succ_self _), hcell⟩
    · intro hp
      obtain ⟨cell, hlt, hlit, hcell⟩ := hp
      rcases Grid.rowMajor_lt_succ.1 hlt with hlt | rfl
      · exact ⟨cell, hlt, hlit, hcell⟩
      · exact absurd hzero hlit
  nodup := h.nodup
  count := by
    rw [FramePacket.litCount_succ (hwf.rowMajor_lt last), h.count, hzero]
    rfl

/-- A pixel that is lit is painted by one call of `SetPixel` at its point. -/
theorem Painted.set (hwf : packet.WellFormed) (hfits : packet.FitsOn physicalWidth physicalHeight)
    (h : Painted packet physicalWidth physicalHeight (Grid.rowMajor last).val canvas)
    (hlit : packet.intensity (Grid.rowMajor last).val ≠ 0) :
    Ends (FrameCanvas.setPixel (packet.image physicalWidth physicalHeight last)
        (packet.intensity (Grid.rowMajor last).val) (packet.intensity (Grid.rowMajor last).val)
        (packet.intensity (Grid.rowMajor last).val)) canvas
      (fun _ => Painted packet physicalWidth physicalHeight ((Grid.rowMajor last).val + 1))
      (fun _ _ => False) := by
  have hinside := hfits.viewport_inside (FramePacket.image_mem_viewport last)
  rw [FrameCanvas.setPixel, ends_modify]
  refine ⟨h.width, h.height, ?_, ?_, ?_, ?_, ?_⟩
  · intro cell hcell
    rcases Grid.rowMajor_lt_succ.1 hcell with hlt | rfl
    · have hne : packet.image physicalWidth physicalHeight cell ≠
          packet.image physicalWidth physicalHeight last := by
        intro heq
        rw [FramePacket.image_injective heq] at hlt
        exact Nat.lt_irrefl _ hlt
      simp only
      rw [if_neg fun hpoint => hne (Point.ext hpoint.1 hpoint.2.1)]
      exact h.shown cell hlt
    · simp only [h.width, h.height]
      rw [if_pos ⟨trivial, trivial, hinside⟩]
      rfl
  · intro p hp
    simp only
    rw [if_neg fun hpoint => hp last (Nat.lt_succ_self _)
      (Point.ext hpoint.1.symm hpoint.2.1.symm)]
    exact h.black p fun cell hlt => hp cell (hlt.trans (Nat.lt_succ_self _))
  · intro p
    rw [List.mem_cons, h.calls p]
    constructor
    · intro hp
      rcases hp with rfl | ⟨cell, hlt, hcell⟩
      · exact ⟨last, Nat.lt_succ_self _, hlit, rfl⟩
      · exact ⟨cell, hlt.trans (Nat.lt_succ_self _), hcell⟩
    · intro hp
      obtain ⟨cell, hlt, hcell⟩ := hp
      rcases Grid.rowMajor_lt_succ.1 hlt with hlt | rfl
      · exact .inr ⟨cell, hlt, hcell⟩
      · exact .inl hcell.2.symm
  · refine List.nodup_cons.2 ⟨fun hp => ?_, h.nodup⟩
    obtain ⟨cell, hlt, -, hcell⟩ := (h.calls _).1 hp
    rw [FramePacket.image_injective hcell] at hlt
    exact Nat.lt_irrefl _ hlt
  · rw [FramePacket.litCount_succ (hwf.rowMajor_lt last), List.length_cons, h.count, if_pos hlit]

/-- One pass of the inner loop paints its pixel. -/
theorem paintPixel_painted (hwf : packet.WellFormed)
    (hfits : packet.FitsOn physicalWidth physicalHeight) (last : packet.Cell)
    (h : Painted packet physicalWidth physicalHeight (Grid.rowMajor last).val canvas) :
    Ends (paintPixel packet physicalWidth physicalHeight (.ofNat last.1.val) (.ofNat last.2.val))
      canvas (fun _ => Painted packet physicalWidth physicalHeight ((Grid.rowMajor last).val + 1))
      (fun _ _ => False) := by
  have hy : (UInt16.ofNat last.1.val).toNat = last.1.val :=
    UInt16.toNat_ofNat_of_lt' (last.1.isLt.trans packet.height.toNat_lt)
  have hx : (UInt16.ofNat last.2.val).toNat = last.2.val :=
    UInt16.toNat_ofNat_of_lt' (last.2.isLt.trans packet.width.toNat_lt)
  have himage : mapLogicalPixel (.ofNat last.2.val) (.ofNat last.1.val) packet physicalWidth
      physicalHeight = .ok (packet.image physicalWidth physicalHeight last) := by
    simp only [mapLogicalPixel_eq hfits (hy.trans_lt last.1.isLt) (hx.trans_lt last.2.isLt), hy, hx]
    rfl
  simp only [paintPixel, hy, hx, ← Grid.rowMajor_val, hwf.getElem?_rowMajor, ends_bind, ends_expect,
    himage]
  refine ⟨fun pixel hsome => ?_, fun hnone => (Option.some_ne_none _ hnone).elim⟩
  obtain rfl := Option.some.inj hsome
  rw [← FramePacket.intensity]
  by_cases hzero : packet.intensity (Grid.rowMajor last).val = 0
  · rw [if_pos hzero]
    exact h.skip hwf hzero
  · rw [if_neg hzero, ends_bind, ends_ofExcept]
    refine ⟨fun p hp => ?_, fun _ herror => ?_⟩
    · obtain rfl := Except.ok.inj hp
      exact h.set hwf hfits hzero
    · cases herror

/-- Whatever the canvas held, `paint_packet` paints all pixels of a packet that fits. -/
theorem paintPacket_painted (hwf : packet.WellFormed) (canvas : FrameCanvas)
    (hfits : packet.FitsOn canvas.width canvas.height) :
    Ends (paintPacket packet canvas.width canvas.height) canvas
      (fun _ => Painted packet canvas.width canvas.height
        (packet.height.toNat * packet.width.toNat))
      (fun _ _ => False) := by
  rw [paintPacket, ends_bind, FrameCanvas.clear, ends_modify]
  refine ends_forGrid (Painted packet canvas.width canvas.height) painted_blank
    fun y hy x hx canvas' h => ?_
  have hindex : (Grid.rowMajor ((⟨y, hy⟩, ⟨x, hx⟩) : packet.Cell)).val =
      y * packet.width.toNat + x := Grid.rowMajor_val _
  rw [← hindex] at h ⊢
  exact paintPixel_painted hwf hfits (⟨y, hy⟩, ⟨x, hx⟩) h

/-- Once all pixels are painted, the points `SetPixel` was called with are those that are lit. -/
theorem Painted.mem_calls_iff
    (h : Painted packet physicalWidth physicalHeight (packet.height.toNat * packet.width.toNat)
      canvas) (p : Point) : p ∈ canvas.calls ↔ canvas.pixel p.x p.y ≠ ⟨0, 0, 0⟩ := by
  have hgrey : ∀ v, Rgb.grey v ≠ ⟨0, 0, 0⟩ ↔ v ≠ 0 := fun v => by simp [Rgb.grey]
  rw [h.calls p]
  constructor
  · intro hp
    obtain ⟨cell, hlt, hlit, rfl⟩ := hp
    rw [h.shown cell hlt]
    exact (hgrey _).2 hlit
  · intro hp
    by_contra hunlit
    refine hp (h.black p fun cell hlt hcell => hunlit ⟨cell, hlt, ?_, hcell⟩)
    rw [← hcell, h.shown cell hlt] at hp
    exact (hgrey _).1 hp

/-! ## Accepted packets -/

/-- The scaled intensity does not wrap. -/
theorem scaleBrightness_toNat (pixel brightness : UInt8) :
    (scaleBrightness pixel brightness).toNat = (pixel.toNat * brightness.toNat + 127) / 255 := by
  have hle : pixel.toNat * brightness.toNat ≤ 255 * 255 :=
    Nat.mul_le_mul (Nat.le_of_lt_succ pixel.toNat_lt) (Nat.le_of_lt_succ brightness.toNat_lt)
  rw [scaleBrightness, UInt8.toNat_ofNat_of_lt']
  show _ < 256
  omega

/-- A stream that is not good gives no packet. -/
theorem IStream.good_of_readPacket {reader reader' : Reader}
    (hread : readPacket reader = .ok true reader') : reader.input.Good := by
  by_contra hbad
  have hread8 : IStream.read 8 reader.input =
      .ok [] { reader.input with gcount := 0, fail := true } := by
    rw [IStream.read, if_pos]
    simpa [IStream.Good, Decidable.or_iff_not_imp_left] using hbad
  have hends : Ends readPacket reader (fun ok _ => ok = false) (fun _ _ => True) := by
    simp only [readPacket, onInput, readExact, ends_bind, ends_focus, ends_of_ok hread8, ends_get]
    split
    · rfl
    · trivial
  rw [Ends, hread] at hends
  exact absurd hends.symm Bool.false_ne_true

/-- A packet that `read_packet` accepts is well formed. -/
theorem readPacket_wellFormed {reader reader' : Reader}
    (hread : readPacket reader = .ok true reader') : reader'.packet.WellFormed := by
  have hends := readPacket_ends (IStream.good_of_readPacket hread)
  rw [Ends, hread] at hends
  exact (hends.1 rfl).1

/-- `paint_packet` paints an accepted packet that fits without failing, calls `SetPixel` at most
once for a point and only on the canvas, shows every pixel in all channels with its scaled intensity
at the point `map_logical_pixel` maps it to, and leaves the canvas black outside the viewport, on
which `map_logical_pixel` is a bijection. -/
theorem paintPacket_paints {reader reader' : Reader} (hread : readPacket reader = .ok true reader')
    (canvas : FrameCanvas) (hwidth : reader'.packet.width.toNat ≤ canvas.width)
    (hheight : reader'.packet.height.toNat ≤ canvas.height) :
    Set.BijOn
        (fun xy => mapLogicalPixel xy.1 xy.2 reader'.packet canvas.width canvas.height)
        reader'.packet.logicalPixels
        (Except.ok '' reader'.packet.viewport canvas.width canvas.height) ∧
      ∃ canvas', paintPacket reader'.packet canvas.width canvas.height canvas = .ok () canvas' ∧
        canvas'.calls.Nodup ∧
        (∀ p ∈ canvas'.calls, 0 ≤ p.x ∧ p.x < canvas.width ∧ 0 ≤ p.y ∧ p.y < canvas.height) ∧
        (∀ x y p, x < reader'.packet.width → y < reader'.packet.height →
          mapLogicalPixel x y reader'.packet canvas.width canvas.height = .ok p →
          ∃ pixel v,
            reader'.packet.pixels[y.toNat * reader'.packet.width.toNat + x.toNat]? = some pixel ∧
            v.toNat = (pixel.toNat * reader'.packet.brightness.toNat + 127) / 255 ∧
            canvas'.pixel p.x p.y = ⟨v, v, v⟩) ∧
        ∀ p ∉ reader'.packet.viewport canvas.width canvas.height,
          canvas'.pixel p.x p.y = ⟨0, 0, 0⟩ := by
  have hwf := readPacket_wellFormed hread
  have hfits : reader'.packet.FitsOn canvas.width canvas.height := ⟨hwidth, hheight⟩
  refine ⟨mapLogicalPixel_bijOn hfits, ?_⟩
  have hends := paintPacket_painted hwf canvas hfits
  unfold Ends at hends
  cases hrun : paintPacket reader'.packet canvas.width canvas.height canvas with
  | error e canvas' => rw [hrun] at hends; exact hends.elim
  | ok u canvas' =>
    rw [hrun] at hends
    refine ⟨canvas', rfl, hends.nodup, ?_, ?_, ?_⟩
    · intro p hp
      obtain ⟨cell, -, -, rfl⟩ := (hends.calls p).1 hp
      exact hfits.viewport_inside (FramePacket.image_mem_viewport cell)
    · intro x y p hx hy hp
      rw [mapLogicalPixel_eq hfits hy hx] at hp
      obtain rfl := Except.ok.inj hp
      have hshown := hends.shown (⟨y.toNat, hy⟩, ⟨x.toNat, hx⟩) (Fin.isLt _)
      have hpixel := hwf.getElem?_rowMajor (⟨y.toNat, hy⟩, ⟨x.toNat, hx⟩)
      rw [Grid.rowMajor_val] at hshown hpixel
      exact ⟨_, _, hpixel, scaleBrightness_toNat _ _, hshown⟩
    · intro p hp
      refine hends.black p fun cell _ hcell => hp ?_
      rw [← hcell]
      exact FramePacket.image_mem_viewport cell

/-- A reader behind a packet of two pixels, the second of them lit, wired from the right. -/
def sampleReader : Reader :=
  ⟨⟨[], 2, false, false⟩, ⟨1, false, 128, 2, 1, [0, 255]⟩⟩

/-- Such a packet on a canvas of four by three points. -/
theorem paintPacket_paints_sample :
    Set.BijOn
        (fun xy => mapLogicalPixel xy.1 xy.2 sampleReader.packet 4 3)
        sampleReader.packet.logicalPixels
        (Except.ok '' sampleReader.packet.viewport 4 3) ∧
      ∃ canvas', paintPacket sampleReader.packet 4 3 (.blank 4 3) = .ok () canvas' ∧
        canvas'.calls.Nodup ∧
        (∀ p ∈ canvas'.calls, 0 ≤ p.x ∧ p.x < 4 ∧ 0 ≤ p.y ∧ p.y < 3) ∧
        (∀ x y p, x < sampleReader.packet.width → y < sampleReader.packet.height →
          mapLogicalPixel x y sampleReader.packet 4 3 = .ok p →
          ∃ pixel v,
            sampleReader.packet.pixels[y.toNat * sampleReader.packet.width.toNat + x.toNat]? =
              some pixel ∧
            v.toNat = (pixel.toNat * sampleReader.packet.brightness.toNat + 127) / 255 ∧
            canvas'.pixel p.x p.y = ⟨v, v, v⟩) ∧
        ∀ p ∉ sampleReader.packet.viewport 4 3, canvas'.pixel p.x p.y = ⟨0, 0, 0⟩ := by
  have hread : readPacket ⟨.ofBytes sampleReader.packet.bytes, {}⟩ = .ok true sampleReader := rfl
  have hwidth : sampleReader.packet.width.toNat ≤ (FrameCanvas.blank 4 3).width := by decide
  have hheight : sampleReader.packet.height.toNat ≤ (FrameCanvas.blank 4 3).height := by decide
  exact paintPacket_paints hread (.blank 4 3) hwidth hheight

end LeddyRaspPi.Helper
