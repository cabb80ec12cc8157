import LeddyRaspPi.Helper.Painting

/-!
# What the panels show

The helper swaps two canvases, so a packet is painted over what was shown two frames before. That
nothing of it remains rests on `paint_packet` clearing first: the painted canvas is `painting`, a
function of the packet and the size of the canvas (`paintPacket_eq`). The loop keeps the canvas it
paints off the panels (`OffScreen`), so the panels show the paintings of the leading packets of the
input and nothing else (`frameLoop_ends`), whichever way the loop ends.
-/

namespace LeddyRaspPi.Helper

open Fallible

variable {options : Options} {packet : FramePacket}

/-! ## A painting -/

/-- The canvas `paint_packet` leaves for a packet on a canvas of the given size. -/
def painting (width height : Int) (packet : FramePacket) : FrameCanvas :=
  match paintPacket packet width height (.blank width height) with
  | .ok _ canvas => canvas
  | .error _ canvas => canvas

/-- The paintings of a sequence of packets on canvases of the size the options say. -/
def Options.paintings (options : Options) (packets : List FramePacket) : List FrameCanvas :=
  packets.map (painting options.physicalWidth options.physicalHeight)

/-- The canvas has the size the options say. -/
def FrameCanvas.Sized (options : Options) (canvas : FrameCanvas) : Prop :=
  canvas.width = options.physicalWidth ∧ canvas.height = options.physicalHeight

/-- The options hold every viewport the protocol can carry: the check of `main`. -/
def Options.Fits (options : Options) : Prop :=
  300 ≤ options.physicalWidth ∧ 20 ≤ options.physicalHeight

/-- A well-formed packet fits on every canvas the check of `main` lets through. -/
theorem Options.Fits.fitsOn (hfits : options.Fits) (hwf : packet.WellFormed) :
    packet.FitsOn options.physicalWidth options.physicalHeight := by
  have hw := hwf.width
  have hh := hwf.height
  obtain ⟨hpw, hph⟩ := hfits
  exact ⟨by omega, by omega⟩

/-- Whatever a canvas holds, painting a well-formed packet on it leaves the packet's painting, which
has the size of the canvas. -/
theorem paintPacket_eq (hwf : packet.WellFormed) (hfits : options.Fits) {canvas : FrameCanvas}
    (hsized : canvas.Sized options) :
    paintPacket packet options.physicalWidth options.physicalHeight canvas =
      .ok () (painting options.physicalWidth options.physicalHeight packet) ∧
    (painting options.physicalWidth options.physicalHeight packet).Sized options := by
  have hblank : paintPacket packet options.physicalWidth options.physicalHeight canvas =
      paintPacket packet options.physicalWidth options.physicalHeight
        (.blank options.physicalWidth options.physicalHeight) := by
    -- The first thing `paint_packet` does is to clear the canvas.
    rw [← hsized.1, ← hsized.2]
    rfl
  have hends : Ends (paintPacket packet options.physicalWidth options.physicalHeight)
      (.blank options.physicalWidth options.physicalHeight)
      (fun _ canvas' => canvas'.Sized options) (fun _ _ => False) :=
    (paintPacket_painted hwf (.blank _ _) (hfits.fitsOn hwf)).mono
      (fun _ _ hpainted => ⟨hpainted.width, hpainted.height⟩) fun _ _ h => h
  rw [hblank, painting]
  unfold Ends at hends
  cases hrun : paintPacket packet options.physicalWidth options.physicalHeight
      (.blank options.physicalWidth options.physicalHeight) with
  | ok u canvas' => rw [hrun] at hends; exact ⟨rfl, hends⟩
  | error e canvas' => rw [hrun] at hends; exact hends.elim

/-! ## The loop -/

/-- The canvas is not the one the panels show, and every canvas has its size. -/
structure OffScreen (options : Options) (canvas : Nat) (matrix : RgbMatrix) : Prop where
  ne_active : canvas ≠ matrix.active
  sized : ∀ n, (matrix.canvases n).Sized options

/-- Changing a canvas off the panels and swapping it in shows the changed canvas, and leaves the
other one off the panels. -/
theorem onCanvas_swap_ends {canvas : Nat} {reader : Reader} {matrix : RgbMatrix}
    {paint : EStateM Failure FrameCanvas Unit} {painted : FrameCanvas}
    {Q : Nat → Process → Prop} {E : Failure → Process → Prop}
    (hoff : OffScreen options canvas matrix)
    (hpaint : paint (matrix.canvases canvas) = .ok () painted) (hsized : painted.Sized options)
    (hQ : ∀ canvas' matrix', OffScreen options canvas' matrix' →
      matrix'.shown = painted :: matrix.shown → Q canvas' ⟨reader, matrix'⟩) :
    Ends (onMatrix (RgbMatrix.onCanvas canvas paint)) ⟨reader, matrix⟩
      (fun _ t => Ends (onMatrix (RgbMatrix.swapOnVSync canvas)) t Q E) E := by
  simp only [onMatrix, RgbMatrix.onCanvas, RgbMatrix.swapOnVSync, ends_focus, ends_of_ok hpaint,
    ends_bind, ends_get, ends_set, ends_pure, if_neg hoff.ne_active, Function.update_self]
  refine hQ _ _ ⟨hoff.ne_active.symm, fun n => ?_⟩ rfl
  by_cases hn : n = canvas
  · simpa [hn] using hsized
  · simpa [hn] using hoff.sized n

/-- Of `total` packets the loop, entered at its test `i`, processes `n`: the tests before find the
flag clear, and if a packet is left it is because the next test finds it set. -/
structure Processes (stop : Nat → Bool) (i total n : Nat) : Prop where
  le : n ≤ total
  before : ∀ j < n, stop (i + j) = false
  after : n < total → stop (i + n) = true

/-- A test that finds the flag set comes before no packet. -/
theorem Processes.zero {stop : Nat → Bool} {i total : Nat} (h : stop i = true) :
    Processes stop i total 0 := ⟨by omega, nofun, fun _ => h⟩

/-- A test that finds it clear lets one packet through. -/
theorem Processes.succ {stop : Nat → Bool} {i total n : Nat} (hi : stop i = false)
    (h : Processes stop (i + 1) total n) : Processes stop i (total + 1) (n + 1) where
  le := by have := h.le; omega
  before j hj := by
    cases j with
    | zero => exact hi
    | succ j => rw [← h.before j (by omega)]; congr 1; omega
  after hn := by
    rw [← h.after (by omega)]
    congr 1
    omega

/-- The loop shows the paintings of the packets it processes, and ends normally if the flag was
seen or the input ended behind a packet, by an exception otherwise. -/
theorem frameLoop_ends (hfits : options.Fits) {stop : Nat → Bool} {packets : List FramePacket}
    {rest : List UInt8} {fuel i canvas : Nat} {process : Process}
    (hfuel : packets.length < fuel) (hgood : process.reader.input.Good)
    (hleading : packetCode.Leading process.reader.input.rest packets rest)
    (hoff : OffScreen options canvas process.matrix) :
    Ends (frameLoop options stop fuel i canvas) process
      (fun out process' => ∃ canvas' n, out = some canvas' ∧ Processes stop i packets.length n ∧
        (stop (i + n) = true ∨ rest = []) ∧ OffScreen options canvas' process'.matrix ∧
        process'.matrix.shown =
          (options.paintings (packets.take n)).reverse ++ process.matrix.shown)
      (fun e process' => ∃ error n, e = .exception error ∧ Processes stop i packets.length n ∧
        ¬ (stop (i + n) = true ∨ rest = []) ∧ (∀ m, (process'.matrix.canvases m).Sized options) ∧
        process'.matrix.shown =
          (options.paintings (packets.take n)).reverse ++ process.matrix.shown) := by
  induction packets generalizing fuel i canvas process with
  | nil =>
    obtain _ | fuel := fuel
    · simp at hfuel
    rw [frameLoop]
    cases hstop : stop i with
    | true => exact ⟨canvas, 0, rfl, .zero hstop, .inl hstop, hoff, rfl⟩
    | false =>
      have hstuck : ¬ packetCode.Begins process.reader.input.rest := by
        rw [hleading.split]
        exact hleading.stuck
      have hrest : process.reader.input.rest = rest := hleading.split
      have hzero : Processes stop i 0 0 := ⟨by omega, nofun, nofun⟩
      simp only [Bool.false_eq_true, if_false, ends_bind, onReader, ends_adaptExcept, ends_focus]
      rcases readPacket_stuck hgood hstuck with ⟨hnil, input, hread⟩ | ⟨hne, e, input, hread⟩
      · rw [ends_of_ok hread]
        simp only [Bool.false_eq_true, if_false, ends_pure]
        exact ⟨canvas, 0, rfl, hzero, .inr (hrest.symm.trans hnil), hoff, rfl⟩
      · rw [ends_of_error hread]
        refine ⟨e, 0, rfl, hzero, ?_, hoff.sized, rfl⟩
        rw [Nat.add_zero, hstop, ← hrest]
        simpa using hne
  | cons packet packets ih =>
    obtain _ | fuel := fuel
    · simp at hfuel
    rw [frameLoop]
    cases hstop : stop i with
    | true => exact ⟨canvas, 0, rfl, .zero hstop, .inl hstop, hoff, rfl⟩
    | false =>
      have hwf : packet.WellFormed := hleading.valid packet (by simp)
      have hrest : process.reader.input.rest =
          packet.bytes ++ (packetCode.stream packets ++ rest) := by
        rw [hleading.split, Code.stream_cons, List.append_assoc]
        rfl
      obtain ⟨count, hread⟩ := readPacket_bytes hgood hwf hrest
      simp only [Bool.false_eq_true, if_false, ends_bind, onReader, ends_adaptExcept, ends_focus,
        ends_of_ok hread, if_true, ends_get]
      obtain ⟨hpaint, hsized⟩ := paintPacket_eq hwf hfits (hoff.sized canvas)
      refine onCanvas_swap_ends hoff hpaint hsized fun canvas' matrix' hoff' hshown => ?_
      refine (ih (by simpa using hfuel) ⟨rfl, rfl⟩
        ⟨fun p hp => hleading.valid p (by simp [hp]), rfl, hleading.stuck⟩ hoff').mono ?_ ?_
      · intro _ process' h
        obtain ⟨canvas'', n, rfl, hn, hend, hoff'', hshown'⟩ := h
        refine ⟨canvas'', n + 1, rfl, hn.succ hstop, ?_, hoff'', ?_⟩
        · rwa [Nat.add_comm n, ← Nat.add_assoc]
        · simp [hshown', hshown, Options.paintings]
      · intro _ process' h
        obtain ⟨error, n, rfl, hn, hend, hsized', hshown'⟩ := h
        refine ⟨error, n + 1, rfl, hn.succ hstop, ?_, hsized', ?_⟩
        · rwa [Nat.add_comm n, ← Nat.add_assoc]
        · simp [hshown', hshown, Options.paintings]

/-! ## The process -/

/-- The black canvas of the size the options say. -/
def Options.black (options : Options) : FrameCanvas :=
  .blank options.physicalWidth options.physicalHeight

/-- Clearing a canvas of the right size leaves the black one. -/
theorem FrameCanvas.clear_eq {canvas : FrameCanvas} (h : canvas.Sized options) :
    FrameCanvas.clear canvas = .ok () options.black := by
  rw [Options.black, ← h.1, ← h.2]
  rfl

/-- Clearing the matrix shows a black canvas. -/
theorem RgbMatrix.clear_ends {reader : Reader} {matrix : RgbMatrix}
    {Q : Unit → Process → Prop} {E : Failure → Process → Prop}
    (hsized : ∀ n, (matrix.canvases n).Sized options)
    (hQ : ∀ matrix', matrix'.shown = options.black :: matrix.shown →
      (∀ n, (matrix'.canvases n).Sized options) → Q () ⟨reader, matrix'⟩) :
    Ends (onMatrix RgbMatrix.clear) ⟨reader, matrix⟩ Q E := by
  simp only [onMatrix, RgbMatrix.clear, RgbMatrix.onCanvas, ends_focus, ends_bind, ends_get,
    ends_of_ok (FrameCanvas.clear_eq (hsized _))]
  refine hQ _ (by simp) fun n => ?_
  by_cases hn : n = matrix.active
  · simpa [hn] using ⟨rfl, rfl⟩
  · simpa [hn] using hsized n

/-- The deleter of the matrix shows a black canvas. -/
theorem deleteMatrix_eq {process : Process}
    (hsized : ∀ n, (process.matrix.canvases n).Sized options) :
    deleteMatrix process = process.matrix.shown.reverse ++ [options.black] := by
  have hclear : Ends (onMatrix RgbMatrix.clear) process
      (fun _ process' => process'.matrix.shown = options.black :: process.matrix.shown)
      (fun _ _ => False) := RgbMatrix.clear_ends hsized fun _ hshown _ => hshown
  unfold Ends at hclear
  unfold deleteMatrix
  cases hrun : onMatrix RgbMatrix.clear process with
  | ok u process' => rw [hrun] at hclear; simp [hclear]
  | error e process' => rw [hrun] at hclear; exact hclear.elim

/-- From a new matrix on, `main` shows a black canvas, the paintings of the packets it processes
and, if the loop ends normally, black canvases again. -/
theorem serve_ends (hfits : options.Fits) (pixels : Nat → Int → Int → Rgb) (stop : Nat → Bool)
    {input rest : List UInt8} {packets : List FramePacket} {fuel : Nat}
    (hleading : packetCode.Leading input packets rest) (hfuel : packets.length < fuel) :
    Ends (serve options stop fuel) ⟨⟨.ofBytes input, {}⟩, .create options pixels⟩
      (fun out process => out = some () ∧ ∃ n, Processes stop 0 packets.length n ∧
        (stop n = true ∨ rest = []) ∧ (∀ m, (process.matrix.canvases m).Sized options) ∧
        process.matrix.shown = options.black :: options.black ::
          ((options.paintings (packets.take n)).reverse ++ [options.black]))
      (fun e process => ∃ error n, e = .exception error ∧ Processes stop 0 packets.length n ∧
        ¬ (stop n = true ∨ rest = []) ∧ (∀ m, (process.matrix.canvases m).Sized options) ∧
        process.matrix.shown = (options.paintings (packets.take n)).reverse ++ [options.black]) := by
  have hroom : ¬ (options.physicalWidth < kMaxLogicalWidth.toNat ∨
      options.physicalHeight < kMaxLogicalHeight.toNat) := by
    have hw : (kMaxLogicalWidth.toNat : Int) = 300 := by decide
    have hh : (kMaxLogicalHeight.toNat : Int) = 20 := by decide
    obtain ⟨hpw, hph⟩ := hfits
    omega
  have hoff : OffScreen options 1 { RgbMatrix.create options pixels with count := 2 } :=
    ⟨Nat.one_ne_zero, fun _ => ⟨rfl, rfl⟩⟩
  rw [serve, ends_bind, ends_require]
  refine ⟨fun _ => ?_, fun h => absurd hroom h⟩
  have hcreate : onMatrix RgbMatrix.createFrameCanvas
      ⟨⟨.ofBytes input, {}⟩, .create options pixels⟩ =
        .ok 1 ⟨⟨.ofBytes input, {}⟩, { RgbMatrix.create options pixels with count := 2 }⟩ := rfl
  simp only [ends_bind, ends_of_ok hcreate]
  refine onCanvas_swap_ends hoff (FrameCanvas.clear_eq (hoff.sized 1)) ⟨rfl, rfl⟩
    fun canvas matrix hoff' hshown => ?_
  have hblack : matrix.shown = [options.black] := hshown
  refine (frameLoop_ends hfits hfuel ⟨rfl, rfl⟩ hleading hoff').mono ?_ ?_
  · intro _ process h
    obtain ⟨canvas', n, rfl, hn, hend, hoff'', hshown'⟩ := h
    simp only [ends_bind]
    refine onCanvas_swap_ends hoff'' (FrameCanvas.clear_eq (hoff''.sized canvas')) ⟨rfl, rfl⟩
      fun canvas'' matrix' hoff₃ hshown₃ => ?_
    refine RgbMatrix.clear_ends hoff₃.sized fun matrix₄ hshown₄ hsized₄ => ?_
    rw [Nat.zero_add] at hend
    refine ⟨rfl, n, hn, hend, hsized₄, ?_⟩
    rw [hshown₄, hshown₃, hshown', hblack]
  · intro _ process h
    obtain ⟨error, n, rfl, hn, hend, hsized, hshown'⟩ := h
    rw [Nat.zero_add] at hend
    exact ⟨error, n, rfl, hn, hend, hsized, by rw [hshown', hblack]⟩

/-- The panels show a black canvas, then for each packet processed the painting of that packet, a
function of the packet and the size of the canvas, and then only black canvases, at least one. The
packets processed are the leading complete packets of the input up to the stop point. The status is
0 if the stop flag was seen or the input ended behind a packet, and 1 otherwise. -/
theorem main_shows {getenv : String → Option String} (hoptions : readOptions getenv = .ok options)
    (hfits : options.Fits) (pixels : Nat → Int → Int → Rgb) (stop : Nat → Bool)
    (input : List UInt8) {fuel : Nat} (hfuel : input.length < fuel) :
    ∃ packets rest n blacks, packetCode.Leading input packets rest ∧
      Processes stop 0 packets.length n ∧
      (main getenv true pixels stop input fuel).shown = options.black ::
        (options.paintings (packets.take n) ++ List.replicate (blacks + 1) options.black) ∧
      (stop n = true ∨ rest = [] →
        (main getenv true pixels stop input fuel).exit = .status 0) ∧
      (¬ (stop n = true ∨ rest = []) →
        (main getenv true pixels stop input fuel).exit = .status 1) := by
  obtain ⟨packets, rest, hleading⟩ := packetCode.exists_leading input
  have hserve := serve_ends hfits pixels stop hleading
    (Nat.lt_of_le_of_lt hleading.length_le hfuel)
  unfold Ends at hserve
  unfold main
  simp only [hoptions, if_true]
  cases hrun : serve options stop fuel ⟨⟨.ofBytes input, {}⟩, .create options pixels⟩ with
  | ok out process =>
    rw [hrun] at hserve
    obtain ⟨rfl, n, hn, hend, hsized, hshown⟩ := hserve
    refine ⟨packets, rest, n, 2, hleading, hn, ?_, fun _ => rfl, fun h => absurd hend h⟩
    simp [deleteMatrix_eq hsized, hshown, List.replicate]
  | error e process =>
    rw [hrun] at hserve
    obtain ⟨error, n, rfl, hn, hend, hsized, hshown⟩ := hserve
    refine ⟨packets, rest, n, 0, hleading, hn, ?_, fun h => absurd h hend, fun _ => rfl⟩
    simp [deleteMatrix_eq hsized, hshown]

/-- Two packets, and the beginning of a third. -/
def cutInput : List UInt8 :=
  FramePacket.bytes ⟨1, true, 200, 2, 1, [255, 128]⟩ ++
    FramePacket.bytes ⟨2, false, 90, 1, 3, [10, 0, 255]⟩ ++
    (FramePacket.bytes ⟨0, true, 200, 2, 2, [1, 2, 3, 4]⟩).take 21

/-- Two chains of lower panels. -/
def twoChains (name : String) : Option String :=
  if name = "LEDDY_HUB75_ROWS" then some "16"
  else if name = "LEDDY_HUB75_PARALLEL" then some "2"
  else none

/-- On that input, with a flag that the eighth test would find set. -/
theorem main_shows_truncated :
    ∃ packets rest n blacks, packetCode.Leading cutInput packets rest ∧
      Processes (fun i => i == 7) 0 packets.length n ∧
      (main twoChains true (fun _ _ _ => ⟨0, 0, 0⟩) (fun i => i == 7) cutInput 100).shown =
        Options.black ⟨16, 64, 5, 2⟩ :: (Options.paintings ⟨16, 64, 5, 2⟩ (packets.take n) ++
          List.replicate (blacks + 1) (Options.black ⟨16, 64, 5, 2⟩)) ∧
      ((n == 7) = true ∨ rest = [] →
        (main twoChains true (fun _ _ _ => ⟨0, 0, 0⟩) (fun i => i == 7) cutInput 100).exit =
          .status 0) ∧
      (¬ ((n == 7) = true ∨ rest = []) →
        (main twoChains true (fun _ _ _ => ⟨0, 0, 0⟩) (fun i => i == 7) cutInput 100).exit =
          .status 1) :=
  main_shows rfl (by unfold Options.Fits Options.physicalWidth Options.physicalHeight; decide) _ _ _
    (by decide)

end LeddyRaspPi.Helper
