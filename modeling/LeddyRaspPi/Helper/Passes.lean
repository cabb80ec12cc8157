import LeddyRaspPi.Helper.Shows
import LeddyRaspPi.Lib.Channel

/-!
# The passes of the helper

`main` of the helper taken apart at the places where a signal or a kill may find it: `boot` runs up
to the loop; a pass of the loop is `read_packet`, `paint` and the swap of the canvases; `shutDown` is
what follows the loop, `unwind` the deleter of the matrix. `serve_eq` and `fromTest_succ` put them
together again. The packets come out of a channel (`Code.Carries`), so `read_packet` takes the next
packet that was sent, or finds the channel drained (`read_ends`).
-/

namespace LeddyRaspPi.Helper

open Fallible

variable {options : Options}

/-! ## The parts of `main` -/

/-- `main` from the check of the physical size up to its loop, with the canvas to paint first. -/
def boot (options : Options) : EStateM Failure Process Nat := do
  require (¬ (options.physicalWidth < kMaxLogicalWidth.toNat ∨
      options.physicalHeight < kMaxLogicalHeight.toNat))
    (.exception ⟨"configured HUB75 canvas cannot fit the maximum Leddy viewport"⟩)
  let canvas ← onMatrix RgbMatrix.createFrameCanvas
  onMatrix (RgbMatrix.onCanvas canvas FrameCanvas.clear)
  onMatrix (RgbMatrix.swapOnVSync canvas)

/-- `paint_packet` as the loop of `main` calls it, on the packet that has been read. -/
def paint (options : Options) (canvas : Nat) : EStateM Failure Process Unit := do
  let process ← get
  onMatrix (RgbMatrix.onCanvas canvas
    (paintPacket process.reader.packet options.physicalWidth options.physicalHeight))

/-- `main` behind its loop. -/
def shutDown (canvas : Nat) : EStateM Failure Process Unit := do
  onMatrix (RgbMatrix.onCanvas canvas FrameCanvas.clear)
  let _ ← onMatrix (RgbMatrix.swapOnVSync canvas)
  onMatrix RgbMatrix.clear

/-- The process behind `MatrixDeleter`. -/
def unwind (process : Process) : Process :=
  match onMatrix RgbMatrix.clear process with
  | .ok _ process' => process'
  | .error _ process' => process'

/-- What the panels have shown in the end is what they have shown when the deleter is through. -/
theorem deleteMatrix_unwind (process : Process) :
    deleteMatrix process = (unwind process).matrix.shown.reverse := by
  rw [deleteMatrix, unwind]
  cases onMatrix RgbMatrix.clear process <;> rfl

/-! ## What is left of `main` -/

/-- Behind the loop, as far as the `return 0`. -/
def ending (canvas : Nat) : EStateM Failure Process (Option Unit) := do
  shutDown canvas
  pure (some ())

/-- From the `i`-th test of the condition on. -/
def fromTest (options : Options) (stop : Nat → Bool) (fuel i canvas : Nat) :
    EStateM Failure Process (Option Unit) := do
  match ← frameLoop options stop fuel i canvas with
  | none => pure none
  | some canvas => ending canvas

/-- From the swap of the canvases on; the next test is the `i`-th. -/
def fromSwap (options : Options) (stop : Nat → Bool) (fuel i canvas : Nat) :
    EStateM Failure Process (Option Unit) := do
  let canvas ← onMatrix (RgbMatrix.swapOnVSync canvas)
  fromTest options stop fuel i canvas

/-- From `paint_packet` on. -/
def fromPaint (options : Options) (stop : Nat → Bool) (fuel i canvas : Nat) :
    EStateM Failure Process (Option Unit) := do
  paint options canvas
  fromSwap options stop fuel i canvas

/-- From `read_packet` on. -/
def fromRead (options : Options) (stop : Nat → Bool) (fuel i canvas : Nat) :
    EStateM Failure Process (Option Unit) := do
  let more ← onReader readPacket
  if more then fromPaint options stop fuel i canvas else ending canvas

/-- From the condition the loop goes on to `read_packet`, unless the flag is set. -/
theorem fromTest_succ (stop : Nat → Bool) (fuel i canvas : Nat) :
    fromTest options stop (fuel + 1) i canvas =
      if stop i then ending canvas else fromRead options stop fuel (i + 1) canvas := by
  rw [fromTest, frameLoop]
  cases stop i with
  | true => rfl
  | false =>
    simp only [Bool.false_eq_true, if_false, bind_assoc, fromRead]
    congr 1
    funext more
    cases more with
    | true => simp only [if_true, bind_assoc, fromPaint, fromSwap, fromTest, paint]
    | false => rfl

/-- `main` is its parts. -/
theorem serve_eq (stop : Nat → Bool) (fuel : Nat) :
    serve options stop fuel = boot options >>= fromTest options stop fuel 0 := by
  simp only [boot, bind_assoc]
  rfl

/-- What `main` makes of the end of `serve`. -/
def finish : EStateM.Result Failure Process (Option Unit) → Run
  | .ok (some _) process => ⟨.status 0, deleteMatrix process⟩
  | .ok none process => ⟨.running, process.matrix.shown.reverse⟩
  | .error (.exception _) process => ⟨.status 1, deleteMatrix process⟩
  | .error (.outOfBounds _) process => ⟨.undefined, process.matrix.shown.reverse⟩

/-- With good variables and a matrix, `main` is `serve` and what it makes of its end. -/
theorem main_eq {getenv : String → Option String} (hoptions : readOptions getenv = .ok options)
    (pixels : Nat → Int → Int → Rgb) (stop : Nat → Bool) (input : List UInt8) (fuel : Nat) :
    main getenv true pixels stop input fuel =
      finish (serve options stop fuel ⟨⟨.ofBytes input, {}⟩, .create options pixels⟩) := by
  unfold main
  simp only [hoptions, if_true]
  rfl

/-! ## What the parts do -/

/-- From a new matrix on, `main` gets to its loop and has shown a black canvas. -/
theorem boot_ends (hfits : options.Fits) (reader : Reader) (pixels : Nat → Int → Int → Rgb) :
    Ends (boot options) ⟨reader, .create options pixels⟩
      (fun canvas process => OffScreen options canvas process.matrix ∧
        process.matrix.shown = [options.black] ∧ process.reader = reader)
      (fun _ _ => False) := by
  have hroom : ¬ (options.physicalWidth < kMaxLogicalWidth.toNat ∨
      options.physicalHeight < kMaxLogicalHeight.toNat) := by
    have hw : (kMaxLogicalWidth.toNat : Int) = 300 := by decide
    have hh : (kMaxLogicalHeight.toNat : Int) = 20 := by decide
    obtain ⟨hpw, hph⟩ := hfits
    omega
  have hoff : OffScreen options 1 { RgbMatrix.create options pixels with count := 2 } :=
    ⟨Nat.one_ne_zero, fun _ => ⟨rfl, rfl⟩⟩
  have hcreate : onMatrix RgbMatrix.createFrameCanvas ⟨reader, .create options pixels⟩ =
      .ok 1 ⟨reader, { RgbMatrix.create options pixels with count := 2 }⟩ := rfl
  rw [boot, ends_bind, ends_require]
  refine ⟨fun _ => ?_, fun h => absurd hroom h⟩
  rw [ends_bind, ends_of_ok hcreate, ends_bind]
  exact onCanvas_swap_ends hoff (FrameCanvas.clear_eq (hoff.sized 1)) ⟨rfl, rfl⟩
    fun _ _ hoff' hshown => ⟨hoff', hshown, rfl⟩

/-- At its end the stream says so. -/
theorem readPacket_empty {reader : Reader} (hgood : reader.input.Good)
    (hrest : reader.input.rest = []) :
    readPacket reader = .ok false ⟨⟨[], 0, true, true⟩, reader.packet⟩ := by
  obtain ⟨⟨rest, gcount, eof, fail⟩, packet⟩ := reader
  obtain ⟨rfl, rfl⟩ := hgood
  cases hrest
  rfl

/-- `read_packet` at the reader's end of a channel: it takes the next packet that was sent; or it
finds the end of the stream, behind the last packet; or it throws, where the writer has broken off in
the middle of a packet. -/
theorem read_ends {process : Process} {sent received : List FramePacket} {tail : List UInt8}
    (hgood : process.reader.input.Good)
    (hcarries : packetCode.Carries sent received tail process.reader.input.rest) :
    Ends (onReader readPacket) process
      (fun more process' => process'.matrix = process.matrix ∧
        (more = true ∧ process'.reader.input.Good ∧ packetCode.Carries sent
            (received ++ [process'.reader.packet]) tail process'.reader.input.rest ∨
          more = false ∧ received = sent ∧ tail = []))
      (fun e process' => (∃ error, e = .exception error) ∧ process'.matrix = process.matrix ∧
        received = sent ∧ tail ≠ []) := by
  simp only [onReader, ends_adaptExcept, ends_focus]
  by_cases hbegins : packetCode.Begins process.reader.input.rest
  · obtain ⟨packet, rest, hwf, hrest⟩ := hbegins
    obtain ⟨count, hread⟩ := readPacket_bytes hgood hwf hrest
    rw [ends_of_ok hread]
    exact ⟨trivial, .inl ⟨rfl, ⟨rfl, rfl⟩, (hrest ▸ hcarries).receive hwf⟩⟩
  · obtain ⟨hall, hflight⟩ := hcarries.drained hbegins
    rcases readPacket_stuck hgood hbegins with ⟨hnil, _⟩ | ⟨hne, error, input, hread⟩
    · rw [ends_of_ok (readPacket_empty hgood hnil)]
      exact ⟨trivial, .inr ⟨rfl, hall, hflight.symm.trans hnil⟩⟩
    · rw [ends_of_error hread]
      exact ⟨⟨error, rfl⟩, trivial, hall, hflight ▸ hne⟩

/-- Painting a well-formed packet leaves its painting on the canvas, which stays off the panels. -/
theorem paint_ends (hfits : options.Fits) {canvas : Nat} {process : Process}
    (hwf : process.reader.packet.WellFormed) (hoff : OffScreen options canvas process.matrix) :
    Ends (paint options canvas) process
      (fun _ process' => process'.reader = process.reader ∧
        OffScreen options canvas process'.matrix ∧ process'.matrix.shown = process.matrix.shown ∧
        process'.matrix.canvases canvas =
          painting options.physicalWidth options.physicalHeight process.reader.packet)
      (fun _ _ => False) := by
  obtain ⟨hpaint, hsized⟩ := paintPacket_eq hwf hfits (hoff.sized canvas)
  simp only [paint, onMatrix, RgbMatrix.onCanvas, ends_bind, ends_get, ends_focus,
    ends_of_ok hpaint, if_neg hoff.ne_active, Function.update_self, true_and]
  refine ⟨⟨hoff.ne_active, fun n => ?_⟩, trivial⟩
  by_cases hn : n = canvas
  · simpa [hn] using hsized
  · simpa [hn] using hoff.sized n

/-- The swap shows the canvas, and the one shown before goes off the panels. -/
theorem swap_ends {canvas : Nat} {process : Process}
    (hoff : OffScreen options canvas process.matrix) :
    Ends (onMatrix (RgbMatrix.swapOnVSync canvas)) process
      (fun canvas' process' => process'.reader = process.reader ∧
        OffScreen options canvas' process'.matrix ∧
        process'.matrix.shown = process.matrix.canvases canvas :: process.matrix.shown)
      (fun _ _ => False) := by
  simp only [onMatrix, RgbMatrix.swapOnVSync, ends_focus, ends_bind, ends_get, ends_set, ends_pure,
    and_true, true_and]
  exact ⟨hoff.ne_active.symm, hoff.sized⟩

/-- Behind its loop `main` shows black canvases. -/
theorem shutDown_ends {canvas : Nat} {process : Process}
    (hoff : OffScreen options canvas process.matrix) :
    Ends (shutDown canvas) process
      (fun _ process' => (∀ n, (process'.matrix.canvases n).Sized options) ∧
        process'.matrix.shown = options.black :: options.black :: process.matrix.shown)
      (fun _ _ => False) := by
  simp only [shutDown, ends_bind]
  refine onCanvas_swap_ends hoff (FrameCanvas.clear_eq (hoff.sized canvas)) ⟨rfl, rfl⟩
    fun canvas' matrix' hoff' hshown => ?_
  refine RgbMatrix.clear_ends hoff'.sized fun matrix'' hshown' hsized => ⟨hsized, ?_⟩
  rw [hshown', hshown]

/-- The deleter shows a black canvas. -/
theorem unwind_shown {process : Process} (hsized : ∀ n, (process.matrix.canvases n).Sized options) :
    (unwind process).matrix.shown = options.black :: process.matrix.shown := by
  have hends : Ends (onMatrix RgbMatrix.clear) process
      (fun _ process' => process'.matrix.shown = options.black :: process.matrix.shown)
      (fun _ _ => False) := RgbMatrix.clear_ends hsized fun _ hshown _ => hshown
  unfold Ends at hends
  unfold unwind
  cases hrun : onMatrix RgbMatrix.clear process with
  | ok u process' => rw [hrun] at hends; exact hends
  | error e process' => rw [hrun] at hends; exact hends.elim

/-! ## More bytes behind -/

/-- The stream with more bytes behind what is to come. -/
def IStream.behind (more : List UInt8) (input : IStream) : IStream :=
  { input with rest := input.rest ++ more }

/-- The stream has met its end. -/
def IStream.AtEnd (input : IStream) : Prop := input.eof = true

/-- The arguments of `read_packet`, with more bytes behind. -/
def Reader.behind (more : List UInt8) (reader : Reader) : Reader :=
  { reader with input := reader.input.behind more }

/-- The process, with more bytes behind. -/
def Process.behind (more : List UInt8) (process : Process) : Process :=
  { process with reader := process.reader.behind more }

/-- A read that does not meet the end does not see what comes later. -/
theorem IStream.read_ignores (more : List UInt8) (size : Nat) :
    Ignores (behind more) AtEnd (IStream.read size) where
  stays input heof := by
    have hread : IStream.read size input = .ok [] { input with gcount := 0, fail := true } :=
      if_pos (.inl heof)
    rw [hread]
    exact heof
  commutes input hopen := by
    unfold IStream.read at hopen ⊢
    by_cases hbad : input.eof = true ∨ input.fail = true
    · rw [if_pos hbad]
      exact if_pos hbad
    · rw [if_neg hbad] at hopen ⊢
      refine (if_neg hbad).trans ?_
      by_cases hsize : size ≤ input.rest.length
      · have hlonger : size ≤ (input.rest ++ more).length := by
          rw [List.length_append]
          omega
        rw [if_pos hsize]
        refine (if_pos hlonger).trans ?_
        show EStateM.Result.ok ((input.rest ++ more).take size)
            { input with rest := (input.rest ++ more).drop size, gcount := size } = _
        rw [List.take_append_of_le_length hsize, List.drop_append_of_le_length hsize]
        rfl
      · rw [if_neg hsize] at hopen
        exact absurd rfl hopen

/-- `read_exact` looks at the count and the state of the stream only. -/
theorem readExact_ignores (more : List UInt8) (size : Nat) :
    Ignores (IStream.behind more) IStream.AtEnd (readExact size) := by
  refine (IStream.read_ignores more size).bind fun destination => ?_
  refine ignores_get (fun input => ?_) fun input => rfl
  split
  · exact ignores_pure none
  · split
    · exact ignores_throw _
    · exact ignores_pure _

/-- Nor does a read that must succeed see what comes later. -/
theorem readOrThrow_ignores (more : List UInt8) (size : Nat) (what : String) :
    Ignores (Reader.behind more) (fun reader => reader.input.AtEnd) (readOrThrow size what) := by
  have hread : Ignores (Reader.behind more) (fun reader => reader.input.AtEnd)
      (onInput (readExact size)) :=
    (readExact_ignores more size).focus (fun _ => rfl) (fun _ _ => rfl) fun _ _ => rfl
  exact hread.bind fun bytes => ignores_expect bytes _

/-- What follows the magic is read field by field. -/
theorem readAfterMagic_ignores (more : List UInt8) :
    Ignores (Reader.behind more) (fun reader => reader.input.AtEnd) readAfterMagic := by
  unfold readAfterMagic
  refine (readOrThrow_ignores more 4 _).bind fun metadata => ?_
  refine (ignores_require _ _).bind fun _ => (ignores_require _ _).bind fun _ => ?_
  refine (ignores_require _ _).bind fun _ => ?_
  refine (readOrThrow_ignores more 2 _).bind fun widthBytes => ?_
  refine (readOrThrow_ignores more 2 _).bind fun heightBytes => ?_
  refine (readOrThrow_ignores more 4 _).bind fun lengthBytes => ?_
  refine (ignores_require _ _).bind fun _ => (ignores_require _ _).bind fun _ => ?_
  refine (ignores_require _ _).bind fun _ => ?_
  refine (readOrThrow_ignores more _ _).bind fun pixels => Ignores.bind ?_ fun _ => ignores_pure true
  exact ignores_modify (fun _ => rfl) fun _ h => h

/-- Unless it meets the end of the stream, `read_packet` does not see what comes later. -/
theorem readPacket_ignores (more : List UInt8) :
    Ignores (Process.behind more) (fun process => process.reader.input.AtEnd)
      (onReader readPacket) := by
  have hmagic : Ignores (Reader.behind more) (fun reader => reader.input.AtEnd)
      (onInput (readExact 8)) :=
    (readExact_ignores more 8).focus (fun _ => rfl) (fun _ _ => rfl) fun _ _ => rfl
  have hread : Ignores (Reader.behind more) (fun reader => reader.input.AtEnd) readPacket := by
    refine hmagic.bind fun magic => ?_
    cases magic with
    | none => exact ignores_pure false
    | some magic => exact (ignores_require _ _).bind fun _ => readAfterMagic_ignores more
  have hfocus : Ignores (Process.behind more) (fun process => process.reader.input.AtEnd)
      (focus Process.reader (fun reader process => { process with reader }) readPacket) :=
    hread.focus (fun _ => rfl) (fun _ _ => rfl) fun _ _ => rfl
  exact hfocus.adaptExcept

/-- The panel driver has no part in the stream. -/
theorem onMatrix_ignores {α : Type} (more : List UInt8) (m : EStateM Failure RgbMatrix α) :
    Ignores (Process.behind more) (fun _ => False) (onMatrix m) :=
  (ignores_id m).focus (fun _ => rfl) (fun _ _ => rfl) fun _ _ => rfl

/-- Nor has the start of `main`. -/
theorem boot_ignores (more : List UInt8) :
    Ignores (Process.behind more) (fun _ => False) (boot options) := by
  unfold boot
  refine (ignores_require _ _).bind fun _ => (onMatrix_ignores more _).bind fun canvas => ?_
  exact (onMatrix_ignores more _).bind fun _ => onMatrix_ignores more _

/-- Painting takes the packet and leaves the stream. -/
theorem paint_ignores (more : List UInt8) (canvas : Nat) :
    Ignores (Process.behind more) (fun _ => False) (paint options canvas) :=
  ignores_get (fun _ => onMatrix_ignores more _) fun _ => rfl

/-- Behind the loop nothing is read any more. -/
theorem ending_ignores (more : List UInt8) (canvas : Nat) :
    Ignores (Process.behind more) (fun _ => False) (ending canvas) := by
  have hshutDown : Ignores (Process.behind more) (fun _ => False) (shutDown canvas) := by
    unfold shutDown
    refine (onMatrix_ignores more _).bind fun _ => (onMatrix_ignores more _).bind fun _ => ?_
    exact onMatrix_ignores more _
  exact hshutDown.bind fun _ => ignores_pure _

/-- How `main` ends does not show what is left in the stream. -/
theorem finish_behind (more : List UInt8)
    (result : EStateM.Result Failure Process (Option Unit)) :
    finish (mapState (Process.behind more) result) = finish result := by
  have hdelete : ∀ process : Process,
      deleteMatrix (process.behind more) = deleteMatrix process := by
    intro process
    unfold deleteMatrix
    rw [(onMatrix_ignores more RgbMatrix.clear).commutes process id]
    cases onMatrix RgbMatrix.clear process <;> rfl
  cases result with
  | ok out process =>
    cases out with
    | none => rfl
    | some u => exact congrArg (Run.mk _) (hdelete process)
  | error failure process =>
    cases failure with
    | exception error => exact congrArg (Run.mk _) (hdelete process)
    | outOfBounds index => rfl

/-- So what is left in the stream behind the loop does not change how `main` ends. -/
theorem finish_ending_behind (more : List UInt8) (canvas : Nat) (process : Process) :
    finish (ending canvas (process.behind more)) = finish (ending canvas process) := by
  rw [(ending_ignores more canvas).commutes process id, finish_behind]

end LeddyRaspPi.Helper
