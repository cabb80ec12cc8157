import LeddyRaspPi.Helper.Protocol
import Mathlib.Logic.Function.Basic

/-!
# The helper process

`main.cc`: the canvases of the panel driver, `paint_packet`, and `main` with its loop, its exit paths
and the deleter of the matrix. Of the driver the model keeps which canvas is shown and what each
canvas holds; `shown` lists what the panels have shown, so a change of the canvas that is shown
shows up there. The moments at which the loop finds the stop flag set are an argument.
-/

namespace LeddyRaspPi.Helper

open Fallible

/-- How the helper can fail: by a C++ exception, or by indexing a vector out of its bounds, which
has no defined outcome. -/
inductive Failure where
  | exception (error : RuntimeError)
  | outOfBounds (index : Nat)
  deriving DecidableEq

/-! ## The panel driver

`rgb_matrix` is a library of its own. What follows stands for what it documents of the calls
that `main.cc` makes; what the panels do between two frames is left out. -/

/-- The colour of a pixel. -/
structure Rgb where
  r : UInt8
  g : UInt8
  b : UInt8
  deriving DecidableEq

/-- `rgb_matrix::FrameCanvas`, a buffer of the size of the matrix that is drawn on off the panels: its
size, its pixels, and the points `SetPixel` was called with since it was last cleared, latest
first. -/
structure FrameCanvas where
  width : Int
  height : Int
  pixel : Int → Int → Rgb
  calls : List Point

namespace FrameCanvas

/-- A black canvas. -/
def blank (width height : Int) : FrameCanvas := ⟨width, height, fun _ _ => ⟨0, 0, 0⟩, []⟩

/-- `FrameCanvas::Clear`: all of the canvas is black. -/
def clear : EStateM Failure FrameCanvas Unit := modify fun canvas => blank canvas.width canvas.height

/-- `FrameCanvas::SetPixel`: the pixel at the point has that colour, and no other changes. A point
outside the canvas changes no pixel. -/
def setPixel (point : Point) (r g b : UInt8) : EStateM Failure FrameCanvas Unit :=
  modify fun canvas =>
    { canvas with
      calls := point :: canvas.calls
      pixel := fun x y =>
        if x = point.x ∧ y = point.y ∧ 0 ≤ x ∧ x < canvas.width ∧ 0 ≤ y ∧ y < canvas.height
        then ⟨r, g, b⟩ else canvas.pixel x y }

end FrameCanvas

/-- `rgb_matrix::RGBMatrix`: its canvases by number, how many there are, which one is shown, and
what the panels have shown since the matrix was created, latest first. The matrix keeps refreshing
the panels from the canvas that is shown. -/
structure RgbMatrix where
  canvases : Nat → FrameCanvas
  count : Nat
  active : Nat
  shown : List FrameCanvas

namespace RgbMatrix

/-- `RGBMatrix::CreateFrameCanvas`: one more canvas, which the matrix owns and does not show. -/
def createFrameCanvas : EStateM Failure RgbMatrix Nat := do
  let matrix ← get
  set { matrix with count := matrix.count + 1 }
  pure matrix.count

/-- A change of one canvas; if that canvas is shown, so is its new content. -/
def onCanvas {α : Type} (canvas : Nat) :
    EStateM Failure FrameCanvas α → EStateM Failure RgbMatrix α :=
  focus (fun matrix => matrix.canvases canvas) fun content matrix =>
    { matrix with
      canvases := Function.update matrix.canvases canvas content
      shown := if canvas = matrix.active then content :: matrix.shown else matrix.shown }

/-- `RGBMatrix::SwapOnVSync`: it waits for the end of the frame, shows the canvas and returns the one
shown before, which may be drawn on again. -/
def swapOnVSync (canvas : Nat) : EStateM Failure RgbMatrix Nat := do
  let matrix ← get
  set { matrix with active := canvas, shown := matrix.canvases canvas :: matrix.shown }
  pure matrix.active

/-- `RGBMatrix::Clear`: the matrix is a canvas too, and this blanks the one that is shown. -/
def clear : EStateM Failure RgbMatrix Unit := do
  let matrix ← get
  onCanvas matrix.active FrameCanvas.clear

end RgbMatrix

/-! ## Painting -/

/-- The body of the loops of `paint_packet`. -/
def paintPixel (packet : FramePacket) (physicalWidth physicalHeight : Int) (y x : UInt16) :
    EStateM Failure FrameCanvas Unit := do
  let index := y.toNat * packet.width.toNat + x.toNat
  let pixel ← expect packet.pixels[index]? (.outOfBounds index)
  let intensity := scaleBrightness pixel packet.brightness
  if intensity = 0 then pure ()
  else do
    let point ← ofExcept ((mapLogicalPixel x y packet physicalWidth physicalHeight).mapError
      .exception)
    FrameCanvas.setPixel point intensity intensity intensity

/-- `paint_packet`. -/
def paintPacket (packet : FramePacket) (physicalWidth physicalHeight : Int) :
    EStateM Failure FrameCanvas Unit := do
  FrameCanvas.clear
  forRange packet.height.toNat fun y =>
    forRange packet.width.toNat fun x =>
      paintPixel packet physicalWidth physicalHeight (.ofNat y) (.ofNat x)

/-! ## Start-up -/

/-- `std::stoi` in base ten, with the characters it leaves. -/
def stoi (raw : List Char) : Except RuntimeError (Int × List Char) :=
  let unspaced := raw.dropWhile (· ∈ [' ', '\t', '\n', '\x0b', '\x0c', '\r'])
  let (negative, unsigned) := match unspaced with
    | '-' :: rest => (true, rest)
    | '+' :: rest => (false, rest)
    | all => (false, all)
  let digits := unsigned.takeWhile Char.isDigit
  let magnitude : Int := digits.foldl (fun n c => 10 * n + (c.toNat - '0'.toNat)) 0
  let value := if negative then -magnitude else magnitude
  if digits.isEmpty ∨ value < -2 ^ 31 ∨ 2 ^ 31 ≤ value then .error ⟨"stoi"⟩
  else .ok (value, unsigned.dropWhile Char.isDigit)

/-- `env_int`. -/
def envInt (getenv : String → Option String) (name : String) (fallback minimum maximum : Int) :
    Except RuntimeError Int :=
  match getenv name with
  | none => .ok fallback
  | some raw =>
    if raw.isEmpty then .ok fallback
    else do
      let (value, rest) ← stoi raw.toList
      if ¬ rest.isEmpty ∨ value < minimum ∨ value > maximum then throw ⟨s!"invalid {name}"⟩
      pure value

/-- The options of the matrix that `main` sets from the environment. -/
structure Options where
  rows : Int
  cols : Int
  chainLength : Int
  parallel : Int
  deriving DecidableEq

/-- The part of `main` that reads the environment. -/
def readOptions (getenv : String → Option String) : Except RuntimeError Options := do
  let rows ← envInt getenv "LEDDY_HUB75_ROWS" 32 1 128
  let cols ← envInt getenv "LEDDY_HUB75_COLS" 64 1 256
  let chain ← envInt getenv "LEDDY_HUB75_CHAIN" 5 1 32
  let parallel ← envInt getenv "LEDDY_HUB75_PARALLEL" 1 1 3
  pure ⟨rows, cols, chain, parallel⟩

namespace Options

/-- `physical_width`. -/
def physicalWidth (options : Options) : Int := options.cols * options.chainLength

/-- `physical_height`. -/
def physicalHeight (options : Options) : Int := options.rows * options.parallel

end Options

/-- `RGBMatrix::CreateFromOptions` where it succeeds: one canvas, which is shown. All canvases are as
wide as a chain of panels and as high as the parallel chains together. What those of a new matrix
hold is left open. -/
def RgbMatrix.create (options : Options) (pixels : Nat → Int → Int → Rgb) : RgbMatrix where
  canvases n := ⟨options.physicalWidth, options.physicalHeight, pixels n, []⟩
  count := 1
  active := 0
  shown := []

/-! ## The process -/

/-- The state of `main` once the matrix exists. -/
structure Process where
  reader : Reader
  matrix : RgbMatrix

/-- Runs a call on the input stream. -/
def onReader {α : Type} (m : EStateM RuntimeError Reader α) : EStateM Failure Process α :=
  EStateM.adaptExcept .exception
    (focus Process.reader (fun reader process => { process with reader }) m)

/-- Runs a call of the panel driver. -/
def onMatrix {α : Type} : EStateM Failure RgbMatrix α → EStateM Failure Process α :=
  focus Process.matrix fun matrix process => { process with matrix }

/-- The loop of `main`, from its `i`-th test of the condition on, with the canvas to paint next.
`stop i` is what that test finds in `g_stop`. It returns the canvas the loop leaves; `none` is for a
loop that has not ended within `fuel` passes. -/
def frameLoop (options : Options) (stop : Nat → Bool) :
    Nat → Nat → Nat → EStateM Failure Process (Option Nat)
  | 0, _, _ => pure none
  | fuel + 1, i, canvas =>
    if stop i then pure (some canvas)
    else do
      let more ← onReader readPacket
      if more then do
        let process ← get
        onMatrix (RgbMatrix.onCanvas canvas
          (paintPacket process.reader.packet options.physicalWidth options.physicalHeight))
        let canvas ← onMatrix (RgbMatrix.swapOnVSync canvas)
        frameLoop options stop fuel (i + 1) canvas
      else pure (some canvas)

/-- The part of `main` from the matrix on, as far as the `return 0`. -/
def serve (options : Options) (stop : Nat → Bool) (fuel : Nat) :
    EStateM Failure Process (Option Unit) := do
  require (¬ (options.physicalWidth < kMaxLogicalWidth.toNat ∨
      options.physicalHeight < kMaxLogicalHeight.toNat))
    (.exception ⟨"configured HUB75 canvas cannot fit the maximum Leddy viewport"⟩)
  let canvas ← onMatrix RgbMatrix.createFrameCanvas
  onMatrix (RgbMatrix.onCanvas canvas FrameCanvas.clear)
  let canvas ← onMatrix (RgbMatrix.swapOnVSync canvas)
  let last ← frameLoop options stop fuel 0 canvas
  match last with
  | none => pure none
  | some canvas => do
    onMatrix (RgbMatrix.onCanvas canvas FrameCanvas.clear)
    let _ ← onMatrix (RgbMatrix.swapOnVSync canvas)
    onMatrix RgbMatrix.clear
    pure (some ())

/-- How the process ends. -/
inductive Exit where
  /-- `main` returned this status. -/
  | status (code : Nat)
  /-- An operation without a defined outcome was executed. -/
  | undefined
  /-- `main` was still running when the given fuel was spent. -/
  | running
  deriving DecidableEq

/-- What is left of a run of the helper: how it ended and what the panels showed, in order. -/
structure Run where
  exit : Exit
  shown : List FrameCanvas

/-- `MatrixDeleter`, which runs when `main` returns and when an exception unwinds it. -/
def deleteMatrix (process : Process) : List FrameCanvas :=
  match onMatrix RgbMatrix.clear process with
  | .ok _ process' => process'.matrix.shown.reverse
  | .error _ process' => process'.matrix.shown.reverse

/-- `main`. `created` says whether `CreateFromOptions` succeeds. -/
def main (getenv : String → Option String) (created : Bool) (pixels : Nat → Int → Int → Rgb)
    (stop : Nat → Bool) (input : List UInt8) (fuel : Nat) : Run :=
  match readOptions getenv with
  | .error _ => ⟨.status 1, []⟩
  | .ok options =>
    if created then
      match serve options stop fuel ⟨⟨.ofBytes input, {}⟩, .create options pixels⟩ with
      | .ok (some _) process => ⟨.status 0, deleteMatrix process⟩
      | .ok none process => ⟨.running, process.matrix.shown.reverse⟩
      | .error (.exception _) process => ⟨.status 1, deleteMatrix process⟩
      | .error (.outOfBounds _) process => ⟨.undefined, process.matrix.shown.reverse⟩
    else ⟨.status 1, []⟩

end LeddyRaspPi.Helper
