import LeddyRaspPi.Lib.Fallible
import Mathlib.Algebra.Group.Int.Defs
import Mathlib.Algebra.Group.Nat.Defs

/-!
# The `LEDDYF01` decoder of the helper

`protocol.hpp`: the input stream, `read_packet`, the mapping of a logical pixel to the canvas and the
scaling of its intensity. A C++ exception is an error of the computation; a reference argument is
part of its state, so that it is visible what an exception leaves behind.
-/

namespace LeddyRaspPi.Helper

open Fallible

/-- `std::runtime_error`, by its `what()`. -/
structure RuntimeError where
  what : String
  deriving DecidableEq

/-! ## The input stream -/

/-- `std::istream`: what is still to come, the count of the last unformatted read, and the `eofbit`
and `failbit` of its state. -/
structure IStream where
  rest : List UInt8
  gcount : Nat
  eof : Bool
  fail : Bool
  deriving DecidableEq

namespace IStream

/-- A stream on which nothing has been read yet. -/
def ofBytes (bytes : List UInt8) : IStream := ⟨bytes, 0, false, false⟩

/-- `istream::read`, with what it stores. A stream that is not good reads nothing; reading past the
end stores what there is and sets both bits. -/
def read (size : Nat) : EStateM RuntimeError IStream (List UInt8) := fun input =>
  if input.eof ∨ input.fail then
    .ok [] { input with gcount := 0, fail := true }
  else if size ≤ input.rest.length then
    .ok (input.rest.take size) { input with rest := input.rest.drop size, gcount := size }
  else
    .ok input.rest ⟨[], input.rest.length, true, true⟩

end IStream

/-- `read_exact`, with the bytes it stored where it returns true. -/
def readExact (size : Nat) : EStateM RuntimeError IStream (Option (List UInt8)) := do
  let destination ← IStream.read size
  let input ← get
  if input.gcount = 0 ∧ input.eof then pure none
  else if input.gcount ≠ size then throw ⟨"truncated LEDDYF01 packet"⟩
  else pure (some destination)

/-! ## The packet -/

/-- `kMagic`. -/
def kMagic : List UInt8 := [76, 69, 68, 68, 89, 70, 48, 49]

/-- `kVersion`. -/
def kVersion : UInt8 := 1

/-- `kMaxLogicalWidth`. -/
def kMaxLogicalWidth : UInt16 := 300

/-- `kMaxLogicalHeight`. -/
def kMaxLogicalHeight : UInt16 := 20

/-- `std::numeric_limits<std::streamsize>::max()`. -/
def streamsizeMax : Nat := 2 ^ 63 - 1

/-- `FramePacket`. -/
structure FramePacket where
  origin : UInt8 := 0
  serpentine : Bool := false
  brightness : UInt8 := 0
  width : UInt16 := 0
  height : UInt16 := 0
  pixels : List UInt8 := []
  deriving DecidableEq

/-- `little_u16`. -/
def littleU16 (bytes : List UInt8) : UInt16 :=
  (bytes.getD 0 0).toUInt16 ||| (bytes.getD 1 0).toUInt16 <<< 8

/-- `little_u32`. -/
def littleU32 (bytes : List UInt8) : UInt32 :=
  (bytes.getD 0 0).toUInt32 ||| (bytes.getD 1 0).toUInt32 <<< 8 |||
    (bytes.getD 2 0).toUInt32 <<< 16 ||| (bytes.getD 3 0).toUInt32 <<< 24

/-- The two reference arguments of `read_packet`. -/
structure Reader where
  input : IStream
  packet : FramePacket
  deriving DecidableEq

/-- Runs a read of the stream. -/
def onInput {α : Type} : EStateM RuntimeError IStream α → EStateM RuntimeError Reader α :=
  focus Reader.input fun input reader => { reader with input }

/-- `if (!read_exact(input, ..)) throw std::runtime_error(what);` -/
def readOrThrow (size : Nat) (what : String) : EStateM RuntimeError Reader (List UInt8) := do
  let bytes ← onInput (readExact size)
  expect bytes ⟨what⟩

/-- `read_packet` after the magic. -/
def readAfterMagic : EStateM RuntimeError Reader Bool := do
  let metadata ← readOrThrow 4 "truncated LEDDYF01 metadata"
  require (metadata.getD 0 0 = kVersion) ⟨"unsupported LEDDYF01 version"⟩
  require (¬ metadata.getD 1 0 > 3) ⟨"invalid LEDDY pixel origin"⟩
  require (¬ metadata.getD 2 0 > 1) ⟨"invalid LEDDY serpentine flag"⟩
  let widthBytes ← readOrThrow 2 "truncated LEDDYF01 geometry"
  let heightBytes ← readOrThrow 2 "truncated LEDDYF01 geometry"
  let lengthBytes ← readOrThrow 4 "truncated LEDDYF01 geometry"
  let width := littleU16 widthBytes
  let height := littleU16 heightBytes
  let payloadLength := littleU32 lengthBytes
  require (¬ (width = 0 ∨ width > kMaxLogicalWidth ∨ height = 0 ∨ height > kMaxLogicalHeight))
    ⟨"LEDDY logical geometry is outside the supported range"⟩
  let expected := width.toUInt32 * height.toUInt32
  require (payloadLength = expected) ⟨"LEDDYF01 payload length mismatch"⟩
  require (¬ payloadLength > .ofNat streamsizeMax) ⟨"LEDDYF01 payload is too large"⟩
  let pixels ← readOrThrow payloadLength.toNat "truncated LEDDYF01 pixel payload"
  modify fun reader => { reader with packet :=
    { origin := metadata.getD 1 0
      serpentine := metadata.getD 2 0 ≠ 0
      brightness := metadata.getD 3 0
      width, height, pixels } }
  pure true

/-- `read_packet`. -/
def readPacket : EStateM RuntimeError Reader Bool := do
  let magic ← onInput (readExact 8)
  match magic with
  | none => pure false
  | some magic => do
    require (magic = kMagic) ⟨"invalid LEDDYF01 packet magic"⟩
    readAfterMagic

/-! ## The mapping to the canvas -/

/-- `Point`. -/
structure Point where
  x : Int
  y : Int
  deriving DecidableEq

/-- `map_logical_pixel`. The subtractions are those of `unsigned`, narrowed to 16 bits. -/
def mapLogicalPixel (x y : UInt16) (packet : FramePacket) (physicalWidth physicalHeight : Int) :
    Except RuntimeError Point :=
  if physicalWidth < packet.width.toNat ∨ physicalHeight < packet.height.toNat then
    .error ⟨"physical HUB75 canvas is smaller than logical Leddy viewport"⟩
  else
    let startsRight := packet.origin == 1 || packet.origin == 3
    let startsBottom := packet.origin == 2 || packet.origin == 3
    let physicalRow := if startsBottom then packet.height - 1 - y else y
    let rowStartsRight := xor startsRight (packet.serpentine && physicalRow % 2 == 1)
    let physicalColumn := if rowStartsRight then packet.width - 1 - x else x
    let xOffset := (physicalWidth - packet.width.toNat).tdiv 2
    let yOffset := (physicalHeight - packet.height.toNat).tdiv 2
    .ok ⟨xOffset + physicalColumn.toNat, yOffset + physicalRow.toNat⟩

/-- `scale_brightness`. The products of `std::uint16_t` operands are taken in `int`. -/
def scaleBrightness (pixel brightness : UInt8) : UInt8 :=
  UInt8.ofNat ((pixel.toNat * brightness.toNat + 127) / 255)

end LeddyRaspPi.Helper
