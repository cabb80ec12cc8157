import LeddyRaspPi.Interfaces
import LeddyRaspPi.Lib.Fallible

/-!
# The `LEDDYF01` encoder

`write_hub75_packet` of `frame_sink.rs`. It works on any writer, as in the source; over a lawful one
its nine writes are one write of the packet (`writeHub75Packet_eq`), so what reaches the helper does
not depend on how the encoder cuts the packet. The pipe to the helper may fail after any byte.
-/

namespace LeddyRaspPi

open Fallible

/-! ## Writers -/

/-- `std::io::Write`. -/
class Write (W : Type) where
  writeAll : List UInt8 → EStateM IoError W Unit
  flush : EStateM IoError W Unit

/-- A writer on which only the sequence of bytes counts, not how it is cut into calls. -/
class LawfulWrite (W : Type) [Write W] : Prop where
  writeAll_append (a b : List UInt8) :
    (Write.writeAll (a ++ b) : EStateM IoError W Unit) =
      Write.writeAll a >>= fun _ => Write.writeAll b
  flush_eq : (Write.flush : EStateM IoError W Unit) = pure ()

/-- `Vec<u8>` as a writer. -/
instance : Write (List UInt8) where
  writeAll bytes := modify (· ++ bytes)
  flush := pure ()

instance : LawfulWrite (List UInt8) where
  writeAll_append a b := by
    funext written
    exact congrArg (EStateM.Result.ok ()) (List.append_assoc written a b).symm
  flush_eq := rfl

/-- The helper's stdin: the bytes that have gone into it, and, where a write is going to fail, how
many more it takes before that and the error. -/
structure ChildStdin where
  written : List UInt8
  room : Option (Nat × IoError)

/-- `ChildStdin` as a writer; its `flush` does nothing. -/
instance : Write ChildStdin where
  writeAll bytes := fun stdin =>
    match stdin.room with
    | none => .ok () ⟨stdin.written ++ bytes, none⟩
    | some (room, error) =>
      if bytes.length ≤ room then
        .ok () ⟨stdin.written ++ bytes, some (room - bytes.length, error)⟩
      else
        .error error ⟨stdin.written ++ bytes.take room, some (0, error)⟩
  flush := pure ()

instance : LawfulWrite ChildStdin where
  writeAll_append a b := by
    funext ⟨written, room⟩
    cases room with
    | none => simp [Write.writeAll, Bind.bind, EStateM.bind]
    | some room =>
      obtain ⟨room, error⟩ := room
      by_cases ha : a.length ≤ room
      · by_cases hb : b.length ≤ room - a.length
        · have hab : a.length + b.length ≤ room := by omega
          simp [Write.writeAll, Bind.bind, EStateM.bind, ha, hb, hab, Nat.sub_sub]
        · have hab : ¬ a.length + b.length ≤ room := by omega
          simp [Write.writeAll, Bind.bind, EStateM.bind, ha, hb, hab, List.take_append,
            List.take_of_length_le ha]
      · have hab : ¬ a.length + b.length ≤ room := by omega
        have htake : (a ++ b).take room = a.take room :=
          List.take_append_of_le_length (by omega)
        simp [Write.writeAll, Bind.bind, EStateM.bind, ha, hab, htake]
  flush_eq := rfl

/-! ## The encoder -/

/-- `HUB75_PACKET_MAGIC`: `LEDDYF01` in ASCII. -/
def hub75PacketMagic : List UInt8 := [76, 69, 68, 68, 89, 70, 48, 49]

/-- `HUB75_PACKET_VERSION`. -/
def hub75PacketVersion : UInt8 := 1

/-- `origin_code`. -/
def originCode : PixelOrigin → UInt8
  | .topLeft => 0
  | .topRight => 1
  | .bottomLeft => 2
  | .bottomRight => 3

/-- `u16::to_le_bytes`. -/
def u16ToLeBytes (n : UInt16) : List UInt8 := [n.toUInt8, (n >>> 8).toUInt8]

/-- `u32::to_le_bytes`. -/
def u32ToLeBytes (n : UInt32) : List UInt8 :=
  [n.toUInt8, (n >>> 8).toUInt8, (n >>> 16).toUInt8, (n >>> 24).toUInt8]

/-- `u32::try_from` of a length, with the error `write_hub75_packet` makes of a failure. -/
def payloadLen (n : Nat) : Except IoError UInt32 :=
  if n < UInt32.size then .ok (.ofNat n)
  else .error ⟨.invalidInput, "HUB75 frame payload exceeds protocol limit"⟩

/-- `write_hub75_packet`. -/
def writeHub75Packet {W : Type} [Write W] (L : Leddy) (config : DisplayConfig)
    (pixels : List UInt8) : EStateM IoError W Unit := do
  require (pixels.length = L.pixelCount config)
    ⟨.invalidInput, "HUB75 frame length does not match display configuration"⟩
  let len ← ofExcept (payloadLen pixels.length)
  Write.writeAll hub75PacketMagic
  Write.writeAll [hub75PacketVersion]
  Write.writeAll [originCode config.origin]
  Write.writeAll [config.serpentine.toUInt8]
  Write.writeAll [config.brightness]
  Write.writeAll (u16ToLeBytes config.width)
  Write.writeAll (u16ToLeBytes config.height)
  Write.writeAll (u32ToLeBytes len)
  Write.writeAll pixels
  Write.flush

/-- The part of a configuration that a packet carries. -/
structure Wiring where
  width : UInt16
  height : UInt16
  brightness : UInt8
  serpentine : Bool
  origin : PixelOrigin
  deriving DecidableEq

/-- What a packet carries of a configuration. -/
def DisplayConfig.wiring (config : DisplayConfig) : Wiring :=
  ⟨config.width, config.height, config.brightness, config.serpentine, config.origin⟩

/-- The packet of a configuration and its pixels. -/
def packetBytes (config : DisplayConfig) (pixels : List UInt8) : List UInt8 :=
  hub75PacketMagic ++
    ([hub75PacketVersion, originCode config.origin, config.serpentine.toUInt8,
        config.brightness] ++
      (u16ToLeBytes config.width ++ (u16ToLeBytes config.height ++
        (u32ToLeBytes (.ofNat pixels.length) ++ pixels))))

/-- A packet is a header of 20 bytes and its pixels. -/
@[simp] theorem packetBytes_length (config : DisplayConfig) (pixels : List UInt8) :
    (packetBytes config pixels).length = 20 + pixels.length := by
  simp [packetBytes, hub75PacketMagic, u16ToLeBytes, u32ToLeBytes]
  omega

/-- Over a lawful writer the encoder is one write of the packet, once the length is right. -/
theorem writeHub75Packet_eq {W : Type} [Write W] [LawfulWrite W] {L : Leddy}
    {config : DisplayConfig} {pixels : List UInt8} (hlen : pixels.length = L.pixelCount config)
    (hsize : pixels.length < UInt32.size) :
    (writeHub75Packet L config pixels : EStateM IoError W Unit) =
      Write.writeAll (packetBytes config pixels) := by
  have hcons : ∀ a b c d : UInt8, [a, b, c, d] = [a] ++ ([b] ++ ([c] ++ [d])) := fun _ _ _ _ => rfl
  simp only [packetBytes, hcons hub75PacketVersion, List.append_assoc,
    LawfulWrite.writeAll_append, writeHub75Packet, require, payloadLen, if_pos hlen, if_pos hsize,
    LawfulWrite.flush_eq]
  simp [ofExcept]

/-- A wrong length is refused before anything is written. -/
theorem writeHub75Packet_wrong_length {W : Type} [Write W] {L : Leddy} {config : DisplayConfig}
    {pixels : List UInt8} (hlen : pixels.length ≠ L.pixelCount config) (w : W) :
    writeHub75Packet L config pixels w =
      .error ⟨.invalidInput, "HUB75 frame length does not match display configuration"⟩ w := by
  simp only [writeHub75Packet, require, if_neg hlen]
  rfl

end LeddyRaspPi
