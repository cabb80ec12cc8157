import LeddyRaspPi.Helper.Protocol
import LeddyRaspPi.Lib.Code
import LeddyRaspPi.Packet

/-!
# The `LEDDYF01` grammar

The packets `read_packet` accepts are the well-formed ones (`FramePacket.WellFormed`), each in one
spelling (`FramePacket.bytes`): `readPacket_ends` shows that what is read off a good stream is such a
packet in that spelling, `readPacket_bytes` that each such packet is read off. The two make the
packets a self-delimiting code (`packetCode`), whose general facts then speak about streams of them.
-/

namespace LeddyRaspPi.Helper

open Fallible

/-! ## Little-endian numbers -/

/-- A number below `2 ^ k` and one shifted past it do not overlap. -/
theorem or_shiftLeft_eq_add {x y k : Nat} (hx : x < 2 ^ k) : x ||| y <<< k = x + 2 ^ k * y := by
  rw [Nat.or_comm, ← Nat.shiftLeft_add_eq_or_of_lt hx, Nat.shiftLeft_eq, Nat.mul_comm,
    Nat.add_comm]

/-- Two bytes as a number, the lower one first. -/
theorem littleU16_toNat (a b : UInt8) : (littleU16 [a, b]).toNat = a.toNat + 256 * b.toNat := by
  have ha := a.toNat_lt
  have hb := b.toNat_lt
  have hshift : b.toNat <<< 8 < 2 ^ 16 := by rw [Nat.shiftLeft_eq]; omega
  simp only [littleU16, List.getD_cons_zero, List.getD_cons_succ, UInt16.toNat_or,
    UInt16.toNat_shiftLeft, UInt8.toNat_toUInt16]
  rw [show UInt16.toNat 8 % 16 = 8 from rfl, Nat.mod_eq_of_lt hshift, or_shiftLeft_eq_add ha]
  omega

/-- Four bytes as a number, the lowest one first. -/
theorem littleU32_toNat (a b c d : UInt8) : (littleU32 [a, b, c, d]).toNat =
    a.toNat + 256 * b.toNat + 65536 * c.toNat + 16777216 * d.toNat := by
  have ha := a.toNat_lt
  have hb := b.toNat_lt
  have hc := c.toNat_lt
  have hd := d.toNat_lt
  have hb' : b.toNat <<< 8 < 2 ^ 32 := by rw [Nat.shiftLeft_eq]; omega
  have hc' : c.toNat <<< 16 < 2 ^ 32 := by rw [Nat.shiftLeft_eq]; omega
  have hd' : d.toNat <<< 24 < 2 ^ 32 := by rw [Nat.shiftLeft_eq]; omega
  simp only [littleU32, List.getD_cons_zero, List.getD_cons_succ, UInt32.toNat_or,
    UInt32.toNat_shiftLeft, UInt8.toNat_toUInt32]
  rw [show UInt32.toNat 8 % 32 = 8 from rfl, show UInt32.toNat 16 % 32 = 16 from rfl,
    show UInt32.toNat 24 % 32 = 24 from rfl, Nat.mod_eq_of_lt hb', Nat.mod_eq_of_lt hc',
    Nat.mod_eq_of_lt hd', or_shiftLeft_eq_add ha, or_shiftLeft_eq_add (k := 16) (by omega),
    or_shiftLeft_eq_add (k := 24) (by omega)]
  omega

/-- Decoding undoes encoding. -/
theorem littleU16_u16ToLeBytes (n : UInt16) : littleU16 (u16ToLeBytes n) = n := by
  have hn := n.toNat_lt
  rw [← UInt16.toNat_inj, u16ToLeBytes, littleU16_toNat]
  simp only [UInt16.toNat_toUInt8, UInt16.toNat_shiftRight, Nat.shiftRight_eq_div_pow]
  rw [show UInt16.toNat 8 % 16 = 8 from rfl]
  omega

/-- Encoding undoes decoding: a number has one spelling. -/
theorem u16ToLeBytes_littleU16 (a b : UInt8) : u16ToLeBytes (littleU16 [a, b]) = [a, b] := by
  have ha := a.toNat_lt
  have hb := b.toNat_lt
  have hn := littleU16_toNat a b
  simp only [u16ToLeBytes, List.cons.injEq, and_true]
  constructor <;> rw [← UInt8.toNat_inj] <;>
    simp only [UInt16.toNat_toUInt8, UInt16.toNat_shiftRight, Nat.shiftRight_eq_div_pow, hn]
  · omega
  · rw [show UInt16.toNat 8 % 16 = 8 from rfl]
    omega

/-- Decoding undoes encoding. -/
theorem littleU32_u32ToLeBytes (n : UInt32) : littleU32 (u32ToLeBytes n) = n := by
  have hn := n.toNat_lt
  rw [← UInt32.toNat_inj, u32ToLeBytes, littleU32_toNat]
  simp only [UInt32.toNat_toUInt8, UInt32.toNat_shiftRight, Nat.shiftRight_eq_div_pow]
  rw [show UInt32.toNat 8 % 32 = 8 from rfl, show UInt32.toNat 16 % 32 = 16 from rfl,
    show UInt32.toNat 24 % 32 = 24 from rfl]
  omega

/-- Encoding undoes decoding: a number has one spelling. -/
theorem u32ToLeBytes_littleU32 (a b c d : UInt8) :
    u32ToLeBytes (littleU32 [a, b, c, d]) = [a, b, c, d] := by
  have ha := a.toNat_lt
  have hb := b.toNat_lt
  have hc := c.toNat_lt
  have hd := d.toNat_lt
  have hn := littleU32_toNat a b c d
  simp only [u32ToLeBytes, List.cons.injEq, and_true]
  refine ⟨?_, ?_, ?_, ?_⟩ <;> rw [← UInt8.toNat_inj] <;>
    simp only [UInt32.toNat_toUInt8, UInt32.toNat_shiftRight, Nat.shiftRight_eq_div_pow, hn]
  · omega
  · rw [show UInt32.toNat 8 % 32 = 8 from rfl]; omega
  · rw [show UInt32.toNat 16 % 32 = 16 from rfl]; omega
  · rw [show UInt32.toNat 24 % 32 = 24 from rfl]; omega

/-! ## Reading a number of bytes -/

/-- A stream that reads: neither bit of its state is set. -/
def IStream.Good (input : IStream) : Prop := input.eof = false ∧ input.fail = false

/-- What `read_exact` does on a good stream: it reads the bytes, or finds the end at once, or throws
because it finds the end in between. -/
theorem readExact_ends {input : IStream} (hgood : input.Good) (size : Nat) :
    Ends (readExact size) input
      (fun out input' =>
        (∀ bytes, out = some bytes →
          bytes.length = size ∧ input.rest = bytes ++ input'.rest ∧ input'.Good) ∧
        (out = none → input.rest = []))
      (fun _ _ => input.rest ≠ []) := by
  obtain ⟨heof, hfail⟩ := hgood
  by_cases hsize : size ≤ input.rest.length
  · have hread : IStream.read size input = .ok (input.rest.take size)
        { input with rest := input.rest.drop size, gcount := size } := by
      simp [IStream.read, heof, hfail, hsize]
    simp only [readExact, ends_bind, ends_of_ok hread, ends_get, heof]
    simp [IStream.Good, hfail, hsize]
  · have hread : IStream.read size input = .ok input.rest
        ⟨[], input.rest.length, true, true⟩ := by
      simp [IStream.read, heof, hfail, hsize]
    simp only [readExact, ends_bind, ends_of_ok hread, ends_get]
    by_cases hnil : input.rest = []
    · simp [hnil]
    · have hne : input.rest.length ≠ size := by omega
      simp [hnil, hne]

/-- On a good stream that begins with the bytes, `read_exact` reads them. -/
theorem readExact_append {input : IStream} {bytes rest : List UInt8} (hgood : input.Good)
    (hrest : input.rest = bytes ++ rest) :
    readExact bytes.length input = .ok (some bytes) ⟨rest, bytes.length, false, false⟩ := by
  obtain ⟨heof, hfail⟩ := hgood
  have hread : IStream.read bytes.length input = .ok bytes
      ⟨rest, bytes.length, false, false⟩ := by
    simp [IStream.read, heof, hfail, hrest]
  refine (bind_of_ok hread).trans ?_
  show (if bytes.length = 0 ∧ false = true then pure none
    else if bytes.length ≠ bytes.length then throw _
    else pure (some bytes) : EStateM RuntimeError IStream (Option (List UInt8))) _ = _
  rw [if_neg (by simp), if_neg (by simp)]
  rfl

/-- What a read that must succeed does on a good stream. -/
theorem readOrThrow_ends {reader : Reader} (hgood : reader.input.Good) (size : Nat)
    (what : String) :
    Ends (readOrThrow size what) reader
      (fun bytes reader' => bytes.length = size ∧
        reader.input.rest = bytes ++ reader'.input.rest ∧ reader'.input.Good ∧
        reader'.packet = reader.packet)
      (fun _ reader' => reader'.packet = reader.packet) := by
  simp only [readOrThrow, onInput, ends_bind, ends_focus, ends_expect]
  refine (readExact_ends hgood size).mono ?_ fun _ _ _ => trivial
  intro out input' h
  obtain ⟨hsome, -⟩ := h
  refine ⟨fun bytes hout => ?_, fun _ => trivial⟩
  obtain ⟨hlen, hrest, hgood'⟩ := hsome bytes hout
  exact ⟨hlen, hrest, hgood', trivial⟩

/-- On a good stream that begins with the bytes, a read that must succeed reads them. -/
theorem readOrThrow_append {reader : Reader} {bytes rest : List UInt8} {size : Nat} {what : String}
    {Q : List UInt8 → Reader → Prop} {E : RuntimeError → Reader → Prop}
    (hgood : reader.input.Good) (hrest : reader.input.rest = bytes ++ rest)
    (hsize : size = bytes.length)
    (hQ : Q bytes { reader with input := ⟨rest, size, false, false⟩ }) :
    Ends (readOrThrow size what) reader Q E := by
  subst hsize
  simp only [readOrThrow, onInput, ends_bind, ends_focus, ends_expect,
    ends_of_ok (readExact_append hgood hrest)]
  refine ⟨fun bytes' h => ?_, fun h => (Option.some_ne_none _ h).elim⟩
  cases h
  exact hQ

/-! ## Well-formed packets -/

namespace FramePacket

/-- The packets of the grammar: a known origin, a geometry in range and as many pixels. -/
structure WellFormed (packet : FramePacket) : Prop where
  origin : packet.origin ≤ 3
  width : 1 ≤ packet.width.toNat ∧ packet.width.toNat ≤ 300
  height : 1 ≤ packet.height.toNat ∧ packet.height.toNat ≤ 20
  pixels : packet.pixels.length = packet.width.toNat * packet.height.toNat

/-- The bytes of a packet after the magic. -/
def body (packet : FramePacket) : List UInt8 :=
  [kVersion, packet.origin, packet.serpentine.toUInt8, packet.brightness] ++
    (u16ToLeBytes packet.width ++ (u16ToLeBytes packet.height ++
      (u32ToLeBytes (.ofNat packet.pixels.length) ++ packet.pixels)))

/-- The bytes of a packet. -/
def bytes (packet : FramePacket) : List UInt8 := kMagic ++ packet.body

/-- A packet in range has at most `300 * 20` pixels. -/
theorem WellFormed.area_le {packet : FramePacket} (h : packet.WellFormed) :
    packet.width.toNat * packet.height.toNat ≤ 6000 :=
  Nat.mul_le_mul h.width.2 h.height.2

end FramePacket

/-- The geometry check of `read_packet`, in numbers. -/
theorem geometry_iff (width height : UInt16) :
    ¬ (width = 0 ∨ width > kMaxLogicalWidth ∨ height = 0 ∨ height > kMaxLogicalHeight) ↔
      (1 ≤ width.toNat ∧ width.toNat ≤ 300) ∧ 1 ≤ height.toNat ∧ height.toNat ≤ 20 := by
  rw [← UInt16.toNat_inj, ← UInt16.toNat_inj, gt_iff_lt, gt_iff_lt, UInt16.lt_iff_toNat_lt,
    UInt16.lt_iff_toNat_lt]
  simp only [kMaxLogicalWidth, kMaxLogicalHeight, UInt16.toNat_zero,
    show UInt16.toNat 300 = 300 from rfl, show UInt16.toNat 20 = 20 from rfl]
  omega

/-- The product of two dimensions in range does not wrap. -/
theorem toNat_area {width height : UInt16} (hw : width.toNat ≤ 300) (hh : height.toNat ≤ 20) :
    (width.toUInt32 * height.toUInt32).toNat = width.toNat * height.toNat := by
  have harea : width.toNat * height.toNat ≤ 6000 := Nat.mul_le_mul hw hh
  rw [UInt32.toNat_mul, UInt16.toNat_toUInt32, UInt16.toNat_toUInt32, Nat.mod_eq_of_lt (by omega)]

/-- The flag byte of a packet is zero or one, so it is the byte of the flag read off it. -/
theorem toUInt8_flag {b : UInt8} (hb : ¬ b > 1) : (decide (b ≠ 0)).toUInt8 = b := by
  have hb' : b.toNat ≤ 1 := by
    rw [gt_iff_lt, UInt8.lt_iff_toNat_lt] at hb
    simpa using hb
  by_cases h : b = 0
  · subst h
    rfl
  · have h1 : b = 1 := by
      rw [← UInt8.toNat_inj] at h ⊢
      simp only [UInt8.toNat_zero, UInt8.toNat_one] at h ⊢
      omega
    subst h1
    rfl

/-- The byte of a flag is at most one, and the flag is read off it. -/
theorem flag_toUInt8 (b : Bool) : ¬ b.toUInt8 > 1 ∧ decide (b.toUInt8 ≠ 0) = b := by
  cases b <;> decide

/-- What follows the magic is a well-formed packet's, or `read_packet` throws and leaves its
argument alone. -/
theorem readAfterMagic_ends {reader : Reader} (hgood : reader.input.Good) :
    Ends readAfterMagic reader
      (fun ok reader' => ok = true ∧ reader'.packet.WellFormed ∧
        reader.input.rest = reader'.packet.body ++ reader'.input.rest ∧ reader'.input.Good)
      (fun _ reader' => reader'.packet = reader.packet) := by
  simp only [readAfterMagic, ends_bind, ends_require, ends_modify, ends_pure, true_and]
  refine (readOrThrow_ends hgood 4 _).mono ?_ fun _ _ h => h
  intro metadata r₁ h
  obtain ⟨hmeta, hrest₁, hgood₁, hpacket₁⟩ := h
  refine ⟨fun hversion => ⟨fun horigin => ⟨fun hserpentine => ?_, fun _ => hpacket₁⟩,
    fun _ => hpacket₁⟩, fun _ => hpacket₁⟩
  refine (readOrThrow_ends hgood₁ 2 _).mono ?_ fun _ _ h => h.trans hpacket₁
  intro widthBytes r₂ h
  obtain ⟨hwidth, hrest₂, hgood₂, hpacket₂⟩ := h
  refine (readOrThrow_ends hgood₂ 2 _).mono ?_ fun _ _ h => h.trans (hpacket₂.trans hpacket₁)
  intro heightBytes r₃ h
  obtain ⟨hheight, hrest₃, hgood₃, hpacket₃⟩ := h
  have hpacket₃ := hpacket₃.trans (hpacket₂.trans hpacket₁)
  refine (readOrThrow_ends hgood₃ 4 _).mono ?_ fun _ _ h => h.trans hpacket₃
  intro lengthBytes r₄ h
  obtain ⟨hlength, hrest₄, hgood₄, hpacket₄⟩ := h
  have hpacket₄ := hpacket₄.trans hpacket₃
  refine ⟨fun hgeometry => ⟨fun hpayload => ⟨fun _ => ?_, fun _ => hpacket₄⟩, fun _ => hpacket₄⟩,
    fun _ => hpacket₄⟩
  obtain ⟨hw, hh⟩ := (geometry_iff _ _).1 hgeometry
  refine (readOrThrow_ends hgood₄ _ _).mono ?_ fun _ _ h => h.trans hpacket₄
  intro pixels r₅ h
  obtain ⟨hpixels, hrest₅, hgood₅, -⟩ := h
  have harea : pixels.length =
      (littleU16 widthBytes).toNat * (littleU16 heightBytes).toNat := by
    rw [hpixels, hpayload, toNat_area hw.2 hh.2]
  refine ⟨⟨?_, hw, hh, harea⟩, ?_, hgood₅⟩
  · simpa [UInt8.le_iff_toNat_le, UInt8.lt_iff_toNat_lt] using horigin
  · -- The bytes read are the ones the packet is spelled with.
    obtain ⟨v, o, f, b, rfl⟩ := List.length_eq_four.1 hmeta
    obtain ⟨w₀, w₁, rfl⟩ := List.length_eq_two.1 hwidth
    obtain ⟨h₀, h₁, rfl⟩ := List.length_eq_two.1 hheight
    obtain ⟨l₀, l₁, l₂, l₃, rfl⟩ := List.length_eq_four.1 hlength
    simp only [List.getD_cons_zero, List.getD_cons_succ] at hversion hserpentine
    have hcount : UInt32.ofNat pixels.length = littleU32 [l₀, l₁, l₂, l₃] := by
      rw [hpixels, UInt32.ofNat_toNat]
    simp only [FramePacket.body, hrest₁, hrest₂, hrest₃, hrest₄, hrest₅, hcount,
      u32ToLeBytes_littleU32, u16ToLeBytes_littleU16, List.getD_cons_zero,
      List.getD_cons_succ, toUInt8_flag hserpentine, hversion, List.append_assoc]

/-- What `read_packet` does on a good stream: it reads a well-formed packet in its one spelling, or
finds the stream at its end, or throws on a stream that is not at its end; and its argument changes
only where it reads a packet. -/
theorem readPacket_ends {reader : Reader} (hgood : reader.input.Good) :
    Ends readPacket reader
      (fun ok reader' =>
        (ok = true → reader'.packet.WellFormed ∧
          reader.input.rest = reader'.packet.bytes ++ reader'.input.rest ∧ reader'.input.Good) ∧
        (ok = false → reader.input.rest = [] ∧ reader'.packet = reader.packet))
      (fun _ reader' => reader.input.rest ≠ [] ∧ reader'.packet = reader.packet) := by
  simp only [readPacket, onInput, ends_bind, ends_focus]
  refine (readExact_ends hgood 8).mono ?_ fun _ _ h => ⟨h, trivial⟩
  rintro (_ | magic) input' ⟨hsome, hnone⟩
  · simp only [ends_pure]
    exact ⟨fun h => absurd h Bool.false_ne_true, fun _ => ⟨hnone rfl, trivial⟩⟩
  · obtain ⟨hlen, hrest, hgood'⟩ := hsome magic rfl
    have hne : reader.input.rest ≠ [] := by
      intro h
      rw [h] at hrest
      have := (List.append_eq_nil_iff.1 hrest.symm).1
      simp [this] at hlen
    simp only [ends_bind, ends_require]
    refine ⟨fun hmagic => ?_, fun _ => ⟨hne, trivial⟩⟩
    refine (readAfterMagic_ends hgood').mono ?_ fun _ _ h => ⟨hne, h⟩
    intro _ reader' h
    obtain ⟨rfl, hwf, hbody, hgood''⟩ := h
    refine ⟨fun _ => ⟨hwf, ?_, hgood''⟩, fun h => absurd h.symm Bool.false_ne_true⟩
    rw [hrest, hmagic, FramePacket.bytes, List.append_assoc, ← hbody]

/-- On a good stream that begins with a well-formed packet, `read_packet` reads it. -/
theorem readPacket_bytes {reader : Reader} {packet : FramePacket} {rest : List UInt8}
    (hgood : reader.input.Good) (hwf : packet.WellFormed)
    (hrest : reader.input.rest = packet.bytes ++ rest) :
    ∃ n, readPacket reader = .ok true ⟨⟨rest, n, false, false⟩, packet⟩ := by
  have hw := hwf.width
  have hh := hwf.height
  have harea := hwf.area_le
  have hcount : (UInt32.ofNat packet.pixels.length).toNat = packet.pixels.length := by
    rw [UInt32.toNat_ofNat', hwf.pixels, Nat.mod_eq_of_lt (by omega)]
  have hread : readExact 8 reader.input = .ok (some kMagic)
      ⟨[kVersion, packet.origin, packet.serpentine.toUInt8, packet.brightness] ++
        (u16ToLeBytes packet.width ++ (u16ToLeBytes packet.height ++
          (u32ToLeBytes (.ofNat packet.pixels.length) ++ (packet.pixels ++ rest)))),
        8, false, false⟩ :=
    @readExact_append _ kMagic _ hgood (by simp [hrest, FramePacket.bytes, FramePacket.body])
  suffices h : Ends readPacket reader
      (fun ok reader' => ok = true ∧ ∃ n, reader' = ⟨⟨rest, n, false, false⟩, packet⟩)
      (fun _ _ => False) by
    unfold Ends at h
    cases hrun : readPacket reader with
    | error e reader' => rw [hrun] at h; exact h.elim
    | ok out reader' =>
      rw [hrun] at h
      obtain ⟨rfl, n, rfl⟩ := h
      exact ⟨n, rfl⟩
  simp only [readPacket, onInput, ends_bind, ends_focus, ends_of_ok hread, ends_require,
    readAfterMagic, ends_modify, ends_pure, true_and]
  refine ⟨fun _ => ?_, fun h => h trivial⟩
  -- Each read takes the next field of the packet, and each check passes.
  refine readOrThrow_append ⟨rfl, rfl⟩ rfl rfl ?_
  refine ⟨fun _ => ⟨fun _ => ⟨fun _ => ?_, fun h => h ?_⟩, fun h => h ?_⟩, fun h => h rfl⟩
  · refine readOrThrow_append ⟨rfl, rfl⟩ rfl rfl ?_
    refine readOrThrow_append ⟨rfl, rfl⟩ rfl rfl ?_
    refine readOrThrow_append ⟨rfl, rfl⟩ rfl rfl ?_
    simp only [littleU16_u16ToLeBytes, littleU32_u32ToLeBytes, hcount]
    refine ⟨fun _ => ⟨fun _ => ⟨fun _ => ?_, fun h => h ?_⟩, fun h => h ?_⟩,
      fun h => h ((geometry_iff _ _).2 ⟨hw, hh⟩)⟩
    · refine readOrThrow_append ⟨rfl, rfl⟩ rfl rfl ⟨packet.pixels.length, ?_⟩
      simp only [List.getD_cons_zero, List.getD_cons_succ, (flag_toUInt8 packet.serpentine).2]
    · rw [gt_iff_lt, UInt32.lt_iff_toNat_lt, hcount, hwf.pixels]
      have hmax : (UInt32.ofNat streamsizeMax).toNat = 4294967295 := rfl
      omega
    · rw [← UInt32.toNat_inj, hcount, toNat_area hw.2 hh.2, hwf.pixels]
  · exact (flag_toUInt8 packet.serpentine).1
  · have horigin := hwf.origin
    simpa [UInt8.le_iff_toNat_le, UInt8.lt_iff_toNat_lt] using horigin

/-- The `LEDDYF01` packets as a self-delimiting code. -/
def packetCode : Code FramePacket UInt8 where
  encode := FramePacket.bytes
  valid := FramePacket.WellFormed
  encode_ne_nil _ := by simp [FramePacket.bytes, kMagic]
  encode_inj := by
    intro p q s t hp hq heq
    -- Both are what `read_packet` reads off the same stream.
    have hgood : (IStream.ofBytes (p.bytes ++ s)).Good := ⟨rfl, rfl⟩
    obtain ⟨m, hm⟩ := @readPacket_bytes ⟨.ofBytes (p.bytes ++ s), {}⟩ p s hgood hp rfl
    obtain ⟨n, hn⟩ := @readPacket_bytes ⟨.ofBytes (p.bytes ++ s), {}⟩ q t hgood hq heq
    rw [hm] at hn
    simp only [EStateM.Result.ok.injEq, Reader.mk.injEq, IStream.mk.injEq, true_and] at hn
    exact ⟨hn.2, hn.1.1⟩

/-! ## Reading a stream of packets -/

/-- Calling `read_packet` over and over from `reader` returns true for each of the packets, in
order, and leaves `reader'`. -/
inductive Reads : Reader → List FramePacket → Reader → Prop
  | nil {reader} : Reads reader [] reader
  | cons {reader reader₁ reader' packets} :
      readPacket reader = .ok true reader₁ → Reads reader₁ packets reader' →
      Reads reader (reader₁.packet :: packets) reader'

/-- What is read off a good stream one packet after the other are its leading packets, and then the
stream is good and at what follows them. -/
theorem reads_leading {reader : Reader} {packets : List FramePacket} {rest : List UInt8}
    (hgood : reader.input.Good) (h : packetCode.Leading reader.input.rest packets rest) :
    ∃ reader', Reads reader packets reader' ∧ reader'.input.Good ∧ reader'.input.rest = rest := by
  induction packets generalizing reader with
  | nil => exact ⟨reader, .nil, hgood, by simpa using h.split⟩
  | cons packet packets ih =>
    have hrest : reader.input.rest = packet.bytes ++ (packetCode.stream packets ++ rest) := by
      rw [h.split, Code.stream_cons, List.append_assoc]
      rfl
    obtain ⟨n, hread⟩ := readPacket_bytes hgood (h.valid packet (by simp)) hrest
    obtain ⟨reader', hreads, hgood', hrest'⟩ :=
      @ih ⟨⟨packetCode.stream packets ++ rest, n, false, false⟩, packet⟩ ⟨rfl, rfl⟩
        ⟨fun p hp => h.valid p (by simp [hp]), rfl, h.stuck⟩
    exact ⟨reader', .cons hread hreads, hgood', hrest'⟩

/-- On a stream that begins with no packet `read_packet` returns false at the end and throws
elsewhere, and its argument stays as it was. -/
theorem readPacket_stuck {reader : Reader} (hgood : reader.input.Good)
    (hstuck : ¬ packetCode.Begins reader.input.rest) :
    (reader.input.rest = [] ∧ ∃ input, readPacket reader = .ok false ⟨input, reader.packet⟩) ∨
      (reader.input.rest ≠ [] ∧ ∃ e input, readPacket reader = .error e ⟨input, reader.packet⟩) := by
  have h := readPacket_ends hgood
  unfold Ends at h
  cases hread : readPacket reader with
  | ok ok reader' =>
    rw [hread] at h
    cases ok with
    | true =>
      obtain ⟨hwf, hrest, -⟩ := h.1 rfl
      exact absurd ⟨reader'.packet, _, hwf, hrest⟩ hstuck
    | false =>
      obtain ⟨hrest, hpacket⟩ := h.2 rfl
      exact .inl ⟨hrest, reader'.input, by rw [← hpacket]⟩
  | error e reader' =>
    rw [hread] at h
    exact .inr ⟨h.1, e, reader'.input, by rw [← h.2]⟩

end LeddyRaspPi.Helper
