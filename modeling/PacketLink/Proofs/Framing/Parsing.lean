import PacketLink.Framing.Packet
import PacketLink.Framing.SubHeader

namespace PacketLink

/-! Reading packets and sub-headers back from what was written.

A packet is determined by its header and payload: whatever follows them in the received bytes
becomes padding, and nothing else of the packet depends on it. -/

namespace FlipBit

theorem bits_toNat (flip : FlipBit) : flip.bits.toNat = 0 ∨ flip.bits.toNat = 128 := by
  cases flip <;> simp [bits]

theorem ofControl_of_bits (flip : FlipBit) {control : UInt8} {low : Nat} (small : low < 128)
    (composed : control.toNat = flip.bits.toNat + low) : ofControl control = flip := by
  cases flip with
  | clear =>
      have zero : control.toNat / 128 = 0 := by simp [bits] at composed; omega
      simp [ofControl, zero]
  | set =>
      have positive : control.toNat / 128 ≠ 0 := by simp [bits] at composed; omega
      simp [ofControl, positive]

end FlipBit

namespace Packet

/-- The packet with other padding: the start of `tail`, and zeros where it is too short. -/
def withPadding (packet : Packet) (tail : Bytes) : Packet :=
  { packet with
    padding := Bytes.padTo (62 - packet.payload.length) tail
    full := by have := packet.payload_length_le; simp; omega }

theorem control_toNat (packet : Packet) :
    packet.control.toNat =
      packet.flip.bits.toNat + ((if packet.ack then 64 else 0) + packet.payload.length) := by
  have short := packet.payload_length_le
  have flipBits := packet.flip.bits_toNat
  have ackBits : (if packet.ack then 64 else 0) ≤ 64 := by split <;> omega
  simp only [control, UInt8.toNat_ofNat']
  omega

theorem indexByte_toNat (packet : Packet) :
    packet.indexByte.toNat = packet.index.val * 16 + packet.last.val := by
  have indexBound := packet.index.isLt
  have lastBound := packet.last.isLt
  simp only [indexByte, UInt8.toNat_ofNat']
  omega

/-- Received bytes that begin with a packet's header and payload parse, to that packet up to its
padding. -/
theorem ofBytes_framed_append (packet : Packet) (tail : Bytes) :
    ofBytes (packet.framed ++ tail) = .ok (packet.withPadding tail) := by
  have short := packet.payload_length_le
  have composed := packet.control_toNat
  have flipBits := packet.flip.bits_toNat
  have indexBound := packet.index.isLt
  have lastBound := packet.last.isLt
  have small : (if packet.ack then 64 else 0) + packet.payload.length < 128 := by split <;> omega
  have declared : packet.control.toNat % 64 = packet.payload.length := by
    split at composed <;> omega
  have ack : (packet.control.toNat / 64 % 2 == 1) = packet.ack := by
    cases found : packet.ack <;> simp [found] at composed ⊢ <;> omega
  have flip := packet.flip.ofControl_of_bits small composed
  have index : packet.indexByte.toNat / 16 = packet.index.val := by
    rw [packet.indexByte_toNat]; omega
  have last : packet.indexByte.toNat % 16 = packet.last.val := by
    rw [packet.indexByte_toNat]; omega
  have fits : packet.payload.length ≤ 62 ∧
      packet.payload.length ≤ (packet.payload ++ tail).length := by
    simp [short]
  simp only [framed, List.cons_append, ofBytes, declared, fits, and_self, ↓reduceDIte, flip, ack,
    index, last, Fin.eta, withPadding, List.take_left', List.drop_left']

/-- The fields of a control byte, put together again. -/
theorem control_recomposed (control : UInt8) :
    UInt8.ofNat ((FlipBit.ofControl control).bits.toNat +
      (if control.toNat / 64 % 2 == 1 then 64 else 0) + control.toNat % 64) = control := by
  have bound := control.toNat_lt
  apply UInt8.toNat.inj
  unfold FlipBit.ofControl
  rw [UInt8.toNat_ofNat']
  split <;> split <;> simp_all [FlipBit.bits] <;> omega

theorem length_framed (packet : Packet) : packet.framed.length = 2 + packet.payload.length := by
  simp [framed]
  omega

/-- The bytes that a packet was read from begin with its header and payload. -/
theorem exists_framed_append {bytes : Bytes} {packet : Packet} (read : ofBytes bytes = .ok packet) :
    ∃ tail, bytes = packet.framed ++ tail ∧
      packet.padding = Bytes.padTo (62 - packet.payload.length) tail := by
  match bytes with
  | [] | [_] => cases read
  | control :: indexByte :: rest =>
      simp only [ofBytes] at read
      split at read
      · rename_i fits
        obtain rfl := Except.ok.inj read
        have length : (rest.take (control.toNat % 64)).length = control.toNat % 64 := by
          rw [List.length_take]
          omega
        have index := congrArg UInt8.ofNat (Nat.div_add_mod' indexByte.toNat 16)
        refine ⟨rest.drop (control.toNat % 64), ?_, ?_⟩
        · simp only [framed, Packet.control, Packet.indexByte, length, control_recomposed, index,
            UInt8.ofNat_toNat, List.cons_append, List.take_append_drop]
        · simp only [length]
      · cases read

/-- A packet reads back from the bytes that are written to the device. -/
theorem ofBytes_bytes (packet : Packet) : ofBytes packet.bytes = .ok packet := by
  have full := packet.full
  have padding : Bytes.padTo (62 - packet.payload.length) packet.padding = packet.padding := by
    rw [Bytes.padTo, List.take_left' (by omega)]
  rw [bytes, ofBytes_framed_append]
  simp only [withPadding, padding]

end Packet

namespace SubHeader

@[simp] theorem length_bytes (header : SubHeader) : header.bytes.length = 4 := rfl

/-- A payload of at least four bytes begins with a sub-header. -/
theorem exists_bytes_append {payload : Bytes} (enough : 4 ≤ payload.length) :
    ∃ header rest, payload = SubHeader.bytes header ++ rest := by
  match payload with
  | [] | [_] | [_, _] | [_, _, _] => exact absurd enough (Nat.not_le.mpr (by simp))
  | c0 :: c1 :: l0 :: l1 :: rest =>
      refine ⟨⟨Bytes.word c0 c1, Bytes.word l0 l1⟩, rest, ?_⟩
      simp [bytes, Bytes.ofWord_word]

theorem ofPayload_short {payload : Bytes} (short : payload.length < 4) :
    ofPayload payload = .error (.truncated payload.length Limits.subHeader) := by
  match payload with
  | [] | [_] | [_, _] | [_, _, _] => rfl
  | _ :: _ :: _ :: _ :: rest => simp at short; omega

theorem error_of_ofPayload {payload : Bytes} {reason : FramingError}
    (read : ofPayload payload = .error reason) :
    reason = .truncated payload.length Limits.subHeader := by
  match payload with
  | [] | [_] | [_, _] | [_, _, _] => exact (Except.error.inj read).symm
  | _ :: _ :: _ :: _ :: _ => cases read

theorem bytes_injective {header other : SubHeader} (same : header.bytes = other.bytes) :
    header = other := by
  have read := ofPayload_bytes_append header []
  rw [same, ofPayload_bytes_append] at read
  exact (Except.ok.inj read).symm

end SubHeader

end PacketLink
