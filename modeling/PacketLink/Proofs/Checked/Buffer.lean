import PacketLink.Proofs.Checked.Fault
import PacketLink.Proofs.Framing.Reassembly

namespace PacketLink

/-! Packets as buffers of 64 bytes.

A buffer alone says nothing of the length in its control byte, and so its fields are read by checked
operations. Every buffer that is made holds a packet, and of those all fields can be read. -/

@[ext]
structure Buffer where
  bytes : Bytes
  size : bytes.length = 64

namespace Buffer

def zeros : Bytes := List.replicate 64 0

def lengthMask : UInt8 := 0x3F

def ackRequest : UInt8 := 0x40

section Fields

variable (buffer : Buffer)

def control : Checked UInt8 := Checked.index buffer.bytes 0

def indexByte : Checked UInt8 := Checked.index buffer.bytes 1

def flip : Checked FlipBit := do return FlipBit.ofControl (← buffer.control)

def ack : Checked Bool := do return (← buffer.control) &&& ackRequest != 0

def payloadLength : Checked Nat := do return ((← buffer.control) &&& lengthMask).toNat

def index : Checked Nat := do return ((← buffer.indexByte) >>> 4).toNat

def total : Checked Nat := do
  Checked.add Checked.byteBound ((← buffer.indexByte) &&& 0x0F).toNat 1

def isLast : Checked Bool := do
  return (← Checked.add Checked.byteBound (← buffer.index) 1) == (← buffer.total)

def payload : Checked Bytes := do
  Checked.slice buffer.bytes 2 (← Checked.add Checked.sizeBound 2 (← buffer.payloadLength))

def framed : Checked Bytes := do
  Checked.slice buffer.bytes 0 (← Checked.add Checked.sizeBound 2 (← buffer.payloadLength))

def withAck (ack : Bool) : Checked Buffer := do
  let control ← buffer.control
  let changed := if ack then control ||| ackRequest else control &&& ~~~ackRequest
  return ⟨buffer.bytes.set 0 changed, by simp [buffer.size]⟩

/-- All fields, as a log shows them. -/
def packet : Checked Packet := do
  let payload ← buffer.payload
  let index ← buffer.index
  let last ← Checked.sub (← buffer.total) 1
  if fits : index < 16 ∧ last < 16 ∧ payload.length ≤ 62 then
    return {
      flip := ← buffer.flip
      ack := ← buffer.ack
      index := ⟨index, fits.1⟩
      last := ⟨last, fits.2.1⟩
      payload := payload
      padding := Bytes.padTo (62 - payload.length) (buffer.bytes.drop (2 + payload.length))
      full := by rw [Bytes.length_padTo, Nat.add_sub_of_le fits.2.2] }
  else throw .assertionFailed

end Fields

def ofBytes (bytes : Bytes) : Checked (Except FramingError Buffer) :=
  match bytes with
  | control :: _ :: _ => do
      let declared := (control &&& lengthMask).toNat
      let needed ← Checked.add Checked.sizeBound 2 declared
      if declared > 62 ∨ bytes.length < needed then return .error (.truncated bytes.length needed)
      let copied := min bytes.length 64
      let source ← Checked.slice bytes 0 copied
      let filled ← Checked.overwrite zeros 0 copied source
      if size : filled.length = 64 then return .ok ⟨filled, size⟩ else throw .assertionFailed
  | short => return .error (.truncated short.length 2)

/-- A packet with the payload; its length goes into the control byte. -/
def build (control index : UInt8) (payload : Bytes) : Checked Buffer := do
  Checked.assert (payload.length ≤ 62)
  let headed ← Checked.overwrite zeros 0 2 [control ||| UInt8.ofNat payload.length, index]
  let stop ← Checked.add Checked.sizeBound 2 payload.length
  let filled ← Checked.overwrite headed 2 stop payload
  if size : filled.length = 64 then return ⟨filled, size⟩ else throw .assertionFailed

end Buffer

def Packet.buffer (packet : Packet) : Buffer := ⟨packet.bytes, packet.length_bytes⟩

theorem Bytes.padTo_append {size : Nat} {front : Bytes} (fits : front.length ≤ size) (tail : Bytes) :
    padTo size (front ++ tail) = front ++ padTo (size - front.length) tail := by
  rw [padTo, List.append_assoc, List.take_append, List.take_of_length_le fits, padTo]
  congr 1
  rw [List.take_append, List.take_append, List.take_replicate, List.take_replicate]
  congr 2
  omega

/-- The bytes of a packet that was read are those received, up to the size of a packet. -/
theorem Packet.bytes_of_ofBytes {bytes : Bytes} {packet : Packet} (read : ofBytes bytes = .ok packet) :
    packet.bytes = Bytes.padTo 64 bytes := by
  obtain ⟨tail, rfl, padding⟩ := exists_framed_append read
  have length := packet.length_framed
  have short := packet.payload_length_le
  have room : 64 - packet.framed.length = 62 - packet.payload.length := by omega
  rw [Bytes.padTo_append (by omega), room, Packet.bytes, padding]

namespace Buffer

theorem and_lengthMask (control : UInt8) : (control &&& lengthMask).toNat = control.toNat % 64 := by
  rw [UInt8.toNat_and]
  exact Nat.and_two_pow_sub_one_eq_mod control.toNat 6

theorem and_low (indexByte : UInt8) : (indexByte &&& 0x0F).toNat = indexByte.toNat % 16 := by
  rw [UInt8.toNat_and]
  exact Nat.and_two_pow_sub_one_eq_mod indexByte.toNat 4

theorem shiftRight_four (indexByte : UInt8) : (indexByte >>> 4).toNat = indexByte.toNat / 16 := by
  rw [UInt8.toNat_shiftRight]
  exact Nat.shiftRight_eq_div_pow indexByte.toNat 4

/-- The bits of a control byte do not overlap. -/
theorem control_bits (flip : FlipBit) (ack : Bool) {length : Nat} (short : length ≤ 62) :
    let control (ack : Bool) : UInt8 :=
      UInt8.ofNat (flip.bits.toNat + (if ack then 64 else 0) + length)
    (control ack &&& ackRequest != 0) = ack ∧
      control ack ||| ackRequest = control true ∧
      control ack &&& ~~~ackRequest = control false ∧
      (if ack then flip.bits ||| ackRequest else flip.bits) ||| UInt8.ofNat length = control ack := by
  have all : ∀ length < 63,
      let control (ack : Bool) : UInt8 :=
        UInt8.ofNat (flip.bits.toNat + (if ack then 64 else 0) + length)
      (control ack &&& ackRequest != 0) = ack ∧
        control ack ||| ackRequest = control true ∧
        control ack &&& ~~~ackRequest = control false ∧
        (if ack then flip.bits ||| ackRequest else flip.bits) ||| UInt8.ofNat length =
          control ack := by
    cases flip <;> cases ack <;> decide +kernel
  exact all length (Nat.lt_succ_of_le short)

section OfPacket

variable (packet : Packet)

@[simp] theorem flip_buffer : packet.buffer.flip = .ok packet.flip := by
  have composed := packet.control_toNat
  have short := packet.payload_length_le
  have small : (if packet.ack then 64 else 0) + packet.payload.length < 128 := by split <;> omega
  have read : packet.buffer.flip = .ok (FlipBit.ofControl packet.control) := rfl
  rw [read, packet.flip.ofControl_of_bits small composed]

@[simp] theorem ack_buffer : packet.buffer.ack = .ok packet.ack :=
  congrArg Except.ok (control_bits packet.flip packet.ack packet.payload_length_le).1

@[simp] theorem payloadLength_buffer : packet.buffer.payloadLength = .ok packet.payload.length := by
  have composed := packet.control_toNat
  have short := packet.payload_length_le
  have flipBits := packet.flip.bits_toNat
  have read : packet.buffer.payloadLength = .ok (packet.control &&& lengthMask).toNat := rfl
  rw [read, and_lengthMask]
  congr 1
  split at composed <;> omega

@[simp] theorem index_buffer : packet.buffer.index = .ok packet.index.val := by
  have indexBound := packet.index.isLt
  have lastBound := packet.last.isLt
  have read : packet.buffer.index = .ok (packet.indexByte >>> 4).toNat := rfl
  rw [read, shiftRight_four, packet.indexByte_toNat]
  congr 1
  omega

@[simp] theorem total_buffer : packet.buffer.total = .ok packet.total := by
  have lastBound := packet.last.isLt
  have read : packet.buffer.total =
      Checked.add Checked.byteBound (packet.indexByte &&& 0x0F).toNat 1 := rfl
  have low : (packet.indexByte &&& 0x0F).toNat = packet.last.val := by
    rw [and_low, packet.indexByte_toNat]
    omega
  rw [read, low, Checked.add_of_lt (by simp only [Checked.byteBound]; omega)]
  rfl

@[simp] theorem isLast_buffer : packet.buffer.isLast = .ok packet.isLast := by
  have indexBound := packet.index.isLt
  have next : Checked.add Checked.byteBound packet.index.val 1 = .ok (packet.index.val + 1) :=
    Checked.add_of_lt (by simp only [Checked.byteBound]; omega)
  have same : (packet.index.val + 1 == packet.total) = packet.isLast := by
    rw [Bool.eq_iff_iff, beq_iff_eq, packet.isLast_iff]
  simp [isLast, next, same]

theorem end_buffer : Checked.add Checked.sizeBound 2 packet.payload.length =
    .ok (2 + packet.payload.length) := by
  have short := packet.payload_length_le
  exact Checked.add_of_lt (by simp only [Checked.sizeBound]; omega)

@[simp] theorem payload_buffer : packet.buffer.payload = .ok packet.payload := by
  have full := packet.full
  have within : 2 + packet.payload.length ≤ packet.buffer.bytes.length := by
    rw [packet.buffer.size]
    omega
  have read : packet.buffer.payload =
      Checked.slice packet.buffer.bytes 2 (2 + packet.payload.length) := by
    simp [payload, end_buffer]
  rw [read, Checked.slice_of_le (Nat.le_add_right _ _) within, List.drop_take, Nat.add_sub_cancel_left]
  exact congrArg Except.ok List.take_left

-- A control byte that declares 63 bytes, as none that is read or built does.
example : payload ⟨0x3F :: List.replicate 63 0, rfl⟩ = .error (.sliceOutOfRange 2 65 64) := rfl

@[simp] theorem framed_buffer : packet.buffer.framed = .ok packet.framed := by
  have full := packet.full
  have within : 2 + packet.payload.length ≤ packet.buffer.bytes.length := by
    rw [packet.buffer.size]
    omega
  have read : packet.buffer.framed =
      Checked.slice packet.buffer.bytes 0 (2 + packet.payload.length) := by
    simp [framed, end_buffer]
  rw [read, Checked.slice_of_le (Nat.zero_le _) within, ← packet.length_framed]
  exact congrArg Except.ok List.take_left

@[simp] theorem packet_buffer : packet.buffer.packet = .ok packet := by
  have short := packet.payload_length_le
  have last : Checked.sub packet.total 1 = .ok packet.last.val :=
    Checked.sub_of_le (Nat.succ_pos _)
  have padding : Bytes.padTo (62 - packet.payload.length)
      (packet.buffer.bytes.drop (2 + packet.payload.length)) = packet.padding := by
    have full := packet.full
    have behind : packet.buffer.bytes.drop (2 + packet.payload.length) = packet.padding := by
      rw [← packet.length_framed]
      exact List.drop_left
    rw [behind, Bytes.padTo, List.take_left' (by omega)]
  simp [Buffer.packet, last, short, padding, packet.index.isLt, packet.last.isLt]

@[simp] theorem withAck_buffer (ack : Bool) :
    packet.buffer.withAck ack = .ok (packet.withAck ack).buffer := by
  obtain ⟨-, set, cleared, -⟩ := control_bits packet.flip packet.ack packet.payload_length_le
  cases ack with
  | true =>
      have written : packet.buffer.withAck true = .ok
          ⟨packet.bytes.set 0 (packet.control ||| ackRequest), by simp⟩ := rfl
      rw [written, Except.ok.injEq, Buffer.mk.injEq, Packet.control, set]
      rfl
  | false =>
      have written : packet.buffer.withAck false = .ok
          ⟨packet.bytes.set 0 (packet.control &&& ~~~ackRequest), by simp⟩ := rfl
      rw [written, Except.ok.injEq, Buffer.mk.injEq, Packet.control, cleared]
      rfl

end OfPacket

theorem index_bits (index last : Fin 16) :
    (UInt8.ofNat index.val <<< 4) ||| UInt8.ofNat last.val =
      UInt8.ofNat (index.val * 16 + last.val) := by
  revert index last
  decide +kernel

theorem overwrite_headed (control index : UInt8) {payload : Bytes} (short : payload.length ≤ 62) :
    Checked.overwrite (control :: index :: List.replicate 62 0) 2 (2 + payload.length) payload =
      .ok (control :: index :: (payload ++ List.replicate (62 - payload.length) 0)) := by
  rw [Checked.overwrite_of_le (Nat.le_add_right _ _) (by simp; omega) (Nat.add_sub_cancel_left _ _).symm,
    Nat.add_comm, List.drop_succ_cons, List.drop_succ_cons, List.drop_replicate]
  rfl

theorem length_filled (control index : UInt8) {payload : Bytes} (short : payload.length ≤ 62) :
    (control :: index :: (payload ++ List.replicate (62 - payload.length) 0)).length = 64 := by
  rw [List.length_cons, List.length_cons, List.length_append, List.length_replicate,
    Nat.add_sub_of_le short]

def filled (control index : UInt8) {payload : Bytes} (short : payload.length ≤ 62) : Buffer :=
  ⟨control :: index :: (payload ++ List.replicate (62 - payload.length) 0),
    length_filled control index short⟩

theorem build_of_short (control index : UInt8) {payload : Bytes} (short : payload.length ≤ 62) :
    build control index payload = .ok (filled (control ||| UInt8.ofNat payload.length) index short) := by
  have headed (first : UInt8) : Checked.overwrite zeros 0 2 [first, index] =
      .ok (first :: index :: List.replicate 62 0) := rfl
  have stop : Checked.add Checked.sizeBound 2 payload.length = .ok (2 + payload.length) :=
    Checked.add_of_lt (by simp only [Checked.sizeBound]; omega)
  simp only [build, Checked.assert, short, decide_true, ↓reduceIte, Checked.ok_bind, headed, stop,
    overwrite_headed _ _ short, length_filled _ index short, ↓reduceDIte, Checked.pure_eq_ok, filled]

theorem build_eq (flip : FlipBit) (ack : Bool) (index last : Fin 16) {payload : Bytes}
    (short : payload.length ≤ 62) :
    build (if ack then flip.bits ||| ackRequest else flip.bits)
        ((UInt8.ofNat index.val <<< 4) ||| UInt8.ofNat last.val) payload =
      .ok (Packet.ofPayload flip ack index last payload short).buffer := by
  obtain ⟨-, -, -, control⟩ := control_bits flip ack short
  rw [index_bits, build_of_short _ _ short, Except.ok.injEq, filled, Packet.buffer, Buffer.mk.injEq,
    control]
  rfl

theorem overwrite_zeros (bytes : Bytes) :
    Checked.overwrite zeros 0 (min bytes.length 64) (bytes.take 64) = .ok (Bytes.padTo 64 bytes) := by
  have fills : (bytes.take 64).length = min bytes.length 64 - 0 := by
    rw [List.length_take, Nat.min_comm]
    rfl
  have padding : zeros.drop (min bytes.length 64) = (List.replicate 64 0).take (64 - bytes.length) := by
    rw [zeros, List.drop_replicate, List.take_replicate]
    congr 1
    omega
  have within : min bytes.length 64 ≤ zeros.length := Nat.min_le_right _ _
  rw [Checked.overwrite_of_le (Nat.zero_le _) within fills, padding, Bytes.padTo, List.take_append]
  rfl

/-- Received bytes are read as the packet that they hold, if they hold one. -/
theorem ofBytes_eq (bytes : Bytes) :
    ofBytes bytes = .ok ((Packet.ofBytes bytes).map Packet.buffer) := by
  match bytes with
  | [] | [_] => rfl
  | control :: indexByte :: rest =>
      have needed : Checked.add Checked.sizeBound 2 (control.toNat % 64) =
          .ok (2 + control.toNat % 64) :=
        Checked.add_of_lt (by simp only [Checked.sizeBound]; omega)
      rw [ofBytes, and_lengthMask, needed, Checked.ok_bind]
      by_cases fits : control.toNat % 64 ≤ 62 ∧ control.toNat % 64 ≤ rest.length
      · obtain ⟨packet, read⟩ : ∃ packet, Packet.ofBytes (control :: indexByte :: rest) = .ok packet := by
          simp only [Packet.ofBytes, fits, and_self, ↓reduceDIte]
          exact ⟨_, rfl⟩
        have short : ¬ (control.toNat % 64 > 62 ∨
            (control :: indexByte :: rest).length < 2 + control.toNat % 64) := by
          simp only [List.length_cons]
          omega
        have same : packet.buffer = ⟨Bytes.padTo 64 (control :: indexByte :: rest), by simp⟩ :=
          Buffer.ext (Packet.bytes_of_ofBytes read)
        simp only [if_neg short, Checked.slice_min, Checked.ok_bind, overwrite_zeros, read,
          Bytes.length_padTo, ↓reduceDIte, Except.map, same, Checked.pure_eq_ok]
      · rw [if_pos (by simp only [List.length_cons]; omega)]
        simp [Packet.ofBytes, fits, Except.map]

end Buffer

end PacketLink
