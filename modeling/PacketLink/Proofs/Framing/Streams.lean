import PacketLink.Framing.Stream
import PacketLink.Proofs.Framing.Parsing

namespace PacketLink

/-! Packets that are one whole stream of a message.

`Carries` states the format on the packets alone: numbers that count up to the total, and payloads
that spell sub-header and message. It does not say how the bytes are split among the packets; the
packets that a message is encoded into are one way to do it. -/

/-- Each packet stands at its own index in a stream of `total` packets. -/
def Numbered (total : Nat) (packets : List Packet) : Prop :=
  ∀ (i : Nat) (packet : Packet), packets[i]? = some packet → packet.index.val = i ∧ packet.total = total

/-- The payload bytes of the packets, in order. -/
def payloads (packets : List Packet) : Bytes := packets.flatMap Packet.payload

/-- The packets are one whole stream of the message. -/
structure Carries (packets : List Packet) (message : Message) : Prop where
  nonempty : 1 ≤ packets.length
  atMost : packets.length ≤ 16
  numbered : Numbered packets.length packets
  /-- The first packet carries the whole sub-header. -/
  opened : ∀ first : Packet, packets[0]? = some first → 4 ≤ first.payload.length
  spelled : payloads packets =
    Bytes.ofWord message.command ++ Bytes.ofWord (UInt16.ofNat message.length) ++ message.payload

section Payloads

@[simp] theorem payloads_nil : payloads [] = [] := rfl

@[simp] theorem payloads_cons (packet : Packet) (packets : List Packet) :
    payloads (packet :: packets) = packet.payload ++ payloads packets := by
  simp [payloads]

@[simp] theorem payloads_append (packets further : List Packet) :
    payloads (packets ++ further) = payloads packets ++ payloads further := by
  simp [payloads]

theorem length_payloads_le (packets : List Packet) :
    (payloads packets).length ≤ 62 * packets.length := by
  induction packets with
  | nil => simp
  | cons packet rest ih =>
      have short := packet.payload_length_le
      simp only [payloads_cons, List.length_append, List.length_cons]
      omega

end Payloads

theorem numbered_concat {total : Nat} {packets : List Packet} {packet : Packet} :
    Numbered total (packets ++ [packet]) ↔
      Numbered total packets ∧ packet.index.val = packets.length ∧ packet.total = total := by
  constructor
  · intro numbered
    refine ⟨fun i found at_i => ?_, numbered packets.length packet (by simp)⟩
    have within : i < packets.length := by
      have := (List.getElem?_eq_some_iff.mp at_i).1
      omega
    exact numbered i found (by rw [List.getElem?_append_left within, at_i])
  · rintro ⟨numbered, index, named⟩ i found at_i
    by_cases within : i < packets.length
    · rw [List.getElem?_append_left within] at at_i
      exact numbered i found at_i
    · rw [List.getElem?_append_right (by omega)] at at_i
      have last : i - packets.length = 0 ∧ packet = found := by
        simpa [List.getElem?_singleton] using at_i
      obtain ⟨position, rfl⟩ := last
      exact ⟨by omega, named⟩

namespace Message

@[simp] theorem length_serialized (message : Message) :
    message.serialized.length = 4 + message.length := by
  simp [serialized, length]

theorem serialized_eq (message : Message) :
    message.serialized =
      Bytes.ofWord message.command ++ Bytes.ofWord (UInt16.ofNat message.length) ++
        message.payload := rfl

end Message

theorem Carries.payloads_eq {packets : List Packet} {message : Message}
    (carries : Carries packets message) : payloads packets = message.serialized :=
  carries.spelled

/-- A message that a stream carries is no longer than the packets allow. -/
theorem Carries.length_le {packets : List Packet} {message : Message}
    (carries : Carries packets message) : 4 + message.length ≤ 62 * packets.length := by
  have bound := length_payloads_le packets
  rwa [carries.payloads_eq, Message.length_serialized] at bound

theorem Carries.fits {packets : List Packet} {message : Message}
    (carries : Carries packets message) : message.length ≤ 988 := by
  have bound := carries.length_le
  have few := carries.atMost
  omega

namespace Message

theorem fits_iff (message : Message) : message.fits = true ↔ message.length ≤ 988 :=
  decide_eq_true_iff

theorem packetsNeeded_eq (length : Nat) : packetsNeeded length = (length + 65) / 62 := by
  simp only [packetsNeeded, Limits.packetPayload, Limits.packet, Limits.header, Limits.subHeader]
  omega

theorem packetsNeeded_bounds {length : Nat} (fits : length ≤ 988) :
    1 ≤ packetsNeeded length ∧ packetsNeeded length ≤ 16 ∧
      4 + length ≤ 62 * packetsNeeded length := by
  rw [packetsNeeded_eq]
  omega

/-- Consecutive pieces spell the bytes up to where they end. -/
theorem flatMap_piece_range (bytes : Bytes) (count : Nat) :
    (List.range count).flatMap (piece bytes) = bytes.take (62 * count) := by
  induction count with
  | zero => simp
  | succ count ih =>
      rw [List.range_succ, List.flatMap_append, ih, Nat.mul_succ, List.take_add]
      simp [piece]

/-- The packets that a message is cut into. -/
def packets (message : Message) (flip : FlipBit) (ack : Bool) : List Packet :=
  (List.range (packetsNeeded message.length)).map
    (message.packetAt flip ack (packetsNeeded message.length))

variable (message : Message) (flip : FlipBit) (ack : Bool)

@[simp] theorem length_packets :
    (message.packets flip ack).length = packetsNeeded message.length := by
  simp [packets]

theorem payloads_packets : payloads (message.packets flip ack) =
    message.serialized.take (62 * packetsNeeded message.length) := by
  rw [← flatMap_piece_range, payloads, packets, List.flatMap_map]
  rfl

theorem packets_getElem? {i : Nat} {packet : Packet}
    (found : (message.packets flip ack)[i]? = some packet) :
    i < packetsNeeded message.length ∧
      packet = message.packetAt flip ack (packetsNeeded message.length) i := by
  obtain ⟨within, rfl⟩ := List.getElem?_eq_some_iff.mp found
  simp only [length_packets] at within
  exact ⟨within, by simp [packets]⟩

theorem bits_of_mem_packets {packet : Packet} (member : packet ∈ message.packets flip ack) :
    packet.flip = flip ∧ packet.ack = ack := by
  obtain ⟨index, -, rfl⟩ := List.mem_map.mp member
  exact ⟨rfl, rfl⟩

theorem encode_eq_ok (fits : message.length ≤ 988) :
    message.encode flip ack = .ok ⟨flip, message.packets flip ack⟩ := by
  simp [encode, message.fits_iff.mpr fits, packets]

theorem eq_of_encode {stream : PacketStream} (encoded : message.encode flip ack = .ok stream) :
    message.length ≤ 988 ∧ stream = ⟨flip, message.packets flip ack⟩ := by
  cases fits : message.fits with
  | true =>
      have short := message.fits_iff.mp fits
      rw [message.encode_eq_ok flip ack short] at encoded
      exact ⟨short, (Except.ok.inj encoded).symm⟩
  | false => simp [encode, fits] at encoded

theorem length_pos_of_encode {stream : PacketStream}
    (encoded : message.encode flip ack = .ok stream) : 0 < stream.length := by
  obtain ⟨short, rfl⟩ := message.eq_of_encode flip ack encoded
  rw [PacketStream.length, length_packets]
  exact (packetsNeeded_bounds short).1

/-- The one packet of a short message. -/
def single : Packet := message.packetAt flip ack 1 0

theorem encode_single (short : 4 + message.length ≤ 62) :
    message.encode flip ack = .ok ⟨flip, [message.single flip ack]⟩ := by
  have count : packetsNeeded message.length = 1 := by
    rw [packetsNeeded_eq]
    omega
  rw [message.encode_eq_ok flip ack (by omega), packets, count]
  rfl

/-- The packets of an encoded message are one whole stream of it. -/
theorem carries_packets (fits : message.length ≤ 988) :
    Carries (message.packets flip ack) message := by
  obtain ⟨positive, few, enough⟩ := packetsNeeded_bounds fits
  refine ⟨by simpa using positive, by simpa using few, ?_, ?_, ?_⟩
  · intro i packet found
    obtain ⟨within, rfl⟩ := message.packets_getElem? flip ack found
    simp only [length_packets, packetAt, Packet.ofPayload, Packet.total, Fin.val_ofNat]
    omega
  · intro first found
    obtain ⟨_, rfl⟩ := message.packets_getElem? flip ack found
    simp only [packetAt, Packet.ofPayload, piece, Nat.mul_zero, List.drop_zero, List.length_take,
      length_serialized]
    omega
  · rw [payloads_packets, List.take_of_length_le (by simpa using enough), message.serialized_eq]

end Message

end PacketLink
