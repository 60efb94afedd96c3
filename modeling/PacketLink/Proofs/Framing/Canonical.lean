import PacketLink.Proofs.Checked.Buffer
import PacketLink.Proofs.Framing.RoundTrip

namespace PacketLink

/-! Encoding is canonical.

Many lists of packets decode to one message. Among those that fill every packet but the last, put
something into the last and leave zeros behind the payloads there is only one, and it is the one
that encoding writes. -/

/-- The packets decode to the message, and nothing about them was left to the sender's choice. -/
structure Canonical (flip : FlipBit) (ack : Bool) (message : Message) (packets : List Packet) :
    Prop where
  decoded : decodeStream packets = .ok message
  /-- All packets are used: no shorter list of them decodes. -/
  used : ∀ n < packets.length, ∀ other, decodeStream (packets.take n) ≠ .ok other
  bits : ∀ packet ∈ packets, packet.flip = flip ∧ packet.ack = ack
  full : ∀ packet ∈ packets.dropLast, packet.payload.length = 62
  ended : ∀ packet ∈ packets.getLast?, 1 ≤ packet.payload.length
  zeros : ∀ packet ∈ packets, ∀ byte ∈ packet.padding, byte = 0

/-! ### How the bytes are split -/

theorem piece_append_succ {front : Bytes} (full : front.length = 62) (rest : Bytes) (i : Nat) :
    piece (front ++ rest) (i + 1) = piece rest i := by
  rw [piece, piece, List.drop_append, List.drop_of_length_le (by omega), List.nil_append, full]
  congr 2

section Split

variable {packets : List Packet} {last : Packet}
  (full : ∀ packet ∈ packets, packet.payload.length = 62)

include full

theorem length_payloads_concat :
    (payloads (packets ++ [last])).length = 62 * packets.length + last.payload.length := by
  induction packets with
  | nil => simp
  | cons packet rest ih =>
      obtain ⟨here, later⟩ := List.forall_mem_cons.mp full
      have tail := ih later
      simp only [List.cons_append, payloads_cons, List.length_append, List.length_cons, here] at tail ⊢
      omega

/-- Packets that are full up to the last carry consecutive pieces of what they spell. -/
theorem payload_eq_piece {i : Nat} {packet : Packet}
    (found : (packets ++ [last])[i]? = some packet) :
    packet.payload = piece (payloads (packets ++ [last])) i := by
  induction packets generalizing i with
  | nil =>
      have only : i = 0 ∧ last = packet := by
        simpa [List.getElem?_singleton] using found
      obtain ⟨rfl, rfl⟩ := only
      simp [piece, List.take_of_length_le last.payload_length_le]
  | cons first rest ih =>
      obtain ⟨here, later⟩ := List.forall_mem_cons.mp full
      rw [List.cons_append, payloads_cons]
      cases i with
      | zero =>
          obtain rfl : first = packet := by simpa using found
          rw [piece, Nat.mul_zero, List.drop_zero, ← here, List.take_left]
      | succ i =>
          rw [piece_append_succ here]
          exact ih later (by simpa using found)

end Split

/-! ### The packets of an encoded message -/

/-- No proper start of a whole stream is itself a whole stream. -/
theorem Carries.not_carries_take {packets : List Packet} {message other : Message} {n : Nat}
    (carries : Carries packets message) (shorter : n < packets.length) :
    ¬ Carries (packets.take n) other := by
  intro again
  have whole := Reassembler.opens_of_carries carries
  rw [← List.take_append_drop n packets] at whole
  have total := whole.start.total_unique (Reassembler.opens_of_carries again) again.nonempty
  rw [List.take_append_drop, List.length_take_of_le (Nat.le_of_lt shorter)] at total
  omega

namespace Message

variable (message : Message) (flip : FlipBit) (ack : Bool)

theorem length_piece {i : Nat} (within : 62 * (i + 1) ≤ 4 + message.length) :
    (piece message.serialized i).length = 62 := by
  simp only [piece, List.length_take, List.length_drop, length_serialized]
  omega

/-- All packets but the last, and the last. -/
theorem exists_packets_concat : ∃ count, packetsNeeded message.length = count + 1 ∧
    62 * count < 4 + message.length ∧
    message.packets flip ack = (List.range count).map (message.packetAt flip ack (count + 1)) ++
      [message.packetAt flip ack (count + 1) count] := by
  have needed := packetsNeeded_eq message.length
  obtain ⟨count, positive⟩ : ∃ count, packetsNeeded message.length = count + 1 :=
    Nat.exists_eq_add_one_of_ne_zero (by omega)
  refine ⟨count, positive, by omega, ?_⟩
  rw [packets, positive, List.range_succ, List.map_append, List.map_singleton]

theorem canonical_packets (fits : message.length ≤ 988) :
    Canonical flip ack message (message.packets flip ack) := by
  have carries := message.carries_packets flip ack fits
  obtain ⟨count, -, reaches, split⟩ := message.exists_packets_concat flip ack
  constructor
  case decoded => simpa using carries.decodeStream_append []
  case used =>
    intro n shorter other decoded
    obtain ⟨k, within, again⟩ := (decodeStream_iff_carries _ _).mp decoded
    rw [List.length_take] at within
    rw [List.take_take] at again
    exact carries.not_carries_take (by omega) again
  case bits => exact fun packet member => message.bits_of_mem_packets flip ack member
  case full =>
    intro packet member
    rw [split, List.dropLast_concat] at member
    obtain ⟨i, earlier, rfl⟩ := List.mem_map.mp member
    rw [List.mem_range] at earlier
    exact message.length_piece (by omega)
  case ended =>
    intro packet member
    rw [split, List.getLast?_concat, Option.mem_some_iff] at member
    subst member
    simp only [packetAt, Packet.ofPayload, piece, List.length_take, List.length_drop,
      length_serialized]
    omega
  case zeros =>
    intro packet member byte padded
    obtain ⟨i, -, rfl⟩ := List.mem_map.mp member
    exact List.eq_of_mem_replicate padded

end Message

/-! ### Uniqueness -/

theorem Packet.eq_ofPayload {packet : Packet} (zeros : ∀ byte ∈ packet.padding, byte = 0) :
    packet = .ofPayload packet.flip packet.ack packet.index packet.last packet.payload
      packet.payload_length_le := by
  have full := packet.full
  have padding : packet.padding = List.replicate (62 - packet.payload.length) 0 :=
    List.eq_replicate_iff.mpr ⟨by omega, zeros⟩
  cases packet
  simpa [ofPayload] using padding

namespace Canonical

variable {flip : FlipBit} {ack : Bool} {message : Message} {packets : List Packet}

theorem carries (canonical : Canonical flip ack message packets) : Carries packets message := by
  obtain ⟨n, within, carries⟩ := (decodeStream_iff_carries _ _).mp canonical.decoded
  rcases Nat.lt_or_eq_of_le within with shorter | rfl
  · have decoded := carries.decodeStream_append []
    rw [List.append_nil] at decoded
    exact absurd decoded (canonical.used n shorter message)
  · rwa [List.take_length] at carries

/-- The packets of a canonical list are as many as the message needs, and each carries its piece. -/
theorem pieces (canonical : Canonical flip ack message packets) :
    packets.length = Message.packetsNeeded message.length ∧
      ∀ i packet, packets[i]? = some packet → packet.payload = piece message.serialized i := by
  have spelled := canonical.carries.payloads_eq
  obtain ⟨front, last, rfl⟩ : ∃ front last, packets = front ++ [last] := by
    rcases packets.eq_nil_or_concat' with rfl | split
    · exact absurd canonical.carries.nonempty (by simp)
    · exact split
  have full : ∀ packet ∈ front, packet.payload.length = 62 := by
    simpa using canonical.full
  have ended : 1 ≤ last.payload.length := by simpa using canonical.ended
  constructor
  · have spread : (payloads (front ++ [last])).length = _ := length_payloads_concat full
    have short := last.payload_length_le
    rw [spelled, Message.length_serialized] at spread
    rw [Message.packetsNeeded_eq, List.length_append, List.length_singleton]
    omega
  · intro i packet found
    rw [← spelled]
    exact payload_eq_piece full found

theorem eq_packetAt (canonical : Canonical flip ack message packets) {i : Nat} {packet : Packet}
    (found : packets[i]? = some packet) :
    packet = message.packetAt flip ack (Message.packetsNeeded message.length) i := by
  obtain ⟨count, payload⟩ := canonical.pieces
  have member := List.mem_of_getElem? found
  obtain ⟨rfl, rfl⟩ := canonical.bits packet member
  obtain ⟨index, total⟩ := canonical.carries.numbered i packet found
  have place : packet.index = Fin.ofNat 16 i := by
    have bound := packet.index.isLt
    ext
    rw [Fin.val_ofNat, index, Nat.mod_eq_of_lt (by omega)]
  have last : packet.last = Fin.ofNat 16 (Message.packetsNeeded message.length - 1) := by
    have bound := packet.last.isLt
    rw [Packet.total] at total
    ext
    rw [Fin.val_ofNat, Nat.mod_eq_of_lt (by omega)]
    omega
  have same := Packet.eq_ofPayload (canonical.zeros packet member)
  simp only [place, last, payload i packet found] at same
  exact same

theorem eq_packets (canonical : Canonical flip ack message packets) :
    packets = message.packets flip ack := by
  have count := canonical.pieces.1
  apply List.ext_getElem?
  intro i
  by_cases within : i < packets.length
  · have found := List.getElem?_eq_getElem within
    rw [found, Message.packets, List.getElem?_map, List.getElem?_range (by omega), Option.map_some,
      ← canonical.eq_packetAt found]
  · rw [List.getElem?_eq_none (by omega), List.getElem?_eq_none (by simp; omega)]

end Canonical

/-- Buffers of 64 bytes are the bytes of the packets that they parse to. -/
theorem eq_map_bytes_of_parsed {received : List Bytes} {packets : List Packet}
    (sizes : ∀ bytes ∈ received, bytes.length = 64)
    (parsed : received.map Packet.ofBytes = packets.map .ok) : received = packets.map Packet.bytes := by
  induction received generalizing packets with
  | nil =>
      obtain rfl : packets = [] := by simpa using parsed.symm
      rfl
  | cons bytes rest ih =>
      obtain ⟨size, sizes⟩ := List.forall_mem_cons.mp sizes
      cases packets with
      | nil => cases parsed
      | cons packet packets =>
          simp only [List.map_cons, List.cons.injEq] at parsed ⊢
          obtain ⟨read, parsed⟩ := parsed
          refine ⟨?_, ih sizes parsed⟩
          rw [Packet.bytes_of_ofBytes read, Bytes.padTo, List.take_left' size]

theorem Message.encode_eq_error_iff (message : Message) (flip : FlipBit) (ack : Bool)
    (size : Oversize) : message.encode flip ack = .error size ↔
      988 < message.length ∧ size = ⟨message.length, packetsNeeded message.length⟩ := by
  by_cases fits : message.length ≤ 988
  · rw [message.encode_eq_ok flip ack fits]
    simp [Nat.not_lt.mpr fits]
  · have long : message.fits = false := by
      rw [Bool.eq_false_iff, ne_eq, message.fits_iff]
      exact fits
    simp [encode, long, Nat.not_le.mp fits, eq_comm]

/-- Encoding refuses just the messages above 988 bytes, and for all others gives the one list of 64-byte
packets that is a canonical stream of the message. -/
theorem encode_canonical (message : Message) (flip : FlipBit) (ack : Bool) :
    (16 < Message.packetsNeeded message.length ↔ 988 < message.length) ∧
    (∀ size, message.encode flip ack = .error size ↔
      16 < Message.packetsNeeded message.length ∧
        size = ⟨message.length, Message.packetsNeeded message.length⟩) ∧
    (message.length ≤ 988 → ∃ stream, message.encode flip ack = .ok stream ∧ stream.flip = flip) ∧
    ∀ received : List Bytes,
      ((∀ bytes ∈ received, bytes.length = 64) ∧
        ∃ packets : List Packet, received.map Packet.ofBytes = packets.map .ok ∧
          Canonical flip ack message packets) ↔
      ∃ stream, message.encode flip ack = .ok stream ∧ stream.packets.map Packet.bytes = received := by
  have beyond : 16 < Message.packetsNeeded message.length ↔ 988 < message.length := by
    rw [Message.packetsNeeded_eq]
    omega
  refine ⟨beyond, fun size => ?_, fun fits => ⟨_, message.encode_eq_ok flip ack fits, rfl⟩, ?_⟩
  · rw [beyond]
    exact message.encode_eq_error_iff flip ack size
  intro received
  constructor
  · rintro ⟨sizes, packets, parsed, canonical⟩
    obtain rfl := canonical.eq_packets
    exact ⟨_, message.encode_eq_ok flip ack canonical.carries.fits,
      (eq_map_bytes_of_parsed sizes parsed).symm⟩
  · rintro ⟨stream, encoded, rfl⟩
    obtain ⟨fits, rfl⟩ := message.eq_of_encode flip ack encoded
    refine ⟨by simp, _, ?_, message.canonical_packets flip ack fits⟩
    simp [Function.comp_def, Packet.ofBytes_bytes]

end PacketLink
