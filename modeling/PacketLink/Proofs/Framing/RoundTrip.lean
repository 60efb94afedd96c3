import PacketLink.Proofs.Framing.Deliveries
import PacketLink.Proofs.Framing.Reassembly

namespace PacketLink

/-! Encoding and decoding as each other's inverse.

Decoding finds exactly the streams that the format allows, and the packets of an encoded message
decode to it in whatever padding they arrive. -/

theorem decodeStream_iff_carries (packets : List Packet) (message : Message) :
    decodeStream packets = .ok message ↔
      ∃ n, n ≤ packets.length ∧ Carries (packets.take n) message := by
  exact Reassembler.decodeFrom_eq_ok_iff .idle packets 0 0

theorem Carries.decodeStream_append {packets : List Packet} {message : Message}
    (carries : Carries packets message) (further : List Packet) :
    decodeStream (packets ++ further) = .ok message :=
  (decodeStream_iff_carries _ _).mpr ⟨packets.length, by simp, by simpa using carries⟩

theorem Carries.encode_length_le {packets : List Packet} {message : Message}
    (carries : Carries packets message) (flip : FlipBit) (ack : Bool) :
    ∃ stream, message.encode flip ack = .ok stream ∧ stream.length ≤ packets.length := by
  refine ⟨_, message.encode_eq_ok flip ack carries.fits, ?_⟩
  have bound := carries.length_le
  simp only [PacketStream.length, Message.length_packets, Message.packetsNeeded_eq]
  omega

/-- A message of at most 988 bytes is encoded, and is read back from its packets whatever bytes stand
beyond the payloads on the wire and whatever packets come behind them. -/
theorem decodeStream_encode (message : Message) (flip : FlipBit) (ack : Bool)
    (fits : message.length ≤ 988) :
    ∃ stream, message.encode flip ack = .ok stream ∧
      stream.length = Message.packetsNeeded message.length ∧
      ∀ received,
        List.Forall₂ (fun packet bytes => packet.framed <+: bytes) stream.packets received →
        ∃ parsed : List Packet, received.map Packet.ofBytes = parsed.map .ok ∧
          ∀ further, decodeStream (parsed ++ further) = .ok message := by
  refine ⟨_, message.encode_eq_ok flip ack fits, message.length_packets flip ack, ?_⟩
  intro received framed
  obtain ⟨parsed, read, contents⟩ := exists_parsed framed
  have carries := (message.carries_packets flip ack fits).congr contents
  exact ⟨parsed, read, carries.decodeStream_append⟩

/-- Two packets, the first cut off right after its payload and the second with other padding. -/
theorem decodeStream_encode_two_packets :
    ∃ parsed : List Packet,
      [[0xFE, 0x01, 0x01, 0x01, 60, 0] ++ List.replicate 58 7,
        [0xC2, 0x11, 7, 7, 0xAA, 0xBB]].map Packet.ofBytes = parsed.map .ok ∧
      ∀ further, decodeStream (parsed ++ further) = .ok ⟨0x0101, List.replicate 60 7⟩ := by
  obtain ⟨stream, encoded, _, delivered⟩ :=
    decodeStream_encode ⟨0x0101, List.replicate 60 7⟩ .set true (by decide)
  rw [Message.encode_eq_ok _ _ _ (by decide)] at encoded
  cases encoded
  exact delivered _ (.cons (by decide) (.cons (by decide) .nil))

/-- Decoding gives a message just where the packets begin with a stream that carries it, however its
bytes are split; such a message fits, and its own encoding is no longer. -/
theorem decodeStream_eq_ok_iff (packets : List Packet) (message : Message) :
    (decodeStream packets = .ok message ↔
      ∃ n, 1 ≤ n ∧ n ≤ 16 ∧ n ≤ packets.length ∧ Carries (packets.take n) message) ∧
    ∀ n, n ≤ packets.length → Carries (packets.take n) message →
      message.length ≤ 988 ∧
        ∀ flip ack, ∃ stream, message.encode flip ack = .ok stream ∧ stream.length ≤ n := by
  constructor
  · rw [decodeStream_iff_carries]
    constructor
    · rintro ⟨n, within, carries⟩
      have count : (packets.take n).length = n := List.length_take_of_le within
      exact ⟨n, count ▸ carries.nonempty, count ▸ carries.atMost, within, carries⟩
    · rintro ⟨n, _, _, within, carries⟩
      exact ⟨n, within, carries⟩
  · intro n within carries
    have count : (packets.take n).length = n := List.length_take_of_le within
    refine ⟨carries.fits, fun flip ack => ?_⟩
    rw [← count]
    exact carries.encode_length_le flip ack

/-- Three packets that split their stream unevenly, the last of them empty, and one that is left
over. -/
theorem decodeStream_uneven_split :
    decodeStream [.ofPayload .set false 0 2 [5, 0, 2, 0, 0xAA] (by decide),
      .ofPayload .clear true 1 2 [0xBB] (by decide), .ofPayload .clear false 2 2 [] (by decide),
      .ofPayload .set true 9 4 [1] (by decide)] = .ok ⟨5, [0xAA, 0xBB]⟩ ∧
    ∃ stream, (⟨5, [0xAA, 0xBB]⟩ : Message).encode .set true = .ok stream ∧ stream.length ≤ 3 := by
  have carries : Carries [.ofPayload .set false 0 2 [5, 0, 2, 0, 0xAA] (by decide),
      .ofPayload .clear true 1 2 [0xBB] (by decide), .ofPayload .clear false 2 2 [] (by decide)]
      ⟨5, [0xAA, 0xBB]⟩ := by
    refine ⟨by decide, by decide, ?_, ?_, by decide⟩
    · intro i packet found
      match i with
      | 0 | 1 | 2 =>
          obtain rfl := Option.some.inj found
          decide
      | i + 3 => simp at found
    · intro first found
      obtain rfl := Option.some.inj found
      decide
  obtain ⟨accepts, bounds⟩ := decodeStream_eq_ok_iff [.ofPayload .set false 0 2 [5, 0, 2, 0, 0xAA]
    (by decide), .ofPayload .clear true 1 2 [0xBB] (by decide), .ofPayload .clear false 2 2 []
    (by decide), .ofPayload .set true 9 4 [1] (by decide)] ⟨5, [0xAA, 0xBB]⟩
  exact ⟨accepts.mpr ⟨3, by decide, by decide, by decide, carries⟩,
    (bounds 3 (by decide) carries).2 .set true⟩

end PacketLink
