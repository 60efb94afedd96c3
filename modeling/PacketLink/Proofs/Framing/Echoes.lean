import PacketLink.Framing.Echo
import PacketLink.Proofs.Framing.Parsing

namespace PacketLink.Packet

/-! Echoes as packets. Received bytes echo a packet exactly if they hold one with its header and
payload, so the comparison of raw bytes takes nothing for an echo that does not parse. -/

variable {reference : Packet} {received : Bytes}

theorem isEcho_iff : reference.isEcho received = true ↔ reference.framed <+: received :=
  List.isPrefixOf_iff_prefix

theorem framed_prefix_of_ofBytes {packet : Packet} (parsed : ofBytes received = .ok packet) :
    packet.framed <+: received := by
  obtain ⟨tail, rfl, -⟩ := exists_framed_append parsed
  exact List.prefix_append _ _

/-- Bytes that begin with a packet's header and payload hold a packet with that header and payload,
and no other bytes do. -/
theorem framed_prefix_iff :
    reference.framed <+: received ↔
      ∃ packet, ofBytes received = .ok packet ∧ packet.framed = reference.framed := by
  constructor
  · rintro ⟨tail, rfl⟩
    exact ⟨reference.withPadding tail, reference.ofBytes_framed_append tail, rfl⟩
  · rintro ⟨packet, parsed, same⟩
    rw [← same]
    exact framed_prefix_of_ofBytes parsed

theorem framed_eq_iff {packet : Packet} :
    packet.framed = reference.framed ↔ packet.control = reference.control ∧
      packet.indexByte = reference.indexByte ∧ packet.payload = reference.payload := by
  simp only [framed, List.cons.injEq]

/-- Packets that differ in the acknowledgment request have no echo in common. -/
theorem not_both_echoes (reference : Packet) (asks : reference.ack = true) :
    ¬ (reference.framed <+: received ∧ (reference.withAck false).framed <+: received) := by
  rintro ⟨⟨tail, rfl⟩, ⟨other, same⟩⟩
  have control : (reference.withAck false).control = reference.control := (List.cons.inj same).1
  have asked := reference.control_toNat
  have unasked := (reference.withAck false).control_toNat
  rw [control, asked] at unasked
  simp [withAck, asks] at unasked

/-- Bytes echo a packet exactly if they parse to one with the same control byte, index byte and
payload. None echo it both with the acknowledgment request and without, and what follows the payload
does not count. -/
theorem isEcho_agrees (reference : Packet) (received : Bytes) :
    (reference.isEcho received = true ↔
      ∃ packet, ofBytes received = .ok packet ∧ packet.control = reference.control ∧
        packet.indexByte = reference.indexByte ∧ packet.payload = reference.payload) ∧
    ¬ ((reference.withAck true).isEcho received = true ∧
      (reference.withAck false).isEcho received = true) ∧
    reference.isEcho (received.take (2 + reference.payload.length)) = reference.isEcho received := by
  constructor
  · simp only [isEcho_iff, framed_prefix_iff, framed_eq_iff]
  constructor
  · simp only [isEcho_iff]
    exact (reference.withAck true).not_both_echoes rfl
  · rw [Bool.eq_iff_iff, isEcho_iff, isEcho_iff, ← reference.length_framed, List.prefix_take_iff]
    exact and_iff_left (Nat.le_refl _)

end PacketLink.Packet
