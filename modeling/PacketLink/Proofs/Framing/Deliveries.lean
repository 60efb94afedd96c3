import Mathlib.Data.List.Forall2
import PacketLink.Proofs.Framing.Streams

namespace PacketLink

/-! Streams as they arrive: byte strings that parse to the packets of one whole stream.

Only a packet's place in its stream and its payload count, so flip bit, acknowledgment request and
padding may differ from what was sent. -/

/-- What of a packet its stream depends on. -/
def Packet.content (packet : Packet) : Fin 16 × Fin 16 × Bytes :=
  (packet.index, packet.last, packet.payload)

section Contents

variable {packets others : List Packet} {message : Message}
  (same : others.map Packet.content = packets.map Packet.content)

include same

theorem exists_same_content {i : Nat} {other : Packet} (found : others[i]? = some other) :
    ∃ packet : Packet, packets[i]? = some packet ∧ packet.index = other.index ∧
      packet.total = other.total ∧ packet.payload = other.payload := by
  have contents : (packets.map Packet.content)[i]? = some other.content := by
    rw [← same, List.getElem?_map, found]
    rfl
  rw [List.getElem?_map] at contents
  obtain ⟨packet, at_i, content⟩ := Option.map_eq_some_iff.mp contents
  simp only [Packet.content, Prod.mk.injEq] at content
  obtain ⟨index, last, payload⟩ := content
  exact ⟨packet, at_i, index, by rw [Packet.total, last, Packet.total], payload⟩

theorem payloads_congr : payloads others = payloads packets := by
  have contents (list : List Packet) :
      payloads list = (list.map Packet.content).flatMap fun content => content.2.2 := by
    rw [List.flatMap_map]
    rfl
  rw [contents, contents, same]

theorem Carries.congr (carries : Carries packets message) : Carries others message := by
  have length : others.length = packets.length := by
    simpa using congrArg List.length same
  refine ⟨length ▸ carries.nonempty, length ▸ carries.atMost, ?_, ?_, ?_⟩
  · intro i other found
    obtain ⟨packet, at_i, index, total, _⟩ := exists_same_content same found
    rw [← index, ← total, length]
    exact carries.numbered i packet at_i
  · intro other found
    obtain ⟨packet, first, _, _, payload⟩ := exists_same_content same found
    rw [← payload]
    exact carries.opened packet first
  · rw [payloads_congr same]
    exact carries.spelled

end Contents

/-- Byte strings that begin with header and payload of the sent packets parse to packets of the same
contents, whatever follows the payloads. -/
theorem exists_parsed {packets : List Packet} {received : List Bytes}
    (framed : List.Forall₂ (fun packet bytes => packet.framed <+: bytes) packets received) :
    ∃ parsed : List Packet, received.map Packet.ofBytes = parsed.map Except.ok ∧
      parsed.map Packet.content = packets.map Packet.content := by
  induction framed with
  | nil => exact ⟨[], rfl, rfl⟩
  | @cons packet bytes _ _ start _ ih =>
      obtain ⟨tail, rfl⟩ := start
      obtain ⟨parsed, read, contents⟩ := ih
      exact ⟨packet.withPadding tail :: parsed, by simp [packet.ofBytes_framed_append, read],
        by simp [contents, Packet.withPadding, Packet.content]⟩

/-- Received byte strings that are one whole stream, and the message that it carries. -/
structure Delivery where
  message : Message
  packets : List Packet
  received : List Bytes
  parsed : received.map Packet.ofBytes = packets.map .ok
  whole : Carries packets message

namespace Delivery

/-- The packets of an encoded message, delivered as they were written. -/
def encoded (message : Message) (flip : FlipBit) (ack : Bool) (fits : message.length ≤ 988) :
    Delivery where
  message := message
  packets := message.packets flip ack
  received := (message.packets flip ack).map Packet.bytes
  parsed := by simp [Function.comp_def, Packet.ofBytes_bytes]
  whole := message.carries_packets flip ack fits

theorem length_received (delivery : Delivery) :
    delivery.received.length = delivery.packets.length := by
  simpa using congrArg List.length delivery.parsed

theorem received_nonempty (delivery : Delivery) : 1 ≤ delivery.received.length := by
  rw [delivery.length_received]
  exact delivery.whole.nonempty

end Delivery

end PacketLink
