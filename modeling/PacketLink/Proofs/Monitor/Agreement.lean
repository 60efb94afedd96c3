import PacketLink.Monitor.Decoded
import PacketLink.Proofs.Framing.Parsing
import PacketLink.Framing.Reassembler
import PacketLink.Framing.Stream

namespace PacketLink

/-! The monitor reads packets as the link does, and cannot take one for the reset marker.

The marker's first byte declares 63 payload bytes, one more than a packet holds, so nothing that
begins with the marker is a packet. -/

theorem Packet.ofBytes_of_marked {bytes : Bytes} (marked : Handshake.resetMarker <+: bytes) :
    Packet.ofBytes bytes = .error (.truncated bytes.length 65) := by
  obtain ⟨rest, rfl⟩ := marked
  rfl

theorem Packet.not_marked {bytes : Bytes} {packet : Packet}
    (parsed : Packet.ofBytes bytes = .ok packet) : ¬ Handshake.resetMarker <+: bytes := by
  intro marked
  rw [Packet.ofBytes_of_marked marked] at parsed
  cases parsed

theorem SubHeader.isSome_toOption_ofPayload (payload : Bytes) :
    (SubHeader.ofPayload payload).toOption.isSome ↔ 4 ≤ payload.length := by
  by_cases enough : 4 ≤ payload.length
  · obtain ⟨header, rest, rfl⟩ := SubHeader.exists_bytes_append enough
    rw [SubHeader.ofPayload_bytes_append]
    exact iff_of_true rfl enough
  · rw [SubHeader.ofPayload_short (Nat.lt_of_not_le enough)]
    exact iff_of_false nofun enough

theorem SubHeader.toOption_ofPayload_eq_some {payload : Bytes} {header : SubHeader} :
    (SubHeader.ofPayload payload).toOption = some header ↔ SubHeader.ofPayload payload = .ok header := by
  cases SubHeader.ofPayload payload with
  | error reason => exact iff_of_false nofun nofun
  | ok other =>
      constructor
      · exact fun same => congrArg Except.ok (Option.some.inj same)
      · exact fun same => congrArg some (Except.ok.inj same)

/-- An idle reassembler accepts the packets that have index 0 and a sub-header, with that
sub-header. -/
theorem Reassembler.exists_accept_iff {state : Reassembler} (idle : state.isIdle = true)
    {packet : Packet} {header : SubHeader} :
    (∃ data, state.accept packet = .ok (header, data)) ↔
      packet.index.val = 0 ∧ SubHeader.ofPayload packet.payload = .ok header := by
  have waiting : state.stage = .awaitFirst := by
    cases found : state.stage with
    | awaitFirst => rfl
    | accumulating => simp [isIdle, found] at idle
  simp only [accept, waiting]
  by_cases first : packet.index.val = 0
  · cases read : SubHeader.ofPayload packet.payload with
    | error reason => simp [first, bind, Except.bind]
    | ok other => simp [first, bind, Except.bind, pure, Except.pure]
  · simp [first]

namespace Monitor.Decoded

/-- What is shown of a packet. -/
structure Shows (decoded : Decoded) (packet : Packet) : Prop where
  unmarked : decoded.resetMarker = false
  sound : decoded.error = none
  flip : decoded.flip = true ↔ packet.flip = .set
  ack : decoded.ack = packet.ack
  index : decoded.index = packet.index.val
  total : decoded.total = packet.total
  payloadLength : decoded.payloadLength = packet.payload.length
  present : decoded.subHeader.isSome ↔ packet.index.val = 0 ∧ 4 ≤ packet.payload.length
  taken : ∀ state : Reassembler, state.isIdle = true → ∀ header,
    decoded.subHeader = some header ↔ ∃ data, state.accept packet = .ok (header, data)

theorem ofPacket_shows (direction : Direction) (packet : Packet) :
    (ofPacket direction packet).Shows packet where
  unmarked := rfl
  sound := rfl
  flip := decide_eq_true_iff
  ack := rfl
  index := rfl
  total := rfl
  payloadLength := rfl
  present := by
    by_cases first : packet.index.val = 0
    · simp [ofPacket, first, SubHeader.isSome_toOption_ofPayload]
    · simp [ofPacket, first]
  taken := by
    intro state idle header
    rw [Reassembler.exists_accept_iff idle]
    by_cases first : packet.index.val = 0
    · simp [ofPacket, first, SubHeader.toOption_ofPayload_eq_some]
    · simp [ofPacket, first]

theorem ofBytes_marked {bytes : Bytes} (marked : Handshake.resetMarker <+: bytes) :
    ofBytes .tx bytes = { direction := .tx, resetMarker := true } := by
  have begins : bytes.startsWith Handshake.resetMarker = true := List.isPrefixOf_iff_prefix.mpr marked
  simp [ofBytes, begins]

theorem not_begins {direction : Direction} {bytes : Bytes}
    (unmarked : ¬ (Handshake.resetMarker <+: bytes ∧ direction = .tx)) :
    ¬ (bytes.startsWith Handshake.resetMarker ∧ direction = .tx) := by
  intro begins
  exact unmarked ⟨List.isPrefixOf_iff_prefix.mp begins.1, begins.2⟩

theorem ofBytes_packet {bytes : Bytes} {packet : Packet}
    (parsed : Packet.ofBytes bytes = .ok packet) (direction : Direction) :
    ofBytes direction bytes = ofPacket direction packet := by
  have unmarked := Packet.not_marked parsed
  unfold ofBytes
  rw [if_neg (not_begins fun begins => unmarked begins.1), parsed]

theorem ofBytes_unparsed {direction : Direction} {bytes : Bytes} {reason : FramingError}
    (unparsed : Packet.ofBytes bytes = .error reason)
    (unmarked : ¬ (Handshake.resetMarker <+: bytes ∧ direction = .tx)) :
    ofBytes direction bytes = { direction := direction, error := some reason } := by
  unfold ofBytes
  rw [if_neg (not_begins unmarked), unparsed]

theorem ofBytes_rx_error_iff {bytes : Bytes} {reason : FramingError} :
    (ofBytes .rx bytes).error = some reason ↔ Packet.ofBytes bytes = .error reason := by
  cases parsed : Packet.ofBytes bytes with
  | ok packet =>
      rw [ofBytes_packet parsed]
      simp [ofPacket]
  | error other =>
      rw [ofBytes_unparsed parsed (by simp)]
      simp

theorem ofBytes_tx_of_unmarked {bytes : Bytes} (unmarked : ¬ Handshake.resetMarker <+: bytes) :
    ofBytes .tx bytes = { ofBytes .rx bytes with direction := .tx } := by
  cases parsed : Packet.ofBytes bytes with
  | ok packet =>
      rw [ofBytes_packet parsed, ofBytes_packet parsed]
      rfl
  | error reason =>
      have received : ofBytes .rx bytes = _ := ofBytes_unparsed parsed (by simp)
      rw [received, ofBytes_unparsed parsed fun begins => unmarked begins.1]

/-- Received bytes are shown as an error exactly if they hold no packet, and otherwise as the packet,
with the sub-header that opens a stream. Sent bytes are shown the same way, unless they begin with the
reset marker. No packet of a message does, whatever becomes of its acknowledgment request. -/
theorem ofBytes_agrees (bytes : Bytes) :
    (∀ reason, (ofBytes .rx bytes).error = some reason ↔ Packet.ofBytes bytes = .error reason) ∧
    (∀ packet, Packet.ofBytes bytes = .ok packet → (ofBytes .rx bytes).Shows packet) ∧
    ([0xFF, 0xFF] <+: bytes →
      ofBytes .tx bytes = { direction := .tx, resetMarker := true }) ∧
    (¬ [0xFF, 0xFF] <+: bytes →
      ofBytes .tx bytes = { ofBytes .rx bytes with direction := .tx }) ∧
    ∀ (message : Message) (flip : FlipBit) (ack : Bool) (stream : PacketStream),
      message.encode flip ack = .ok stream → ∀ packet ∈ stream.packets, ∀ requests : List Bool,
        ¬ [0xFF, 0xFF] <+: (requests.foldl Packet.withAck packet).bytes ∧
        ∀ direction, (ofBytes direction (requests.foldl Packet.withAck packet).bytes).Shows
          (requests.foldl Packet.withAck packet) := by
  constructor
  · exact fun reason => ofBytes_rx_error_iff
  constructor
  · intro packet parsed
    rw [ofBytes_packet parsed]
    exact ofPacket_shows .rx packet
  constructor
  · exact ofBytes_marked
  constructor
  · exact ofBytes_tx_of_unmarked
  intro message flip ack stream encoded packet member requests
  have parsed := (requests.foldl Packet.withAck packet).ofBytes_bytes
  constructor
  · exact Packet.not_marked parsed
  · intro direction
    rw [ofBytes_packet parsed]
    exact ofPacket_shows direction _

example : (ofBytes .tx Handshake.resetMarker).resetMarker = true ∧
    (ofBytes .rx Handshake.resetMarker).error = some (.truncated 2 65) := by
  decide

end Monitor.Decoded

end PacketLink
