import PacketLink.Framing.Packet
import PacketLink.Framing.SubHeader

namespace PacketLink

/-! Packets back into messages.

The packets themselves say where a stream ends: each of them names the stream's length, and the
stream is complete with the packet at the last index. A packet that does not fit discards what was
collected, and the next packet has to open a stream. -/

namespace Reassembler

/-- What the next packet has to be. -/
inductive Stage where
  /-- The first packet of a stream, with the sub-header. -/
  | awaitFirst
  /-- The packet at `nextIndex` of a stream of `total` packets. -/
  | accumulating (header : SubHeader) (total nextIndex : Nat)
deriving DecidableEq

end Reassembler

structure Reassembler where
  stage : Reassembler.Stage
  /-- Payload bytes of the message so far. -/
  data : Bytes
  /-- Payload bytes of the packets so far, the sub-header among them. -/
  carried : Nat
deriving DecidableEq

namespace Reassembler

def new : Reassembler := ⟨.awaitFirst, [], 0⟩

def isIdle (state : Reassembler) : Bool :=
  match state.stage with
  | .awaitFirst => true
  | .accumulating .. => false

def reset (_ : Reassembler) : Reassembler := new

/-- The sub-header of the stream that the packet continues or opens, and the data with the packet's
share. -/
def accept (state : Reassembler) (packet : Packet) : Except FramingError (SubHeader × Bytes) :=
  match state.stage with
  | .awaitFirst =>
      if packet.index.val ≠ 0 then .error (.unexpectedIndex 0 packet.index.val)
      else do
        let header ← SubHeader.ofPayload packet.payload
        return (header, state.data ++ packet.payload.drop Limits.subHeader)
  | .accumulating header total nextIndex =>
      if packet.total ≠ total then .error (.inconsistentTotal total packet.total)
      else if packet.index.val ≠ nextIndex then .error (.unexpectedIndex nextIndex packet.index.val)
      else .ok (header, state.data ++ packet.payload)

/-- The outcome of one packet: a message when it completes its stream, nothing when more packets
are needed. A message or an error leaves the state of a new reassembler. -/
def push (state : Reassembler) (packet : Packet) :
    Except FramingError (Option Message) × Reassembler :=
  match state.accept packet with
  | .error reason => (.error reason, state.reset)
  | .ok (header, data) =>
      let carried := state.carried + packet.payload.length
      if packet.isLast then
        if data.length = header.length.toNat ∧ data.length + Limits.subHeader = carried then
          (.ok (some ⟨header.command, data⟩), state.reset)
        else
          (.error (.lengthMismatch header.length.toNat data.length carried), state.reset)
      else
        (.ok none, ⟨.accumulating header packet.total (packet.index.val + 1), data, carried⟩)

end Reassembler

/-- The message of the packets from a state on; `received` packets came before them, and the last
of those named `expected` as its stream's length. -/
def decodeFrom (state : Reassembler) (received expected : Nat) :
    List Packet → Except FramingError Message
  | [] => .error (.incomplete received expected)
  | packet :: rest =>
      match state.push packet with
      | (.error reason, _) => .error reason
      | (.ok (some message), _) => .ok message
      | (.ok none, next) => decodeFrom next (received + 1) packet.total rest

/-- The message that a list of packets begins with. -/
def decodeStream (packets : List Packet) : Except FramingError Message :=
  decodeFrom Reassembler.new 0 0 packets

end PacketLink
