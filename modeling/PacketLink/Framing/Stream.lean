import PacketLink.Framing.Packet
import PacketLink.Framing.SubHeader

namespace PacketLink

/-! The packets of one message, in order.

A message is written as command, length and payload, and cut into pieces of 62 bytes. All packets
carry the same flip bit and the same acknowledgment request. -/

structure PacketStream where
  flip : FlipBit
  packets : List Packet
deriving DecidableEq

/-- The message is longer than sixteen packets can carry. -/
structure Oversize where
  payloadLength : Nat
  packets : Nat
deriving DecidableEq

/-- The 62 bytes, or what there is of them, that the packet at `index` takes of a message. -/
def piece (bytes : Bytes) (index : Nat) : Bytes :=
  (bytes.drop (62 * index)).take 62

theorem length_piece_le (bytes : Bytes) (index : Nat) : (piece bytes index).length ≤ 62 :=
  List.length_take_le 62 _

namespace Message

def serialized (message : Message) : Bytes :=
  SubHeader.bytes ⟨message.command, UInt16.ofNat message.length⟩ ++ message.payload

/-- The packet at `index` of the `count` packets that carry a message. -/
def packetAt (message : Message) (flip : FlipBit) (ack : Bool) (count index : Nat) : Packet :=
  Packet.ofPayload flip ack (Fin.ofNat 16 index) (Fin.ofNat 16 (count - 1))
    (piece message.serialized index) (length_piece_le _ _)

/-- The packets of a message. The flip bit is taken as it is given; it advances elsewhere. -/
def encode (message : Message) (flip : FlipBit) (ack : Bool) : Except Oversize PacketStream :=
  let count := packetsNeeded message.length
  if message.fits then
    .ok ⟨flip, (List.range count).map (message.packetAt flip ack count)⟩
  else .error ⟨message.length, count⟩

end Message

namespace PacketStream

def length (stream : PacketStream) : Nat := stream.packets.length

end PacketStream

end PacketLink
