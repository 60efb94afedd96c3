import PacketLink.FlipBit
import PacketLink.Message
import PacketLink.Framing.Error
import PacketLink.Text.Hex

namespace PacketLink

/-! One packet of 64 bytes.

The control byte holds the flip bit, the acknowledgment request and the payload length in six bits;
the index byte holds the packet's index and the index of the stream's last packet, four bits each.
Payload and padding fill the other 62 bytes. `Packet.ofBytes` reads what `Packet.bytes` writes. -/

structure Packet where
  flip : FlipBit
  /-- Asks the device for a low-level acknowledgment. -/
  ack : Bool
  /-- Place in the stream, from zero. -/
  index : Fin 16
  /-- Index of the stream's last packet. -/
  last : Fin 16
  payload : Bytes
  padding : Bytes
  full : payload.length + padding.length = 62
deriving DecidableEq

namespace Packet

theorem payload_length_le (packet : Packet) : packet.payload.length ≤ 62 := by
  have := packet.full
  omega

/-- A packet whose bytes after the payload are zero. -/
def ofPayload (flip : FlipBit) (ack : Bool) (index last : Fin 16)
    (payload : Bytes) (short : payload.length ≤ 62) : Packet where
  flip := flip
  ack := ack
  index := index
  last := last
  payload := payload
  padding := List.replicate (62 - payload.length) 0
  full := by simp; omega

def control (packet : Packet) : UInt8 :=
  UInt8.ofNat (packet.flip.bits.toNat + (if packet.ack then 64 else 0) + packet.payload.length)

def indexByte (packet : Packet) : UInt8 :=
  UInt8.ofNat (packet.index.val * 16 + packet.last.val)

/-- Header and payload: what an echo of the packet has to repeat. -/
def framed (packet : Packet) : Bytes :=
  packet.control :: packet.indexByte :: packet.payload

def bytes (packet : Packet) : Bytes :=
  packet.framed ++ packet.padding

/-- Packets in the stream that this packet belongs to. -/
def total (packet : Packet) : Nat := packet.last.val + 1

def isLast (packet : Packet) : Bool := packet.index == packet.last

def withAck (packet : Packet) (ack : Bool) : Packet := { packet with ack := ack }

@[simp] theorem length_bytes (packet : Packet) : packet.bytes.length = 64 := by
  have := packet.full
  simp [bytes, framed]
  omega

/-- Reads a packet. The bytes may end after the payload that the control byte declares; missing
padding reads as zero, and bytes beyond the 64th are dropped. -/
def ofBytes (bytes : Bytes) : Except FramingError Packet :=
  match bytes with
  | control :: indexByte :: rest =>
      let declared := control.toNat % 64
      if fits : declared ≤ 62 ∧ declared ≤ rest.length then
        .ok {
          flip := FlipBit.ofControl control
          ack := control.toNat / 64 % 2 == 1
          index := ⟨indexByte.toNat / 16, by have := indexByte.toNat_lt; omega⟩
          last := ⟨indexByte.toNat % 16, by omega⟩
          payload := rest.take declared
          padding := Bytes.padTo (62 - declared) (rest.drop declared)
          full := by simp; omega }
      else .error (.truncated bytes.length (2 + declared))
  | [] => .error (.truncated 0 2)
  | [_] => .error (.truncated 1 2)

def text (packet : Packet) : String :=
  s!"Packet \x7b flip: {packet.flip.text}, ack: {packet.ack}, index: {packet.index.val}, " ++
    s!"total: {packet.total}, payload: {Hex.upperList packet.payload} \x7d"

end Packet

end PacketLink
