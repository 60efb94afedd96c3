import PacketLink.Bytes
import PacketLink.Command

namespace PacketLink

/-! Messages, and the sizes that the packet format allows. -/

namespace Limits

/-- Bytes of one packet. -/
def packet : Nat := 64

/-- Control byte and index byte. -/
def header : Nat := 2

def packetPayload : Nat := packet - header

/-- Command and length of the message, ahead of its first byte. -/
def subHeader : Nat := 4

/-- A packet's index has four bits. -/
def packets : Nat := 16

def messagePayload : Nat := packets * packetPayload - subHeader

end Limits

/-- What host and device exchange. The length on the wire is the payload's. -/
structure Message where
  command : Command
  payload : Bytes
deriving DecidableEq

namespace Message

def empty (command : Command) : Message := ⟨command, []⟩

def length (message : Message) : Nat := message.payload.length

def fits (message : Message) : Bool := message.length ≤ Limits.messagePayload

/-- Packets that a payload of this many bytes needs. -/
def packetsNeeded (payloadLength : Nat) : Nat :=
  (Limits.subHeader + payloadLength + Limits.packetPayload - 1) / Limits.packetPayload

end Message

end PacketLink
