import PacketLink.Framing.Packet
import PacketLink.Framing.SubHeader
import PacketLink.Session.Handshake

namespace PacketLink.Monitor

/-! The framing fields of one packet on the link, as a monitor shows them, and their line of JSON. -/

inductive Direction where
  /-- From the host to the device. -/
  | tx
  /-- From the device to the host. -/
  | rx
deriving DecidableEq

def Direction.text : Direction → String
  | .tx => "tx"
  | .rx => "rx"

structure Decoded where
  direction : Direction
  /-- The marker that resets the device's framing state, and no packet. -/
  resetMarker : Bool := false
  flip : Bool := false
  ack : Bool := false
  index : Nat := 0
  total : Nat := 0
  payloadLength : Nat := 0
  /-- Sub-header of a stream's first packet. -/
  subHeader : Option SubHeader := none
  error : Option FramingError := none
deriving DecidableEq

namespace Decoded

def ofPacket (direction : Direction) (packet : Packet) : Decoded where
  direction := direction
  flip := packet.flip = .set
  ack := packet.ack
  index := packet.index.val
  total := packet.total
  payloadLength := packet.payload.length
  subHeader := if packet.index.val = 0 then (SubHeader.ofPayload packet.payload).toOption else none

/-- Decodes what crosses the link. Only the host sends the reset marker. -/
def ofBytes (direction : Direction) (bytes : Bytes) : Decoded :=
  if bytes.startsWith Handshake.resetMarker ∧ direction = .tx then
    { direction := direction, resetMarker := true }
  else match Packet.ofBytes bytes with
    | .ok packet => ofPacket direction packet
    | .error reason => { direction := direction, error := some reason }

def member (name value : String) : String := "\"" ++ name ++ "\":" ++ value

/-- One line of JSON; members that do not apply are left out. -/
def json (decoded : Decoded) : String :=
  let always := [
    member "direction" ("\"" ++ decoded.direction.text ++ "\""),
    member "reset_marker" (toString decoded.resetMarker),
    member "flip" (toString decoded.flip),
    member "ack" (toString decoded.ack),
    member "index" (toString decoded.index),
    member "total" (toString decoded.total),
    member "payload_len" (toString decoded.payloadLength)]
  let subHeader := match decoded.subHeader with
    | none => []
    | some header => [
        member "command" (toString header.command.toNat),
        member "length" (toString header.length.toNat)]
  let error := match decoded.error with
    | none => []
    | some reason => [member "error" ("\"" ++ reason.message ++ "\"")]
  "\x7b" ++ ",".intercalate (always ++ subHeader ++ error) ++ "\x7d"

end Decoded

end PacketLink.Monitor
