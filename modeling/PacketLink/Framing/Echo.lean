import PacketLink.Framing.Packet

namespace PacketLink.Packet

/-! Echoes of a packet: received bytes that begin with its header and payload. What follows the
payload does not matter. -/

def isEcho (reference : Packet) (received : Bytes) : Bool :=
  received.startsWith reference.framed

end PacketLink.Packet
