import PacketLink.Hid.Error
import PacketLink.Session.Error
import PacketLink.Text.Hex

namespace PacketLink

/-! Why a command of the host program failed: a text, and the texts of its causes. -/

inductive HostError where
  /-- The interfaces could not be enumerated. -/
  | enumeration (reason : Hid.Error)
  /-- No interface of the product could be opened. -/
  | opening (vid pid : UInt16) (reason : LinkError)
  | handshake (reason : HandshakeError)
  | exchange (reason : ExchangeError)
  /-- The device answered a ping with another message. -/
  | replyMismatch (sent : Bytes) (reply : Message)
deriving DecidableEq

namespace HostError

/-- The texts of the failure and of its causes, the outermost first. -/
def chain : HostError → List String
  | .enumeration reason => [reason.message]
  | .opening vid pid reason =>
      [s!"opening {Hex.upperWord vid}:{Hex.upperWord pid}", reason.message]
  | .handshake reason => "handshake failed" :: reason.message :: reason.causes
  | .exchange reason => reason.message :: reason.causes
  | .replyMismatch sent reply =>
      [s!"ping reply mismatch: sent [{Hex.spaced sent}], " ++
        s!"got 0x{Hex.upperWord reply.command} [{Hex.spaced reply.payload}]"]

end HostError

end PacketLink
