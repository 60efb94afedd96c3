import PacketLink.Framing.Error
import PacketLink.Framing.Stream
import PacketLink.Link.Error

namespace PacketLink

/-! Failures of handshakes and exchanges. Each has a text and the texts of its causes, the outermost
first. -/

inductive HandshakeError where
  /-- No attempt at sending the reset marker succeeded. -/
  | linkDown (attempts : Nat)
  | aborted (reason : LinkError)
  | probeTooLarge (packets : Nat)
  | cancelled
deriving DecidableEq

namespace HandshakeError

def message : HandshakeError → String
  | .linkDown attempts => s!"flip-bit reset marker could not be sent after {attempts} attempts"
  | .aborted reason => s!"handshake aborted: {reason.message}"
  | .probeTooLarge packets =>
      s!"probe message needs {packets} packets, handshake probes must fit one"
  | .cancelled => "handshake cancelled"

def causes : HandshakeError → List String
  | .aborted reason => [reason.message]
  | _ => []

end HandshakeError

inductive ExchangeError where
  | link (reason : LinkError)
  | framing (reason : FramingError)
  | handshake (reason : HandshakeError)
  | oversize (size : Oversize)
  | notConnected
  | cancelled
  /-- The device stayed busy through all permitted retransmissions. -/
  | retryLimitExceeded (attempts : UInt32)
deriving DecidableEq

namespace ExchangeError

def message : ExchangeError → String
  | .link reason => s!"Transport error: {reason.message}"
  | .framing reason => s!"Framing error: {reason.message}"
  | .handshake reason => s!"Handshake error: {reason.message}"
  | .oversize size =>
      s!"message of {size.payloadLength} payload bytes needs {size.packets} packets (max 16)"
  | .notConnected => "Not connected to device"
  | .cancelled => "Operation cancelled"
  | .retryLimitExceeded attempts =>
      s!"device still busy after {attempts.toNat} retransmissions"

def causes : ExchangeError → List String
  | .link reason => [reason.message]
  | .framing reason => [reason.message]
  | .handshake reason => reason.message :: reason.causes
  | _ => []

end ExchangeError

end PacketLink
