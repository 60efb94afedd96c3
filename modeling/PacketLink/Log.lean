import PacketLink.Framing.Packet
import PacketLink.Session.Config
import PacketLink.Session.Error

namespace PacketLink

/-! What the host writes to its log: the events as values, with the level and the text of each. -/

namespace Log

inductive Level where
  | debug
  | info
  | warn
deriving DecidableEq

def Level.text : Level → String
  | .debug => "DEBUG"
  | .info => "INFO"
  | .warn => "WARN"

/-- Progress of a handshake. -/
inductive HandshakeStage where
  | disconnected
  | flipBitReset
  | probeSent
  | auxAckAwaited
  | mainAckAwaited
  | connected
deriving DecidableEq

def HandshakeStage.text : HandshakeStage → String
  | .disconnected => "Disconnected"
  | .flipBitReset => "FlipBitReset"
  | .probeSent => "ProbeSent"
  | .auxAckAwaited => "AuxAckAwaited"
  | .mainAckAwaited => "MainAckAwaited"
  | .connected => "Connected"

/-- The device's two controllers, which echo the probe one after the other. -/
inductive Controller where
  | aux
  | main
deriving DecidableEq

def Controller.text : Controller → String
  | .aux => "aux"
  | .main => "main"

inductive Entry where
  | handshakeStage (stage : HandshakeStage)
  | resetMarkerFailed (attempt : Nat) (reason : LinkError)
  | echoReceived (controller : Controller)
  /-- A packet that is no echo, shortened to the length of the echo. -/
  | echoMismatch (controller : Controller) (bytes : Bytes)
  | handshakeFailed (reason : HandshakeError)
  | cleanUpFailed (reason : LinkError)
  | connected (next : FlipBit)
  | disconnecting
  | disconnectFailed (reason : ExchangeError)
  | sending (packets : Nat) (flip : FlipBit)
  | sent (packet : Packet)
  /-- The first bytes of an acknowledgment packet. -/
  | acknowledged (bytes : Bytes)
  | badPacket (reason : FramingError)
  | receivedPacket (packet : Packet)
  | receiveFailed (reason : FramingError)
  | receivedMessage (command : Command) (length : Nat)
  | partialDiscarded
  | busy (command : Command) (attempt : UInt32)
  | stillBusy (command : Command)
  /-- Debug text of the device. -/
  | deviceText (text : String)
  | interfacesFound (count : Nat) (vid pid : UInt16)
  | opened (vid pid : UInt16) (product : String)
  | drained (path : String) (packets : Nat)
  | stillStreaming (path : String) (packets : Nat)
  | closed (path : String)
  | benchmarking (probeLength : Nat) (duration : Duration)

namespace Entry

def level : Entry → Level
  | .handshakeStage _ | .echoMismatch .. | .cleanUpFailed _ | .sending .. | .sent _
  | .acknowledged _ | .receivedPacket _ | .receivedMessage .. | .partialDiscarded
  | .interfacesFound .. | .drained .. | .closed _ => .debug
  | .echoReceived _ | .connected _ | .disconnecting | .deviceText _ | .opened ..
  | .benchmarking .. => .info
  | .resetMarkerFailed .. | .handshakeFailed _ | .disconnectFailed _ | .badPacket _
  | .receiveFailed _ | .busy .. | .stillBusy _ | .stillStreaming .. => .warn

def text : Entry → String
  | .handshakeStage stage => s!"Handshake -> {stage.text}"
  | .resetMarkerFailed attempt reason =>
      s!"Flip-bit reset attempt {attempt} failed: {reason.message}"
  | .echoReceived controller => s!"Received {controller.text} controller ack"
  | .echoMismatch controller bytes =>
      s!"Incorrect {controller.text} controller echo {Hex.upperList bytes}, draining"
  | .handshakeFailed reason => s!"Handshake failed: {reason.message}"
  | .cleanUpFailed reason => s!"Transport reset after failed handshake failed: {reason.message}"
  | .connected next => s!"Connected, next flip bit 0x{Hex.upperByte next.bits}"
  | .disconnecting => "Disconnecting from device"
  | .disconnectFailed reason => s!"Disconnect failed: {reason.message}"
  | .sending packets flip => s!"Sending {packets} packet(s), flip bit 0x{Hex.upperByte flip.bits}"
  | .sent packet => s!"TX {packet.text}"
  | .acknowledged bytes => s!"Transport ack {Hex.upperList bytes}"
  | .badPacket reason => s!"Bad packet: {reason.message}"
  | .receivedPacket packet => s!"RX {packet.text}"
  | .receiveFailed reason => s!"Message receive failed: {reason.message}"
  | .receivedMessage command length =>
      s!"Received {command.name} (0x{Hex.upperWord command}), {length} bytes"
  | .partialDiscarded => "Read timeout mid-stream, discarding partial message"
  | .busy command attempt => s!"Device busy, retrying {command.name} (attempt {attempt.toNat})"
  | .stillBusy command => s!"{command.name} (0x{Hex.upperWord command}) still busy, giving up"
  | .deviceText text => s!"DBG: {text}"
  | .interfacesFound count vid pid =>
      s!"Found {count} interface(s) for {Hex.upperWord vid}:{Hex.upperWord pid}"
  | .opened vid pid product => s!"Opened {Hex.upperWord vid}:{Hex.upperWord pid} {product}"
  | .drained path packets => s!"Reset {path}: drained {packets} stale packet(s)"
  | .stillStreaming path packets =>
      s!"Reset {path}: device still streaming after {packets} packets"
  | .closed path => s!"Closed {path}"
  | .benchmarking probeLength duration =>
      s!"Benchmarking with {probeLength} byte probe for {duration.text}"

/-- The log line: level, the word `device` for debug text of the device, and the text. -/
def line (entry : Entry) : String :=
  match entry with
  | .deviceText _ => s!"{entry.level.text} device: {entry.text}"
  | _ => s!"{entry.level.text}: {entry.text}"

end Entry

end Log

end PacketLink
