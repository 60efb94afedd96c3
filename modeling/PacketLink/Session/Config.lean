import PacketLink.Command
import PacketLink.Duration

namespace PacketLink

/-! Parameters of a session: timeouts, delays, retry limit, and where debug text goes. -/

/-- A bound on the retransmissions of one request to a busy device. -/
inductive RetryLimit where
  | unbounded
  | attempts (most : UInt32)
deriving DecidableEq

namespace RetryLimit

def ofOption : Option UInt32 → RetryLimit
  | none => .unbounded
  | some most => .attempts most

def exceeded (limit : RetryLimit) (retries : UInt32) : Bool :=
  match limit with
  | .unbounded => false
  | .attempts most => most < retries

def text : RetryLimit → String
  | .unbounded => "Unbounded"
  | .attempts most => s!"Attempts({most.toNat})"

end RetryLimit

structure HandshakeTiming where
  /-- Attempts at sending the reset marker. -/
  resetAttempts : Nat := 10
  /-- Wait between two attempts. -/
  resetBackoff : Duration := .ofMillis 1000
  /-- Timeout of each read of an echo. -/
  echoTimeout : Duration := .ofMillis 500
  /-- Wait after the second echo, before the first message. -/
  postConnectSettle : Duration := .ofMillis 500
deriving DecidableEq

namespace HandshakeTiming

def text (timing : HandshakeTiming) : String :=
  s!"HandshakeTiming \x7b reset_attempts: {timing.resetAttempts}, " ++
    s!"reset_backoff: {timing.resetBackoff.text}, echo_timeout: {timing.echoTimeout.text}, " ++
    s!"post_connect_settle: {timing.postConnectSettle.text} \x7d"

end HandshakeTiming

inductive DebugSink where
  /-- Into the log. -/
  | log
  /-- To whoever runs the session, line by line. -/
  | lines
deriving DecidableEq

structure SessionConfig where
  /-- Timeout of each read of a reply. -/
  readTimeout : Duration := .ofMillis 5000
  /-- Sets the acknowledgment request on outgoing packets, and expects one acknowledgment packet
  ahead of each reply. -/
  ackEnabled : Bool := false
  busyRetry : RetryLimit := .unbounded
  /-- Wait after each packet, in which the device empties its endpoint. -/
  packetSettle : Duration := .ofMicros 700
  /-- Wait before a request is sent again to a busy device. -/
  busyBackoff : Duration := .ofMillis 1000
  reserved : ReservedCommands := {}
  handshake : HandshakeTiming := {}
  debugSink : DebugSink := .log
deriving DecidableEq

namespace SessionConfig

def text (config : SessionConfig) : String :=
  s!"SessionConfig \x7b read_timeout: {config.readTimeout.text}, " ++
    s!"ack_enabled: {config.ackEnabled}, busy_retry: {config.busyRetry.text}, " ++
    s!"packet_settle: {config.packetSettle.text}, busy_backoff: {config.busyBackoff.text}, " ++
    s!"reserved: {config.reserved.text}, handshake: {config.handshake.text}, .. \x7d"

end SessionConfig

end PacketLink
