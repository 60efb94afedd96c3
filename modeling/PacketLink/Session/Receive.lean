import PacketLink.Action
import PacketLink.Framing.Reassembler
import PacketLink.Text.DebugText

namespace PacketLink

/-! Receiving one message.

Packets are read until a message is complete. Debug text goes to the sink and reading goes on; a
request to send again is an outcome of its own. -/

inductive ReceiveOutcome where
  | message (message : Message)
  /-- The device asks for the last packet stream again. -/
  | retryRequested
deriving DecidableEq

inductive TimeoutPolicy where
  /-- The receive fails. -/
  | fatal
  /-- The receive ends without an outcome, and a partial stream is lost. -/
  | soft
deriving DecidableEq

def TimeoutPolicy.text : TimeoutPolicy → String
  | .fatal => "Fatal"
  | .soft => "Soft"

namespace Receive

def deliver (sink : DebugSink) (text : String) : Action Unit :=
  match sink with
  | .log => Action.log (.deviceText text)
  | .lines => Action.note (.debugText text)

/-- What a complete message is to the caller: nothing if it is debug text. -/
def classify (reserved : ReservedCommands) (message : Message) : Option ReceiveOutcome :=
  if message.command = reserved.debugMessage then none
  else if message.command = reserved.retry then some .retryRequested
  else some (.message message)

/-- What a failed read comes to: nothing received under the soft policy if it timed out. -/
def afterFailedRead (policy : TimeoutPolicy) (state : Reassembler) (reason : LinkError) :
    Attempt ExchangeError (Option ReceiveOutcome) := do
  if reason.isTimeout ∧ policy = .soft then
    if !state.isIdle then Action.log .partialDiscarded
    return none
  else throw (.link reason)

/-- Adds a received packet to the stream: the message that it completes, if any. -/
def absorb (state : Reassembler) (received : Bytes) :
    Attempt ExchangeError (Option Message × Reassembler) := do
  match Packet.ofBytes received with
  | .error reason =>
      Action.log (.badPacket reason)
      throw (.framing reason)
  | .ok packet =>
      Action.log (.receivedPacket packet)
      match state.push packet with
      | (.error reason, _) =>
          Action.log (.receiveFailed reason)
          throw (.framing reason)
      | (.ok none, next) => return (none, next)
      | (.ok (some message), next) =>
          Action.log (.receivedMessage message.command message.length)
          return (some message, next)

/-- Reads from a reassembler's state on, `rounds` packets at most. -/
def packets (config : SessionConfig) (token : CancelToken) (policy : TimeoutPolicy) :
    (rounds : Nat) → Reassembler → Attempt ExchangeError (Option ReceiveOutcome)
  | 0, _ => Attempt.unfinished
  | rounds + 1, state => do
      Attempt.stopIfCancelled token .cancelled
      match ← Action.read config.readTimeout with
      | .error reason => afterFailedRead policy state reason
      | .ok received =>
          match ← absorb state received with
          | (none, next) => packets config token policy rounds next
          | (some message, next) =>
              match classify config.reserved message with
              | some outcome => return some outcome
              | none =>
                  deliver config.debugSink (DebugText.decode message.payload)
                  packets config token policy rounds next

/-- Reads until an outcome is complete. Without one it ends only under the soft policy, at a read
that timed out. -/
def run (config : SessionConfig) (token : CancelToken) (policy : TimeoutPolicy) (rounds : Nat) :
    Attempt ExchangeError (Option ReceiveOutcome) :=
  packets config token policy rounds Reassembler.new

end Receive

end PacketLink
