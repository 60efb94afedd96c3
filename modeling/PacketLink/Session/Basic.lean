import PacketLink.Session.Handshake
import PacketLink.Session.Receive

namespace PacketLink

/-! Sessions: an established link, its parameters, and the flip bit of the next message.

Every operation yields its outcome and the session that follows it. -/

structure Session where
  /-- The parameters that it was opened with. -/
  parameters : SessionConfig
  token : CancelToken
  /-- Flip bit of the next new message. -/
  nextFlip : FlipBit
  connected : Bool
  /-- Timeout of each read of a reply. -/
  readTimeout : Duration
deriving DecidableEq

namespace Session

/-- The parameters in force: the read timeout is the session's own. -/
def config (session : Session) : SessionConfig :=
  { session.parameters with readTimeout := session.readTimeout }

/-- Adopts a link whose framing state is known; the next message carries `next`. -/
def resume (config : SessionConfig) (token : CancelToken) (next : FlipBit) : Session :=
  ⟨config, token, next, true, config.readTimeout⟩

@[simp] theorem config_resume (config : SessionConfig) (token : CancelToken) (next : FlipBit) :
    (resume config token next).config = config := rfl

def connect (config : SessionConfig) (token : CancelToken) (probe : Message) (rounds : Nat) :
    Attempt HandshakeError Session := do
  let next ← Handshake.run config.handshake token probe rounds
  Action.log (.connected next)
  return resume config token next

/-- Ends the session: the link is reset and then disposed of, whatever the reset yields. A failure
of the disposal outranks one of the reset. -/
def disconnect (session : Session) : Action (Except ExchangeError Unit × Session) :=
  if session.connected then do
    Action.log .disconnecting
    let reset ← Action.reset
    let disposal ← Action.dispose
    let outcome := match disposal with
      | .error reason => .error (.link reason)
      | .ok () => reset.mapError .link
    return (outcome, { session with connected := false })
  else return (.error .notConnected, session)

def receive (session : Session) (policy : TimeoutPolicy) (rounds : Nat) :
    Action (Except ExchangeError (Option ReceiveOutcome) × Session) :=
  if session.connected then do
    let outcome ← (Receive.run session.config session.token policy rounds).run
    return (outcome, session)
  else return (.error .notConnected, session)

/-- The session as a log shows it; `path` is the device's. -/
def text (session : Session) (path : String) : String :=
  s!"Session \x7b device: {path.quote}, connected: {session.connected}, .. \x7d"

end Session

end PacketLink
