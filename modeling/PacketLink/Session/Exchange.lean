import PacketLink.Session.Basic

namespace PacketLink

/-! Requests and replies.

A message is encoded with the next flip bit, which advances at once, and its packets are sent with a
settle delay after each. With acknowledgments on, one packet is read and dropped. Then the reply is
received; if it says that the device is busy, the same packets are sent again after a wait. -/

namespace Exchange

/-- The longest sleep between two looks at the cancel token. -/
def cancelPoll : Duration := .ofMillis 50

/-- Sleeps until the clock shows `deadline`. The token and then the clock are looked at before each
sleep, `rounds` times at most. -/
def pauseUntil (token : CancelToken) (deadline : Duration) :
    (rounds : Nat) → Attempt ExchangeError Unit
  | 0 => Attempt.unfinished
  | rounds + 1 => do
      Attempt.stopIfCancelled token .cancelled
      let now ← Action.now
      if now < deadline then
        Action.sleep (min (deadline - now) cancelPoll)
        pauseUntil token deadline rounds

/-- Looks at the clock in a wait for `total`, if no sleep is shorter than asked for. -/
def pauseRounds (total : Duration) : Nat := total.nanos / cancelPoll.nanos + 2

/-- Waits for `total`, and fails as soon as the token is seen raised. The clock has no last moment
here. -/
def pause (token : CancelToken) (total : Duration) : Attempt ExchangeError Unit := do
  let deadline := (← Action.now) + total
  pauseUntil token deadline (pauseRounds total)

/-- Whether the reply means that the device was busy. A request to send again counts if the caller
says so; the device status counts unless it was asked for. -/
def isTransientBusy (reply : ReceiveOutcome) (sent : Command) (retryOnSignal : Bool)
    (reserved : ReservedCommands) : Bool :=
  match reply with
  | .retryRequested => retryOnSignal
  | .message message => message.command = reserved.deviceStatus ∧ sent ≠ reserved.deviceStatus

def sendPackets (config : SessionConfig) (token : CancelToken) :
    List Packet → Attempt ExchangeError Unit
  | [] => pure ()
  | packet :: rest => do
      Attempt.stopIfCancelled token .cancelled
      Attempt.of .link (Action.send packet.bytes)
      Action.log (.sent packet)
      Action.wait config.packetSettle
      sendPackets config token rest

def transmit (config : SessionConfig) (token : CancelToken) (stream : PacketStream) :
    Attempt ExchangeError Unit := do
  Action.log (.sending stream.length stream.flip)
  sendPackets config token stream.packets

/-- With acknowledgments on, reads one packet, whatever it holds. -/
def awaitAcknowledgment (config : SessionConfig) : Attempt ExchangeError Unit := do
  if config.ackEnabled then
    let received ← Attempt.of .link (Action.read config.readTimeout)
    Action.log (.acknowledged (received.take 2))

/-- The message of a reply; a request to send again is the empty message of its command. -/
def messageOf (reserved : ReservedCommands) : ReceiveOutcome → Message
  | .message message => message
  | .retryRequested => Message.empty reserved.retry

/-- Sends the stream and receives the reply, again and again while the device is busy, `rounds`
times at most. `retries` counts the busy replies so far. -/
def converse (config : SessionConfig) (token : CancelToken) (stream : PacketStream)
    (command : Command) (retryOnSignal : Bool) :
    (rounds : Nat) → (retries : UInt32) → Attempt ExchangeError Message
  | 0, _ => Attempt.unfinished
  | rounds + 1, retries => do
      transmit config token stream
      awaitAcknowledgment config
      match ← Receive.run config token .fatal (rounds + 1) with
      | none => throw (.link .timeout)
      | some reply =>
          if isTransientBusy reply command retryOnSignal config.reserved then
            let retries := retries + 1
            if config.busyRetry.exceeded retries then
              Action.log (.stillBusy command)
              throw (.retryLimitExceeded (retries - 1))
            else
              Action.log (.busy command retries)
              pause token config.busyBackoff
              converse config token stream command retryOnSignal rounds retries
          else return messageOf config.reserved reply

/-- Sends a stream and reads the optional acknowledgment and one reply packet; yields the number of
packets read. -/
def roundTrip (config : SessionConfig) (token : CancelToken) (stream : PacketStream) :
    Attempt ExchangeError Nat := do
  transmit config token stream
  if config.ackEnabled then
    let _ ← Attempt.of .link (Action.read config.readTimeout)
    let _ ← Attempt.of .link (Action.read config.readTimeout)
    return 2
  else
    let _ ← Attempt.of .link (Action.read config.readTimeout)
    return 1

end Exchange

namespace Session

/-- Encodes a message with the next flip bit, which advances, and sends nothing. -/
def prepare (session : Session) (message : Message) :
    Except ExchangeError PacketStream × Session :=
  if session.connected then
    match message.encode session.nextFlip session.config.ackEnabled with
    | .error size => (.error (.oversize size), session)
    | .ok stream => (.ok stream, { session with nextFlip := session.nextFlip.toggled })
  else (.error .notConnected, session)

def sendOnly (session : Session) (message : Message) :
    Action (Except ExchangeError Unit × Session) :=
  match session.prepare message with
  | (.error reason, following) => return (.error reason, following)
  | (.ok stream, following) => do
      let outcome ← (Exchange.transmit session.config session.token stream).run
      return (outcome, following)

/-- Sends a message and receives the reply. A busy device gets the same packets again, up to the
retry limit. Unless `retryOnSignal` holds, a request to send again is a reply like any other. -/
def request (session : Session) (message : Message) (retryOnSignal : Bool) (rounds : Nat) :
    Action (Except ExchangeError Message × Session) :=
  match session.prepare message with
  | (.error reason, following) => return (.error reason, following)
  | (.ok stream, following) => do
      let outcome ← (Exchange.converse session.config session.token stream message.command
        retryOnSignal rounds 0).run
      return (outcome, following)

def pingPong (session : Session) (stream : PacketStream) :
    Action (Except ExchangeError Nat × Session) :=
  if session.connected then do
    let outcome ← (Exchange.roundTrip session.config session.token stream).run
    return (outcome, session)
  else return (.error .notConnected, session)

end Session

end PacketLink
