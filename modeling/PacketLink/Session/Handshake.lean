import PacketLink.Action
import PacketLink.Framing.Echo

namespace PacketLink.Handshake

/-! The handshake that opens a session.

The host sends a marker at which the device drops its framing state, and then a probe of one packet
that asks for an acknowledgment. The auxiliary controller echoes the probe, and the main controller
echoes it once more without the acknowledgment request. Packets that are no echo are dropped. -/

/-- Makes the device drop its framing state; it is no packet. -/
def resetMarker : Bytes := [0xFF, 0xFF]

/-- The probe as one packet that asks for an acknowledgment, and the flip bit after it. -/
def probePacket (probe : Message) (flip : FlipBit) : Except HandshakeError (Packet × FlipBit) :=
  match probe.encode flip false with
  | .error size => .error (.probeTooLarge size.packets)
  | .ok stream =>
      match stream.packets with
      | [packet] => .ok (packet.withAck true, flip.toggled)
      | packets => .error (.probeTooLarge packets.length)

/-- Sends the reset marker, `left` attempts at most, a wait between two of them. -/
def sendResetMarker (timing : HandshakeTiming) (token : CancelToken) :
    (left attempt : Nat) → Attempt HandshakeError Unit
  | 0, _ => throw (.linkDown timing.resetAttempts)
  | left + 1, attempt => do
      Attempt.stopIfCancelled token .cancelled
      match ← Action.send resetMarker with
      | .ok () => return
      | .error reason =>
          Action.log (.resetMarkerFailed attempt reason)
          if left ≠ 0 then Action.wait timing.resetBackoff
          sendResetMarker timing token left (attempt + 1)

/-- Reads until an echo of `reference` arrives, `rounds` packets at most. -/
def awaitEcho (timing : HandshakeTiming) (token : CancelToken) (reference : Packet)
    (controller : Log.Controller) : (rounds : Nat) → Attempt HandshakeError Unit
  | 0 => Attempt.unfinished
  | rounds + 1 => do
      Attempt.stopIfCancelled token .cancelled
      let received ← Attempt.of .aborted (Action.read timing.echoTimeout)
      if reference.isEcho received then
        Action.log (.echoReceived controller)
      else
        Action.log (.echoMismatch controller (received.take reference.framed.length))
        awaitEcho timing token reference controller rounds

def awaitEchoes (timing : HandshakeTiming) (token : CancelToken) (reference : Packet)
    (rounds : Nat) : Attempt HandshakeError Unit := do
  Action.log (.handshakeStage .auxAckAwaited)
  awaitEcho timing token reference .aux rounds
  Action.log (.handshakeStage .mainAckAwaited)
  awaitEcho timing token (reference.withAck false) .main rounds

/-- The whole handshake; yields the flip bit of the first message after it. The bits start again at the
cleared one. Once the probe is out, a failure leaves the device in the middle of it, and the link is
reset. -/
def run (timing : HandshakeTiming) (token : CancelToken) (probe : Message) (rounds : Nat) :
    Attempt HandshakeError FlipBit := do
  Action.log (.handshakeStage .disconnected)
  let (reference, next) ← Attempt.ofExcept (probePacket probe .clear)
  Action.log (.handshakeStage .flipBitReset)
  sendResetMarker timing token timing.resetAttempts 1
  Attempt.of .aborted (Action.send reference.bytes)
  Action.log (.handshakeStage .probeSent)
  match ← (awaitEchoes timing token reference rounds).outcome with
  | .ok () =>
      Action.wait timing.postConnectSettle
      Action.log (.handshakeStage .connected)
      return next
  | .error reason =>
      Action.log (.handshakeFailed reason)
      match ← Action.reset with
      | .ok () => throw reason
      | .error secondary =>
          Action.log (.cleanUpFailed secondary)
          throw reason

end PacketLink.Handshake
