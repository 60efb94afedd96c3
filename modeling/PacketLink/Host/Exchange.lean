import PacketLink.Host.Config
import PacketLink.Host.Error
import PacketLink.Text.Ansi
import PacketLink.Throughput.Benchmark

namespace PacketLink.Host

/-! The commands that talk to a device, once its interface is open.

Each of them connects, exchanges its messages, and disconnects before it looks at what came of the
exchange. A failure to disconnect goes to the log and nowhere else. -/

/-- Wait after opening, in which the device gets ready for the first packet. -/
def postOpenDelay : Duration := .ofMillis 500

def print (line : String) : Action Unit := Action.note (.output line)

def connect (config : HostConfig) (token : CancelToken) (probe : Message) (rounds : Nat) :
    Attempt HostError Session := do
  Action.sleep postOpenDelay
  Attempt.of .handshake (Session.connect config.toSessionConfig token probe rounds).run

def close (session : Session) : Action Unit := do
  match ← session.disconnect with
  | (.ok (), _) => return
  | (.error reason, _) => Action.log (.disconnectFailed reason)

def pingMessage (payload : Bytes) : Message := ⟨Command.ping, payload⟩

/-- Exchanges one ping, which the device has to answer with the same message. -/
def ping (path : String) (config : HostConfig) (token : CancelToken) (payload : Bytes)
    (rounds : Nat) : Attempt HostError Unit := do
  let probe := pingMessage payload
  let session ← connect config token probe rounds
  print s!"Connected to {path}"
  let start ← Action.now
  let (outcome, session) ← session.request probe true rounds
  let elapsed := (← Action.now) - start
  close session
  let reply ← Attempt.ofExcept (outcome.mapError .exchange)
  if reply = probe then
    print s!"Ping [{Hex.spaced payload}] answered in {elapsed.text}"
  else throw (.replyMismatch payload reply)

/-- Asks for the device status. The handshake's probe is a ping. -/
def status (config : HostConfig) (token : CancelToken) (payload : Bytes) (rounds : Nat) :
    Attempt HostError Unit := do
  let session ← connect config token (pingMessage payload) rounds
  let (outcome, session) ← session.request (Message.empty config.reserved.deviceStatus) true rounds
  close session
  let reply ← Attempt.ofExcept (outcome.mapError .exchange)
  print (s!"Status (0x{Hex.upperWord reply.command}, {reply.length} bytes): " ++
    Hex.spaced reply.payload)

def printRate (ackEnabled : Bool) (rate : Throughput.Rate) : Action Unit := do
  print ("Ping pong transfer speed (unidirectional): " ++
    Ansi.bold (toString rate.unidirectional) ++ " B/s")
  print ("Ping pong transfer speed (bidirectional cumulated" ++
    (if ackEnabled then ", acks included" else "") ++ "): " ++
    Ansi.bold (toString rate.cumulated) ++ " B/s")

def bench (config : HostConfig) (token : CancelToken) (payload : Bytes) (seconds : UInt64)
    (rounds : Nat) : Attempt HostError Unit := do
  let probe := pingMessage payload
  let session ← connect config token probe rounds
  let (outcome, session) ← Benchmark.run session probe (.ofSeconds seconds.toNat)
    (printRate config.ack) rounds
  close session
  let summary ← Attempt.ofExcept (outcome.mapError .exchange)
  print s!"{summary.roundTrips} round trips in {summary.elapsed.rounded 1}"

end PacketLink.Host
