import PacketLink.Framing.Stream
import PacketLink.Link.World

namespace PacketLink

/-! A link that replays a script: one scripted answer for each read, and a timeout when the script is
at its end. It can be told to fail, and to raise a cancel token after some sends or reads. -/

inductive ScriptedRead where
  | packet (bytes : Bytes)
  | timeout
  | error (reason : String)
deriving DecidableEq

structure Script where
  reads : List ScriptedRead := []
  /-- How many of the next sends fail. -/
  failingSends : Nat := 0
  failingReset : Bool := false
  failingDisposal : Bool := false
  /-- The token that a countdown raises. -/
  token : CancelToken := ⟨0⟩
  /-- Successful sends until the token is raised; zero is never. -/
  sendsUntilCancel : Nat := 0
  /-- Reads until the token is raised; zero is never. -/
  readsUntilCancel : Nat := 0
  resets : Nat := 0
  disposed : Bool := false

namespace Script

def push (script : Script) (answer : ScriptedRead) : Script :=
  { script with reads := script.reads ++ [answer] }

/-- Queues all packets of a message from the device; nothing if the message is too long. -/
def pushMessage (script : Script) (message : Message) : Except Oversize Script :=
  match message.encode .clear false with
  | .error size => .error size
  | .ok stream =>
      .ok { script with
        reads := script.reads ++ stream.packets.map fun packet => .packet packet.bytes }

/-- The token, at the last step of a countdown. -/
def dueToken (script : Script) (countdown : Nat) : Option CancelToken :=
  if countdown = 1 then some script.token else none

def send (_ : Bytes) (script : Script) : Reply Script Unit :=
  if script.disposed then ⟨.error .disconnected, script, none, []⟩
  else if script.failingSends > 0 then
    ⟨.error (.hid "scripted send failure"),
      { script with failingSends := script.failingSends - 1 }, none, []⟩
  else
    ⟨.ok (), { script with sendsUntilCancel := script.sendsUntilCancel - 1 },
      script.dueToken script.sendsUntilCancel, []⟩

def nextRead (script : Script) : Except LinkError Bytes :=
  if script.disposed then .error .disconnected
  else match script.reads with
    | .packet bytes :: _ => .ok bytes
    | .error reason :: _ => .error (.hid reason)
    | .timeout :: _ | [] => .error .timeout

def read (_ : Duration) (script : Script) : Reply Script Bytes :=
  ⟨script.nextRead,
    { script with
      reads := if script.disposed then script.reads else script.reads.tail
      readsUntilCancel := script.readsUntilCancel - 1 },
    script.dueToken script.readsUntilCancel, []⟩

def reset (script : Script) : Reply Script Unit :=
  ⟨if script.failingReset then .error (.hid "scripted reset failure") else .ok (),
    { script with resets := script.resets + 1 }, none, []⟩

def dispose (script : Script) : Reply Script Unit :=
  if script.failingDisposal then
    ⟨.error (.hid "scripted dispose failure"), script, none, []⟩
  else ⟨.ok (), { script with disposed := true }, none, []⟩

end Script

/-- The link that replays a script. -/
def Link.scripted : Link Script where
  path := "mock"
  send := Script.send
  read := Script.read
  reset := Script.reset
  dispose := Script.dispose

end PacketLink
