import PacketLink.Hid.Link

namespace PacketLink.Hid

/-! A simulated system: interfaces that can be opened or refuse, and one device behind them that
answers reads from a queue and records what it is asked. -/

/-- One answer of the device to a read. -/
inductive Answering where
  | packet (bytes : Bytes)
  /-- The last report that was written, without its number. -/
  | echo
  /-- The same with the acknowledgment request taken off. -/
  | echoWithoutAck
  | nothing
  | error (reason : String)
deriving DecidableEq

structure Simulation where
  /-- The interfaces, each with the reason for which it cannot be opened, if any. -/
  interfaces : List (Interface × Option String) := []
  /-- The reason for which nothing can be enumerated. -/
  failure : Option String := none
  answers : List Answering := []
  /-- The answer when the queue is empty. -/
  otherwise : Answering := .nothing
  /-- Which writes fail, counted from one. -/
  failingWrites : List Nat := []
  writeFailure : String := "write failed"
  /-- Successful writes until the token 0 is raised; zero is never. -/
  writesUntilCancel : Nat := 0
  attempts : Nat := 0
  written : Array Bytes := #[]
  /-- Timeouts of the reads. -/
  reads : Array Nat := #[]
  opened : Array String := #[]
  closed : Nat := 0

namespace Simulation

def openPath (path : String) (state : Simulation) : Answer Simulation Unit :=
  match state.interfaces.find? fun candidate => candidate.1.path = path with
  | none => ⟨.error (.api "no such device"), state, none⟩
  | some (_, some reason) => ⟨.error (.api reason), state, none⟩
  | some (_, none) => ⟨.ok (), { state with opened := state.opened.push path }, none⟩

def write (report : Bytes) (state : Simulation) : Answer Simulation Unit :=
  let attempt := state.attempts + 1
  let state := { state with attempts := attempt }
  if attempt ∈ state.failingWrites then ⟨.error (.api state.writeFailure), state, none⟩
  else
    let due := state.writesUntilCancel
    ⟨.ok (), { state with written := state.written.push report, writesUntilCancel := due - 1 },
      if due = 1 then some ⟨0⟩ else none⟩

def withoutAck : Bytes → Bytes
  | control :: rest => (control &&& 0xBF) :: rest
  | [] => []

/-- The last written report without its number; no bytes if there is none. -/
def lastPacket (state : Simulation) : Bytes :=
  match state.written.back? with
  | none => []
  | some report => report.tail

def answer (state : Simulation) : Answering → Except Error Bytes
  | .packet bytes => .ok (bytes.take Limits.packet)
  | .echo => .ok state.lastPacket
  | .echoWithoutAck => .ok (withoutAck state.lastPacket)
  | .nothing => .ok []
  | .error reason => .error (.api reason)

def read (timeoutMillis : Nat) (state : Simulation) : Answer Simulation Bytes :=
  let state := { state with reads := state.reads.push timeoutMillis }
  match state.answers with
  | [] => ⟨state.answer state.otherwise, state, none⟩
  | next :: rest => ⟨state.answer next, { state with answers := rest }, none⟩

end Simulation

/-- The system that a simulation stands for. -/
def System.simulated : System Simulation where
  interfaces state :=
    match state.failure with
    | some reason => .error (.api reason)
    | none => .ok (state.interfaces.map (·.1))
  openPath := Simulation.openPath
  write := Simulation.write
  read := Simulation.read
  close state := { state with closed := state.closed + 1 }

end PacketLink.Hid
