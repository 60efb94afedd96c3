import PacketLink.Hid.Error
import PacketLink.Hid.Interface
import PacketLink.Link.World

namespace PacketLink.Hid

/-! Packets over a HID interface.

A `System` is what the operating system offers: the enumeration of interfaces, and reports written
to and read from an opened one. A packet goes out as a report of 65 bytes, the report number 0
first; a report that comes in is a packet. -/

/-- What the system does at one call. -/
structure Answer (σ α : Type) where
  result : Except Error α
  system : σ
  /-- A token that is raised during the call. -/
  raises : Option CancelToken := none

structure System (σ : Type) where
  /-- All interfaces, in the order of enumeration. -/
  interfaces : σ → Except Error (List Interface)
  openPath : String → σ → Answer σ Unit
  write : Bytes → σ → Answer σ Unit
  /-- Reads one report, with a timeout in milliseconds; nothing is no bytes. -/
  read : Nat → σ → Answer σ Bytes
  close : σ → σ

structure Handle (σ : Type) where
  system : σ
  isOpen : Bool

/-- Stale packets that one reset drops at most. -/
def mostDrained : Nat := 4 * Limits.packets

/-- The greatest timeout in milliseconds that the system can be asked for. -/
def mostMillis : Nat := 2147483647

/-- The report of a packet: report number 0 and 64 bytes. -/
def report (packet : Bytes) : Bytes := 0 :: packet.padTo Limits.packet

namespace Handle

variable {σ : Type}

def disconnected {α : Type} (handle : Handle σ) : Reply (Handle σ) α :=
  ⟨.error .disconnected, handle, none, []⟩

def send (system : System σ) (packet : Bytes) (handle : Handle σ) : Reply (Handle σ) Unit :=
  if handle.isOpen then
    let answer := system.write (report packet) handle.system
    ⟨answer.result.mapError Error.toLinkError, ⟨answer.system, true⟩, answer.raises, []⟩
  else handle.disconnected

/-- Reads one packet; no bytes are a timeout. -/
def read (system : System σ) (timeout : Duration) (handle : Handle σ) : Reply (Handle σ) Bytes :=
  if handle.isOpen then
    let answer := system.read (min timeout.toMillis mostMillis) handle.system
    let result := match answer.result with
      | .error reason => .error reason.toLinkError
      | .ok received =>
          let packet := received.take Limits.packet
          if packet.isEmpty then .error .timeout else .ok packet
    ⟨result, ⟨answer.system, true⟩, answer.raises, []⟩
  else handle.disconnected

/-- What draining came to: packets dropped, or a failure. -/
structure Drain (σ : Type) where
  result : Except Error Nat
  system : σ
  raises : Option CancelToken

/-- Reads without waiting until nothing is there or `left` packets were dropped. -/
def drain (system : System σ) : (left dropped : Nat) → σ → Option CancelToken → Drain σ
  | 0, dropped, state, raises => ⟨.ok dropped, state, raises⟩
  | left + 1, dropped, state, raises =>
      let answer := system.read 0 state
      let raises := answer.raises.or raises
      match answer.result with
      | .error reason => ⟨.error reason, answer.system, raises⟩
      | .ok received =>
          if (received.take Limits.packet).isEmpty then ⟨.ok dropped, answer.system, raises⟩
          else drain system left (dropped + 1) answer.system raises

/-- Drops the packets that are still queued from before. -/
def reset (system : System σ) (path : String) (handle : Handle σ) : Reply (Handle σ) Unit :=
  if handle.isOpen then
    let drained := drain system mostDrained 0 handle.system none
    let following : Handle σ := ⟨drained.system, true⟩
    match drained.result with
    | .error reason => ⟨.error reason.toLinkError, following, drained.raises, []⟩
    | .ok packets =>
        let entry : Log.Entry :=
          if packets = mostDrained then .stillStreaming path packets else .drained path packets
        ⟨.ok (), following, drained.raises, [.log entry]⟩
  else handle.disconnected

def dispose (system : System σ) (path : String) (handle : Handle σ) : Reply (Handle σ) Unit :=
  if handle.isOpen then
    ⟨.ok (), ⟨system.close handle.system, false⟩, none, [.log (.closed path)]⟩
  else ⟨.ok (), handle, none, []⟩

/-- Gives the interface back without a word, if it is still open. -/
def release (system : System σ) (handle : Handle σ) : σ :=
  if handle.isOpen then system.close handle.system else handle.system

end Handle

variable {σ : Type}

def System.link (system : System σ) (interface : Interface) : Link (Handle σ) where
  path := interface.path
  send := Handle.send system
  read := Handle.read system
  reset := Handle.reset system interface.path
  dispose := Handle.dispose system interface.path

structure Opening (σ : Type) where
  result : Except LinkError Interface
  system : σ
  log : List Log.Entry

/-- The place of the first zero byte in the UTF-8 form of a text. -/
def zeroPosition? (text : String) : Option Nat :=
  let bytes := text.toUTF8.toList
  if bytes.contains 0 then some (bytes.takeWhile (· ≠ 0)).length else none

def System.openInterface (system : System σ) (interface : Interface) (state : σ) : Opening σ :=
  match zeroPosition? interface.path with
  | some position =>
      ⟨.error (.internal s!"nul byte found in provided data at position: {position}"), state, []⟩
  | none =>
      let answer := system.openPath interface.path state
      match answer.result with
      | .error reason => ⟨.error reason.toLinkError, answer.system, []⟩
      | .ok () =>
          ⟨.ok interface, answer.system,
            [.opened interface.vid interface.pid (interface.product.getD "")]⟩

def System.openFirst (system : System σ) (vid pid : UInt16) (state : σ) : Opening σ :=
  match system.interfaces state with
  | .error reason => ⟨.error reason.toLinkError, state, []⟩
  | .ok interfaces =>
      let candidates := Interface.matching interfaces vid pid
      let found := Log.Entry.interfacesFound candidates.length vid pid
      match candidates with
      | [] => ⟨.error (.deviceNotFound s!"{Hex.upperWord vid}:{Hex.upperWord pid}"), state, [found]⟩
      | interface :: _ =>
          let opening := system.openInterface interface state
          { opening with log := found :: opening.log }

end PacketLink.Hid
