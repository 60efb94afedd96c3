import PacketLink.Hid.Link
import PacketLink.Host.Command
import PacketLink.Host.Exchange
import PacketLink.Link.Monitored

namespace PacketLink

/-! The commands of the host program on a system with HID interfaces. -/

namespace World

variable {σ τ : Type}

def logAll (world : World σ) (entries : List Log.Entry) : World σ :=
  entries.foldl (fun world entry => world.record (.note (.log entry))) world

/-- The same moment with the device turned into another. -/
def mapDevice (change : σ → τ) : World σ → World τ
  | ⟨device, clock, raised, trace⟩ => ⟨change device, clock, raised, trace⟩

end World

namespace Host

structure Context where
  config : HostConfig := {}
  monitor : Option Monitor.Config := none
  token : CancelToken := ⟨0⟩
  /-- Payload of a probe that nobody asked for: any four bytes. -/
  probe : Bytes

/-- What a command came to, if it ended within its bound, and the world after it. -/
structure Outcome (σ : Type) where
  result : Option (Except HostError Unit)
  world : World σ

variable {σ : Type}

/-- The line for one interface; a missing product or serial number has a sign in its place. -/
def interfaceLine (interface : Hid.Interface) : String :=
  let product := interface.product.getD "?"
  let serial := interface.serial.getD "-"
  s!"  if={interface.number} {product} serial={serial} path={interface.path}"

def interfaceLines (vid pid : UInt16) (interfaces : List Hid.Interface) : List String :=
  let product := s!"{Hex.upperWord vid}:{Hex.upperWord pid}"
  if interfaces.isEmpty then [s!"No devices found for {product}"]
  else s!"Devices for {product}:" :: interfaces.map interfaceLine

def devices (system : Hid.System σ) (config : HostConfig) (world : World σ) : Outcome σ :=
  match system.interfaces world.device with
  | .error reason => ⟨some (.error (.enumeration reason)), world⟩
  | .ok interfaces =>
      let candidates := Hid.Interface.matching interfaces config.vid config.pid
      let found := Log.Entry.interfacesFound candidates.length config.vid config.pid
      let lines := interfaceLines config.vid config.pid candidates
      ⟨some (.ok ()),
        lines.foldl (fun world line => world.record (.note (.output line))) (world.logAll [found])⟩

/-- Opens the first interface of the configured product, runs `body` over it, and gives the
interface back. `body` is told the interface's path. -/
def withInterface (system : Hid.System σ) (context : Context)
    (body : String → Attempt HostError Unit) (world : World σ) : Outcome σ :=
  let vid := context.config.vid
  let pid := context.config.pid
  let ⟨result, device, entries⟩ := system.openFirst vid pid world.device
  let opened := (world.mapDevice fun _ => device).logAll entries
  match result with
  | .error reason => ⟨some (.error (.opening vid pid reason)), opened⟩
  | .ok interface =>
      let link := (system.link interface).monitoredBy context.monitor
      let action : Action (Except HostError Unit) := (body interface.path).run
      let (result, ended) := action.run link (opened.mapDevice (⟨·, true⟩))
      ⟨result, ended.mapDevice (Hid.Handle.release system)⟩

/-- Runs the part of a command that needs a device. -/
def run (system : Hid.System σ) (context : Context) (command : HostCommand) (rounds : Nat)
    (world : World σ) : Outcome σ :=
  let config := context.config
  let token := context.token
  match command with
  | .devices => devices system config world
  | .ping payload =>
      withInterface system context
        (fun path => ping path config token (payload.getD context.probe) rounds) world
  | .status =>
      withInterface system context (fun _ => status config token context.probe rounds) world
  | .bench seconds =>
      withInterface system context (fun _ => bench config token context.probe seconds rounds) world
  | .saveConfig => ⟨some (.ok ()), world⟩

end Host

end PacketLink
