import PacketLink.Link.World
import PacketLink.Monitor.Printer

namespace PacketLink

/-! A link with a monitor on it. Packets are shown when they are handed over for sending, whether or
not the send succeeds, and when they have been received. The link itself behaves as without it. -/

namespace Monitor

def notes (config : Config) (direction : Direction) (bytes : Bytes) : List Note :=
  (lines config direction bytes).map .monitor

end Monitor

def Link.monitored {σ : Type} (config : Monitor.Config) (link : Link σ) : Link σ where
  path := link.path
  send packet device :=
    let reply := link.send packet device
    { reply with notes := Monitor.notes config .tx packet ++ reply.notes }
  read timeout device :=
    let reply := link.read timeout device
    let shown := match reply.result with
      | .ok packet => Monitor.notes config .rx packet
      | .error _ => []
    { reply with notes := reply.notes ++ shown }
  reset := link.reset
  dispose := link.dispose

def Link.monitoredBy {σ : Type} (config : Option Monitor.Config) (link : Link σ) : Link σ :=
  match config with
  | none => link
  | some config => link.monitored config

end PacketLink
