import PacketLink.Bytes

namespace PacketLink

/-! The commands of the host program. -/

inductive HostCommand where
  /-- Lists the matching interfaces. -/
  | devices
  /-- Connects and exchanges one ping; without a payload the program picks one. -/
  | ping (payload : Option Bytes)
  /-- Connects and asks for the device status. -/
  | status
  /-- Connects and measures the throughput for a number of seconds. -/
  | bench (seconds : UInt64)
  /-- Stores the settings of this run. -/
  | saveConfig
deriving DecidableEq

namespace HostCommand

inductive Kind where
  | devices
  | ping
  | status
  | bench
  | saveConfig
deriving DecidableEq

namespace Kind

def name : Kind → String
  | .devices => "devices"
  | .ping => "ping"
  | .status => "status"
  | .bench => "bench"
  | .saveConfig => "save-config"

/-- The command that a word names; some have a shorter name, too. -/
def ofName? (name : String) : Option Kind :=
  match name with
  | "devices" | "list" | "ls" => some .devices
  | "ping" => some .ping
  | "status" | "st" => some .status
  | "bench" => some .bench
  | "save-config" => some .saveConfig
  | _ => none

end Kind

def kind : HostCommand → Kind
  | .devices => .devices
  | .ping _ => .ping
  | .status => .status
  | .bench _ => .bench
  | .saveConfig => .saveConfig

end HostCommand

end PacketLink
