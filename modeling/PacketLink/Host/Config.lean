import PacketLink.Session.Config

namespace PacketLink

/-! Settings of the host program: which device it talks to, and how. -/

structure HostConfig where
  vid : UInt16 := 0x1209
  pid : UInt16 := 0x4321
  /-- Timeout of each read of a reply, in milliseconds. -/
  readTimeoutMillis : UInt64 := 5000
  /-- Asks the device for a low-level acknowledgment of each packet. -/
  ack : Bool := false
  /-- Retransmissions to a busy device; without a limit there is no end to them. -/
  busyRetryLimit : Option UInt32 := none
  reserved : ReservedCommands := {}
deriving DecidableEq

namespace HostConfig

/-- Settings given for one run; they outrank the stored ones. -/
structure Overrides where
  vid : Option UInt16 := none
  pid : Option UInt16 := none
  readTimeoutMillis : Option UInt64 := none
  ack : Bool := false

/-- The settings of one run. Acknowledgments can be switched on for a run, but not off. -/
def apply (config : HostConfig) (overrides : Overrides) : HostConfig :=
  { config with
    vid := overrides.vid.getD config.vid
    pid := overrides.pid.getD config.pid
    readTimeoutMillis := overrides.readTimeoutMillis.getD config.readTimeoutMillis
    ack := config.ack || overrides.ack }

def toSessionConfig (config : HostConfig) : SessionConfig where
  readTimeout := .ofMillis config.readTimeoutMillis.toNat
  ackEnabled := config.ack
  busyRetry := .ofOption config.busyRetryLimit
  reserved := config.reserved

end HostConfig

end PacketLink
