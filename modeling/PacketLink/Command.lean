namespace PacketLink

/-! Command codes of messages, and the three of them that the link itself interprets. -/

abbrev Command := UInt16

namespace Command

def ping : Command := 0x0001

/-- The device asks for the last packet stream again. -/
def retry : Command := 0x0002

def platformInfo : Command := 0x0003

def deviceStatus : Command := 0x0011

/-- Debug text in 16-bit code units, low byte first. -/
def debugMessage : Command := 0x8000

def name (command : Command) : String :=
  if command = ping then "PING"
  else if command = retry then "RETRY"
  else if command = platformInfo then "PLATFORM_INFO"
  else if command = deviceStatus then "GET_DEVICE_STATUS"
  else if command = debugMessage then "DEBUG_MESSAGE"
  else "UNKNOWN"

end Command

/-- The command codes that the link interprets itself. Firmware may number them differently. -/
structure ReservedCommands where
  /-- Debug text, taken out of the traffic and given to a sink. -/
  debugMessage : Command := Command.debugMessage
  /-- A reply that asks for the request again. -/
  retry : Command := Command.retry
  /-- Device status; unasked for, it means that the device is busy. -/
  deviceStatus : Command := Command.deviceStatus
deriving DecidableEq

namespace ReservedCommands

def text (reserved : ReservedCommands) : String :=
  s!"ReservedCommands \x7b debug_message: {reserved.debugMessage.toNat}, " ++
    s!"retry: {reserved.retry.toNat}, device_status: {reserved.deviceStatus.toNat} \x7d"

end ReservedCommands

end PacketLink
