namespace PacketLink

/-! Failures of a link that moves whole packets. -/

inductive LinkError where
  | deviceNotFound (device : String)
  | disconnected
  /-- Nothing arrived in time. -/
  | timeout
  /-- The HID layer failed. -/
  | hid (reason : String)
  | permissionDenied (reason : String)
  | internal (reason : String)
deriving DecidableEq

namespace LinkError

def message : LinkError → String
  | .deviceNotFound device => s!"Device not found: {device}"
  | .disconnected => "Device disconnected"
  | .timeout => "Communication timeout"
  | .hid reason => s!"HID error: {reason}"
  | .permissionDenied reason => s!"HID permission denied: {reason}"
  | .internal reason => s!"Internal error: {reason}"

def isTimeout : LinkError → Bool
  | .timeout => true
  | _ => false

end LinkError

end PacketLink
