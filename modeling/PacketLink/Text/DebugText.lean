import PacketLink.Bytes
import PacketLink.Text.Utf16

namespace PacketLink.DebugText

/-! Debug text of the device: 16-bit code units, low byte first, up to a zero unit. -/

def units : Bytes → List UInt16
  | low :: high :: rest => Bytes.word low high :: units rest
  | _ => []

/-- The text before the first zero unit; an odd byte at the end is ignored. -/
def decode (payload : Bytes) : String :=
  String.ofList (Utf16.decode ((units payload).takeWhile (· ≠ 0)))

end PacketLink.DebugText
