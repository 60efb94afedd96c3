import PacketLink.Bytes
import PacketLink.Text.Hex

namespace PacketLink

/-! Payloads in hexadecimal text, such as `deadbeef` or `de:ad be-ef`: two digits a byte, with
separators anywhere. -/

inductive HexPayloadError where
  /-- What is left without the separators has an odd number of UTF-8 bytes. -/
  | oddLength (text : String)
  | invalidByte (text : String)
deriving DecidableEq

namespace HexPayloadError

def message : HexPayloadError → String
  | .oddLength text => s!"odd number of hex digits in '{text}'"
  | .invalidByte text => s!"invalid hex byte in '{text}'"

end HexPayloadError

namespace HexPayload

def isSeparator (char : Char) : Bool := char = ':' ∨ char = ' ' ∨ char = '-'

def bytes? : List Char → Option Bytes
  | [] => some []
  | [_] => none
  | high :: low :: rest => do
      let high ← Hex.value? high
      let low ← Hex.value? low
      return UInt8.ofNat (high * 16 + low) :: (← bytes? rest)

def ofText (text : String) : Except HexPayloadError Bytes :=
  let digits := text.toList.filter fun char => !isSeparator char
  if (String.ofList digits).utf8ByteSize % 2 = 1 then .error (.oddLength text)
  else match bytes? digits with
    | none => .error (.invalidByte text)
    | some bytes => .ok bytes

end HexPayload

end PacketLink
