namespace PacketLink.Utf16

/-! Text in 16-bit code units. A character beyond the first 65536 is a pair of surrogates, the high
one first; a surrogate without its partner decodes to the replacement character. -/

def isHigh (unit : UInt16) : Bool := 0xD800 ≤ unit ∧ unit < 0xDC00

def isLow (unit : UInt16) : Bool := 0xDC00 ≤ unit ∧ unit < 0xE000

def replacement : Char := '\uFFFD'

/-- The character of a surrogate pair. -/
def pair (high low : UInt16) : Char :=
  Char.ofNat (0x10000 + (high.toNat - 0xD800) * 0x400 + (low.toNat - 0xDC00))

def single (unit : UInt16) : Char :=
  if isHigh unit ∨ isLow unit then replacement else Char.ofNat unit.toNat

def decode : List UInt16 → List Char
  | high :: low :: rest =>
      if isHigh high ∧ isLow low then pair high low :: decode rest
      else single high :: decode (low :: rest)
  | [unit] => [single unit]
  | [] => []

end PacketLink.Utf16
