import PacketLink.Bytes

namespace PacketLink.Hex

/-! Hexadecimal text of bytes and words, in either case, and the value of a digit. -/

/-- The digit of a value below sixteen, in lower case. -/
def digit (value : Nat) : Char :=
  Nat.digitChar value

def upperDigit (value : Nat) : Char :=
  (Nat.digitChar value).toUpper

/-- The value of a digit of either case. -/
def value? (char : Char) : Option Nat :=
  if '0' ≤ char ∧ char ≤ '9' then some (char.toNat - '0'.toNat)
  else if 'a' ≤ char ∧ char ≤ 'f' then some (char.toNat - 'a'.toNat + 10)
  else if 'A' ≤ char ∧ char ≤ 'F' then some (char.toNat - 'A'.toNat + 10)
  else none

def byteChars (byte : UInt8) : List Char :=
  [digit (byte.toNat / 16), digit (byte.toNat % 16)]

def byte (byte : UInt8) : String :=
  String.ofList (byteChars byte)

def upperByte (byte : UInt8) : String :=
  String.ofList [upperDigit (byte.toNat / 16), upperDigit (byte.toNat % 16)]

def upperWord (word : UInt16) : String :=
  upperByte (UInt8.ofNat (word.toNat / 256)) ++ upperByte (UInt8.ofNat (word.toNat % 256))

/-- Bytes with a blank between two of them, as in `de ad`. -/
def spaced (bytes : Bytes) : String :=
  " ".intercalate (bytes.map byte)

/-- Bytes as a bracketed list in upper case, as in `[DE, AD]`. -/
def upperList (bytes : Bytes) : String :=
  "[" ++ ", ".intercalate (bytes.map upperByte) ++ "]"

/-- Bytes as a bracketed list in lower case, as in `[de, ad]`. -/
def lowerList (bytes : Bytes) : String :=
  "[" ++ ", ".intercalate (bytes.map byte) ++ "]"

end PacketLink.Hex
