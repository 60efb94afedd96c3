namespace PacketLink.Decimal

/-! Decimal digits, and the number that they spell. -/

def isDigit (char : Char) : Bool := '0' ≤ char ∧ char ≤ '9'

/-- The number that digits spell; no digits are zero. -/
def value (digits : List Char) : Nat :=
  digits.foldl (fun value digit => value * 10 + (digit.toNat - '0'.toNat)) 0

end PacketLink.Decimal
