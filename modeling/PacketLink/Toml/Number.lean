import PacketLink.Text.Decimal
import PacketLink.Text.Hex
import PacketLink.Toml.Value
import PacketLink.Toml.Blank

namespace PacketLink.Toml

/-! Numbers of a TOML document. Digits may be parted by single underscores; a decimal number has no
leading zero; integers have 64 bits. -/

/-- A run of digits parted by single underscores, without the underscores. It may not end in one. -/
def digitRun? (isDigit : Char → Bool) : Text → Option (List Char × Text)
  | '_' :: _ => none
  | char :: rest => if isDigit char then some (follow [char] rest) else none
  | [] => none
where
  /-- More digits; what was read so far is kept in reverse. -/
  follow (read : List Char) : Text → List Char × Text
    | '_' :: char :: rest =>
        if isDigit char then follow (char :: read) rest else (read.reverse, '_' :: char :: rest)
    | char :: rest =>
        if isDigit char then follow (char :: read) rest else (read.reverse, char :: rest)
    | [] => (read.reverse, [])

def digitsValue (base : Nat) (digits : List Char) : Nat :=
  digits.foldl (fun value digit => value * base + (Hex.value? digit).getD 0) 0

def sign : Text → Bool × Text
  | '-' :: rest => (true, rest)
  | '+' :: rest => (false, rest)
  | text => (false, text)

/-- Digits without a leading zero, or a single zero. -/
def decimal? : Text → Option (List Char × Text)
  | '0' :: rest => some (['0'], rest)
  | text => digitRun? Decimal.isDigit text

/-- An integer of another base, after the letter that names it. -/
def based? (base : Nat) (isDigit : Char → Bool) (text : Text) : Option (Int × Text) := do
  let (digits, rest) ← digitRun? isDigit text
  let value := digitsValue base digits
  guard (value < Nat.pow 2 63)
  return (value, rest)

def integer? : Text → Option (Int × Text)
  | '0' :: 'x' :: rest => based? 16 (fun char => (Hex.value? char).isSome) rest
  | '0' :: 'o' :: rest => based? 8 (fun char => '0' ≤ char ∧ char ≤ '7') rest
  | '0' :: 'b' :: rest => based? 2 (fun char => char = '0' ∨ char = '1') rest
  | text => do
      let (negative, text) := sign text
      let (digits, rest) ← decimal? text
      let magnitude := digitsValue 10 digits
      if negative then
        guard (magnitude ≤ Nat.pow 2 63)
        return (-(magnitude : Int), rest)
      else
        guard (magnitude < Nat.pow 2 63)
        return ((magnitude : Int), rest)

/-- The parts of a float in decimal notation: all digits, and the power of ten by which the number
that they spell is multiplied. -/
structure Scientific where
  negative : Bool
  digits : List Char
  exponent : Int

/-- Whether a float is beyond the greatest double by half a unit of its last place or more, so that
it rounds to infinity. -/
def Scientific.overflows (number : Scientific) : Bool :=
  let digits := number.digits.dropWhile (· = '0')
  let places := (digits.length : Int) + number.exponent
  if digits.isEmpty then false
  else if places > 400 then true
  else if places < 300 then false
  else
    let value := digitsValue 10 digits
    let bound := Nat.pow 2 1024 - Nat.pow 2 970
    if number.exponent ≥ 0 then value * Nat.pow 10 number.exponent.toNat ≥ bound
    else value ≥ bound * Nat.pow 10 (-number.exponent).toNat

def fraction? : Text → Option (List Char × Text)
  | '.' :: rest => digitRun? Decimal.isDigit rest
  | _ => none

def exponent? : Text → Option (Int × Text)
  | char :: rest => do
      guard (char = 'e' ∨ char = 'E')
      let (negative, rest) := sign rest
      let (digits, rest) ← digitRun? Decimal.isDigit rest
      let magnitude := digitsValue 10 digits
      return (if negative then -(magnitude : Int) else (magnitude : Int), rest)
  | [] => none

/-- A float in decimal notation: it has a fraction, an exponent, or both. -/
def scientific? (text : Text) : Option (Scientific × Text) := do
  let (negative, text) := sign text
  let (whole, text) ← decimal? text
  match fraction? text with
  | some (fraction, text) =>
      match exponent? text with
      | some (exponent, rest) =>
          return (⟨negative, whole ++ fraction, exponent - fraction.length⟩, rest)
      | none => return (⟨negative, whole ++ fraction, -(fraction.length : Int)⟩, text)
  | none =>
      let (exponent, rest) ← exponent? text
      return (⟨negative, whole, exponent⟩, rest)

def specialFloat? (text : Text) : Option Text :=
  let text := (sign text).2
  (after? "inf" text).or (after? "nan" text)

/-- A float. A positive one that rounds to infinity is refused; a negative one is let through. -/
def float? (text : Text) : Option (String × Text) :=
  let literal (rest : Text) := String.ofList (text.take (text.length - rest.length))
  match scientific? text with
  | some (number, rest) =>
      if number.overflows ∧ !number.negative then none else some (literal rest, rest)
  | none => (specialFloat? text).map fun rest => (literal rest, rest)

end PacketLink.Toml
