import PacketLink.Text.Decimal
import PacketLink.Text.Hex
import PacketLink.Text.Utf16

namespace PacketLink.Json

/-! The syntax of JSON text. Readers take the text that is left and yield what is left after them.
Values that nobody asks for are checked for their form only. -/

abbrev Text := List Char

def isBlank (char : Char) : Bool := char = ' ' ∨ char = '\n' ∨ char = '\t' ∨ char = '\r'

def skipBlanks (text : Text) : Text := text.dropWhile isBlank

/-- The text after `start`, if it begins with it. -/
def after? (start : String) (text : Text) : Option Text :=
  if start.toList.isPrefixOf text then some (text.drop start.length) else none

/-- Items parted by commas up to a closing character, `rounds` of them at most. Each item is read on
top of what the earlier ones came to. -/
def itemsWithin {α : Type} (item : α → Text → Option (α × Text)) (closing : Char) :
    (rounds : Nat) → α → Text → Option (α × Text)
  | 0, _, _ => none
  | rounds + 1, value, text => do
      let (value, rest) ← item value (skipBlanks text)
      match skipBlanks rest with
      | ',' :: rest => itemsWithin item closing rounds value rest
      | char :: rest => if char = closing then some (value, rest) else none
      | [] => none

/-- Items after an opening bracket or brace; there may be none. -/
def items? {α : Type} (item : α → Text → Option (α × Text)) (closing : Char) (start : α)
    (text : Text) : Option (α × Text) :=
  match skipBlanks text with
  | [] => none
  | char :: rest =>
      if char = closing then some (start, rest)
      else itemsWithin item closing text.length start (char :: rest)

def unit? : Text → Option (UInt16 × Text)
  | a :: b :: c :: d :: rest => do
      let a ← Hex.value? a
      let b ← Hex.value? b
      let c ← Hex.value? c
      let d ← Hex.value? d
      return (UInt16.ofNat (((a * 16 + b) * 16 + c) * 16 + d), rest)
  | _ => none

def letterEscape? : Char → Option Char
  | '"' => some '"'
  | '\\' => some '\\'
  | '/' => some '/'
  | 'b' => some '\x08'
  | 'f' => some '\x0c'
  | 'n' => some '\n'
  | 'r' => some '\r'
  | 't' => some '\t'
  | _ => none

/-- The character of an escape, after the backslash. A surrogate stands only in a pair. -/
def escape? : Text → Option (Char × Text)
  | 'u' :: rest => do
      let (high, rest) ← unit? rest
      if Utf16.isHigh high then
        let (low, rest) ← unit? (← after? "\\u" rest)
        if Utf16.isLow low then return (Utf16.pair high low, rest) else none
      else if Utf16.isLow high then none
      else return (Utf16.single high, rest)
  | char :: rest => (letterEscape? char).map fun char => (char, rest)
  | [] => none

/-- The rest of a string, `rounds` characters at most. -/
def stringWithin : (rounds : Nat) → Text → Option (List Char × Text)
  | 0, _ => none
  | rounds + 1, text =>
      match text with
      | [] => none
      | '"' :: rest => some ([], rest)
      | '\\' :: rest => do
          let (char, rest) ← escape? rest
          let (chars, rest) ← stringWithin rounds rest
          return (char :: chars, rest)
      | char :: rest => do
          guard (' ' ≤ char)
          let (chars, rest) ← stringWithin rounds rest
          return (char :: chars, rest)

def string? : Text → Option (String × Text)
  | '"' :: rest => (stringWithin (rest.length + 1) rest).map fun (chars, rest) =>
      (String.ofList chars, rest)
  | _ => none

/-- Drops an escape, after the backslash; any four digits may follow `u`. -/
def skipEscape? : Text → Option Text
  | 'u' :: rest => (unit? rest).map (·.2)
  | char :: rest => (letterEscape? char).map fun _ => rest
  | [] => none

/-- Drops the rest of a string, `rounds` characters at most. -/
def skipStringWithin : (rounds : Nat) → Text → Option Text
  | 0, _ => none
  | rounds + 1, text =>
      match text with
      | [] => none
      | '"' :: rest => some rest
      | '\\' :: rest => do skipStringWithin rounds (← skipEscape? rest)
      | char :: rest => do
          guard (' ' ≤ char)
          skipStringWithin rounds rest

def skipString? : Text → Option Text
  | '"' :: rest => skipStringWithin (rest.length + 1) rest
  | _ => none

/-- Digits without a leading zero, or a single zero. -/
def wholeNumber? : Text → Option (List Char × Text)
  | '0' :: rest =>
      match rest with
      | [] => some (['0'], rest)
      | char :: _ => if Decimal.isDigit char then none else some (['0'], rest)
  | text =>
      let digits := text.takeWhile Decimal.isDigit
      if digits.isEmpty then none else some (digits, text.dropWhile Decimal.isDigit)

def skipDigits? : Text → Option Text
  | char :: rest => if Decimal.isDigit char then some (rest.dropWhile Decimal.isDigit) else none
  | [] => none

def skipExponent? : Text → Option Text
  | 'e' :: '+' :: rest | 'E' :: '+' :: rest => skipDigits? rest
  | 'e' :: '-' :: rest | 'E' :: '-' :: rest => skipDigits? rest
  | 'e' :: rest | 'E' :: rest => skipDigits? rest
  | text => some text

def skipNumber? (text : Text) : Option Text := do
  let (_, rest) ← wholeNumber? text
  match rest with
  | '.' :: rest => skipExponent? (← skipDigits? rest)
  | rest => skipExponent? rest

def skipScalar? : Text → Option Text
  | '"' :: rest => skipString? ('"' :: rest)
  | 'n' :: rest => after? "ull" rest
  | 't' :: rest => after? "rue" rest
  | 'f' :: rest => after? "alse" rest
  | '-' :: rest => skipNumber? rest
  | text => skipNumber? text

def colon? (text : Text) : Option Text := after? ":" (skipBlanks text)

/-- Drops a value; `depth` bounds how deep it nests. -/
def skipValue? : (depth : Nat) → Text → Option Text
  | depth, '[' :: rest =>
      match depth with
      | 0 => none
      | depth + 1 =>
          (items? (fun _ text => (skipValue? depth text).map ((), ·)) ']' () rest).map (·.2)
  | depth, '\x7b' :: rest =>
      match depth with
      | 0 => none
      | depth + 1 =>
          (items? (fun _ text => do
            let rest ← colon? (← skipString? text)
            return ((), ← skipValue? depth (skipBlanks rest))) '\x7d' () rest).map (·.2)
  | _, text => skipScalar? text

end PacketLink.Json
