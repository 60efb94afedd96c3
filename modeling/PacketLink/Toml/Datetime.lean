import PacketLink.Toml.Number

namespace PacketLink.Toml

/-! Dates and times of a TOML document, with or without an offset from universal time. -/

/-- A number of exactly `count` digits between two bounds. -/
def field? (count least most : Nat) (text : Text) : Option (Nat × Text) :=
  let digits := text.take count
  let value := digitsValue 10 digits
  if digits.length = count ∧ digits.all Decimal.isDigit ∧ least ≤ value ∧ value ≤ most then
    some (value, text.drop count)
  else none

def isLeapYear (year : Nat) : Bool := year % 4 = 0 ∧ (year % 100 ≠ 0 ∨ year % 400 = 0)

def daysInMonth (year month : Nat) : Nat :=
  if month = 2 then if isLeapYear year then 29 else 28
  else if month = 4 ∨ month = 6 ∨ month = 9 ∨ month = 11 then 30
  else 31

def date? (text : Text) : Option Text := do
  let (year, text) ← field? 4 0 9999 text
  let text ← after? "-" text
  let (month, text) ← field? 2 1 12 text
  let text ← after? "-" text
  let (_, text) ← field? 2 1 (daysInMonth year month) text
  return text

def secondFraction (text : Text) : Text :=
  match text with
  | '.' :: digit :: rest => if Decimal.isDigit digit then rest.dropWhile Decimal.isDigit else text
  | _ => text

/-- Hour, minute and second; a minute may have a leap second. -/
def time? (text : Text) : Option Text := do
  let (_, text) ← field? 2 0 23 text
  let text ← after? ":" text
  let (_, text) ← field? 2 0 59 text
  let text ← after? ":" text
  let (_, text) ← field? 2 0 60 text
  return secondFraction text

def offset? : Text → Option Text
  | 'Z' :: rest | 'z' :: rest => some rest
  | '+' :: rest | '-' :: rest => do
      let (_, rest) ← field? 2 0 23 rest
      let rest ← after? ":" rest
      let (_, rest) ← field? 2 0 59 rest
      return rest
  | _ => none

/-- The time after a date, with its offset; nothing is taken if none stands here. -/
def timeOfDay (text : Text) : Text :=
  match text with
  | char :: rest =>
      if char = 'T' ∨ char = 't' ∨ char = ' ' then
        match time? rest with
        | some rest => (offset? rest).getD rest
        | none => text
      else text
  | [] => text

/-- A date, a date and time, or a time. -/
def datetime? (text : Text) : Option (String × Text) := do
  let rest ← match date? text with
    | some rest => some (timeOfDay rest)
    | none => time? text
  return (String.ofList (text.take (text.length - rest.length)), rest)

end PacketLink.Toml
