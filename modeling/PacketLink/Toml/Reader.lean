import PacketLink.Toml.Datetime
import PacketLink.Toml.Node
import PacketLink.Toml.Quoted

namespace PacketLink.Toml

/-! Keys and values of a TOML document. Arrays and inline tables nest to a limited depth, on which
the reading of values recurs. -/

/-- Values nest less deep than this, and a dotted key has fewer parts. -/
def depthLimit : Nat := 80

def isBareKeyChar (char : Char) : Bool :=
  ('A' ≤ char ∧ char ≤ 'Z') ∨ ('a' ≤ char ∧ char ≤ 'z') ∨ Decimal.isDigit char ∨ char = '_' ∨ char = '-'

/-- One part of a key: bare, or quoted on one line. -/
def simpleKey? (text : Text) : Option (String × Text) :=
  match text with
  | '"' :: rest => (basic? rest).map fun (chars, rest) => (String.ofList chars, rest)
  | '\'' :: rest => (literal? rest).map fun (chars, rest) => (String.ofList chars, rest)
  | _ =>
      let chars := text.takeWhile isBareKeyChar
      if chars.isEmpty then none
      else some (String.ofList chars, text.dropWhile isBareKeyChar)

/-- The parts of a key, `rounds` of them at most; blanks may stand around each. -/
def keyPartsWithin : (rounds : Nat) → Text → Option (List String × Text)
  | 0, _ => none
  | rounds + 1, text => do
      let (part, rest) ← simpleKey? (skipBlanks text)
      match skipBlanks rest with
      | '.' :: rest =>
          let (parts, rest) ← keyPartsWithin rounds rest
          return (part :: parts, rest)
      | rest => return ([part], rest)

/-- A key, dotted or not: the path to its table, and its name there. -/
def key? (text : Text) : Option ((List String × String) × Text) := do
  let (parts, rest) ← keyPartsWithin (depthLimit - 1) text
  let name ← parts.getLast?
  return ((parts.dropLast, name), rest)

def keyValue? (value : Text → Option (Value × Text)) (text : Text) :
    Option (((List String × String) × Value) × Text) := do
  let (key, rest) ← key? text
  let rest ← after? "=" rest
  let (value, rest) ← value (skipBlanks rest)
  return ((key, value), rest)

/-- The elements of an array up to the closing bracket, `rounds` at most. A comma may follow the last
of them. -/
def elementsWithin (value : Text → Option (Value × Text)) :
    (rounds : Nat) → Text → Option (List Value × Text)
  | 0, _ => none
  | rounds + 1, text =>
      match skipFiller text with
      | ']' :: rest => some ([], rest)
      | text => do
          let (element, rest) ← value text
          match skipFiller rest with
          | ',' :: rest =>
              let (elements, rest) ← elementsWithin value rounds rest
              return (element :: elements, rest)
          | ']' :: rest => return ([element], rest)
          | _ => none

/-- The pairs of an inline table up to the closing brace, `rounds` at most, added to a table. -/
def pairsWithin (value : Text → Option (Value × Text)) :
    (rounds : Nat) → Node → Text → Option (Node × Text)
  | 0, _, _ => none
  | rounds + 1, table, text => do
      let (((path, key), value'), rest) ← keyValue? value text
      let table ← table.insert path key value'
      match skipBlanks rest with
      | ',' :: rest => pairsWithin value rounds table rest
      | '\x7d' :: rest => return (table, rest)
      | _ => none

def inlineTable? (value : Text → Option (Value × Text)) (text : Text) : Option (Value × Text) :=
  match skipBlanks text with
  | '\x7d' :: rest => some (.table [], rest)
  | _ => (pairsWithin value text.length .emptyTable text).map fun (table, rest) =>
      (table.toValue, rest)

def numeric? (text : Text) : Option (Value × Text) :=
  match datetime? text with
  | some (literal, rest) => some (.datetime literal, rest)
  | none =>
      match float? text with
      | some (literal, rest) => some (.float literal, rest)
      | none => (integer? text).map fun (value, rest) => (.integer value, rest)

def scalarValue? (text : Text) : Option (Value × Text) :=
  match text with
  | '"' :: _ | '\'' :: _ => (string? text).map fun (chars, rest) => (.string (String.ofList chars), rest)
  | 't' :: _ => (after? "true" text).map fun rest => (.boolean true, rest)
  | 'f' :: _ => (after? "false" text).map fun rest => (.boolean false, rest)
  | 'i' :: _ | 'n' :: _ => (specialFloat? text).map fun rest =>
      (.float (String.ofList (text.take 3)), rest)
  | _ => numeric? text

/-- A value; `depth` bounds how deep it nests. -/
def value? : (depth : Nat) → Text → Option (Value × Text)
  | depth, '[' :: rest =>
      match depth with
      | 0 => none
      | depth + 1 =>
          (elementsWithin (value? depth) (rest.length + 1) rest).map fun (elements, rest) =>
            (.array elements, rest)
  | depth, '\x7b' :: rest =>
      match depth with
      | 0 => none
      | depth + 1 => inlineTable? (value? depth) rest
  | _, text => scalarValue? text

end PacketLink.Toml
