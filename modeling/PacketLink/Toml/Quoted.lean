import PacketLink.Text.Hex
import PacketLink.Toml.Blank

namespace PacketLink.Toml

/-! Strings of a TOML document: basic ones, in which a backslash begins an escape, and literal ones,
each on one line or on several. -/

def hexDigits? : (count : Nat) → (value : Nat) → Text → Option (Nat × Text)
  | 0, value, text => some (value, text)
  | count + 1, value, char :: rest => do
      let digit ← Hex.value? char
      hexDigits? count (value * 16 + digit) rest
  | _ + 1, _, [] => none

/-- A character by its number; surrogates are no characters. -/
def scalar? (value : Nat) : Option Char :=
  if value.isValidChar then some (Char.ofNat value) else none

def escape? : Text → Option (Char × Text)
  | 'b' :: rest => some ('\x08', rest)
  | 'f' :: rest => some ('\x0c', rest)
  | 'n' :: rest => some ('\n', rest)
  | 'r' :: rest => some ('\r', rest)
  | 't' :: rest => some ('\t', rest)
  | '\\' :: rest => some ('\\', rest)
  | '"' :: rest => some ('"', rest)
  | 'u' :: rest => do
      let (value, rest) ← hexDigits? 4 0 rest
      return (← scalar? value, rest)
  | 'U' :: rest => do
      let (value, rest) ← hexDigits? 8 0 rest
      return (← scalar? value, rest)
  | _ => none

/-- Characters that stand for themselves in a string that `quote` closes. -/
def isPlain (quote char : Char) : Bool :=
  char ≠ quote ∧ isCommentChar char

def basicWithin : (rounds : Nat) → Text → Option (List Char × Text)
  | 0, _ => none
  | rounds + 1, text =>
      match text with
      | '"' :: rest => some ([], rest)
      | '\\' :: rest => do
          let (char, rest) ← escape? rest
          let (chars, rest) ← basicWithin rounds rest
          return (char :: chars, rest)
      | char :: rest => do
          guard (isPlain '"' char)
          let (chars, rest) ← basicWithin rounds rest
          return (char :: chars, rest)
      | [] => none

def basic? (text : Text) : Option (List Char × Text) := basicWithin (text.length + 1) text

def literal? (text : Text) : Option (List Char × Text) :=
  match text.dropWhile (isPlain '\'') with
  | '\'' :: rest => some (text.takeWhile (isPlain '\''), rest)
  | _ => none

/-- A backslash at the end of a line takes away all blanks and line ends that follow. -/
def lineContinuation? (text : Text) : Option Text :=
  (lineFeed? (skipBlanks text)).map (skip text.length)
where
  skip : Nat → Text → Text
    | 0, text => text
    | rounds + 1, text =>
        match lineFeed? (skipBlanks text) with
        | some rest => skip rounds rest
        | none => skipBlanks text

/-- The quotes at the end of a string on several lines: three close it, and up to two more ahead of
them belong to it. -/
def closing? (quote : Char) (text : Text) : Option (List Char × Text) :=
  let quotes := (text.takeWhile (· = quote)).length
  if quotes < 3 then none
  else
    let own := min (quotes - 3) 2
    some (List.replicate own quote, text.drop (own + 3))

def multiLineWithin (quote : Char) (escapes : Bool) : (rounds : Nat) → Text →
    Option (List Char × Text)
  | 0, _ => none
  | rounds + 1, text =>
      match closing? quote text with
      | some (own, rest) => some (own, rest)
      | none =>
          match lineFeed? text with
          | some rest => do
              let (chars, rest) ← multiLineWithin quote escapes rounds rest
              return ('\n' :: chars, rest)
          | none =>
              match text with
              | [] => none
              | char :: rest =>
                  if char = '\\' ∧ escapes then
                    match lineContinuation? rest with
                    | some rest => multiLineWithin quote escapes rounds rest
                    | none => do
                        let (char, rest) ← escape? rest
                        let (chars, rest) ← multiLineWithin quote escapes rounds rest
                        return (char :: chars, rest)
                  else do
                    guard (isCommentChar char)
                    let (chars, rest) ← multiLineWithin quote escapes rounds rest
                    return (char :: chars, rest)

/-- The rest of a string on several lines, after the opening quotes; a line end right after them does
not count. -/
def multiLine? (quote : Char) (escapes : Bool) (text : Text) : Option (List Char × Text) :=
  multiLineWithin quote escapes (text.length + 1) ((lineFeed? text).getD text)

def string? (text : Text) : Option (List Char × Text) :=
  match after? "\"\"\"" text, after? "'''" text, text with
  | some rest, _, _ => multiLine? '"' true rest
  | none, some rest, _ => multiLine? '\'' false rest
  | none, none, '"' :: rest => basic? rest
  | none, none, '\'' :: rest => literal? rest
  | _, _, _ => none

end PacketLink.Toml
