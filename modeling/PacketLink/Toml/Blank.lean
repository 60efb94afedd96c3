namespace PacketLink.Toml

/-! What separates the parts of a TOML document: blanks, line ends and comments.

Every reader of this format takes the text that is left and yields what is left after it. -/

abbrev Text := List Char

def isBlank (char : Char) : Bool := char = ' ' ∨ char = '\t'

def skipBlanks (text : Text) : Text := text.dropWhile isBlank

def lineFeed? : Text → Option Text
  | '\n' :: rest => some rest
  | '\r' :: '\n' :: rest => some rest
  | _ => none

/-- Characters of a comment: tabs, and all that are no control characters. -/
def isCommentChar (char : Char) : Bool :=
  char = '\t' ∨ (' ' ≤ char ∧ char ≠ '\x7f')

def skipComment : Text → Text
  | '#' :: rest => rest.dropWhile isCommentChar
  | text => text

/-- The rest of a line: blanks, a comment, and the line's or the document's end. -/
def lineEnd? (text : Text) : Option Text :=
  match skipComment (skipBlanks text) with
  | [] => some []
  | rest => lineFeed? rest

def skipFillerWithin : (rounds : Nat) → Text → Text
  | 0, text => text
  | rounds + 1, text =>
      let text := skipBlanks text
      match text with
      | '#' :: _ =>
          match lineFeed? (skipComment text) with
          | some rest => skipFillerWithin rounds rest
          | none => text
      | _ =>
          match lineFeed? text with
          | some rest => skipFillerWithin rounds rest
          | none => text

/-- Drops blanks, line ends and whole comments, as between the elements of an array. -/
def skipFiller (text : Text) : Text := skipFillerWithin (text.length + 1) text

def after? (start : String) (text : Text) : Option Text :=
  if start.toList.isPrefixOf text then some (text.drop start.length) else none

end PacketLink.Toml
