namespace PacketLink.Path

/-! The text of a path, cut at its slashes. Blank pieces and dots lead nowhere, but they are part of
the text. -/

/-- A path cut at its slashes: a piece is blank where slashes stand together or at an end. -/
def pieces (path : String) : List String := path.splitOn "/"

def ofPieces (pieces : List String) : String := "/".intercalate pieces

def staysHere (piece : String) : Bool := piece = "" || piece = "."

/-- The pieces of the folder that a path's last name is in. -/
def folder (path : String) : List String :=
  ((((pieces path).reverse.dropWhile staysHere).drop 1).dropWhile staysHere).reverse

/-- The pieces ahead of a path's last one that is not blank. -/
def way (path : String) : List String :=
  (((pieces path).reverse.dropWhile (· = "")).drop 1).reverse

/-- UTF-8 bytes of the longest name. -/
def longestName : Nat := 255

/-- UTF-8 bytes of the longest path, slashes and dots included. -/
def longest : Nat := 4095

end PacketLink.Path
