namespace PacketLink.Toml

/-! Values of a TOML document. Floats and dates are kept as they are written. -/

inductive Value where
  | string (text : String)
  | integer (value : Int)
  | float (literal : String)
  | boolean (value : Bool)
  | datetime (literal : String)
  | array (elements : List Value)
  | table (entries : List (String × Value))

/-- The entries of a table, in the order of the document. -/
abbrev Table := List (String × Value)

namespace Table

def get? (table : Table) (key : String) : Option Value :=
  (table.find? fun entry => entry.1 = key).map (·.2)

end Table

end PacketLink.Toml
