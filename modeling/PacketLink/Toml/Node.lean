import PacketLink.Toml.Value

namespace PacketLink.Toml

/-! Tables while they are read.

A table may come about implicitly, as a part of a longer name, and a dotted key makes tables of its
own; both matter for what may be added later. No key is defined twice. -/

inductive Node where
  | leaf (value : Value)
  /-- A table; `implicit` ones have no header of their own, `dotted` ones come from dotted keys. -/
  | table (implicit dotted : Bool) (entries : List (String × Node))
  /-- The tables under one doubled header. -/
  | tables (elements : List Node)

abbrev Entries := List (String × Node)

namespace Entries

def get? (entries : Entries) (key : String) : Option Node :=
  (entries.find? fun entry => entry.1 = key).map (·.2)

/-- Replaces the entry of a key, or adds one at the end. -/
def put : Entries → String → Node → Entries
  | [], key, node => [(key, node)]
  | (name, old) :: rest, key, node =>
      if name = key then (key, node) :: rest else (name, old) :: put rest key node

def remove (entries : Entries) (key : String) : Entries :=
  entries.filter fun entry => entry.1 ≠ key

end Entries

namespace Node

def emptyTable : Node := .table false false []

/-- Changes the table at the end of a path. Tables that are missing on the way are made, implicit
ones; `dotted` says that the path belongs to a dotted key, which enters no table that has a header
of its own. Of doubled headers it is the last table that is entered. -/
def modifyAt (dotted : Bool) (change : Node → Option Node) : (path : List String) → Node → Option Node
  | [], node => change node
  | key :: path, .table implicit isDotted entries =>
      match Entries.get? entries key with
      | none => do
          let child ← modifyAt dotted change path (.table true dotted [])
          return .table implicit isDotted (Entries.put entries key child)
      | some (.leaf _) => none
      | some (.tables elements) => do
          let last ← elements.getLast?
          let child ← modifyAt dotted change path last
          return .table implicit isDotted
            (Entries.put entries key (.tables (elements.dropLast ++ [child])))
      | some (.table childImplicit childDotted childEntries) =>
          if dotted ∧ !childImplicit then none
          else do
            let child ← modifyAt dotted change path (.table childImplicit childDotted childEntries)
            return .table implicit isDotted (Entries.put entries key child)
  | _ :: _, _ => none

def insert (node : Node) (path : List String) (key : String) (value : Value) : Option Node :=
  modifyAt true (fun
    | .table implicit isDotted entries =>
        if isDotted = path.isEmpty then none
        else match Entries.get? entries key with
          | some _ => none
          | none => some (.table implicit isDotted (Entries.put entries key (.leaf value)))
    | _ => none) path node

mutual

def toValue : Node → Value
  | .leaf value => value
  | .table _ _ entries => .table (entryValues entries)
  | .tables elements => .array (elementValues elements)

def entryValues : List (String × Node) → Table
  | [] => []
  | (key, node) :: rest => (key, node.toValue) :: entryValues rest

def elementValues : List Node → List Value
  | [] => []
  | node :: rest => node.toValue :: elementValues rest

end

end Node

end PacketLink.Toml
