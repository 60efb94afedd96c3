import PacketLink.Toml.Reader

namespace PacketLink.Toml

/-! TOML documents: lines that set keys, and headers that open tables. -/

/-- A document while it is read: the closed tables, and the one that lines now go to. -/
structure Draft where
  root : Node
  current : Node
  /-- Path of the current table; the root's is empty. -/
  path : List String
  /-- Whether the current table is one of several under a doubled header. -/
  isElement : Bool

namespace Draft

def start : Draft := ⟨.emptyTable, .emptyTable, [], false⟩

/-- Puts a table under a key that is free or held by an implicit table. -/
def place (key : String) (table : Node) : Node → Option Node
  | .table implicit dotted entries =>
      match Entries.get? entries key with
      | none | some (.table true _ _) => some (.table implicit dotted (Entries.put entries key table))
      | some _ => none
  | _ => none

def placeElement (key : String) (table : Node) : Node → Option Node
  | .table implicit dotted entries =>
      match Entries.get? entries key with
      | none => some (.table implicit dotted (Entries.put entries key (.tables [table])))
      | some (.tables elements) =>
          some (.table implicit dotted (Entries.put entries key (.tables (elements ++ [table]))))
      | some _ => none
  | _ => none

def close (draft : Draft) : Option Node :=
  match draft.path.getLast? with
  | none => some draft.current
  | some key =>
      let placed := if draft.isElement then placeElement key draft.current else place key draft.current
      draft.root.modifyAt false placed draft.path.dropLast

/-- What a table at a header begins with: the entries of an implicit table of that name, or none. A
table that has a header of its own or comes from dotted keys cannot be opened again. -/
def reopened (root : Node) (parents : List String) (key : String) : Option (Node × Node) :=
  match root.modifyAt false some parents with
  | none => none
  | some root =>
      match find root parents with
      | some (.table _ _ entries) =>
          match Entries.get? entries key with
          | none => some (root, .emptyTable)
          | some (.table true false content) =>
              (root.modifyAt false (fun
                | .table implicit dotted entries => some (.table implicit dotted (Entries.remove entries key))
                | _ => none) parents).map fun root => (root, .table false false content)
          | some _ => none
      | _ => none
where
  /-- The table at a path; of several under a doubled header it is the last. -/
  find : Node → List String → Option Node
    | node, [] => some node
    | .table _ _ entries, key :: path =>
        match Entries.get? entries key with
        | some (.tables elements) => elements.getLast?.bind fun last => find last path
        | some child => find child path
        | none => none
    | _, _ :: _ => none

def openTable (draft : Draft) (path : List String) : Option Draft := do
  let root ← draft.close
  let key ← path.getLast?
  let (root, table) ← reopened root path.dropLast key
  return ⟨root, table, path, false⟩

def openElement (draft : Draft) (path : List String) : Option Draft := do
  let root ← draft.close
  let key ← path.getLast?
  let root ← root.modifyAt false (fun
    | .table implicit dotted entries =>
        match Entries.get? entries key with
        | none | some (.tables _) => some (.table implicit dotted entries)
        | some _ => none
    | _ => none) path.dropLast
  return ⟨root, .emptyTable, path, true⟩

end Draft

/-- The key in a header, up to the closing brackets, and the rest of the line. -/
def header? (closing : String) (text : Text) : Option (List String × Text) := do
  let ((path, key), rest) ← key? text
  let rest ← after? closing rest
  let rest ← lineEnd? rest
  return (path ++ [key], rest)

def line? (draft : Draft) (text : Text) : Option (Draft × Text) :=
  match text with
  | '[' :: '[' :: rest => do
      let (path, rest) ← header? "]]" rest
      return (← draft.openElement path, rest)
  | '[' :: rest => do
      let (path, rest) ← header? "]" rest
      return (← draft.openTable path, rest)
  | _ => do
      let (((path, key), value), rest) ← keyValue? (value? (depthLimit - 1)) text
      let rest ← lineEnd? rest
      let current ← draft.current.insert path key value
      return ({ draft with current := current }, rest)

def linesWithin : (rounds : Nat) → Draft → Text → Option Draft
  | 0, _, _ => none
  | rounds + 1, draft, text =>
      match skipBlanks text with
      | [] => some draft
      | text =>
          match lineFeed? (skipComment text) with
          | some rest => linesWithin rounds draft rest
          | none =>
              match skipComment text with
              | [] => some draft
              | _ => do
                  let (draft, rest) ← line? draft text
                  linesWithin rounds draft rest

/-- A byte order mark at the start does not count. -/
def withoutMark : Text → Text
  | '\uFEFF' :: rest => rest
  | text => text

def read (text : String) : Option Table := do
  let text := withoutMark text.toList
  let draft ← linesWithin (text.length + 1) Draft.start text
  match (← draft.close).toValue with
  | .table entries => return entries
  | _ => none

end PacketLink.Toml
