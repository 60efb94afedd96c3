import Mathlib.Data.Option.Basic
import PacketLink.Toml.Document

namespace PacketLink.Toml

/-! Where the values of a document come from. Whatever lines and headers do to the tables, each value in
them is one that was read behind a key; in particular all integers have 64 bits. -/

/-- All values in a tree of tables are of one kind. -/
inductive Node.Holds (kind : Value → Prop) : Node → Prop
  | leaf {value : Value} (kept : kind value) : Holds kind (.leaf value)
  | table {isImplicit dotted : Bool} {entries : Entries} (each : ∀ entry ∈ entries, Holds kind entry.2) :
      Holds kind (.table isImplicit dotted entries)
  | tables {elements : List Node} (each : ∀ node ∈ elements, Holds kind node) :
      Holds kind (.tables elements)

variable {kind : Value → Prop} {entries : Entries} {key : String} {node next : Node}

def Entries.Holds (kind : Value → Prop) (entries : Entries) : Prop :=
  ∀ entry ∈ entries, entry.2.Holds kind

namespace Entries.Holds

theorem get? (holds : Entries.Holds kind entries) (found : Entries.get? entries key = some node) :
    node.Holds kind := by
  rw [Entries.get?, Option.map_eq_some_iff] at found
  obtain ⟨entry, found, rfl⟩ := found
  exact holds entry (List.mem_of_find?_eq_some found)

theorem put (holds : Entries.Holds kind entries) (kept : node.Holds kind) :
    Entries.Holds kind (Entries.put entries key node) := by
  induction entries with
  | nil => simpa [Entries.put, Entries.Holds] using kept
  | cons entry entries ih =>
      obtain ⟨first, others⟩ := List.forall_mem_cons.mp holds
      rw [Entries.put]
      split
      · exact List.forall_mem_cons.mpr ⟨kept, others⟩
      · exact List.forall_mem_cons.mpr ⟨first, ih others⟩

theorem remove (holds : Entries.Holds kind entries) : Entries.Holds kind (Entries.remove entries key) :=
  fun entry member => holds entry (List.mem_filter.mp member).1

end Entries.Holds

namespace Node.Holds

theorem of_table {isImplicit dotted : Bool} (holds : (Node.table isImplicit dotted entries).Holds kind) :
    Entries.Holds kind entries := by
  cases holds with
  | table each => exact each

theorem empty {isImplicit dotted : Bool} : (Node.table isImplicit dotted []).Holds kind := .table nofun

theorem of_tables {elements : List Node} (holds : (Node.tables elements).Holds kind) :
    ∀ node ∈ elements, node.Holds kind := by
  cases holds with
  | tables each => exact each

theorem modifyAt {dotted : Bool} {change : Node → Option Node} {path : List String}
    (changes : ∀ node next, node.Holds kind → change node = some next → next.Holds kind)
    (holds : node.Holds kind) (changed : node.modifyAt dotted change path = some next) :
    next.Holds kind := by
  fun_induction Node.modifyAt dotted change path node generalizing next with
  | case1 node => exact changes node next holds changed
  | case2 key path isImplicit isDotted entries free ih =>
      simp only [Option.bind_eq_bind, Option.bind_eq_some_iff, Option.pure_def, Option.some.injEq] at changed
      obtain ⟨child, found, rfl⟩ := changed
      exact .table (holds.of_table.put (ih empty found))
  | case4 key path isImplicit isDotted entries elements held ih =>
      simp only [Option.bind_eq_bind, Option.bind_eq_some_iff, Option.pure_def, Option.some.injEq] at changed
      obtain ⟨last, behind, child, found, rfl⟩ := changed
      have inside := (holds.of_table.get? held).of_tables
      have changed := ih last (inside last (List.mem_of_getLast? behind)) found
      apply table (holds.of_table.put (tables _))
      intro node member
      rcases List.mem_append.mp member with front | same
      · exact inside node (List.dropLast_subset _ front)
      · obtain rfl := List.mem_singleton.mp same
        exact changed
  | case6 key path isImplicit isDotted entries childImplicit childDotted childEntries held entered ih =>
      simp only [Option.bind_eq_bind, Option.bind_eq_some_iff, Option.pure_def, Option.some.injEq] at changed
      obtain ⟨child, found, rfl⟩ := changed
      exact .table (holds.of_table.put (ih (holds.of_table.get? held) found))
  | case3 | case5 | case7 => cases changed

theorem insert {path : List String} {value : Value} (holds : node.Holds kind) (kept : kind value)
    (inserted : node.insert path key value = some next) : next.Holds kind := by
  refine modifyAt ?_ holds inserted
  intro node next holds changed
  split at changed
  · rename_i isImplicit isDotted entries
    split at changed
    · cases changed
    · split at changed
      · cases changed
      · cases changed
        exact .table (holds.of_table.put (.leaf kept))
  · cases changed

theorem place {table : Node} (kept : table.Holds kind) (holds : node.Holds kind)
    (placed : Draft.place key table node = some next) : next.Holds kind := by
  unfold Draft.place at placed
  split at placed
  · split at placed
    all_goals cases placed
    all_goals exact .table (holds.of_table.put kept)
  · cases placed

theorem placeElement {table : Node} (kept : table.Holds kind) (holds : node.Holds kind)
    (placed : Draft.placeElement key table node = some next) : next.Holds kind := by
  unfold Draft.placeElement at placed
  split at placed
  · split at placed
    · cases placed
      exact .table (holds.of_table.put (.tables (by simpa using kept)))
    · rename_i elements held
      cases placed
      apply Holds.table (holds.of_table.put (.tables _))
      intro node member
      rcases List.mem_append.mp member with front | same
      · exact (holds.of_table.get? held).of_tables node front
      · obtain rfl := List.mem_singleton.mp same
        exact kept
    · cases placed
  · cases placed

theorem find {path : List String} (holds : node.Holds kind)
    (found : Draft.reopened.find node path = some next) : next.Holds kind := by
  fun_induction Draft.reopened.find node path generalizing next with
  | case1 node =>
      cases found
      exact holds
  | case2 isImplicit dotted entries key path elements held ih =>
      obtain ⟨last, behind, later⟩ := Option.bind_eq_some_iff.mp found
      have inside := (holds.of_table.get? held).of_tables
      exact ih last (inside last (List.mem_of_getLast? behind)) later
  | case3 isImplicit dotted entries key path child single held ih =>
      exact ih (holds.of_table.get? held) found
  | case4 | case5 => cases found

end Node.Holds

/-- The tables of a draft. -/
structure Draft.Holds (kind : Value → Prop) (draft : Draft) : Prop where
  root : draft.root.Holds kind
  current : draft.current.Holds kind

namespace Draft.Holds

variable {draft following final : Draft} {text rest : Text} {path : List String}

theorem close (holds : draft.Holds kind) (closed : draft.close = some node) : node.Holds kind := by
  unfold Draft.close at closed
  split at closed
  · cases closed
    exact holds.current
  · refine Node.Holds.modifyAt ?_ holds.root closed
    intro node next inner placed
    split at placed
    · exact holds.current.placeElement inner placed
    · exact holds.current.place inner placed

theorem reopened {parents : List String} {root table : Node} (holds : node.Holds kind)
    (opened : Draft.reopened node parents key = some (root, table)) :
    root.Holds kind ∧ table.Holds kind := by
  unfold Draft.reopened at opened
  split at opened
  · cases opened
  · rename_i entered made
    have kept : entered.Holds kind := by
      refine Node.Holds.modifyAt ?_ holds made
      intro node next inner same
      cases same
      exact inner
    split at opened
    · rename_i entries found
      have inner := (kept.find found).of_table
      split at opened
      · cases opened
        exact ⟨kept, .empty⟩
      · rename_i content held
        obtain ⟨removed, changed, same⟩ := Option.map_eq_some_iff.mp opened
        cases same
        refine ⟨Node.Holds.modifyAt ?_ kept changed, .table (inner.get? held).of_table⟩
        intro node next inner removing
        split at removing
        · cases removing
          exact .table inner.of_table.remove
        · cases removing
      · cases opened
    · cases opened

theorem openTable (holds : draft.Holds kind) (opened : draft.openTable path = some following) :
    following.Holds kind := by
  simp only [Draft.openTable, Option.bind_eq_bind, Option.bind_eq_some_iff, Option.pure_def,
    Option.some.injEq] at opened
  obtain ⟨root, closed, key, last, ⟨entered, table⟩, began, rfl⟩ := opened
  obtain ⟨rooted, current⟩ := reopened (holds.close closed) began
  exact ⟨rooted, current⟩

theorem openElement (holds : draft.Holds kind) (opened : draft.openElement path = some following) :
    following.Holds kind := by
  simp only [Draft.openElement, Option.bind_eq_bind, Option.bind_eq_some_iff, Option.pure_def,
    Option.some.injEq] at opened
  obtain ⟨root, closed, key, last, entered, changed, rfl⟩ := opened
  refine ⟨Node.Holds.modifyAt ?_ (holds.close closed) changed, .empty⟩
  intro node next inner same
  split at same
  · split at same
    · cases same
      exact inner
    · cases same
      exact inner
    · cases same
  · cases same

variable (values : ∀ text value rest, value? (depthLimit - 1) text = some (value, rest) → kind value)
include values

theorem line? (holds : draft.Holds kind) (taken : Toml.line? draft text = some (following, rest)) :
    following.Holds kind := by
  unfold Toml.line? at taken
  split at taken
  · simp only [Option.bind_eq_bind, Option.bind_eq_some_iff, Option.pure_def, Option.some.injEq,
      Prod.mk.injEq] at taken
    obtain ⟨⟨path, _⟩, -, opened, found, rfl, -⟩ := taken
    exact holds.openElement found
  · simp only [Option.bind_eq_bind, Option.bind_eq_some_iff, Option.pure_def, Option.some.injEq,
      Prod.mk.injEq] at taken
    obtain ⟨⟨path, _⟩, -, opened, found, rfl, -⟩ := taken
    exact holds.openTable found
  · simp only [keyValue?, Option.bind_eq_bind, Option.bind_eq_some_iff, Option.pure_def,
      Option.some.injEq, Prod.mk.injEq] at taken
    obtain ⟨_, ⟨_, -, _, -, ⟨value, _⟩, spelled, rfl⟩, _, -, current, inserted, rfl, -⟩ := taken
    exact ⟨holds.root, holds.current.insert (values _ _ _ spelled) inserted⟩

theorem linesWithin {rounds : Nat} (holds : draft.Holds kind)
    (read : Toml.linesWithin rounds draft text = some final) : final.Holds kind := by
  induction rounds generalizing draft text with
  | zero => cases read
  | succ rounds ih =>
      unfold Toml.linesWithin at read
      split at read
      · cases read
        exact holds
      · dsimp only at read
        split at read
        · exact ih holds read
        · split at read
          · cases read
            exact holds
          · simp only [Option.bind_eq_bind, Option.bind_eq_some_iff] at read
            obtain ⟨⟨following, rest⟩, taken, later⟩ := read
            exact ih (holds.line? values taken) later

end Draft.Holds

/-! ## Integers -/

/-- All integers in a value have 64 bits. -/
inductive Value.Bounded : Value → Prop
  | string (text : String) : Bounded (.string text)
  | integer {value : Int} (least : -(Nat.pow 2 63 : Int) ≤ value) (most : value < (Nat.pow 2 63 : Int)) :
      Bounded (.integer value)
  | float (literal : String) : Bounded (.float literal)
  | boolean (value : Bool) : Bounded (.boolean value)
  | datetime (literal : String) : Bounded (.datetime literal)
  | array {elements : List Value} (each : ∀ element ∈ elements, Bounded element) : Bounded (.array elements)
  | table {entries : Table} (each : ∀ entry ∈ entries, Bounded entry.2) : Bounded (.table entries)

theorem Node.entryValues_eq_map (entries : Entries) :
    entryValues entries = entries.map fun entry => (entry.1, entry.2.toValue) := by
  induction entries with
  | nil => rfl
  | cons entry entries ih => simp [entryValues, ih]

theorem Node.elementValues_eq_map (elements : List Node) :
    elementValues elements = elements.map toValue := by
  induction elements with
  | nil => rfl
  | cons node elements ih => simp [elementValues, ih]

theorem Node.Holds.toValue (holds : node.Holds Value.Bounded) : node.toValue.Bounded := by
  induction holds with
  | leaf kept => exact kept
  | table each ih =>
      rw [Node.toValue, entryValues_eq_map]
      exact .table (List.forall_mem_map.mpr ih)
  | tables each ih =>
      rw [Node.toValue, elementValues_eq_map]
      exact .array (List.forall_mem_map.mpr ih)

theorem bounded_of_based {base : Nat} {isDigit : Char → Bool} {text rest : Text} {value : Int}
    (read : based? base isDigit text = some (value, rest)) : (Value.integer value).Bounded := by
  obtain ⟨⟨digits, left⟩, -, found⟩ := Option.bind_eq_some_iff.mp read
  obtain ⟨_, small, same⟩ := Option.bind_eq_some_iff.mp found
  cases same
  have below := (Option.guard_eq_some' _).mp small
  exact .integer (by omega) (by omega)

theorem bounded_of_integer {text rest : Text} {value : Int} (read : integer? text = some (value, rest)) :
    (Value.integer value).Bounded := by
  unfold integer? at read
  split at read
  · exact bounded_of_based read
  · exact bounded_of_based read
  · exact bounded_of_based read
  · generalize sign text = parts at read
    obtain ⟨negative, unsigned⟩ := parts
    obtain ⟨⟨digits, left⟩, -, signed⟩ := Option.bind_eq_some_iff.mp read
    dsimp only at signed
    split at signed
    · obtain ⟨_, small, same⟩ := Option.bind_eq_some_iff.mp signed
      cases same
      have below := (Option.guard_eq_some' _).mp small
      have positive : 0 < Nat.pow 2 63 := by decide
      exact .integer (by omega) (by omega)
    · obtain ⟨_, small, same⟩ := Option.bind_eq_some_iff.mp signed
      cases same
      have below := (Option.guard_eq_some' _).mp small
      exact .integer (by omega) (by omega)

theorem bounded_of_numeric {text rest : Text} {value : Value}
    (read : numeric? text = some (value, rest)) : value.Bounded := by
  unfold numeric? at read
  split at read
  · cases read
    exact .datetime _
  · split at read
    · cases read
      exact .float _
    · obtain ⟨⟨number, left⟩, found, same⟩ := Option.map_eq_some_iff.mp read
      cases same
      exact bounded_of_integer found

theorem bounded_of_scalar {text rest : Text} {value : Value}
    (read : scalarValue? text = some (value, rest)) : value.Bounded := by
  unfold scalarValue? at read
  split at read
  case h_7 => exact bounded_of_numeric read
  all_goals
    obtain ⟨_, -, same⟩ := Option.map_eq_some_iff.mp read
    cases same
    constructor

section Readers

variable {reader : Text → Option (Value × Text)} {text rest : Text}
  (values : ∀ text value rest, reader text = some (value, rest) → value.Bounded)
include values

theorem bounded_of_elements {rounds : Nat} {elements : List Value}
    (read : elementsWithin reader rounds text = some (elements, rest)) :
    ∀ element ∈ elements, element.Bounded := by
  induction rounds generalizing text rest elements with
  | zero => cases read
  | succ rounds ih =>
      unfold elementsWithin at read
      split at read
      · cases read
        exact nofun
      · simp only [Option.bind_eq_bind, Option.bind_eq_some_iff] at read
        obtain ⟨⟨element, left⟩, first, behind⟩ := read
        have kept := values _ _ _ first
        dsimp only at behind
        split at behind
        · simp only [Option.bind_eq_some_iff, Option.pure_def, Option.some.injEq, Prod.mk.injEq] at behind
          obtain ⟨⟨others, _⟩, later, rfl, -⟩ := behind
          exact List.forall_mem_cons.mpr ⟨kept, ih later⟩
        · cases behind
          simpa using kept
        · cases behind

theorem holds_of_pairs {rounds : Nat} (holds : node.Holds Value.Bounded)
    (read : pairsWithin reader rounds node text = some (next, rest)) : next.Holds Value.Bounded := by
  induction rounds generalizing text node with
  | zero => cases read
  | succ rounds ih =>
      simp only [pairsWithin, keyValue?, Option.bind_eq_bind, Option.bind_eq_some_iff, Option.pure_def,
        Option.some.injEq] at read
      obtain ⟨_, ⟨_, -, _, -, _, spelled, rfl⟩, table, inserted, behind⟩ := read
      have kept := holds.insert (values _ _ _ spelled) inserted
      split at behind
      · exact ih kept behind
      · cases behind
        exact kept
      · cases behind

end Readers

theorem bounded_of_value {depth : Nat} {text rest : Text} {value : Value}
    (read : value? depth text = some (value, rest)) : value.Bounded := by
  induction depth generalizing text value rest with
  | zero =>
      unfold value? at read
      split at read
      · cases read
      · cases read
      · exact bounded_of_scalar read
  | succ depth ih =>
      unfold value? at read
      split at read
      · obtain ⟨⟨elements, left⟩, found, same⟩ := Option.map_eq_some_iff.mp read
        cases same
        exact .array (bounded_of_elements (fun _ _ _ => ih) found)
      · dsimp only [inlineTable?] at read
        split at read
        · cases read
          exact .table nofun
        · obtain ⟨⟨table, left⟩, found, same⟩ := Option.map_eq_some_iff.mp read
          cases same
          exact (holds_of_pairs (fun _ _ _ => ih) .empty found).toValue
      · exact bounded_of_scalar read

theorem bounded_of_read {text : String} {table : Table} (described : read text = some table) :
    ∀ entry ∈ table, entry.2.Bounded := by
  simp only [read, Option.bind_eq_bind, Option.bind_eq_some_iff] at described
  obtain ⟨draft, lines, node, closed, same⟩ := described
  have holds : draft.Holds Value.Bounded :=
    Draft.Holds.linesWithin (fun _ _ _ => bounded_of_value) ⟨.empty, .empty⟩ lines
  have bounded := (holds.close closed).toValue
  split at same
  · rename_i entries described
    cases same
    rw [described] at bounded
    cases bounded with
    | table each => exact each
  · cases same

end PacketLink.Toml
