import PacketLink.Proofs.Toml.Numerals
import PacketLink.Toml.Document

namespace PacketLink.Toml

/-! Documents of settings: lines that set keys of the document, and a header with lines that set keys of
one table. Such a document is read as these keys with their values, in the order of the lines. -/

variable {text rest : Text} {draft next final : Draft} {entries : Entries}

/-! ## Keys -/

/-- A key that needs no quotes. -/
structure Bare (key : String) : Prop where
  nonempty : key ≠ ""
  chars : key.toList.all isBareKeyChar = true

namespace Bare

variable {key : String} (bare : Bare key)
include bare

theorem isBareKeyChar_of_mem : ∀ char ∈ key.toList, isBareKeyChar char = true :=
  List.all_eq_true.mp bare.chars

theorem exists_cons : ∃ first more, key.toList = first :: more ∧ isBareKeyChar first = true := by
  cases same : key.toList with
  | nil => exact absurd (String.toList_eq_nil_iff.mp same) bare.nonempty
  | cons first more => exact ⟨first, more, rfl, bare.isBareKeyChar_of_mem first (same ▸ .head _)⟩

/-- A text that begins with the key begins with no other sign. -/
theorem append_ne {letter : Char} (outside : isBareKeyChar letter = false) (text other : Text) :
    key.toList ++ text ≠ letter :: other := by
  obtain ⟨first, more, same, inside⟩ := bare.exists_cons
  rw [same, List.cons_append]
  exact fun begins => ne_of_holds inside outside (List.cons.inj begins).1

theorem skipBlanks_append (text : Text) : skipBlanks (key.toList ++ text) = key.toList ++ text := by
  obtain ⟨first, more, same, inside⟩ := bare.exists_cons
  have space : first ≠ ' ' := ne_of_holds inside (by decide)
  have tab : first ≠ '\t' := ne_of_holds inside (by decide)
  simp [same, skipBlanks, isBlank, space, tab]

theorem simpleKey_append {stop : Char} (outside : isBareKeyChar stop = false) :
    simpleKey? (key.toList ++ stop :: rest) = some (key, stop :: rest) := by
  have taken : (key.toList ++ stop :: rest).takeWhile isBareKeyChar = key.toList := by
    rw [List.takeWhile_append_of_pos bare.isBareKeyChar_of_mem]
    simp [outside]
  have dropped : (key.toList ++ stop :: rest).dropWhile isBareKeyChar = stop :: rest := by
    rw [List.dropWhile_append_of_pos bare.isBareKeyChar_of_mem]
    simp [outside]
  rw [simpleKey?]
  · simp [taken, dropped, bare.nonempty]
  · exact bare.append_ne (by decide) _
  · exact bare.append_ne (by decide) _

/-- A key with no dot behind it is a path of one part. -/
theorem key_append {stop : Char} (outside : isBareKeyChar stop = false)
    (undotted : ∀ text, skipBlanks (stop :: rest) ≠ '.' :: text) :
    key? (key.toList ++ stop :: rest) = some (([], key), skipBlanks (stop :: rest)) := by
  have parts : keyPartsWithin (depthLimit - 1) (key.toList ++ stop :: rest) =
      some ([key], skipBlanks (stop :: rest)) := by
    rw [depthLimit, keyPartsWithin, bare.skipBlanks_append, bare.simpleKey_append outside]
    simp
  simp [key?, parts]

end Bare

/-! ## Lines -/

/-- A value in this spelling is read back ahead of a line end. -/
def Spelled (spelling : String) (value : Value) : Prop :=
  ∀ rest, value? (depthLimit - 1) (skipBlanks (' ' :: (spelling.toList ++ '\n' :: rest))) =
    some (value, '\n' :: rest)

theorem spelled_number {number : Nat} (small : number < Nat.pow 2 63) :
    Spelled (toString number) (.integer number) := by
  intro rest
  have unskipped : skipBlanks (' ' :: ((toString number).toList ++ '\n' :: rest)) =
      Nat.toDigits 10 number ++ '\n' :: rest := by
    obtain ⟨first, digits, same, all, -⟩ := Decimal.toDigits_eq_cons number
    have space : first ≠ ' ' := ne_of_holds all.head (by decide)
    have tab : first ≠ '\t' := ne_of_holds all.head (by decide)
    simp [Nat.toString_eq_repr, same, skipBlanks, isBlank, space, tab]
  rw [unskipped, value_toDigits small]

theorem spelled_boolean (value : Bool) : Spelled (toString value) (.boolean value) := by
  intro rest
  cases value <;> rfl

theorem lineEnd_line_feed : lineEnd? ('\n' :: text) = some text := by
  simp [lineEnd?, skipBlanks, isBlank, skipComment, lineFeed?]

/-- A key and the value that it is set to. -/
structure Setting where
  key : String
  spelling : String
  value : Value
  bare : Bare key
  spelled : Spelled spelling value

namespace Setting

variable (setting : Setting)

/-- What the line adds to the current table. -/
def entry : String × Node := (setting.key, .leaf setting.value)

def line : Text := setting.key.toList ++ ' ' :: '=' :: ' ' :: (setting.spelling.toList ++ ['\n'])

theorem line_append : setting.line ++ text =
    setting.key.toList ++ ' ' :: '=' :: ' ' :: (setting.spelling.toList ++ '\n' :: text) := by
  simp [line]

theorem keyValue_line : keyValue? (value? (depthLimit - 1)) (setting.line ++ text) =
    some ((([], setting.key), setting.value), '\n' :: text) := by
  rw [line_append, keyValue?, setting.bare.key_append (by decide)]
  · have sign : after? "=" (skipBlanks (' ' :: '=' :: ' ' :: (setting.spelling.toList ++ '\n' :: text))) =
        some (' ' :: (setting.spelling.toList ++ '\n' :: text)) := rfl
    simp [sign, setting.spelled text]
  · simp [skipBlanks, isBlank]

/-- A line that sets a key of the current table. -/
theorem line?_line {current : Node}
    (inserted : draft.current.insert [] setting.key setting.value = some current) :
    line? draft (setting.line ++ text) = some ({ draft with current := current }, text) := by
  rw [line?]
  · simp [setting.keyValue_line, lineEnd_line_feed, inserted]
  all_goals
    rw [line_append]
    exact fun other => setting.bare.append_ne (by decide : isBareKeyChar '[' = false) _ _

end Setting

/-! ## Documents -/

theorem Entries.get?_of_fresh {key : String} (fresh : key ∉ entries.map Prod.fst) :
    Entries.get? entries key = none := by
  rw [Entries.get?, Option.map_eq_none_iff, List.find?_eq_none]
  intro entry member same
  exact fresh (of_decide_eq_true same ▸ List.mem_map_of_mem member)

theorem Entries.put_of_fresh {key : String} {node : Node} (fresh : key ∉ entries.map Prod.fst) :
    Entries.put entries key node = entries ++ [(key, node)] := by
  induction entries with
  | nil => rfl
  | cons entry entries ih =>
      rw [List.map_cons, List.mem_cons, not_or] at fresh
      simp [Entries.put, Ne.symm fresh.1, ih fresh.2]

/-- A key that is new to a table is added behind the others. -/
theorem Node.insert_of_fresh {key : String} {isImplicit : Bool} (fresh : key ∉ entries.map Prod.fst)
    (value : Value) : (Node.table isImplicit false entries).insert [] key value =
      some (.table isImplicit false (entries ++ [(key, .leaf value)])) := by
  simp [insert, modifyAt, Entries.get?_of_fresh fresh, Entries.put_of_fresh fresh]

/-- More rounds do not change what lines were read to. -/
theorem linesWithin_mono {rounds more : Nat} (read : linesWithin rounds draft text = some final)
    (enough : rounds ≤ more) : linesWithin more draft text = some final := by
  induction rounds generalizing more draft text with
  | zero => cases read
  | succ rounds ih =>
      obtain ⟨more, rfl⟩ : ∃ others, more = others + 1 := ⟨more - 1, by omega⟩
      have later := Nat.le_of_succ_le_succ enough
      unfold linesWithin at read ⊢
      split at read
      · exact read
      · dsimp only at read ⊢
        split at read
        · exact ih read later
        · split at read
          · exact read
          · cases found : line? draft (skipBlanks text) with
            | none =>
                rw [found] at read
                cases read
            | some taken =>
                rw [found] at read
                exact ih read later

/-- A line that begins with neither a blank, a comment nor a line end. -/
theorem linesWithin_line {rounds : Nat} {first : Char}
    (begins : ∀ other ∈ [' ', '\t', '#', '\n', '\r'], first ≠ other)
    (taken : line? draft (first :: text) = some (next, rest)) :
    linesWithin (rounds + 1) draft (first :: text) = linesWithin rounds next rest := by
  simp only [List.forall_mem_cons] at begins
  obtain ⟨space, tab, hash, feed, back, -⟩ := begins
  have flush : skipBlanks (first :: text) = first :: text := by simp [skipBlanks, isBlank, space, tab]
  have plain : skipComment (first :: text) = first :: text := by simp [skipComment, hash]
  have unbroken : lineFeed? (first :: text) = none := by simp [lineFeed?, feed, back]
  simp [linesWithin, flush, plain, unbroken, taken]

/-- The lines of a text take one draft to another. -/
def Reads (draft : Draft) (text : Text) (final : Draft) : Prop :=
  linesWithin (text.length + 1) draft text = some final

namespace Reads

theorem nil (draft : Draft) : Reads draft [] draft := rfl

/-- One line taken, what is left is read with the rounds that are left. -/
theorem of_line {line : Text} (later : Reads next rest final) (shorter : rest.length < line.length)
    (taken : ∀ rounds, linesWithin (rounds + 1) draft line = linesWithin rounds next rest) :
    Reads draft line final :=
  (taken line.length).trans (linesWithin_mono later shorter)

theorem blank (later : Reads draft text final) : Reads draft ('\n' :: text) final :=
  later.of_line (Nat.lt_succ_self _) fun _ => rfl

theorem setting {current : Node} (setting : Setting)
    (inserted : draft.current.insert [] setting.key setting.value = some current)
    (later : Reads { draft with current := current } text final) :
    Reads draft (setting.line ++ text) final := by
  apply later.of_line
  · simp [Setting.line]
    omega
  · intro rounds
    have taken : line? draft (setting.line ++ text) = some ({ draft with current }, text) :=
      setting.line?_line inserted
    obtain ⟨first, more, same, inside⟩ := setting.bare.exists_cons
    rw [Setting.line_append, same, List.cons_append] at taken ⊢
    apply linesWithin_line _ taken
    intro other member
    have marks : [' ', '\t', '#', '\n', '\r'].all (fun other => !isBareKeyChar other) = true := by decide
    exact ne_of_holds inside (by simpa using List.all_eq_true.mp marks other member)

/-- Lines that set keys which are new to the current table, and to each other. -/
theorem settings {settings : List Setting} {root : Node} {path : List String} {isImplicit isElement : Bool}
    (fresh : (entries.map Prod.fst ++ settings.map Setting.key).Nodup)
    (later : Reads ⟨root, .table isImplicit false (entries ++ settings.map Setting.entry), path, isElement⟩
      text final) :
    Reads ⟨root, .table isImplicit false entries, path, isElement⟩ (settings.flatMap Setting.line ++ text)
      final := by
  induction settings generalizing entries with
  | nil => simpa using later
  | cons setting settings ih =>
      have unset : setting.key ∉ entries.map Prod.fst := fun member =>
        (List.nodup_append.mp fresh).2.2 _ member _ (.head _) rfl
      rw [List.flatMap_cons, List.append_assoc]
      apply Reads.setting setting (Node.insert_of_fresh unset setting.value)
      apply ih
      · simpa using fresh
      · simpa [Setting.entry] using later

theorem header {name : String} (bare : Bare name) (opened : draft.openTable [name] = some next)
    (later : Reads next text final) :
    Reads draft ('[' :: (name.toList ++ ']' :: '\n' :: text)) final := by
  apply later.of_line
  · simp
    omega
  · intro rounds
    apply linesWithin_line (by simp)
    have closed : after? "]" (skipBlanks (']' :: '\n' :: text)) = some ('\n' :: text) := rfl
    have path : header? "]" (name.toList ++ ']' :: '\n' :: text) = some ([name], text) := by
      rw [header?, bare.key_append (by decide)]
      · simp [closed, lineEnd_line_feed]
      · simp [skipBlanks, isBlank]
    rw [line?]
    · simp [path, opened]
    · exact bare.append_ne (by decide) _

end Reads

theorem Node.entryValues_append (entries more : Entries) :
    entryValues (entries ++ more) = entryValues entries ++ entryValues more := by
  induction entries with
  | nil => rfl
  | cons entry entries ih => simp [entryValues, ih]

theorem Node.entryValues_settings (settings : List Setting) :
    entryValues (settings.map Setting.entry) =
      settings.map fun setting => (setting.key, setting.value) := by
  induction settings with
  | nil => rfl
  | cons setting settings ih => simp [Setting.entry, entryValues, toValue, ih]

variable {name : String}

/-- A header of a new name opens an empty table beside what was set so far. -/
theorem Draft.openTable_of_fresh (fresh : name ∉ entries.map Prod.fst) :
    (Draft.mk .emptyTable (.table false false entries) [] false).openTable [name] =
      some ⟨.table false false entries, .emptyTable, [name], false⟩ := by
  simp [openTable, close, reopened, reopened.find, Node.modifyAt, Entries.get?_of_fresh fresh]

theorem Draft.close_of_fresh (fresh : name ∉ entries.map Prod.fst) (current : Node) :
    (Draft.mk (.table false false entries) current [name] false).close =
      some (.table false false (entries ++ [(name, current)])) := by
  simp [close, place, Node.modifyAt, Entries.get?_of_fresh fresh, Entries.put_of_fresh fresh]

/-- What settings of the document and of one table are read as. -/
theorem read_settings {text : String} {outer inner : List Setting} (bare : Bare name)
    (distinct : (outer.map Setting.key ++ [name]).Nodup) (others : (inner.map Setting.key).Nodup)
    (lines : text.toList = outer.flatMap Setting.line ++
      '\n' :: '[' :: (name.toList ++ ']' :: '\n' :: inner.flatMap Setting.line)) :
    read text = some (outer.map (fun setting => (setting.key, setting.value)) ++
      [(name, .table (inner.map fun setting => (setting.key, setting.value)))]) := by
  have unmarked : withoutMark text.toList = text.toList := by
    rw [withoutMark]
    rw [lines]
    cases outer with
    | nil => exact fun _ begins => absurd (List.cons.inj begins).1 (by decide)
    | cons setting outer =>
        rw [List.flatMap_cons, List.append_assoc, Setting.line_append]
        exact setting.bare.append_ne (by decide) _
  have keys : (outer.map Setting.entry).map Prod.fst = outer.map Setting.key := by
    simp [Setting.entry, Function.comp_def]
  have fresh : name ∉ (outer.map Setting.entry).map Prod.fst := fun member =>
    (List.nodup_append.mp distinct).2.2 _ (keys ▸ member) _ (.head _) rfl
  have inside : Reads ⟨.table false false (outer.map Setting.entry), .table false false [], [name], false⟩
      (inner.flatMap Setting.line ++ [])
      ⟨.table false false (outer.map Setting.entry), .table false false (inner.map Setting.entry),
        [name], false⟩ := by
    apply Reads.settings
    · simpa using others
    · exact .nil _
  rw [List.append_nil] at inside
  have whole : Reads .start text.toList
      ⟨.table false false (outer.map Setting.entry), .table false false (inner.map Setting.entry),
        [name], false⟩ := by
    rw [lines]
    apply Reads.settings
    · simpa using (List.nodup_append.mp distinct).1
    exact .blank (.header bare (Draft.openTable_of_fresh fresh) inside)
  unfold Reads at whole
  simp [read, unmarked, whole, Draft.close_of_fresh fresh, Node.toValue, Node.entryValues_append,
    Node.entryValues_settings, Node.entryValues]

end PacketLink.Toml
