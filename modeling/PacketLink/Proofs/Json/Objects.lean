import PacketLink.Json.Syntax
import PacketLink.Proofs.Text.DecimalDigits

namespace PacketLink.Json

/-! Objects whose members are texts, numbers and truth values. A text that is written without escapes and
without blanks between the parts is read back as its members, in their order. -/

inductive Value where
  | text (content : String)
  | number (count : Nat)
  | truth (holds : Bool)
deriving DecidableEq

def value? : Text → Option (Value × Text)
  | '"' :: rest => (string? ('"' :: rest)).map fun (text, rest) => (.text text, rest)
  | 't' :: rest => (after? "rue" rest).map (.truth true, ·)
  | 'f' :: rest => (after? "alse" rest).map (.truth false, ·)
  | text => (wholeNumber? text).map fun (digits, rest) => (.number (Decimal.value digits), rest)

/-- One more member, its name first. -/
def member? (members : List (String × Value)) (text : Text) :
    Option (List (String × Value) × Text) := do
  let (name, rest) ← string? text
  let (value, rest) ← value? (skipBlanks (← colon? rest))
  return (members ++ [(name, value)], rest)

/-- The members of the object that a text holds. -/
def object? (text : String) : Option (List (String × Value)) :=
  match skipBlanks text.toList with
  | '\x7b' :: rest => do
      let (members, rest) ← items? member? '\x7d' [] rest
      guard (skipBlanks rest).isEmpty
      return members
  | _ => none

/-! ## Compact text -/

def Value.compact : Value → String
  | .text content => "\"" ++ content ++ "\""
  | .number count => toString count
  | .truth holds => toString holds

/-- The object of these members, as a text without blanks. -/
def compact (members : List (String × Value)) : String :=
  "\x7b" ++ ",".intercalate (members.map fun (name, value) => "\"" ++ name ++ "\":" ++ value.compact) ++
    "\x7d"

/-! The same texts, as the characters that a reader takes. -/

def quoted (text : String) : Text := '"' :: (text.toList ++ ['"'])

def Value.chars : Value → Text
  | .text content => quoted content
  | .number count => Nat.toDigits 10 count
  | .truth holds => (toString holds).toList

theorem Value.toList_compact (value : Value) : value.compact.toList = value.chars := by
  cases value with
  | text content => simp [Value.compact, chars, quoted]
  | number count => rw [Value.compact, chars, Nat.toString_eq_ofList_toDigits, String.toList_ofList]
  | truth holds => rfl

def memberChars (member : String × Value) : Text := quoted member.1 ++ ':' :: member.2.chars

/-- The text of members, parted by commas. -/
def membersChars (members : List (String × Value)) : Text := [','].intercalate (members.map memberChars)

theorem toList_compact (members : List (String × Value)) :
    (compact members).toList = '\x7b' :: (membersChars members ++ ['\x7d']) := by
  have each (member : String × Value) :
      ("\"" ++ member.1 ++ "\":" ++ member.2.compact).toList = memberChars member := by
    simp [memberChars, quoted, member.2.toList_compact]
  have all : members.map (String.toList ∘ fun (name, value) => "\"" ++ name ++ "\":" ++ value.compact) =
      members.map memberChars :=
    List.map_congr_left fun member _ => each member
  rw [compact, String.toList_append, String.toList_append, String.toList_intercalate, List.map_map, all]
  rfl

/-- Stands in a string as it is. -/
def Plain (text : String) : Prop := ∀ char ∈ text.toList, ' ' ≤ char ∧ char ≠ '"' ∧ char ≠ '\\'

/-- What follows a member. -/
def Ends (char : Char) : Prop := char = ',' ∨ char = '\x7d'

theorem stringWithin_plain {chars rest : Text} (plain : ∀ char ∈ chars, ' ' ≤ char ∧ char ≠ '"' ∧ char ≠ '\\')
    {rounds : Nat} (enough : chars.length < rounds) :
    stringWithin rounds (chars ++ '"' :: rest) = some (chars, rest) := by
  induction chars generalizing rounds with
  | nil =>
      cases rounds with
      | zero => cases enough
      | succ rounds => rfl
  | cons first chars ih =>
      cases rounds with
      | zero => cases enough
      | succ rounds =>
          rw [List.forall_mem_cons] at plain
          obtain ⟨⟨printable, quote, backslash⟩, later⟩ := plain
          have inner := ih later (Nat.lt_of_succ_lt_succ enough)
          have passed : (guard (' ' ≤ first) : Option Unit) = some () := if_pos printable
          rw [List.cons_append, stringWithin, passed, inner]
          · rfl
          · exact quote
          · exact backslash

theorem string?_quoted {text : String} (plain : Plain text) (rest : Text) :
    string? (quoted text ++ rest) = some (text, rest) := by
  have enough : text.toList.length < (text.toList ++ '"' :: rest).length + 1 := by
    simp only [List.length_append]
    omega
  have read : stringWithin _ (text.toList ++ '"' :: rest) = some (text.toList, rest) :=
    stringWithin_plain plain enough
  rw [quoted, List.cons_append, List.append_assoc, List.cons_append, List.nil_append, string?, read,
    Option.map_some]
  exact congrArg (fun content => some (content, rest)) String.ofList_toList

theorem not_digit_of_ends {char : Char} (ends : Ends char) : Decimal.isDigit char = false := by
  rcases ends with rfl | rfl <;> rfl

theorem wholeNumber?_toDigits (number : Nat) {char : Char} (ends : Ends char) (rest : Text) :
    wholeNumber? (Nat.toDigits 10 number ++ char :: rest) =
      some (Nat.toDigits 10 number, char :: rest) := by
  have outside := not_digit_of_ends ends
  rcases Nat.eq_zero_or_pos number with rfl | positive
  · simp [wholeNumber?, outside]
  · obtain ⟨first, more, same, all, nonzero⟩ := Decimal.toDigits_eq_cons number
    have taken : (first :: more ++ char :: rest).takeWhile Decimal.isDigit = first :: more := by
      rw [List.takeWhile_append_of_pos all, List.takeWhile_cons_of_neg (by simp [outside]),
        List.append_nil]
    have left : (first :: more ++ char :: rest).dropWhile Decimal.isDigit = char :: rest := by
      rw [List.dropWhile_append_of_pos all, List.dropWhile_cons_of_neg (by simp [outside])]
    rw [same, wholeNumber?, taken, left]
    · rfl
    · exact fun _ zero => nonzero positive (List.cons.inj zero).1

/-- A text in it stands in strings as it is. -/
def Value.IsPlain : Value → Prop
  | .text content => Plain content
  | .number _ | .truth _ => True

theorem value?_chars {value : Value} (plain : value.IsPlain)
    {char : Char} (ends : Ends char) (rest : Text) :
    value? (value.chars ++ char :: rest) = some (value, char :: rest) := by
  cases value with
  | text content =>
      have read := string?_quoted plain (char :: rest)
      change (string? (quoted content ++ char :: rest)).map _ = _
      rw [read]
      rfl
  | number count =>
      have read := wholeNumber?_toDigits count ends rest
      obtain ⟨first, more, same, all, -⟩ := Decimal.toDigits_eq_cons count
      rw [Value.chars, same, List.cons_append, value?, ← List.cons_append, ← same, read,
        Option.map_some]
      · exact congrArg (fun number => some (Value.number number, char :: rest))
          (Decimal.value_toDigits count)
      all_goals
        exact fun _ same => Decimal.ne_of_isDigit all.head (by decide) (List.cons.inj same).1
  | truth holds => cases holds <;> rfl

theorem skipBlanks_cons {first : Char} (visible : isBlank first = false) (rest : Text) :
    skipBlanks (first :: rest) = first :: rest :=
  List.dropWhile_cons_of_neg (by simp [visible])

theorem Value.skipBlanks_chars (value : Value) (rest : Text) :
    skipBlanks (value.chars ++ rest) = value.chars ++ rest := by
  cases value with
  | text content => exact skipBlanks_cons (by decide) _
  | truth holds => cases holds <;> exact skipBlanks_cons (by decide) _
  | number count =>
      obtain ⟨first, more, same, all, -⟩ := Decimal.toDigits_eq_cons count
      have visible : isBlank first = false := by
        have other (blank : Char) (outside : Decimal.isDigit blank = false) : first ≠ blank :=
          Decimal.ne_of_isDigit all.head outside
        simp [isBlank, other ' ', other '\n', other '\t', other '\r', Decimal.isDigit]
      rw [chars, same, List.cons_append]
      exact skipBlanks_cons visible _

def PlainMember (member : String × Value) : Prop := Plain member.1 ∧ member.2.IsPlain

theorem member?_memberChars {member : String × Value} (plain : PlainMember member)
    (members : List (String × Value)) {char : Char} (ends : Ends char) (rest : Text) :
    member? members (memberChars member ++ char :: rest) = some (members ++ [member], char :: rest) := by
  obtain ⟨name, value⟩ := member
  have named := string?_quoted plain.1 (':' :: (value.chars ++ char :: rest))
  have parted : colon? (':' :: (value.chars ++ char :: rest)) = some (value.chars ++ char :: rest) := rfl
  have read := value?_chars plain.2 ends rest
  simp only [member?, memberChars, List.append_assoc, List.cons_append, named, Option.bind_eq_bind,
    Option.bind_some, parted, value.skipBlanks_chars, read, Option.pure_def]

theorem membersChars_cons (first second : String × Value) (more : List (String × Value)) :
    membersChars (first :: second :: more) =
      memberChars first ++ ',' :: membersChars (second :: more) := by
  simp [membersChars, List.intercalate_cons_cons]

theorem skipBlanks_memberChars (member : String × Value) (rest : Text) :
    skipBlanks (memberChars member ++ rest) = memberChars member ++ rest :=
  skipBlanks_cons (by decide) _

theorem itemsWithin_membersChars {first : String × Value} {members : List (String × Value)}
    (plain : ∀ member ∈ first :: members, PlainMember member) (earlier : List (String × Value))
    {rounds : Nat} (enough : members.length < rounds) (rest : Text) :
    itemsWithin member? '\x7d' rounds earlier (membersChars (first :: members) ++ '\x7d' :: rest) =
      some (earlier ++ first :: members, rest) := by
  induction members generalizing first earlier rounds with
  | nil =>
      cases rounds with
      | zero => cases enough
      | succ rounds =>
          have read := member?_memberChars (plain first List.mem_cons_self) earlier (.inr rfl) rest
          have alone : membersChars [first] = memberChars first := List.intercalate_singleton
          have closed : skipBlanks ('\x7d' :: rest) = '\x7d' :: rest := skipBlanks_cons (by decide) _
          rw [alone, itemsWithin, skipBlanks_memberChars, read]
          simp only [Option.bind_eq_bind, Option.bind_some, closed]
          rfl
  | cons second members ih =>
      cases rounds with
      | zero => cases enough
      | succ rounds =>
          rw [List.forall_mem_cons] at plain
          obtain ⟨head, tail⟩ := plain
          have read := member?_memberChars head earlier (.inl rfl)
            (membersChars (second :: members) ++ '\x7d' :: rest)
          have later := ih tail (earlier ++ [first]) (Nat.lt_of_succ_lt_succ enough)
          have parted (more : Text) : skipBlanks (',' :: more) = ',' :: more :=
            skipBlanks_cons (by decide) _
          rw [membersChars_cons, List.append_assoc, List.cons_append, itemsWithin,
            skipBlanks_memberChars, read]
          simp only [Option.bind_eq_bind, Option.bind_some, parted, later]
          simp

theorem length_lt_membersChars (first : String × Value) (members : List (String × Value)) :
    members.length < (membersChars (first :: members)).length := by
  induction members generalizing first with
  | nil => exact Nat.succ_pos _
  | cons second members ih =>
      have later := ih second
      rw [membersChars_cons, List.length_append, List.length_cons, List.length_cons]
      omega

theorem membersChars_eq_cons (first : String × Value) (members : List (String × Value)) :
    ∃ more, membersChars (first :: members) = '"' :: more := by
  cases members with
  | nil => exact ⟨_, List.intercalate_singleton⟩
  | cons second members => exact ⟨_, membersChars_cons first second members⟩

theorem object?_compact {first : String × Value} {members : List (String × Value)}
    (plain : ∀ member ∈ first :: members, PlainMember member) :
    object? (compact (first :: members)) = some (first :: members) := by
  have opened (text : Text) : skipBlanks ('\x7b' :: text) = '\x7b' :: text :=
    skipBlanks_cons (by decide) _
  have enough : members.length < (membersChars (first :: members) ++ ['\x7d']).length := by
    rw [List.length_append]
    exact Nat.lt_add_right _ (length_lt_membersChars first members)
  have read := itemsWithin_membersChars plain [] enough []
  have items : items? member? '\x7d' [] (membersChars (first :: members) ++ ['\x7d']) =
      some (first :: members, []) := by
    obtain ⟨more, same⟩ := membersChars_eq_cons first members
    rw [same, List.cons_append] at read ⊢
    have begun : skipBlanks ('"' :: (more ++ ['\x7d'])) = '"' :: (more ++ ['\x7d']) :=
      skipBlanks_cons (by decide) _
    rw [items?, begun]
    exact read
  simp only [object?, toList_compact, opened, items]
  rfl

end PacketLink.Json
