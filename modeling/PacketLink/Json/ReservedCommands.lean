import PacketLink.Command
import PacketLink.Json.Syntax

namespace PacketLink

/-! Reserved commands in JSON: an object with a member for each of them, or an array of up to three
words. What is missing has its standard value; other members do not count. -/

namespace Json

/-- A word: digits only. -/
def word? (text : Text) : Option (UInt16 × Text) := do
  let (digits, rest) ← wholeNumber? text
  guard (Decimal.value digits < 0x10000)
  match rest with
  | '.' :: _ | 'e' :: _ | 'E' :: _ => none
  | _ => return (UInt16.ofNat (Decimal.value digits), rest)

structure ReservedMembers where
  debugMessage : Option Command := none
  retry : Option Command := none
  deviceStatus : Option Command := none

namespace ReservedMembers

def fresh (member : Option Command) (text : Text) : Option (Option Command × Text) :=
  match member with
  | some _ => none
  | none => (word? text).map fun (word, rest) => (some word, rest)

def member? (members : ReservedMembers) (text : Text) : Option (ReservedMembers × Text) := do
  let (name, rest) ← string? text
  let rest := skipBlanks (← colon? rest)
  if name = "debug_message" then
    let (word, rest) ← fresh members.debugMessage rest
    return ({ members with debugMessage := word }, rest)
  else if name = "retry" then
    let (word, rest) ← fresh members.retry rest
    return ({ members with retry := word }, rest)
  else if name = "device_status" then
    let (word, rest) ← fresh members.deviceStatus rest
    return ({ members with deviceStatus := word }, rest)
  else
    return (members, ← skipValue? rest.length rest)

/-- One element of the array; there are three at most. -/
def element? (members : ReservedMembers) (text : Text) : Option (ReservedMembers × Text) :=
  match members with
  | ⟨none, _, _⟩ => (word? text).map fun (word, rest) => (⟨some word, none, none⟩, rest)
  | ⟨first, none, _⟩ => (word? text).map fun (word, rest) => (⟨first, some word, none⟩, rest)
  | ⟨first, second, none⟩ => (word? text).map fun (word, rest) => (⟨first, second, some word⟩, rest)
  | _ => none

def commands (members : ReservedMembers) : ReservedCommands :=
  let standard : ReservedCommands := {}
  ⟨members.debugMessage.getD standard.debugMessage, members.retry.getD standard.retry,
    members.deviceStatus.getD standard.deviceStatus⟩

end ReservedMembers

end Json

namespace ReservedCommands

def ofJson? (text : String) : Option ReservedCommands := do
  let (members, rest) ← match Json.skipBlanks text.toList with
    | '[' :: rest => Json.items? Json.ReservedMembers.element? ']' {} rest
    | '\x7b' :: rest => Json.items? Json.ReservedMembers.member? '\x7d' {} rest
    | _ => none
  guard (Json.skipBlanks rest).isEmpty
  return members.commands

def json (reserved : ReservedCommands) : String :=
  "\x7b\"debug_message\":" ++ toString reserved.debugMessage.toNat ++
    ",\"retry\":" ++ toString reserved.retry.toNat ++
    ",\"device_status\":" ++ toString reserved.deviceStatus.toNat ++ "\x7d"

end ReservedCommands

end PacketLink
