import PacketLink.Monitor.Decoded
import PacketLink.Proofs.Json.Objects

namespace PacketLink

/-! The line of JSON that a monitor prints for a packet: an object whose members are the framing fields of
the packet, each under its name, and those that do not apply are left out. -/

namespace Json

theorem plain_append {text other : String} : Plain (text ++ other) ↔ Plain text ∧ Plain other := by
  simp only [Plain, String.toList_append, List.forall_mem_append]

theorem plain_toString (number : Nat) : Plain (toString number) := by
  intro char member
  rw [Nat.toString_eq_ofList_toDigits, String.toList_ofList] at member
  have digit := Decimal.digits_toDigits number char member
  have large : '0' ≤ char := (of_decide_eq_true digit).1
  exact ⟨Char.le_trans (by decide) large, Decimal.ne_of_isDigit digit (by decide),
    Decimal.ne_of_isDigit digit (by decide)⟩

-- Only the characters of the text are looked at, not all that there are.
instance (text : String) : Decidable (Plain text) :=
  List.decidableBAll (fun char => ' ' ≤ char ∧ char ≠ '"' ∧ char ≠ '\\') text.toList

end Json

open Json (Plain plain_append plain_toString)

/-- The texts of errors are words and numbers. -/
theorem FramingError.plain_message (reason : FramingError) : Plain reason.message := by
  unfold message
  cases reason <;> simp only [plain_append, plain_toString, and_true] <;> decide

namespace Monitor.Decoded

/-- The members of a packet's object. -/
def members (decoded : Decoded) : List (String × Json.Value) :=
  let always := [
    ("direction", .text (match decoded.direction with | .tx => "tx" | .rx => "rx")),
    ("reset_marker", .truth decoded.resetMarker),
    ("flip", .truth decoded.flip),
    ("ack", .truth decoded.ack),
    ("index", .number decoded.index),
    ("total", .number decoded.total),
    ("payload_len", .number decoded.payloadLength)]
  let subHeader := match decoded.subHeader with
    | none => []
    | some header => [
        ("command", .number header.command.toNat),
        ("length", .number header.length.toNat)]
  let error := match decoded.error with
    | none => []
    | some reason => [("error", .text reason.message)]
  always ++ subHeader ++ error

theorem json_eq_compact (decoded : Decoded) : decoded.json = Json.compact decoded.members := by
  obtain ⟨direction, resetMarker, flip, ack, index, total, payloadLength, subHeader, error⟩ := decoded
  cases direction <;> cases subHeader <;> cases error <;> rfl

theorem plainMember_members (decoded : Decoded) :
    ∀ member ∈ decoded.members, Json.PlainMember member := by
  obtain ⟨direction, resetMarker, flip, ack, index, total, payloadLength, subHeader, error⟩ := decoded
  cases direction <;> cases subHeader <;> cases error <;>
    simp [members, Json.PlainMember, Json.Value.IsPlain, FramingError.plain_message]
  all_goals decide

theorem object?_json (decoded : Decoded) : Json.object? decoded.json = some decoded.members := by
  rw [json_eq_compact]
  exact Json.object?_compact decoded.plainMember_members

end Monitor.Decoded

end PacketLink
