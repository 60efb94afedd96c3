namespace PacketLink

/-! Characters below 128 and beyond: what is checked for the first, and why the second never look
like them, neither in lower case nor in UTF-8. -/

namespace Char

theorem toNat_ofNat_of_valid {number : Nat} (valid : number.isValidChar) :
    (Char.ofNat number).toNat = number := by
  rw [Char.ofNat, dif_pos valid]
  rfl

theorem of_ascii {P : Char → Prop} (checked : ∀ code, code < 128 → P (Char.ofNat code))
    {char : Char} (ascii : char.toNat < 128) : P char := by
  have here := checked char.toNat ascii
  rwa [Char.ofNat_toNat] at here

theorem toLower_of_foreign {char : Char} (foreign : 128 ≤ char.toNat) : char.toLower = char := by
  have beyond : ¬ (char.val ≥ 'A'.val ∧ char.val ≤ 'Z'.val) := by
    intro within
    have below : char.toNat ≤ 90 := within.2
    omega
  exact dif_neg beyond

/-- What does not see the case of the ASCII letters does not see the case of any character. -/
theorem of_toLower {α : Type} {f : Char → α}
    (checked : ∀ code, code < 128 → f (Char.ofNat code).toLower = f (Char.ofNat code))
    (char : Char) : f char.toLower = f char := by
  by_cases ascii : char.toNat < 128
  · exact of_ascii (P := fun char => f char.toLower = f char) checked ascii
  · rw [toLower_of_foreign (by omega)]

/-- The character of a byte's number. -/
def ofByte (byte : UInt8) : Char := Char.ofNat byte.toNat

theorem ofByte_toNat (byte : UInt8) : (ofByte byte).toNat = byte.toNat := by
  have bound := byte.toNat_lt
  exact toNat_ofNat_of_valid (Or.inl (by omega))

/-- The bytes of a character, each taken for a character. -/
def units (char : Char) : List Char := (String.utf8EncodeChar char).map ofByte

theorem length_units (char : Char) : (units char).length = char.utf8Size := by
  rw [units, List.length_map, String.length_utf8EncodeChar]

theorem units_ne_nil (char : Char) : units char ≠ [] := by
  apply List.ne_nil_of_length_pos
  rw [length_units]
  exact char.utf8Size_pos

theorem units_of_ascii {char : Char} (ascii : char.toNat < 128) : units char = [char] := by
  have checked : ∀ code, code < 128 → units (Char.ofNat code) = [Char.ofNat code] := by
    decide +kernel
  exact of_ascii (P := fun char => units char = [char]) checked ascii

theorem flatMap_units_of_ascii {chars : List Char} (ascii : ∀ char ∈ chars, char.toNat < 128) :
    chars.flatMap units = chars := by
  induction chars with
  | nil => rfl
  | cons char rest induction =>
      obtain ⟨first, others⟩ := List.forall_mem_cons.mp ascii
      rw [List.flatMap_cons, units_of_ascii first, induction others]
      rfl

theorem foreign_encoded {char : Char} (foreign : 128 ≤ char.toNat) :
    ∀ byte ∈ String.utf8EncodeChar char, 128 ≤ byte.toNat := by
  have notAscii : ¬ char.val.toNat ≤ 127 := by
    have : 128 ≤ char.val.toNat := foreign
    omega
  simp only [String.utf8EncodeChar, notAscii, ↓reduceIte]
  -- two bytes, or else three or four
  split
  case' isFalse => split
  all_goals
    simp only [List.mem_cons, List.not_mem_nil, or_false, forall_eq_or_imp, forall_eq,
      UInt8.toNat_ofNat']
    omega

theorem foreign_of_mem_units {char : Char} (foreign : 128 ≤ char.toNat) {unit : Char}
    (found : unit ∈ units char) : 128 ≤ unit.toNat := by
  obtain ⟨byte, encoded, made⟩ := List.mem_map.mp found
  rw [← made, ofByte_toNat]
  exact foreign_encoded foreign byte encoded

end Char

/-- The UTF-8 bytes of a text, each taken for a character. -/
def utf8Units (text : String) : List Char := text.toUTF8.data.toList.map Char.ofByte

theorem utf8Units_eq (text : String) : utf8Units text = text.toList.flatMap Char.units := by
  have encoded : text.toUTF8.data.toList = text.toList.flatMap String.utf8EncodeChar := by
    rw [String.toUTF8, ← String.utf8Encode_toList, List.utf8Encode, List.toList_data_toByteArray]
  rw [utf8Units, encoded, List.map_flatMap]
  rfl

theorem utf8ByteSize_eq (text : String) : text.utf8ByteSize = (utf8Units text).length := by
  rw [utf8Units, List.length_map, ← String.size_toByteArray]
  rfl

end PacketLink
