import PacketLink.Proofs.Text.DecimalDigits
import PacketLink.Toml.Reader

namespace PacketLink.Toml

/-! Decimal numerals of a document. The digits of a number ahead of a line end are read as that number,
and not as the beginning of a date, a time or a float. -/

open Decimal (Digits digits_toDigits toDigits_eq_cons)

variable {digits : List Char} {first : Char} {text rest : Text}

/-! ## The digits of a number -/

theorem value_digitChar : ∀ value, value < 10 → Hex.value? value.digitChar = some value := by decide

theorem digitsValue_append (digits : List Char) (last : Char) :
    digitsValue 10 (digits ++ [last]) = digitsValue 10 digits * 10 + (Hex.value? last).getD 0 := by
  simp [digitsValue]

theorem digitsValue_toDigits (number : Nat) : digitsValue 10 (Nat.toDigits 10 number) = number := by
  induction number using Nat.strongRecOn with
  | ind number ih =>
      rw [Nat.toDigits_eq_if (by decide)]
      split
      · rename_i small
        simp [digitsValue, value_digitChar number small]
      · rw [digitsValue_append, ih _ (by omega), value_digitChar _ (by omega), Option.getD_some]
        omega

/-! ## Readers at a digit -/

theorem ne_of_holds {kind : Char → Bool} {other : Char} (inside : kind first = true)
    (outside : kind other = false) : first ≠ other := by
  rintro rfl
  simp [inside] at outside

section AtDigit

variable (digit : Decimal.isDigit first = true)
include digit

theorem sign_of_digit : sign (first :: text) = (false, first :: text) := by
  have minus : first ≠ '-' := ne_of_holds digit (by decide)
  have plus : first ≠ '+' := ne_of_holds digit (by decide)
  simp [sign, minus, plus]

theorem after?_of_digit {start : String} {letter : Char} {letters : List Char}
    (begins : start.toList = letter :: letters) (none : Decimal.isDigit letter = false) :
    after? start (first :: text) = Option.none := by
  have differs : letter ≠ first := (ne_of_holds digit none).symm
  simp [after?, begins, differs]

end AtDigit

theorem follow_digits (all : Digits digits) (read : List Char) :
    digitRun?.follow Decimal.isDigit read (digits ++ '\n' :: rest) =
      (read.reverse ++ digits, '\n' :: rest) := by
  induction digits generalizing read with
  | nil =>
      have none : Decimal.isDigit '\n' = false := by decide
      simp [digitRun?.follow, none]
  | cons first digits ih =>
      have mark : first ≠ '_' := ne_of_holds all.head (by decide)
      simp [digitRun?.follow, mark, all.head, ih all.tail]

theorem digitRun_digits (all : Digits (first :: digits)) :
    digitRun? Decimal.isDigit (first :: digits ++ '\n' :: rest) =
      some (first :: digits, '\n' :: rest) := by
  have mark : first ≠ '_' := ne_of_holds all.head (by decide)
  rw [List.cons_append, digitRun?, if_pos all.head, follow_digits all.tail]
  · rfl
  · exact mark

theorem decimal_toDigits (number : Nat) (rest : Text) :
    decimal? (Nat.toDigits 10 number ++ '\n' :: rest) =
      some (Nat.toDigits 10 number, '\n' :: rest) := by
  rcases Nat.eq_zero_or_pos number with rfl | positive
  · rfl
  · obtain ⟨first, more, same, all, nonzero⟩ := toDigits_eq_cons number
    rw [same, decimal?, digitRun_digits all]
    exact fun _ zero => nonzero positive (List.cons.inj zero).1

/-! ## What a number is not -/

/-- What is left behind a field of digits begins with a digit or is at the line end. -/
theorem rest_of_field {count least most value : Nat}
    (found : field? count least most (digits ++ '\n' :: rest) = some (value, text)) :
    text = digits.drop count ++ '\n' :: rest := by
  simp only [field?, Option.ite_none_right_eq_some, Option.some.injEq, Prod.mk.injEq] at found
  obtain ⟨⟨-, taken, -⟩, -, rfl⟩ := found
  apply List.drop_append_of_le_length
  apply Nat.le_of_not_lt
  intro few
  obtain ⟨more, rfl⟩ := Nat.exists_eq_add_of_lt few
  have within : '\n' ∈ (digits ++ '\n' :: rest).take (digits.length + more + 1) := by
    simp [Nat.add_assoc, List.take_append]
  exact absurd (List.all_eq_true.mp taken _ within) (by decide)

/-- A mark that begins with no digit is not there behind digits ahead of a line end. -/
theorem after?_of_digits {start : String} {letter : Char} {letters : List Char}
    (begins : start.toList = letter :: letters) (none : Decimal.isDigit letter = false)
    (inside : letter ≠ '\n') (all : Digits digits) :
    after? start (digits ++ '\n' :: rest) = Option.none := by
  cases digits with
  | nil => simp [after?, begins, inside]
  | cons first digits => exact after?_of_digit all.head begins none

theorem date_of_digits (all : Digits digits) : date? (digits ++ '\n' :: rest) = none := by
  unfold date?
  cases found : field? 4 0 9999 (digits ++ '\n' :: rest) with
  | none => rfl
  | some year =>
      obtain ⟨year, left⟩ := year
      obtain rfl := rest_of_field found
      have dash : after? "-" (digits.drop 4 ++ '\n' :: rest) = none :=
        after?_of_digits rfl (by decide) (by decide) (all.drop 4)
      simp [dash]

theorem time_of_digits (all : Digits digits) : time? (digits ++ '\n' :: rest) = none := by
  unfold time?
  cases found : field? 2 0 23 (digits ++ '\n' :: rest) with
  | none => rfl
  | some hour =>
      obtain ⟨hour, left⟩ := hour
      obtain rfl := rest_of_field found
      have colon : after? ":" (digits.drop 2 ++ '\n' :: rest) = none :=
        after?_of_digits rfl (by decide) (by decide) (all.drop 2)
      simp [colon]

theorem datetime_of_digits (all : Digits digits) : datetime? (digits ++ '\n' :: rest) = none := by
  simp [datetime?, date_of_digits all, time_of_digits all]

theorem exponent_line_feed : exponent? ('\n' :: rest) = none := rfl

/-- No fraction and no exponent follows the digits of a number. -/
theorem float_toDigits (number : Nat) : float? (Nat.toDigits 10 number ++ '\n' :: rest) = none := by
  have read := decimal_toDigits number rest
  obtain ⟨first, digits, same, all, -⟩ := toDigits_eq_cons number
  rw [same, List.cons_append] at read ⊢
  have inf : after? "inf" (first :: (digits ++ '\n' :: rest)) = none :=
    after?_of_digit all.head rfl (by decide)
  have nan : after? "nan" (first :: (digits ++ '\n' :: rest)) = none :=
    after?_of_digit all.head rfl (by decide)
  simp [float?, scientific?, specialFloat?, sign_of_digit all.head, read, fraction?,
    exponent_line_feed, inf, nan]

/-! ## A number is read back -/

theorem integer_toDigits {number : Nat} (small : number < Nat.pow 2 63) :
    integer? (Nat.toDigits 10 number ++ '\n' :: rest) = some ((number : Int), '\n' :: rest) := by
  have read := decimal_toDigits number rest
  have value := digitsValue_toDigits number
  rcases Nat.eq_zero_or_pos number with rfl | positive
  · rfl
  · obtain ⟨first, more, same, all, nonzero⟩ := toDigits_eq_cons number
    rw [same] at read value
    rw [same, List.cons_append, integer?, sign_of_digit all.head]
    · rw [List.cons_append] at read
      have accepted : (guard (number < Nat.pow 2 63) : Option Unit) = some () :=
        (Option.guard_eq_some' ()).mpr small
      simp [read, value, accepted]
    all_goals exact fun _ zero => nonzero positive (List.cons.inj zero).1

theorem numeric_toDigits {number : Nat} (small : number < Nat.pow 2 63) :
    numeric? (Nat.toDigits 10 number ++ '\n' :: rest) = some (.integer number, '\n' :: rest) := by
  rw [numeric?, datetime_of_digits (digits_toDigits number), float_toDigits, integer_toDigits small]
  rfl

theorem value_toDigits {number : Nat} (small : number < Nat.pow 2 63) (depth : Nat) :
    value? depth (Nat.toDigits 10 number ++ '\n' :: rest) = some (.integer number, '\n' :: rest) := by
  rw [← numeric_toDigits small]
  obtain ⟨first, digits, same, all, -⟩ := toDigits_eq_cons number
  have other {letter : Char} (none : Decimal.isDigit letter = false) :
      ∀ text, first :: (digits ++ '\n' :: rest) ≠ letter :: text :=
    fun _ begins => ne_of_holds all.head none (List.cons.inj begins).1
  rw [same, List.cons_append, value?, scalarValue?]
  all_goals exact other (by decide)

end PacketLink.Toml
