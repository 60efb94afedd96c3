import Mathlib.Data.Option.Basic
import PacketLink.Text.Decimal

namespace PacketLink.Decimal

/-! The decimal digits of a number, and that they spell it. -/

variable {digits : List Char} {first : Char}

/-- Digits and nothing else. -/
def Digits (digits : List Char) : Prop := ∀ char ∈ digits, isDigit char = true

namespace Digits

theorem head (all : Digits (first :: digits)) : isDigit first = true := all first (.head _)

theorem tail (all : Digits (first :: digits)) : Digits digits :=
  fun char member => all char (.tail _ member)

theorem drop (all : Digits digits) (count : Nat) : Digits (digits.drop count) :=
  fun char member => all char (List.mem_of_mem_drop member)

end Digits

theorem ne_of_isDigit {other : Char} (digit : isDigit first = true) (outside : isDigit other = false) :
    first ≠ other := by
  rintro rfl
  simp [digit] at outside

theorem isDigit_digitChar : ∀ value, value < 10 → isDigit value.digitChar = true := by decide

theorem digits_toDigits (number : Nat) : Digits (Nat.toDigits 10 number) := by
  induction number using Nat.strongRecOn with
  | ind number ih =>
      intro char member
      rw [Nat.toDigits_eq_if (by decide)] at member
      split at member
      · obtain rfl := List.mem_singleton.mp member
        exact isDigit_digitChar number ‹_›
      · rcases List.mem_append.mp member with inner | last
        · exact ih (number / 10) (by omega) char inner
        · obtain rfl := List.mem_singleton.mp last
          exact isDigit_digitChar _ (Nat.mod_lt _ (by decide))

/-- A number has a first digit, and only zero begins with a zero. -/
theorem toDigits_eq_cons (number : Nat) : ∃ first more, Nat.toDigits 10 number = first :: more ∧
    Digits (first :: more) ∧ (0 < number → first ≠ '0') := by
  have all := digits_toDigits number
  induction number using Nat.strongRecOn with
  | ind number ih =>
      rw [Nat.toDigits_eq_if (by decide)] at all ⊢
      split at all
      · rename_i small
        rw [if_pos small]
        refine ⟨_, [], rfl, all, fun positive => ?_⟩
        exact (by decide : ∀ value, value < 10 → 0 < value → value.digitChar ≠ '0') number small positive
      · rename_i large
        rw [if_neg large]
        obtain ⟨first, more, same, -, nonzero⟩ := ih (number / 10) (by omega) (digits_toDigits _)
        rw [same, List.cons_append] at all ⊢
        exact ⟨first, _, rfl, all, fun _ => nonzero (by omega)⟩

theorem value_append (digits : List Char) (last : Char) :
    value (digits ++ [last]) = value digits * 10 + (last.toNat - '0'.toNat) := by
  simp [value]

theorem value_toDigits (number : Nat) : value (Nat.toDigits 10 number) = number := by
  have single : ∀ value, value < 10 → value.digitChar.toNat - '0'.toNat = value := by decide
  induction number using Nat.strongRecOn with
  | ind number ih =>
      rw [Nat.toDigits_eq_if (by decide)]
      split
      · rename_i small
        simpa [value] using single number small
      · rw [value_append, ih _ (by omega), single _ (by omega)]
        omega

end PacketLink.Decimal
