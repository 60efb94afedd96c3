import Mathlib.Data.List.Forall2
import PacketLink.Proofs.Text.Ascii
import PacketLink.Text.Hex

namespace PacketLink.Hex

/-! The digits of hexadecimal text: sixteen characters in either case, each for a value, and two of
them for a byte. -/

def lowerDigits : List Char := "0123456789abcdef".toList

def upperDigits : List Char := "0123456789ABCDEF".toList

def IsDigit (char : Char) : Prop := char ∈ lowerDigits ∨ char ∈ upperDigits

/-- The character is the digit of the value, in one case or the other. -/
def StandsFor (char : Char) (value : Nat) : Prop :=
  lowerDigits[value]? = some char ∨ upperDigits[value]? = some char

instance (char : Char) (value : Nat) : Decidable (StandsFor char value) :=
  inferInstanceAs (Decidable (_ ∨ _))

theorem standsFor_lt {char : Char} {value : Nat} (digit : StandsFor char value) : value < 16 := by
  cases digit with
  | inl lower => exact (List.getElem?_eq_some_iff.mp lower).1
  | inr upper => exact (List.getElem?_eq_some_iff.mp upper).1

theorem isDigit_iff (char : Char) : IsDigit char ↔ ∃ value, StandsFor char value := by
  simp only [IsDigit, StandsFor, List.mem_iff_getElem?, exists_or]

theorem value?_of_foreign {char : Char} (foreign : 128 ≤ char.toNat) : value? char = none := by
  have upTo (last : Char) (ascii : last.toNat < 128) : ¬ char ≤ last := by
    intro below
    have : char.toNat ≤ last.toNat := below
    omega
  simp [value?, upTo '9' (by decide), upTo 'f' (by decide), upTo 'F' (by decide)]

theorem value?_of_standsFor {char : Char} {value : Nat} (digit : StandsFor char value) :
    value? char = some value := by
  have lowers : ∀ value, value < 16 → lowerDigits[value]?.bind value? = some value := by decide
  have uppers : ∀ value, value < 16 → upperDigits[value]?.bind value? = some value := by decide
  have bound := standsFor_lt digit
  cases digit with
  | inl lower => simpa [lower] using lowers value bound
  | inr upper => simpa [upper] using uppers value bound

theorem ascii_of_value? {char : Char} {value : Nat} (found : value? char = some value) :
    char.toNat < 128 := by
  apply Decidable.byContradiction
  intro foreign
  rw [value?_of_foreign (by omega)] at found
  contradiction

theorem isDigit_of_value? {char : Char} {value : Nat} (found : value? char = some value) :
    IsDigit char := by
  have checked : ∀ code, code < 128 → value? (Char.ofNat code) ≠ none →
      Char.ofNat code ∈ lowerDigits ∨ Char.ofNat code ∈ upperDigits := by decide +kernel
  exact Char.of_ascii (P := fun char => value? char ≠ none → IsDigit char) checked
    (ascii_of_value? found) (by simp [found])

theorem value?_eq_some {char : Char} {value : Nat} :
    value? char = some value ↔ StandsFor char value := by
  constructor
  · intro found
    obtain ⟨other, digit⟩ := (isDigit_iff char).mp (isDigit_of_value? found)
    have same : other = value := by
      have := value?_of_standsFor digit
      rw [found] at this
      exact (Option.some.inj this).symm
    rwa [same] at digit
  · exact value?_of_standsFor

theorem ascii_of_isDigit {char : Char} (digit : IsDigit char) : char.toNat < 128 := by
  obtain ⟨_, digit⟩ := (isDigit_iff char).mp digit
  exact ascii_of_value? (value?_of_standsFor digit)

theorem value?_toLower (char : Char) : value? char.toLower = value? char :=
  Char.of_toLower (by decide +kernel) char

/-- The halves of each byte, the high one first. -/
def nibbles (bytes : Bytes) : List Nat :=
  bytes.flatMap fun byte => [byte.toNat / 16, byte.toNat % 16]

theorem digit_standsFor {value : Nat} (bound : value < 16) : StandsFor (digit value) value := by
  have checked : ∀ value, value < 16 → lowerDigits[value]? = some (digit value) := by decide
  exact .inl (checked value bound)

theorem halves_ofNat {high low : Nat} (highBound : high < 16) (lowBound : low < 16) :
    (UInt8.ofNat (high * 16 + low)).toNat / 16 = high ∧
      (UInt8.ofNat (high * 16 + low)).toNat % 16 = low := by
  rw [UInt8.toNat_ofNat']
  omega

theorem ofNat_halves (byte : UInt8) :
    UInt8.ofNat (byte.toNat / 16 * 16 + byte.toNat % 16) = byte := by
  rw [Nat.div_add_mod', UInt8.ofNat_toNat]

theorem byteChars_standsFor (bytes : Bytes) :
    List.Forall₂ StandsFor (bytes.flatMap byteChars) (nibbles bytes) := by
  induction bytes with
  | nil => exact .nil
  | cons byte rest induction =>
      have bound := byte.toNat_lt
      have high : byte.toNat / 16 < 16 := by omega
      have low : byte.toNat % 16 < 16 := by omega
      exact .cons (digit_standsFor high) (.cons (digit_standsFor low) induction)

end PacketLink.Hex
