import PacketLink.Proofs.Text.Ascii
import PacketLink.Text.DebugText

namespace PacketLink

/-! Which text 16-bit code units spell, and which text a debug payload holds.

`Utf16.Spells` goes through the units from left to right. A high surrogate and a low one right behind
it are one character; every other surrogate is unpaired and stands for the replacement character, and
the unit behind it counts by itself. -/

namespace Utf16

/-- The first unit of a surrogate pair. -/
def High (unit : UInt16) : Prop := 0xD800 ≤ unit.toNat ∧ unit.toNat < 0xDC00

/-- The second unit of a surrogate pair. -/
def Low (unit : UInt16) : Prop := 0xDC00 ≤ unit.toNat ∧ unit.toNat < 0xE000

inductive Spells : List UInt16 → List Char → Prop
  | nil : Spells [] []
  | character {unit : UInt16} {units : List UInt16} {char : Char} {text : List Char}
      (noHigh : ¬ High unit) (noLow : ¬ Low unit) (same : char.toNat = unit.toNat)
      (rest : Spells units text) : Spells (unit :: units) (char :: text)
  | pair {high low : UInt16} {units : List UInt16} {char : Char} {text : List Char}
      (isHigh : High high) (isLow : Low low)
      (scalar : char.toNat = 0x10000 + 0x400 * (high.toNat - 0xD800) + (low.toNat - 0xDC00))
      (rest : Spells units text) : Spells (high :: low :: units) (char :: text)
  | unpairedHigh {unit : UInt16} {units : List UInt16} {text : List Char} (isHigh : High unit)
      (alone : ∀ next ∈ units.head?, ¬ Low next) (rest : Spells units text) :
      Spells (unit :: units) ('\uFFFD' :: text)
  | unpairedLow {unit : UInt16} {units : List UInt16} {text : List Char} (isLow : Low unit)
      (rest : Spells units text) : Spells (unit :: units) ('\uFFFD' :: text)

variable {unit high low : UInt16} {units : List UInt16} {text : List Char}

theorem isHigh_iff : isHigh unit = true ↔ High unit := by
  simp [isHigh, High, UInt16.le_iff_toNat_le, UInt16.lt_iff_toNat_lt]

theorem isLow_iff : isLow unit = true ↔ Low unit := by
  simp [isLow, Low, UInt16.le_iff_toNat_le, UInt16.lt_iff_toNat_lt]

theorem not_low_of_high (isHigh : High unit) : ¬ Low unit := by
  simp only [High, Low] at *
  omega

theorem toNat_pair (isHigh : High high) (isLow : Low low) :
    (pair high low).toNat = 0x10000 + 0x400 * (high.toNat - 0xD800) + (low.toNat - 0xDC00) := by
  simp only [High, Low] at isHigh isLow
  rw [pair, Char.toNat_ofNat_of_valid (Or.inr (by omega))]
  omega

theorem toNat_single (noHigh : ¬ High unit) (noLow : ¬ Low unit) :
    (single unit).toNat = unit.toNat := by
  have bound := unit.toNat_lt
  rw [single, if_neg (by simp [isHigh_iff, isLow_iff, noHigh, noLow])]
  simp only [High, Low] at noHigh noLow
  exact Char.toNat_ofNat_of_valid (by simp only [Nat.isValidChar]; omega)

theorem single_surrogate (surrogate : High unit ∨ Low unit) : single unit = '\uFFFD' := by
  rw [single, if_pos (by simpa [isHigh_iff, isLow_iff] using surrogate), replacement]

theorem decode_pair (isHigh : High high) (isLow : Low low) :
    decode (high :: low :: units) = pair high low :: decode units := by
  simp [decode, isHigh_iff, isLow_iff, isHigh, isLow]

/-- A unit that opens no pair stands by itself. -/
theorem decode_single (alone : High unit → ∀ next ∈ units.head?, ¬ Low next) :
    decode (unit :: units) = single unit :: decode units := by
  cases units with
  | nil => rfl
  | cons next rest =>
      have apart : ¬ (isHigh unit = true ∧ isLow next = true) := by
        rw [isHigh_iff, isLow_iff]
        rintro ⟨isHigh, isLow⟩
        exact alone isHigh next rfl isLow
      rw [decode, if_neg apart]

theorem spells_single (alone : High unit → ∀ next ∈ units.head?, ¬ Low next)
    (rest : Spells units text) : Spells (unit :: units) (single unit :: text) := by
  by_cases isHigh : High unit
  · rw [single_surrogate (.inl isHigh)]
    exact .unpairedHigh isHigh (alone isHigh) rest
  by_cases isLow : Low unit
  · rw [single_surrogate (.inr isLow)]
    exact .unpairedLow isLow rest
  · exact .character isHigh isLow (toNat_single isHigh isLow) rest

theorem spells_decode (units : List UInt16) : Spells units (decode units) := by
  fun_induction decode units with
  | case1 high low rest paired ih =>
      rw [isHigh_iff, isLow_iff] at paired
      exact .pair paired.1 paired.2 (toNat_pair paired.1 paired.2) ih
  | case2 high low rest apart ih =>
      rw [isHigh_iff, isLow_iff] at apart
      exact spells_single (fun isHigh next isNext isLow =>
        apart ⟨isHigh, Option.some.inj isNext ▸ isLow⟩) ih
  | case3 unit => exact spells_single (fun _ _ isNext => nomatch isNext) .nil
  | case4 => exact .nil

theorem Spells.decode_eq (spells : Spells units text) : decode units = text := by
  induction spells with
  | nil => rfl
  | character noHigh noLow same _ ih =>
      rw [decode_single fun isHigh => absurd isHigh noHigh, ih]
      exact congrArg (· :: _) (Char.toNat_inj.mp ((toNat_single noHigh noLow).trans same.symm))
  | pair isHigh isLow scalar _ ih =>
      rw [decode_pair isHigh isLow, ih]
      exact congrArg (· :: _) (Char.toNat_inj.mp ((toNat_pair isHigh isLow).trans scalar.symm))
  | unpairedHigh isHigh alone _ ih =>
      rw [decode_single fun _ => alone, single_surrogate (.inl isHigh), ih]
  | unpairedLow isLow _ ih =>
      rw [decode_single fun isHigh => absurd isLow (not_low_of_high isHigh),
        single_surrogate (.inr isLow), ih]

theorem decode_eq_iff : decode units = text ↔ Spells units text :=
  ⟨fun decoded => decoded ▸ spells_decode units, Spells.decode_eq⟩

/-- The units of a character: its number, or two surrogates that share its bits beyond the first
65536 characters. -/
def unitsOf (char : Char) : List UInt16 :=
  if char.toNat < 0x10000 then [UInt16.ofNat char.toNat]
  else
    [UInt16.ofNat (0xD800 + (char.toNat - 0x10000) / 0x400),
      UInt16.ofNat (0xDC00 + (char.toNat - 0x10000) % 0x400)]

def encode (text : List Char) : List UInt16 := text.flatMap unitsOf

theorem spells_unitsOf (char : Char) (rest : Spells units text) :
    Spells (unitsOf char ++ units) (char :: text) := by
  have valid : char.toNat < 0xD800 ∨ 0xDFFF < char.toNat ∧ char.toNat < 0x110000 := char.valid
  unfold unitsOf
  split
  · have same : char.toNat = (UInt16.ofNat char.toNat).toNat := by
      rw [UInt16.toNat_ofNat']
      omega
    exact .character (by simp only [High]; omega) (by simp only [Low]; omega) same rest
  · have high := UInt16.toNat_ofNat' (n := 0xD800 + (char.toNat - 0x10000) / 0x400)
    have low := UInt16.toNat_ofNat' (n := 0xDC00 + (char.toNat - 0x10000) % 0x400)
    exact .pair (by simp only [High]; omega) (by simp only [Low]; omega) (by omega) rest

theorem spells_encode (text : List Char) : Spells (encode text) text := by
  induction text with
  | nil => exact .nil
  | cons char text ih => exact spells_unitsOf char ih

theorem unitsOf_ne_zero {char : Char} (visible : char ≠ '\x00') : 0 ∉ unitsOf char := by
  have number : char.toNat ≠ 0 := fun zero => visible (Char.toNat_inj.mp zero)
  have valid : char.toNat < 0xD800 ∨ 0xDFFF < char.toNat ∧ char.toNat < 0x110000 := char.valid
  unfold unitsOf
  split <;> simp [← UInt16.toNat_inj] <;> omega

theorem encode_ne_zero (visible : '\x00' ∉ text) : 0 ∉ encode text := by
  simp only [encode, List.mem_flatMap, not_exists, not_and]
  intro char member
  exact unitsOf_ne_zero fun zero => visible (zero ▸ member)

end Utf16

namespace DebugText

variable {payload : Bytes} {count : Nat}

/-- The code unit at a place, the low byte first. -/
def unitAt (payload : Bytes) (place : Nat) : UInt16 :=
  Bytes.word (payload.getD (2 * place) 0) (payload.getD (2 * place + 1) 0)

/-- The text of a payload takes `count` units: all of them are complete and not zero, and behind them
there is no complete unit or a zero. -/
structure Takes (payload : Bytes) (count : Nat) : Prop where
  complete : 2 * count ≤ payload.length
  nonzero : ∀ place < count, unitAt payload place ≠ 0
  stops : 2 * count + 2 ≤ payload.length → unitAt payload count = 0

theorem Takes.unique {other : Nat} (takes : Takes payload count) (also : Takes payload other) :
    count = other := by
  have same := Nat.lt_trichotomy count other
  have complete := takes.complete
  have alsoComplete := also.complete
  rcases same with less | same | more
  · exact absurd (takes.stops (by omega)) (also.nonzero count less)
  · exact same
  · exact absurd (also.stops (by omega)) (takes.nonzero other more)

theorem takes_units (payload : Bytes) :
    ∃ count, Takes payload count ∧
      (units payload).takeWhile (· ≠ 0) = (List.range count).map (unitAt payload) := by
  fun_induction units payload with
  | case1 low high rest ih =>
      by_cases zero : Bytes.word low high = 0
      · refine ⟨0, ⟨Nat.zero_le _, nofun, fun _ => zero⟩, ?_⟩
        simp [zero]
      · obtain ⟨count, takes, same⟩ := ih
        refine ⟨count + 1, ⟨?_, ?_, ?_⟩, ?_⟩
        · have complete := takes.complete
          simp only [List.length_cons]
          omega
        · intro place before
          cases place with
          | zero => exact zero
          | succ place => exact takes.nonzero place (Nat.lt_of_succ_lt_succ before)
        · intro more
          simp only [List.length_cons] at more
          exact takes.stops (by omega)
        · rw [List.takeWhile_cons_of_pos (by simpa using zero), same, List.range_succ_eq_map,
            List.map_cons, List.map_map]
          rfl
  | case2 payload short =>
      refine ⟨0, ⟨Nat.zero_le _, nofun, ?_⟩, rfl⟩
      intro more
      match payload, more with
      | low :: high :: rest, _ => exact absurd rfl (short low high rest)

theorem units_append (encoded : List UInt16) (tail : Bytes) :
    units (encoded.flatMap Bytes.ofWord ++ tail) = encoded ++ units tail := by
  induction encoded with
  | nil => rfl
  | cons unit encoded ih =>
      simp only [List.flatMap_cons, List.cons_append, List.nil_append,
        Bytes.ofWord, units, Bytes.word_ofWord, ih]

/-- Text as 16-bit code units, low byte first. -/
def bytesOf (text : String) : Bytes := (Utf16.encode text.toList).flatMap Bytes.ofWord

/-- Text without a zero character reads back, if what follows it begins with a zero unit or has no
unit at all. -/
theorem decode_bytesOf_append {text : String} (visible : '\x00' ∉ text.toList) {tail : Bytes}
    (ended : (units tail).takeWhile (· ≠ 0) = []) : decode (bytesOf text ++ tail) = text := by
  have nonzero : ∀ unit ∈ Utf16.encode text.toList, (unit ≠ 0) = true := by
    intro unit member
    have ne : unit ≠ 0 := fun zero => Utf16.encode_ne_zero visible (zero ▸ member)
    simpa using ne
  rw [decode, bytesOf, units_append, List.takeWhile_append_of_pos (by simpa using nonzero), ended,
    List.append_nil, (Utf16.spells_encode _).decode_eq, String.ofList_toList]

/-- A payload decodes to the text that its code units spell, up to the first zero among them. Text
without a zero character reads back from its own units: a zero unit ends it, and so does the end of
the payload, even in the middle of a unit. -/
theorem decode_text :
    (∀ (payload : Bytes) (text : String), decode payload = text ↔
      ∃ count, Takes payload count ∧
        Utf16.Spells ((List.range count).map (unitAt payload)) text.toList) ∧
    ∀ text : String, '\x00' ∉ text.toList →
      (∀ rest, decode (bytesOf text ++ [0, 0] ++ rest) = text) ∧
      ∀ odd : Bytes, odd.length ≤ 1 → decode (bytesOf text ++ odd) = text := by
  constructor
  · intro payload text
    obtain ⟨count, takes, same⟩ := takes_units payload
    rw [decode, ← String.toList_inj, String.toList_ofList, Utf16.decode_eq_iff, same]
    constructor
    · exact fun spells => ⟨count, takes, spells⟩
    · rintro ⟨other, also, spells⟩
      rwa [takes.unique also]
  · intro text visible
    constructor
    · intro rest
      rw [List.append_assoc]
      exact decode_bytesOf_append visible rfl
    · intro odd short
      match odd with
      | [] | [_] => exact decode_bytesOf_append visible rfl
      | _ :: _ :: _ => simp at short

theorem decode_text_beyond_terminator :
    '\x00' ∉ "a😀".toList ∧ decode (bytesOf "a😀" ++ [0, 0] ++ [0x41, 0, 0x7F]) = "a😀" ∧
      decode (bytesOf "a😀" ++ [0x7F]) = "a😀" := by
  have visible : '\x00' ∉ "a😀".toList := by decide
  obtain ⟨terminated, cut⟩ := decode_text.2 "a😀" visible
  exact ⟨visible, terminated _, cut _ (by decide)⟩

/-- A high surrogate that is followed by another high one, and by a low one after that. -/
example : decode [0x00, 0xD8, 0x3D, 0xD8, 0x00, 0xDE, 0x41, 0x00] = "\uFFFD😀A" := by decide

end DebugText

end PacketLink
