import PacketLink.Host.HexPayload
import PacketLink.Proofs.Text.HexDigits

namespace PacketLink

/-! What the reader of payloads accepts: an even number of digits, whatever separators stand between
them and in whatever case they are. It makes no difference whether a text is read by its characters
or by its UTF-8 bytes, since every byte of a character beyond ASCII is beyond ASCII itself. -/

namespace HexPayloadError

/-- The same complaint about another text. -/
def about (text : String) : HexPayloadError → HexPayloadError
  | .oddLength _ => .oddLength text
  | .invalidByte _ => .invalidByte text

end HexPayloadError

namespace HexPayload

open Hex

theorem bytes?_pair {high low : Char} {rest : List Char} {bytes : Bytes} :
    bytes? (high :: low :: rest) = some bytes ↔
      ∃ byte tail, bytes = byte :: tail ∧ StandsFor high (byte.toNat / 16) ∧
        StandsFor low (byte.toNat % 16) ∧ bytes? rest = some tail := by
  constructor
  · intro read
    simp only [bytes?, Option.bind_eq_bind, Option.bind_eq_some_iff, Option.pure_def,
      Option.some.injEq] at read
    obtain ⟨highValue, highFound, lowValue, lowFound, tail, tailRead, made⟩ := read
    have highDigit := value?_eq_some.mp highFound
    have lowDigit := value?_eq_some.mp lowFound
    have halves := halves_ofNat (standsFor_lt highDigit) (standsFor_lt lowDigit)
    exact ⟨_, tail, made.symm, by rwa [halves.1], by rwa [halves.2], tailRead⟩
  · intro parts
    obtain ⟨byte, tail, made, highDigit, lowDigit, tailRead⟩ := parts
    simp only [bytes?, value?_eq_some.mpr highDigit, value?_eq_some.mpr lowDigit, tailRead, made,
      Option.bind_eq_bind, Option.bind_some, Option.pure_def, ofNat_halves]

theorem bytes?_eq_some {chars : List Char} {bytes : Bytes} :
    bytes? chars = some bytes ↔ List.Forall₂ StandsFor chars (nibbles bytes) := by
  induction chars using bytes?.induct generalizing bytes with
  | case1 => cases bytes <;> simp [bytes?, nibbles]
  | case2 char => cases bytes <;> simp [bytes?, nibbles]
  | case3 high low rest induction =>
      rw [bytes?_pair]
      cases bytes with
      | nil => simp [nibbles]
      | cons byte bytes => simp [nibbles, induction]

theorem exists_bytes?_iff {chars : List Char} :
    (∃ bytes, bytes? chars = some bytes) ↔ chars.length % 2 = 0 ∧ ∀ char ∈ chars, IsDigit char := by
  induction chars using bytes?.induct with
  | case1 => simp [bytes?]
  | case2 char => simp [bytes?]
  | case3 high low rest induction =>
      have even : (high :: low :: rest).length % 2 = rest.length % 2 := by
        simp only [List.length_cons]
        omega
      simp only [even, List.forall_mem_cons, isDigit_iff high, isDigit_iff low]
      constructor
      · intro read
        obtain ⟨bytes, read⟩ := read
        obtain ⟨byte, tail, made, highDigit, lowDigit, tailRead⟩ := bytes?_pair.mp read
        obtain ⟨evenRest, digits⟩ := induction.mp ⟨tail, tailRead⟩
        exact ⟨evenRest, ⟨_, highDigit⟩, ⟨_, lowDigit⟩, digits⟩
      · intro accepted
        obtain ⟨evenRest, ⟨highValue, highDigit⟩, ⟨lowValue, lowDigit⟩, digits⟩ := accepted
        obtain ⟨tail, tailRead⟩ := induction.mpr ⟨evenRest, digits⟩
        have halves := halves_ofNat (standsFor_lt highDigit) (standsFor_lt lowDigit)
        exact ⟨_, bytes?_pair.mpr
          ⟨_, tail, rfl, by rwa [halves.1], by rwa [halves.2], tailRead⟩⟩

theorem bytes?_toLower (chars : List Char) : bytes? (chars.map Char.toLower) = bytes? chars := by
  induction chars using bytes?.induct with
  | case1 => rfl
  | case2 char => rfl
  | case3 high low rest induction => simp [bytes?, value?_toLower, induction]

theorem bytes?_of_foreign {chars : List Char} {char : Char} (present : char ∈ chars)
    (foreign : 128 ≤ char.toNat) : bytes? chars = none := by
  cases read : bytes? chars with
  | none => rfl
  | some bytes =>
      obtain ⟨_, digits⟩ := exists_bytes?_iff.mp ⟨bytes, read⟩
      have ascii := ascii_of_isDigit (digits char present)
      omega

/-- The reader as it goes over the bytes of a text, each taken for a character. -/
def ofUnits (text : String) : Except HexPayloadError Bytes :=
  let digits := (utf8Units text).filter fun unit => !isSeparator unit
  if digits.length % 2 = 1 then .error (.oddLength text)
  else match bytes? digits with
    | none => .error (.invalidByte text)
    | some bytes => .ok bytes

/-- The text without its separators. -/
def digits (text : String) : List Char :=
  text.toList.filter fun char => !isSeparator char

theorem isSeparator_of_foreign {char : Char} (foreign : 128 ≤ char.toNat) :
    isSeparator char = false := by
  have other (separator : Char) (ascii : separator.toNat < 128) : char ≠ separator := by
    intro same
    rw [same] at foreign
    omega
  simp [isSeparator, other ':' (by decide), other ' ' (by decide), other '-' (by decide)]

theorem filter_units (char : Char) :
    (Char.units char).filter (fun unit => !isSeparator unit) =
      if isSeparator char then [] else Char.units char := by
  by_cases ascii : char.toNat < 128
  · rw [Char.units_of_ascii ascii]
    cases separator : isSeparator char <;> simp [separator]
  · have foreign : 128 ≤ char.toNat := by omega
    rw [isSeparator_of_foreign foreign]
    apply List.filter_eq_self.mpr
    intro unit found
    simp [isSeparator_of_foreign (Char.foreign_of_mem_units foreign found)]

theorem filter_utf8Units (text : String) :
    (utf8Units text).filter (fun unit => !isSeparator unit) = (digits text).flatMap Char.units := by
  rw [utf8Units_eq, digits]
  induction text.toList with
  | nil => rfl
  | cons char rest induction =>
      rw [List.flatMap_cons, List.filter_append, filter_units, induction]
      cases separator : isSeparator char <;> simp [separator]

theorem bytes?_flatMap_units (chars : List Char) :
    bytes? (chars.flatMap Char.units) = bytes? chars := by
  by_cases ascii : ∀ char ∈ chars, char.toNat < 128
  · rw [Char.flatMap_units_of_ascii ascii]
  · obtain ⟨char, present, foreign⟩ : ∃ char ∈ chars, 128 ≤ char.toNat := by
      simpa using ascii
    obtain ⟨unit, found⟩ := List.exists_mem_of_ne_nil _ (Char.units_ne_nil char)
    rw [bytes?_of_foreign present foreign]
    exact bytes?_of_foreign (List.mem_flatMap.mpr ⟨char, present, found⟩)
      (Char.foreign_of_mem_units foreign found)

/-- The length that has to be even is that of what is left of the bytes. -/
theorem ofText_eq (text : String) :
    ofText text = if ((digits text).flatMap Char.units).length % 2 = 1 then .error (.oddLength text)
      else match bytes? (digits text) with
        | none => .error (.invalidByte text)
        | some bytes => .ok bytes := by
  have size : ((digits text).flatMap Char.units).length =
      (String.ofList (digits text)).utf8ByteSize := by
    rw [utf8ByteSize_eq, utf8Units_eq, String.toList_ofList]
  rw [size]
  rfl

theorem ofUnits_eq_ofText (text : String) : ofUnits text = ofText text := by
  simp only [ofUnits, ofText_eq, filter_utf8Units, bytes?_flatMap_units]

theorem ofText_eq_ok {text : String} {bytes : Bytes} :
    ofText text = .ok bytes ↔ bytes? (digits text) = some bytes := by
  rw [ofText_eq]
  cases read : bytes? (digits text) with
  | none => split <;> simp
  | some found =>
      obtain ⟨even, digits⟩ := exists_bytes?_iff.mp ⟨found, read⟩
      have ascii := Char.flatMap_units_of_ascii fun char present =>
        ascii_of_isDigit (digits char present)
      rw [ascii, if_neg (by omega)]
      simp

/-! Texts that say the same. -/

/-- The texts differ in separators and in the case of ASCII letters only. -/
inductive Respelled : List Char → List Char → Prop where
  | nil : Respelled [] []
  | letter {left right : Char} {lefts rights : List Char} (same : left.toLower = right.toLower)
      (rest : Respelled lefts rights) : Respelled (left :: lefts) (right :: rights)
  | removed {char : Char} {lefts rights : List Char} (separator : isSeparator char)
      (rest : Respelled lefts rights) : Respelled (char :: lefts) rights
  | inserted {char : Char} {lefts rights : List Char} (separator : isSeparator char)
      (rest : Respelled lefts rights) : Respelled lefts (char :: rights)

theorem isSeparator_toLower (char : Char) : isSeparator char.toLower = isSeparator char :=
  Char.of_toLower (by decide +kernel) char

theorem Respelled.lower {lefts rights : List Char} (respelled : Respelled lefts rights) :
    (lefts.filter fun char => !isSeparator char).map Char.toLower =
      (rights.filter fun char => !isSeparator char).map Char.toLower := by
  induction respelled with
  | nil => rfl
  | @letter left right lefts rights same rest induction =>
      have alike : isSeparator left = isSeparator right := by
        rw [← isSeparator_toLower left, same, isSeparator_toLower right]
      cases separator : isSeparator right with
      | true => simpa [alike, separator] using induction
      | false => simp [alike, separator, same, induction]
  | removed separator rest induction => simpa [separator] using induction
  | inserted separator rest induction => simpa [separator] using induction

theorem length_units_toLower (chars : List Char) :
    ((chars.map Char.toLower).flatMap Char.units).length = (chars.flatMap Char.units).length := by
  have size (char : Char) : char.toLower.utf8Size = char.utf8Size :=
    Char.of_toLower (by decide +kernel) char
  induction chars with
  | nil => rfl
  | cons char rest induction => simp [Char.length_units, size, induction]

theorem ofText_of_respelled {text other : String}
    (respelled : Respelled text.toList other.toList) :
    ofText other = (ofText text).mapError (HexPayloadError.about other) := by
  have same : (digits text).map Char.toLower = (digits other).map Char.toLower := respelled.lower
  have read : bytes? (digits other) = bytes? (digits text) := by
    rw [← bytes?_toLower (digits other), ← same, bytes?_toLower]
  have size : ((digits other).flatMap Char.units).length =
      ((digits text).flatMap Char.units).length := by
    rw [← length_units_toLower (digits other), ← same, length_units_toLower]
  rw [ofText_eq other, ofText_eq text, read, size]
  split
  · rfl
  · cases bytes? (digits text) with
    | none => rfl
    | some bytes => rfl

theorem digits_spaced (bytes : Bytes) : digits (spaced bytes) = bytes.flatMap byteChars := by
  have noSeparator : ∀ value, value < 16 → isSeparator (digit value) = false := by decide
  have kept (byte : UInt8) :
      (byteChars byte).filter (fun char => !isSeparator char) = byteChars byte := by
    have bound := byte.toNat_lt
    simp [byteChars, noSeparator (byte.toNat / 16) (by omega),
      noSeparator (byte.toNat % 16) (by omega)]
  have blank : " ".toList.filter (fun char => !isSeparator char) = [] := by decide
  have chars (bytes : Bytes) : (bytes.map byte).map String.toList = bytes.map byteChars := by
    rw [List.map_map]
    exact List.map_congr_left fun byte _ => String.toList_ofList
  rw [digits, spaced, String.toList_intercalate, chars]
  induction bytes with
  | nil => rfl
  | cons first rest induction =>
      cases rest with
      | nil => simp [kept]
      | cons second rest =>
          rw [List.map_cons, List.map_cons, List.intercalate_cons_cons, List.filter_append,
            List.filter_append, kept, blank, ← List.map_cons, induction]
          simp

theorem ofText_spaced (bytes : Bytes) : ofText (spaced bytes) = .ok bytes := by
  rw [ofText_eq_ok, bytes?_eq_some, digits_spaced]
  exact byteChars_standsFor bytes

/-- A text is read exactly if without its separators it is an even number of digits, and then the bytes
are those of which the digits are the halves. Nothing but digits and separators is accepted, no part of
a character is taken for one, and what is printed is read back. Texts that differ in separators and in
case are read alike, up to the text that a complaint quotes. -/
theorem ofText_grammar (text : String) (bytes : Bytes) :
    (ofText text = .ok bytes ↔ List.Forall₂ StandsFor (digits text) (nibbles bytes)) ∧
    ((∃ payload, ofText text = .ok payload) ↔
      (digits text).length % 2 = 0 ∧ ∀ char ∈ digits text, IsDigit char) ∧
    ofUnits text = ofText text ∧
    (∀ char ∈ text.toList, 128 ≤ char.toNat → ∃ error, ofText text = .error error) ∧
    ofText (spaced bytes) = .ok bytes ∧
    ∀ other : String, Respelled text.toList other.toList →
      ofText other = (ofText text).mapError (HexPayloadError.about other) := by
  refine ⟨?_, ?_, ofUnits_eq_ofText text, ?_, ofText_spaced bytes, fun other => ofText_of_respelled⟩
  · rw [ofText_eq_ok, bytes?_eq_some]
  · simp only [ofText_eq_ok, exists_bytes?_iff]
  · intro char present foreign
    have left : char ∈ digits text :=
      List.mem_filter.mpr ⟨present, by simp [isSeparator_of_foreign foreign]⟩
    have unread := bytes?_of_foreign left foreign
    cases result : ofText text with
    | error error => exact ⟨error, rfl⟩
    | ok bytes =>
        rw [ofText_eq_ok, unread] at result
        contradiction

theorem ofText_grammar_deadbeef :
    let bytes : Bytes := [0xde, 0xad, 0xbe, 0xef]
    ofText "de:AD be-ef" = .ok bytes ∧ ofText "DEad-BEEF" = .ok bytes ∧
      ofText "de ad be ef" = .ok bytes ∧ ∃ error, ofText "aéa" = .error error := by
  have ⟨read, _, _, _, printed, respelled⟩ :=
    ofText_grammar "de:AD be-ef" [0xde, 0xad, 0xbe, 0xef]
  have ⟨_, _, _, foreign, _⟩ := ofText_grammar "aéa" []
  have first := read.mpr (by decide)
  have spelled : Respelled "de:AD be-ef".toList "DEad-BEEF".toList :=
    .letter rfl (.letter rfl (.removed rfl (.letter rfl (.letter rfl (.removed rfl
      (.inserted rfl (.letter rfl (.letter rfl (.removed rfl (.letter rfl (.letter rfl
        .nil)))))))))))
  refine ⟨first, ?_, printed, foreign 'é' (by decide) (by decide)⟩
  rw [respelled "DEad-BEEF" spelled, first]
  rfl

end HexPayload

end PacketLink
