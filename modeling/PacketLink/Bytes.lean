namespace PacketLink

/-! Byte strings, and the 16-bit words that stand in them with the low byte first. -/

abbrev Bytes := List UInt8

namespace Bytes

/-- The two bytes of a word, the low byte first. -/
def ofWord (word : UInt16) : Bytes :=
  [UInt8.ofNat (word.toNat % 256), UInt8.ofNat (word.toNat / 256)]

/-- The word that two bytes spell, the low byte first. -/
def word (low high : UInt8) : UInt16 :=
  UInt16.ofNat (low.toNat + 256 * high.toNat)

@[simp] theorem length_ofWord (word : UInt16) : (ofWord word).length = 2 := rfl

theorem word_ofWord (value : UInt16) :
    word (UInt8.ofNat (value.toNat % 256)) (UInt8.ofNat (value.toNat / 256)) = value := by
  have bound := value.toNat_lt
  apply UInt16.toNat.inj
  simp only [word, UInt16.toNat_ofNat', UInt8.toNat_ofNat']
  omega

theorem ofWord_word (low high : UInt8) : ofWord (word low high) = [low, high] := by
  have lowBound := low.toNat_lt
  have highBound := high.toNat_lt
  simp only [ofWord, word, UInt16.toNat_ofNat', List.cons.injEq, and_true]
  constructor <;> apply UInt8.toNat.inj <;> simp only [UInt8.toNat_ofNat'] <;> omega

/-- Zero bytes at the end, up to `size` bytes in all; longer strings lose what is beyond. -/
def padTo (size : Nat) (bytes : Bytes) : Bytes :=
  (bytes ++ List.replicate size 0).take size

@[simp] theorem length_padTo (size : Nat) (bytes : Bytes) : (padTo size bytes).length = size := by
  simp [padTo]

def startsWith (bytes start : Bytes) : Bool :=
  start.isPrefixOf bytes

end Bytes

end PacketLink
