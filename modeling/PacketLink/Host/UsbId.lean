import PacketLink.Text.Hex

namespace PacketLink

/-! USB vendor and product numbers in hexadecimal text, such as `0x1209` or `4321`. -/

inductive UsbIdFault where
  | empty
  | invalidDigit
  | tooLarge
deriving DecidableEq

structure UsbIdError where
  text : String
  fault : UsbIdFault
deriving DecidableEq

namespace UsbIdError

def message (error : UsbIdError) : String :=
  let fault := match error.fault with
    | .empty => "cannot parse integer from empty string"
    | .invalidDigit => "invalid digit found in string"
    | .tooLarge => "number too large to fit in target type"
  s!"invalid USB ID '{error.text}': {fault}"

end UsbIdError

namespace UsbId

def withoutMark : List Char → List Char
  | '0' :: 'x' :: rest | '0' :: 'X' :: rest => rest
  | chars => chars

/-- The word that digits spell, after those that made `value`. The first digit that is wrong, or that
makes the word too large, settles the fault. -/
def wordFrom (value : Nat) : List Char → Except UsbIdFault UInt16
  | [] => .ok (UInt16.ofNat value)
  | char :: rest =>
      match Hex.value? char with
      | none => .error .invalidDigit
      | some digit =>
          if value * 16 + digit < 0x10000 then wordFrom (value * 16 + digit) rest
          else .error .tooLarge

/-- A word of one or more digits; a plus sign may stand ahead of them. -/
def word : List Char → Except UsbIdFault UInt16
  | [] => .error .empty
  | ['+'] => .error .invalidDigit
  | '+' :: digits => wordFrom 0 digits
  | digits => wordFrom 0 digits

def ofText (text : String) : Except UsbIdError UInt16 :=
  (word (withoutMark text.toList)).mapError fun fault => ⟨text, fault⟩

end UsbId

end PacketLink
