namespace PacketLink

/-! The bit that alternates from one outgoing message to the next. All packets of one message carry
the same bit, and a message that is sent again keeps it. -/

inductive FlipBit where
  | clear
  | set
deriving DecidableEq

namespace FlipBit

/-- The bit as it stands in a packet's control byte. -/
def bits : FlipBit → UInt8
  | .clear => 0x00
  | .set => 0x80

/-- The bit of a control byte. -/
def ofControl (control : UInt8) : FlipBit :=
  if control.toNat / 128 = 0 then .clear else .set

def toggled : FlipBit → FlipBit
  | .clear => .set
  | .set => .clear

@[simp] theorem toggled_toggled (flip : FlipBit) : flip.toggled.toggled = flip := by
  cases flip <;> rfl

def text : FlipBit → String
  | .clear => "Clear"
  | .set => "Set"

end FlipBit

end PacketLink
