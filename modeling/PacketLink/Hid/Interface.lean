namespace PacketLink.Hid

/-! HID interfaces as they are enumerated, and the choice among those of one product. -/

structure Interface where
  vid : UInt16
  pid : UInt16
  path : String
  /-- Interface number; negative if it is not known. -/
  number : Int := 0
  serial : Option String := none
  product : Option String := none
deriving DecidableEq

namespace Interface

/-- Whether one interface may stand ahead of another: number 0 comes ahead of the others. -/
def ranksBefore (a b : Interface) : Bool := a.number = 0 ∨ b.number ≠ 0

/-- The interfaces of one product, number 0 first; otherwise in the order of the enumeration. -/
def matching (interfaces : List Interface) (vid pid : UInt16) : List Interface :=
  (interfaces.filter fun interface => interface.vid = vid ∧ interface.pid = pid).mergeSort
    ranksBefore

end Interface

end PacketLink.Hid
