import PacketLink.Link.Error

namespace PacketLink.Hid

/-! Failures of the HID layer, and what they are to a link. -/

inductive Error where
  | api (reason : String)
  | apiEmpty
  | initialization
  | zeroSize
  | incompleteSend (sent all : Nat)
  | io (reason : String)
deriving DecidableEq

/-- Whether `part` stands somewhere in a text. -/
def occursIn (part : List Char) : List Char → Bool
  | [] => part.isEmpty
  | char :: rest => part.isPrefixOf (char :: rest) || occursIn part rest

namespace Error

def message : Error → String
  | .api reason => s!"hidapi error: {reason}"
  | .apiEmpty => "hidapi error: (could not get error message)"
  | .initialization => "Failed to initialize hidapi"
  | .zeroSize => "Invalid data: size can not be 0"
  | .incompleteSend sent all => s!"Failed to send all data: only sent {sent} out of {all} bytes"
  | .io reason => reason

/-- A failure of the link; a denied permission is known by its text. -/
def toLinkError (error : Error) : LinkError :=
  let text := error.message
  if occursIn "Permission denied".toList text.toList ∨ occursIn "EPERM".toList text.toList then
    .permissionDenied text
  else .hid text

end Error

end PacketLink.Hid
