namespace PacketLink

/-! What can be wrong with packets and with the stream that they form. -/

inductive FramingError where
  /-- The last packet is in, and the message does not have the declared length. -/
  | lengthMismatch (declared accumulated carried : Nat)
  /-- A packet names another stream length than the packet that opened the stream. -/
  | inconsistentTotal (expected got : Nat)
  | unexpectedIndex (expected got : Nat)
  /-- Fewer bytes than the packet itself declares or its place demands. -/
  | truncated (length needed : Nat)
  /-- The packets ended before the stream did. -/
  | incomplete (received expected : Nat)
deriving DecidableEq

namespace FramingError

def message : FramingError → String
  | .lengthMismatch declared accumulated carried =>
      s!"payload size mismatch: header declares {declared} bytes, accumulated {accumulated}, " ++
        s!"packets carried {carried} (incl. 4-byte sub-header)"
  | .inconsistentTotal expected got =>
      s!"packet claims a {got}-packet stream, stream started as {expected} packets"
  | .unexpectedIndex expected got => s!"expected packet index {expected}, got {got}"
  | .truncated length needed => s!"truncated packet: {length} bytes, needs {needed}"
  | .incomplete received expected => s!"stream ended after {received} of {expected} packets"

end FramingError

end PacketLink
