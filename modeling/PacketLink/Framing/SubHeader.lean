import PacketLink.Message
import PacketLink.Framing.Error

namespace PacketLink

/-! Command and length of a message, at the start of the first packet's payload. -/

structure SubHeader where
  command : Command
  length : UInt16
deriving DecidableEq

namespace SubHeader

def bytes (header : SubHeader) : Bytes :=
  Bytes.ofWord header.command ++ Bytes.ofWord header.length

def ofPayload : Bytes → Except FramingError SubHeader
  | c0 :: c1 :: l0 :: l1 :: _ => .ok ⟨Bytes.word c0 c1, Bytes.word l0 l1⟩
  | short => .error (.truncated short.length Limits.subHeader)

theorem ofPayload_bytes_append (header : SubHeader) (rest : Bytes) :
    ofPayload (header.bytes ++ rest) = .ok header := by
  simp [bytes, Bytes.ofWord, ofPayload, Bytes.word_ofWord]

end SubHeader

end PacketLink
