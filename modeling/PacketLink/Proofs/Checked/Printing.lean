import PacketLink.Monitor.Printer
import PacketLink.Proofs.Checked.Buffer

namespace PacketLink

/-! What a monitor prints of any bytes, by checked operations.

A line counts packets from one, so the index has to leave room for that; a dump is cut off where the
bytes end. -/

namespace Checked

open Monitor

def subHeader (buffer : Buffer) (index : Nat) : Checked (Option SubHeader) :=
  if index = 0 then do return (SubHeader.ofPayload (← buffer.payload)).toOption
  else return none

def decode (direction : Direction) (bytes : Bytes) : Checked Decoded := do
  if bytes.startsWith Handshake.resetMarker ∧ direction = .tx then
    return { direction := direction, resetMarker := true }
  else
    match ← Buffer.ofBytes bytes with
    | .error reason => return { direction := direction, error := some reason }
    | .ok buffer =>
        let index ← buffer.index
        return {
          direction := direction
          flip := (← buffer.flip) = .set
          ack := ← buffer.ack
          index := index
          total := ← buffer.total
          payloadLength := ← buffer.payloadLength
          subHeader := ← subHeader buffer index }

def summary (decoded : Decoded) : Checked String := do
  let _ ← add byteBound decoded.index 1
  return Monitor.summary decoded

def dump (decoded : Decoded) (bytes : Bytes) : Checked String := do
  let shown ←
    if decoded.resetMarker then slice bytes 0 Handshake.resetMarker.length
    else do slice bytes 0 (min bytes.length (← add sizeBound 2 decoded.payloadLength))
  return "    " ++ Ansi.dim "HEX" ++ "  " ++ Hex.lowerList shown

def lines (config : Monitor.Config) (direction : Direction) (bytes : Bytes) : Checked (List String) := do
  if config.filter.shows direction then
    let decoded ← decode direction bytes
    match config.format with
    | .json => return [decoded.json]
    | .text =>
        let first ← summary decoded
        if config.showHex then return [first, ← dump decoded bytes] else return [first]
  else return []

theorem decode_eq (direction : Direction) (bytes : Bytes) :
    decode direction bytes = .ok (Decoded.ofBytes direction bytes) := by
  unfold decode Decoded.ofBytes
  split
  · rfl
  · rw [Buffer.ofBytes_eq, ok_bind]
    cases Packet.ofBytes bytes with
    | error reason => rfl
    | ok packet =>
        have header : subHeader packet.buffer packet.index.val = .ok
            (if packet.index.val = 0 then (SubHeader.ofPayload packet.payload).toOption else none) := by
          unfold subHeader
          rw [Buffer.payload_buffer]
          split <;> rfl
        simp only [Except.map, Buffer.index_buffer, Buffer.flip_buffer, Buffer.ack_buffer,
          Buffer.total_buffer, Buffer.payloadLength_buffer, header, ok_bind]
        rfl

/-- The numbers in what is printed are those of a packet, and the marker is there if it is said to be. -/
theorem decoded_bounds (direction : Direction) (bytes : Bytes) :
    (Decoded.ofBytes direction bytes).index < 16 ∧
      (Decoded.ofBytes direction bytes).payloadLength ≤ 62 ∧
      ((Decoded.ofBytes direction bytes).resetMarker = true → 2 ≤ bytes.length) := by
  unfold Decoded.ofBytes
  split
  · rename_i marked
    refine ⟨by simp, by simp, fun _ => ?_⟩
    exact (List.isPrefixOf_iff_prefix.mp marked.1).length_le
  · cases Packet.ofBytes bytes with
    | error reason => simp
    | ok packet => exact ⟨packet.index.isLt, packet.payload_length_le, by simp [Decoded.ofPacket]⟩

theorem lines_eq (config : Monitor.Config) (direction : Direction) (bytes : Bytes) :
    lines config direction bytes = .ok (Monitor.lines config direction bytes) := by
  obtain ⟨index, length, marked⟩ := decoded_bounds direction bytes
  have place : add byteBound (Decoded.ofBytes direction bytes).index 1 = .ok _ :=
    add_of_lt (by simp only [byteBound]; omega)
  have stop : add sizeBound 2 (Decoded.ofBytes direction bytes).payloadLength = .ok _ :=
    add_of_lt (by simp only [sizeBound]; omega)
  have dumped : dump (Decoded.ofBytes direction bytes) bytes =
      .ok (Monitor.dump (Decoded.ofBytes direction bytes) bytes) := by
    unfold dump Monitor.dump
    split
    · rename_i isMarker
      have cut : slice bytes 0 Handshake.resetMarker.length = .ok (bytes.take 2) :=
        slice_of_le (Nat.zero_le _) (marked isMarker)
      rw [cut]
      rfl
    · rw [stop, ok_bind, slice_min]
      rfl
  unfold lines Monitor.lines
  split
  · rw [decode_eq, ok_bind]
    cases config.format with
    | json => rfl
    | text =>
        simp only [summary, place, ok_bind]
        split
        · rw [dumped]
          rfl
        · rfl
  · rfl

end Checked

end PacketLink
