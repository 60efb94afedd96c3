import PacketLink.Framing.Stream
import PacketLink.Proofs.Checked.Buffer

namespace PacketLink

/-! Messages to buffers and back, by checked operations.

The sums of a reassembler fit because of what it holds: the packets of one unfinished stream, so
fifteen payloads at most. -/

structure BufferStream where
  flip : FlipBit
  packets : List Buffer

def PacketStream.buffers (stream : PacketStream) : BufferStream :=
  ⟨stream.flip, stream.packets.map Packet.buffer⟩

namespace Checked

theorem mapM_of_ok {α β : Type} {items : List α} {step : α → Checked β} {value : α → β}
    (steps : ∀ item ∈ items, step item = .ok (value item)) :
    items.mapM step = .ok (items.map value) := by
  induction items with
  | nil => rfl
  | cons item rest ih =>
      rw [List.mapM_cons, steps item List.mem_cons_self, ok_bind,
        ih fun other member => steps other (List.mem_cons_of_mem item member), ok_bind]
      rfl

def encode (message : Message) (flip : FlipBit) (ack : Bool) :
    Checked (Except Oversize BufferStream) := do
  let _ ← add sizeBound Limits.subHeader message.length
  let count := Message.packetsNeeded message.length
  if message.fits then
    let control := if ack then flip.bits ||| Buffer.ackRequest else flip.bits
    let last ← sub count 1
    let packets ← (List.range count).mapM fun place =>
      Buffer.build control ((UInt8.ofNat place <<< 4) ||| UInt8.ofNat last)
        (piece message.serialized place)
    return .ok ⟨flip, packets⟩
  else return .error ⟨message.length, count⟩

theorem encode_eq {message : Message} (held : message.length < 2 ^ 63) (flip : FlipBit) (ack : Bool) :
    encode message flip ack = .ok ((message.encode flip ack).map PacketStream.buffers) := by
  have whole : add sizeBound Limits.subHeader message.length =
      .ok (Limits.subHeader + message.length) :=
    add_of_lt (by simp only [sizeBound, Limits.subHeader]; omega)
  rw [encode, whole, ok_bind]
  by_cases fits : message.fits = true
  · obtain ⟨positive, few, -⟩ := Message.packetsNeeded_bounds (message.fits_iff.mp fits)
    have built : ∀ place ∈ List.range (Message.packetsNeeded message.length),
        Buffer.build (if ack then flip.bits ||| Buffer.ackRequest else flip.bits)
          ((UInt8.ofNat place <<< 4) ||| UInt8.ofNat (Message.packetsNeeded message.length - 1))
          (piece message.serialized place) =
        .ok (message.packetAt flip ack (Message.packetsNeeded message.length) place).buffer := by
      intro place member
      have within := List.mem_range.mp member
      have index : (Fin.ofNat 16 place).val = place := Nat.mod_eq_of_lt (by omega)
      have last : (Fin.ofNat 16 (Message.packetsNeeded message.length - 1)).val =
          Message.packetsNeeded message.length - 1 := Nat.mod_eq_of_lt (by omega)
      have made := Buffer.build_eq flip ack (Fin.ofNat 16 place)
        (Fin.ofNat 16 (Message.packetsNeeded message.length - 1))
        (length_piece_le message.serialized place)
      rwa [index, last] at made
    simp only [fits, ↓reduceIte, sub_of_le positive, ok_bind, mapM_of_ok built, Message.encode,
      Except.map, PacketStream.buffers, List.map_map]
    rfl
  · simp only [fits, Bool.false_eq_true, ↓reduceIte, Message.encode, Except.map]
    rfl

/-- What a packet adds to a stream, or opens it with. -/
def accept (state : Reassembler) (buffer : Buffer) : Checked (Except FramingError (SubHeader × Bytes)) :=
  match state.stage with
  | .awaitFirst => do
      let index ← buffer.index
      if index ≠ 0 then return .error (.unexpectedIndex 0 index)
      else
        let payload ← buffer.payload
        match SubHeader.ofPayload payload with
        | .error reason => return .error reason
        | .ok header =>
            let rest ← slice payload Limits.subHeader payload.length
            return .ok (header, state.data ++ rest)
  | .accumulating header total nextIndex => do
      let named ← buffer.total
      if named ≠ total then return .error (.inconsistentTotal total named)
      else
        let index ← buffer.index
        if index ≠ nextIndex then return .error (.unexpectedIndex nextIndex index)
        else return .ok (header, state.data ++ (← buffer.payload))

def push (state : Reassembler) (buffer : Buffer) :
    Checked (Except FramingError (Option Message) × Reassembler) := do
  match ← accept state buffer with
  | .error reason => return (.error reason, state.reset)
  | .ok (header, data) =>
      let carried ← add sizeBound state.carried (← buffer.payloadLength)
      if ← buffer.isLast then
        let whole ← add sizeBound data.length Limits.subHeader
        if data.length = header.length.toNat ∧ whole = carried then
          return (.ok (some ⟨header.command, data⟩), state.reset)
        else
          return (.error (.lengthMismatch header.length.toNat data.length carried), state.reset)
      else
        let next ← add byteBound (← buffer.index) 1
        return (.ok none, ⟨.accumulating header (← buffer.total) next, data, carried⟩)

theorem accept_eq (state : Reassembler) (packet : Packet) :
    accept state packet.buffer = .ok (state.accept packet) := by
  unfold accept Reassembler.accept
  cases state.stage with
  | awaitFirst =>
      simp only [Buffer.index_buffer, Buffer.payload_buffer, ok_bind]
      by_cases first : packet.index.val = 0
      · simp only [first, ne_eq, not_true_eq_false, ↓reduceIte]
        cases read : SubHeader.ofPayload packet.payload with
        | error reason => rfl
        | ok header =>
            have enough : Limits.subHeader ≤ packet.payload.length := by
              refine Nat.le_of_not_lt fun short => ?_
              rw [SubHeader.ofPayload_short short] at read
              cases read
            simp only [slice_of_le enough (Nat.le_refl _), List.take_length, ok_bind]
            rfl
      · simp only [first, ne_eq, not_false_eq_true, ↓reduceIte]
        rfl
  | accumulating header total nextIndex =>
      simp only [Buffer.index_buffer, Buffer.payload_buffer, Buffer.total_buffer, ok_bind]
      split
      · rfl
      · split <;> rfl

end Checked

namespace Reassembler

variable {state : Reassembler} {pending : List Packet} {packet : Packet} {header : SubHeader}
  {data : Bytes}

theorem Holds.few (holds : state.Holds pending) : pending.length ≤ 15 := by
  cases holds with
  | idle => exact Nat.zero_le _
  | midway opens begun unfinished spelled =>
      have atMost := opens.total_le begun
      omega

theorem Holds.carried_le (holds : state.Holds pending) : state.carried ≤ 62 * 15 := by
  have few := holds.few
  have spelled := length_payloads_le pending
  rw [holds.carried]
  omega

theorem Holds.data_le (holds : state.Holds pending) (accepted : state.accept packet = .ok (header, data)) :
    data.length ≤ 62 * 16 := by
  have few := holds.few
  have spelled := congrArg List.length ((accept_eq_ok_iff holds).mp accepted).2
  have short := length_payloads_le (pending ++ [packet])
  simp only [List.length_append, List.length_singleton] at spelled short
  omega

end Reassembler

namespace Checked

theorem push_eq {state : Reassembler} {pending : List Packet} (holds : state.Holds pending)
    (packet : Packet) : push state packet.buffer = .ok (state.push packet) := by
  have short := packet.payload_length_le
  have carried := holds.carried_le
  have sum : add sizeBound state.carried packet.payload.length =
      .ok (state.carried + packet.payload.length) :=
    add_of_lt (by simp only [sizeBound]; omega)
  have next : add byteBound packet.index.val 1 = .ok (packet.index.val + 1) :=
    add_of_lt (by simp only [byteBound]; omega)
  rw [push, accept_eq, ok_bind, Reassembler.push]
  cases accepted : state.accept packet with
  | error reason => rfl
  | ok collected =>
      obtain ⟨header, data⟩ := collected
      have bound := holds.data_le accepted
      have whole : add sizeBound data.length Limits.subHeader = .ok (data.length + Limits.subHeader) :=
        add_of_lt (by simp only [sizeBound, Limits.subHeader]; omega)
      simp only [Buffer.payloadLength_buffer, Buffer.isLast_buffer, Buffer.index_buffer,
        Buffer.total_buffer, sum, next, whole, ok_bind]
      split
      · split <;> rfl
      · rfl

/-- The message of the buffers from a state on, and the number of those before them. -/
def decodeFrom (state : Reassembler) (received expected : Nat) :
    List Buffer → Checked (Except FramingError Message)
  | [] => return .error (.incomplete received expected)
  | buffer :: rest => do
      let counted ← add sizeBound received 1
      let total ← buffer.total
      match ← push state buffer with
      | (.error reason, _) => return .error reason
      | (.ok (some message), _) => return .ok message
      | (.ok none, next) => decodeFrom next counted total rest

def decodeStream (buffers : List Buffer) : Checked (Except FramingError Message) :=
  decodeFrom Reassembler.new 0 0 buffers

theorem decodeFrom_eq {state : Reassembler} {pending : List Packet} (holds : state.Holds pending)
    (packets : List Packet) (expected : Nat) :
    decodeFrom state pending.length expected (packets.map Packet.buffer) =
      .ok (PacketLink.decodeFrom state pending.length expected packets) := by
  induction packets generalizing state pending expected with
  | nil => rfl
  | cons packet rest ih =>
      have few := holds.few
      have counted : add sizeBound pending.length 1 = .ok (pending.length + 1) :=
        add_of_lt (by simp only [sizeBound]; omega)
      rw [List.map_cons, decodeFrom, counted, ok_bind, Buffer.total_buffer, ok_bind, push_eq holds,
        ok_bind, PacketLink.decodeFrom]
      cases pushed : state.push packet with
      | mk answer next =>
          cases answer with
          | error reason => rfl
          | ok complete =>
              cases complete with
              | some message => rfl
              | none =>
                  have holding := Reassembler.push_eq_none holds pushed
                  have later := ih holding packet.total
                  rwa [List.length_append, List.length_singleton] at later

theorem decodeStream_eq (packets : List Packet) :
    decodeStream (packets.map Packet.buffer) = .ok (PacketLink.decodeStream packets) :=
  decodeFrom_eq .idle packets 0

end Checked

end PacketLink
