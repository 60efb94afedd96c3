import PacketLink.Proofs.Framing.Resynchronization

namespace PacketLink.Reassembler

/-! What the fields of a reassembler say of one another.

A packet is written into the fields while it is checked, so a packet that fails late leaves its bytes
behind. `Update.push` makes these writes one by one and clears the fields in the end, which comes to
`push`. Between two packets, then, an idle reassembler is a new one; in the middle of a stream the bytes
of its packets are those collected and the sub-header, so of the two sizes that a complete stream is
checked for, the bytes of the packets are always right. -/

/-- Writes to the fields, one after the other. A failure keeps those made before it. -/
abbrev Update := ExceptT FramingError (StateM Reassembler)

namespace Update

/-- Adds the packet's share to the data. -/
def collect (packet : Packet) : Update SubHeader := do
  match (← get).stage with
  | .awaitFirst =>
      if packet.index.val ≠ 0 then throw (.unexpectedIndex 0 packet.index.val)
      else
        let header ← MonadExcept.ofExcept (SubHeader.ofPayload packet.payload)
        modify fun fields => { fields with data := fields.data ++ packet.payload.drop Limits.subHeader }
        return header
  | .accumulating header total nextIndex =>
      if packet.total ≠ total then throw (.inconsistentTotal total packet.total)
      else if packet.index.val ≠ nextIndex then throw (.unexpectedIndex nextIndex packet.index.val)
      else
        modify fun fields => { fields with data := fields.data ++ packet.payload }
        return header

/-- Takes the message out once the last of its packets is in. -/
def complete (header : SubHeader) : Update Message := do
  let fields ← get
  if fields.data.length = header.length.toNat ∧
      fields.data.length + Limits.subHeader = fields.carried then
    set { fields with data := [] }
    return ⟨header.command, fields.data⟩
  else
    throw (.lengthMismatch header.length.toNat fields.data.length fields.carried)

def take (packet : Packet) : Update (Option Message) := do
  let header ← collect packet
  modify fun fields => { fields with carried := fields.carried + packet.payload.length }
  if packet.isLast then
    let message ← complete header
    return some message
  else
    modify fun fields =>
      { fields with stage := .accumulating header packet.total (packet.index.val + 1) }
    return none

/-- Takes a packet in, and clears the fields unless its stream goes on. -/
def push (packet : Packet) : StateM Reassembler (Except FramingError (Option Message)) := do
  match ← (take packet).run with
  | .ok none => return .ok none
  | answer =>
      modify fun fields => { fields with stage := .awaitFirst, data := [], carried := 0 }
      return answer

section Runs

variable {state left : Reassembler} {reason : FramingError} {α β : Type} {step : Update α}
  {next : α → Update β} {value : α}

theorem run_bind_of_ok (ran : step.run.run state = (.ok value, left)) :
    (step >>= next).run.run state = (next value).run.run left := by
  rw [ExceptT.run_bind, StateT.run_bind, ran]
  rfl

theorem run_bind_of_error (ran : step.run.run state = (.error reason, left)) :
    (step >>= next).run.run state = (.error reason, left) := by
  rw [ExceptT.run_bind, StateT.run_bind, ran]
  rfl

theorem run_get : (get : Update Reassembler).run.run state = (.ok state, state) := rfl

theorem run_modify {change : Reassembler → Reassembler} :
    (modify change : Update Unit).run.run state = (.ok (), change state) := rfl

variable {packet : Packet} {answer : Except FramingError (Option Message)}

theorem run_push_of_none (taken : (take packet).run.run state = (.ok none, left)) :
    (push packet).run state = (.ok none, left) := by
  rw [push, StateT.run_bind, taken]
  rfl

theorem run_push_of_answer (taken : (take packet).run.run state = (answer, left))
    (answered : answer ≠ .ok none) : (push packet).run state = (answer, new) := by
  rw [push, StateT.run_bind, taken]
  match answer with
  | .error _ | .ok (some _) => rfl
  | .ok none => contradiction

end Runs

theorem run_collect (state : Reassembler) (packet : Packet) :
    (collect packet).run.run state =
      match state.accept packet with
      | .error reason => (.error reason, state)
      | .ok (header, data) => (.ok header, { state with data := data }) := by
  obtain ⟨stage, data, carried⟩ := state
  rw [collect, run_bind_of_ok run_get]
  cases stage with
  | awaitFirst =>
      simp only [accept]
      split
      · rfl
      · cases SubHeader.ofPayload packet.payload <;> rfl
  | accumulating header total nextIndex =>
      simp only [accept]
      split
      · rfl
      · split <;> rfl

theorem run_complete (header : SubHeader) (state : Reassembler) :
    (complete header).run.run state =
      if state.data.length = header.length.toNat ∧
          state.data.length + Limits.subHeader = state.carried then
        (.ok ⟨header.command, state.data⟩, { state with data := [] })
      else
        (.error (.lengthMismatch header.length.toNat state.data.length state.carried), state) := by
  rw [complete, run_bind_of_ok run_get]
  split <;> rfl

section Packets

variable {state : Reassembler} {packet : Packet} {header : SubHeader} {data : Bytes}

theorem run_take_of_refusal {reason : FramingError} (refused : state.accept packet = .error reason) :
    (take packet).run.run state = (.error reason, state) := by
  have collected := run_collect state packet
  rw [refused] at collected
  exact run_bind_of_error collected

theorem run_take_of_more (accepted : state.accept packet = .ok (header, data))
    (more : packet.isLast = false) :
    (take packet).run.run state =
      (.ok none, ⟨.accumulating header packet.total (packet.index.val + 1), data,
        state.carried + packet.payload.length⟩) := by
  have collected := run_collect state packet
  rw [accepted] at collected
  rw [take, run_bind_of_ok collected, more]
  rfl

theorem run_take_of_last (accepted : state.accept packet = .ok (header, data))
    (last : packet.isLast = true) :
    (take packet).run.run state =
      (complete header >>= fun message => pure (some message) : Update (Option Message)).run.run
        ⟨state.stage, data, state.carried + packet.payload.length⟩ := by
  have collected := run_collect state packet
  rw [accepted] at collected
  rw [take, run_bind_of_ok collected, run_bind_of_ok run_modify, last]
  rfl

theorem run_take_of_whole (accepted : state.accept packet = .ok (header, data))
    (last : packet.isLast = true)
    (whole : data.length = header.length.toNat ∧
      data.length + Limits.subHeader = state.carried + packet.payload.length) :
    (take packet).run.run state =
      (.ok (some ⟨header.command, data⟩), ⟨state.stage, [], state.carried + packet.payload.length⟩) := by
  have completed := run_complete header ⟨state.stage, data, state.carried + packet.payload.length⟩
  rw [if_pos whole] at completed
  rw [run_take_of_last accepted last, run_bind_of_ok completed]
  rfl

theorem run_take_of_mismatch (accepted : state.accept packet = .ok (header, data))
    (last : packet.isLast = true)
    (differ : ¬ (data.length = header.length.toNat ∧
      data.length + Limits.subHeader = state.carried + packet.payload.length)) :
    (take packet).run.run state =
      (.error (.lengthMismatch header.length.toNat data.length (state.carried + packet.payload.length)),
        ⟨state.stage, data, state.carried + packet.payload.length⟩) := by
  have completed := run_complete header ⟨state.stage, data, state.carried + packet.payload.length⟩
  rw [if_neg differ] at completed
  rw [run_take_of_last accepted last, run_bind_of_error completed]

-- Bytes of a packet that fails at the last check: they wait in an idle reassembler to be cleared.
example : (take (.ofPayload .set true 0 0 [5, 0, 9, 0, 7] (by decide))).run.run new =
    (.error (.lengthMismatch 9 1 5), ⟨.awaitFirst, [7], 5⟩) := rfl

/-- The writes of a push, and the clearing after them, come to the push of a whole value. -/
theorem run_push (state : Reassembler) (packet : Packet) :
    (push packet).run state = state.push packet := by
  have ended := state.pushed packet
  generalize state.push packet = result at ended ⊢
  cases ended with
  | refused refused => exact run_push_of_answer (run_take_of_refusal refused) (by simp)
  | more accepted more => exact run_push_of_none (run_take_of_more accepted more)
  | whole accepted last whole =>
      exact run_push_of_answer (run_take_of_whole accepted last whole) (by simp)
  | mismatch accepted last differ =>
      exact run_push_of_answer (run_take_of_mismatch accepted last differ) (by simp)

end Packets

end Update

variable {state : Reassembler} {pending : List Packet} {packet : Packet} {header : SubHeader}
  {data : Bytes}

theorem Holds.midway_fields {total nextIndex : Nat} (holds : state.Holds pending)
    (stage : state.stage = .accumulating header total nextIndex) :
    1 ≤ nextIndex ∧ nextIndex < total ∧ total ≤ 16 ∧ state.carried = state.data.length + 4 ∧
      state.carried ≤ 62 * nextIndex := by
  cases holds with
  | idle => cases stage
  | midway opens begun unfinished spelled =>
      cases stage
      have counted := congrArg List.length spelled
      rw [List.length_append, SubHeader.length_bytes, Nat.add_comm] at counted
      exact ⟨begun, unfinished, opens.total_le begun, counted, length_payloads_le pending⟩

theorem Holds.counted (holds : state.Holds pending)
    (accepted : state.accept packet = .ok (header, data)) :
    data.length + Limits.subHeader = state.carried + packet.payload.length := by
  have spelled := congrArg List.length ((accept_eq_ok_iff holds).mp accepted).2
  simp only [payloads_append, payloads_cons, payloads_nil, List.append_nil, List.length_append,
    SubHeader.length_bytes] at spelled
  rw [holds.carried, spelled, Nat.add_comm]
  rfl

theorem accept_ne_mismatch {declared accumulated carried : Nat} :
    state.accept packet ≠ .error (.lengthMismatch declared accumulated carried) := by
  intro refused
  -- Packets are refused for their total, their index, or a first payload without sub-header.
  unfold accept at refused
  split at refused
  · split at refused
    · cases refused
    · cases read : SubHeader.ofPayload packet.payload with
      | error reason =>
          cases SubHeader.error_of_ofPayload read
          rw [read] at refused
          cases refused
      | ok header =>
          rw [read] at refused
          cases refused
  · split at refused
    · cases refused
    · split at refused <;> cases refused

/-- Of the two sizes that are compared, only the data's can be wrong. -/
theorem Holds.push_eq_mismatch_iff (holds : state.Holds pending) {declared accumulated carried : Nat} :
    (state.push packet).1 = .error (.lengthMismatch declared accumulated carried) ↔
      packet.isLast = true ∧ ∃ header data, state.accept packet = .ok (header, data) ∧
        data.length ≠ header.length.toNat ∧ declared = header.length.toNat ∧
        accumulated = data.length ∧ carried = data.length + 4 := by
  constructor
  · intro failed
    have ended := state.pushed packet
    generalize state.push packet = result at failed ended
    cases ended with
    | refused refused =>
        cases failed
        exact absurd refused accept_ne_mismatch
    | more | whole => cases failed
    | @mismatch header data accepted last differ =>
        cases failed
        have counted := holds.counted accepted
        exact ⟨last, header, data, accepted, fun same => differ ⟨same, counted⟩, rfl, rfl, counted.symm⟩
  · rintro ⟨last, header, data, accepted, differ, rfl, rfl, rfl⟩
    rw [push_of_mismatch accepted last fun whole => differ whole.1, ← holds.counted accepted]
    rfl

/-- After any packets and resets an idle reassembler holds nothing and goes on like a new one, and so
does any that returned a message or an error. In the middle of a stream the bytes of its packets are the
data and the sub-header; so a stream fails for its length exactly if its data has another length than
declared. -/
theorem fields_agree (reachable : Reachable state) :
    (state.isIdle = true →
      state.data = [] ∧ state.carried = 0 ∧ ∀ packets, state.feed packets = new.feed packets) ∧
    (∀ header total nextIndex, state.stage = .accumulating header total nextIndex →
      1 ≤ nextIndex ∧ nextIndex < total ∧ total ≤ 16 ∧ state.carried = state.data.length + 4 ∧
        4 ≤ state.carried ∧ state.carried ≤ 62 * nextIndex) ∧
    ∀ packet,
      (Update.push packet).run state = state.push packet ∧
      ((state.push packet).1 ≠ .ok none → (state.push packet).2 = new) ∧
      (∀ header data, state.accept packet = .ok (header, data) →
        data.length + 4 = state.carried + packet.payload.length) ∧
      ∀ declared accumulated carried,
        (state.push packet).1 = .error (.lengthMismatch declared accumulated carried) ↔
          packet.isLast = true ∧ ∃ header data, state.accept packet = .ok (header, data) ∧
            data.length ≠ header.length.toNat ∧ declared = header.length.toNat ∧
            accumulated = data.length ∧ carried = data.length + 4 := by
  obtain ⟨pending, holds⟩ := reachable.holds
  refine ⟨fun idle => ?_, fun header total nextIndex stage => ?_, fun packet => ?_⟩
  · cases holds.eq_new idle
    exact ⟨rfl, rfl, fun _ => rfl⟩
  · obtain ⟨begun, unfinished, few, counted, bounded⟩ := holds.midway_fields stage
    exact ⟨begun, unfinished, few, counted, by omega, bounded⟩
  · exact ⟨Update.run_push state packet, push_eq_new, fun _ _ => holds.counted,
      fun _ _ _ => holds.push_eq_mismatch_iff⟩

/-- A stream of two packets that declares one byte and carries three. -/
theorem fields_agree_before_mismatch :
    let opening : Packet := .ofPayload .set true 0 1 [5, 0, 1, 0, 7] (by decide)
    let closing : Packet := .ofPayload .set true 1 1 [8, 9] (by decide)
    let midway : Reassembler := (new.push opening).2
    Reachable midway ∧ midway.stage = .accumulating ⟨5, 1⟩ 2 1 ∧
      (1 < 2 ∧ midway.carried = midway.data.length + 4 ∧ midway.carried ≤ 62 * 1) ∧
      (midway.push closing).1 = .error (.lengthMismatch 1 3 7) ∧ (midway.push closing).2 = new :=
  have reachable : Reachable (new.push (.ofPayload .set true 0 1 [5, 0, 1, 0, 7] (by decide))).2 :=
    .push .new _
  have agree := fields_agree reachable
  have fields := agree.2.1 ⟨5, 1⟩ 2 1 rfl
  have closed := agree.2.2 (.ofPayload .set true 1 1 [8, 9] (by decide))
  have mismatch := (closed.2.2.2 1 3 7).mpr ⟨rfl, ⟨5, 1⟩, [7, 8, 9], rfl, by decide, rfl, rfl, rfl⟩
  ⟨reachable, rfl, ⟨fields.2.1, fields.2.2.2.1, fields.2.2.2.2.2⟩, mismatch,
    closed.2.1 (by rw [mismatch]; simp)⟩

end PacketLink.Reassembler
