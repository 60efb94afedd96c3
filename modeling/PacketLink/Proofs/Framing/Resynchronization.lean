import PacketLink.Proofs.Framing.Reassembly

namespace PacketLink.Reassembler

/-! Whatever a reassembler was given before, one whole stream brings it back to a stream's start: from
there the stream is delivered, and in the middle of another one it is refused packet by packet. -/

inductive Reachable : Reassembler → Prop
  | new : Reachable new
  | push {state : Reassembler} (reachable : Reachable state) (packet : Packet) :
      Reachable (state.push packet).2
  | reset {state : Reassembler} (reachable : Reachable state) : Reachable state.reset

/-- The answers to packets that are pushed one after the other, and the state after them. -/
def feed (state : Reassembler) :
    List Packet → List (Except FramingError (Option Message)) × Reassembler
  | [] => ([], state)
  | packet :: rest =>
      ((state.push packet).1 :: ((state.push packet).2.feed rest).1,
        ((state.push packet).2.feed rest).2)

variable {state next : Reassembler} {pending packets : List Packet} {packet : Packet}
  {message : Message}

theorem feed_cons {answer : Except FramingError (Option Message)}
    (pushed : state.push packet = (answer, next)) :
    state.feed (packet :: packets) = (answer :: (next.feed packets).1, (next.feed packets).2) := by
  rw [feed, pushed]

theorem new_refuses (late : packet.index.val ≠ 0) :
    new.push packet = (.error (.unexpectedIndex 0 packet.index.val), new) := by
  apply push_of_refusal
  simp [accept, new, late]

/-- One packet leads from pending packets to others, or to none. -/
theorem Holds.push (holds : state.Holds pending) (packet : Packet) :
    ∃ others, (state.push packet).2.Holds others := by
  by_cases more : (state.push packet).1 = .ok none
  · exact ⟨_, push_eq_none holds (Prod.ext more rfl)⟩
  · rw [push_eq_new more]
    exact ⟨[], .idle⟩

theorem Reachable.holds (reachable : Reachable state) : ∃ pending, state.Holds pending := by
  induction reachable with
  | new => exact ⟨[], .idle⟩
  | push _ packet ih =>
      obtain ⟨pending, holds⟩ := ih
      exact holds.push packet
  | reset _ _ => exact ⟨[], .idle⟩

/-- A packet is refused where its index is not the number of pending packets. -/
theorem Holds.refuses (holds : state.Holds pending)
    (misplaced : packet.index.val ≠ pending.length) :
    ∃ reason, state.push packet = (.error reason, new) := by
  cases accepted : state.accept packet with
  | error reason => exact ⟨reason, push_of_refusal accepted⟩
  | ok collected =>
      have opens := ((accept_eq_ok_iff holds).mp accepted).1
      exact absurd (numbered_concat.mp opens.numbered).2.1 misplaced

/-- The rest of a stream of which the first packet went by. -/
theorem feed_of_late (late : ∀ packet ∈ packets, packet.index.val ≠ 0) :
    (new.feed packets).2 = new ∧ ∀ answer ∈ (new.feed packets).1, ∃ reason, answer = .error reason := by
  induction packets with
  | nil => exact ⟨rfl, by simp [feed]⟩
  | cons packet rest ih =>
      obtain ⟨reason, refused⟩ := Holds.refuses .idle (late packet List.mem_cons_self)
      obtain ⟨idle, errors⟩ := ih fun other member => late other (List.mem_cons_of_mem packet member)
      rw [feed_cons refused]
      refine ⟨idle, fun answer member => ?_⟩
      rcases List.mem_cons.mp member with rfl | later
      · exact ⟨reason, rfl⟩
      · exact errors answer later

/-- The packets that complete the pending ones yield the message, with the last of them. -/
theorem feed_of_carries (holds : state.Holds pending)
    (carries : Carries (pending ++ packets) message) :
    state.feed packets = (List.replicate (packets.length - 1) (.ok none) ++ [.ok (some message)], new) := by
  induction packets generalizing state pending with
  | nil =>
      rw [List.append_nil] at carries
      exact absurd carries holds.not_carries
  | cons packet rest ih =>
      cases rest with
      | nil =>
          rw [feed_cons (push_of_carries holds carries)]
          rfl
      | cons second others =>
          obtain ⟨next, pushed, holding⟩ :=
            push_of_carries_cons holds (List.cons_ne_nil second others) carries
          rw [List.append_cons] at carries
          rw [feed_cons pushed, ih holding carries]
          rfl

/-- Packets of which the first is out of place, and none opens a stream. -/
theorem Holds.feed_refused (holds : state.Holds pending)
    (misplaced : packet.index.val ≠ pending.length)
    (late : ∀ other ∈ packets, other.index.val ≠ 0) :
    (state.feed (packet :: packets)).2 = new ∧
      ∀ answer ∈ (state.feed (packet :: packets)).1, ∃ reason, answer = .error reason := by
  obtain ⟨reason, refused⟩ := holds.refuses misplaced
  obtain ⟨idle, errors⟩ := feed_of_late late
  rw [feed_cons refused]
  refine ⟨idle, fun answer member => ?_⟩
  rcases List.mem_cons.mp member with rfl | later
  · exact ⟨reason, rfl⟩
  · exact errors answer later

/-- A whole stream in the middle of another one is refused packet by packet. -/
theorem Holds.feed_interrupting (holds : state.Holds pending) (begun : pending ≠ [])
    (carries : Carries packets message) :
    (state.feed packets).2 = new ∧ ∀ answer ∈ (state.feed packets).1, ∃ reason, answer = .error reason := by
  cases packets with
  | nil => exact absurd carries.nonempty (Nat.not_succ_le_zero 0)
  | cons packet others =>
      have opening : packet.index.val = 0 := (carries.numbered 0 packet rfl).1
      apply holds.feed_refused
      · rw [opening]
        exact Ne.symm (mt List.eq_nil_of_length_eq_zero begun)
      · intro other member
        obtain ⟨i, found⟩ := List.getElem?_of_mem member
        rw [(carries.numbered (i + 1) other found).1]
        exact Nat.succ_ne_zero i

/-- A whole stream yields its message or nothing, and leaves nothing pending. -/
theorem Holds.feed_stream (holds : state.Holds pending) (carries : Carries packets message) :
    (state.feed packets).2 = new ∧
      ∀ other, .ok (some other) ∈ (state.feed packets).1 → other = message := by
  by_cases begun : pending = []
  · subst begun
    rw [feed_of_carries holds carries]
    refine ⟨rfl, fun other member => ?_⟩
    rcases List.mem_append.mp member with early | last
    · cases List.eq_of_mem_replicate early
    · cases List.mem_singleton.mp last
      rfl
  · obtain ⟨idle, errors⟩ := holds.feed_interrupting begun carries
    refine ⟨idle, fun other member => ?_⟩
    obtain ⟨_, failed⟩ := errors _ member
    cases failed

/-- After any packets and resets, the packets of a fitting message leave the reassembler idle and
yield no other message, and those of the next fitting message yield it with their last. -/
theorem feed_resynchronizes (reachable : Reachable state) {first second : Message}
    (fits : first.length ≤ 988) (fitsToo : second.length ≤ 988) (flip flipToo : FlipBit)
    (ack ackToo : Bool) :
    ∃ stream following answers idle, first.encode flip ack = .ok stream ∧
      second.encode flipToo ackToo = .ok following ∧
      state.feed stream.packets = (answers, idle) ∧ idle.isIdle = true ∧
      (∀ other, .ok (some other) ∈ answers → other = first) ∧
      (idle.feed following.packets).1 =
        List.replicate (following.length - 1) (.ok none) ++ [.ok (some second)] := by
  obtain ⟨pending, holds⟩ := reachable.holds
  obtain ⟨idle, only⟩ := holds.feed_stream (first.carries_packets flip ack fits)
  have delivered := feed_of_carries .idle (second.carries_packets flipToo ackToo fitsToo)
  refine ⟨_, _, _, _, first.encode_eq_ok flip ack fits, second.encode_eq_ok flipToo ackToo fitsToo,
    rfl, ?_, only, ?_⟩
  · rw [idle]
    rfl
  · rw [idle]
    exact congrArg Prod.fst delivered

/-- A stream of two packets that lost its second one, then a message that is refused for it, and a
message that arrives. -/
theorem feed_resynchronizes_after_loss :
    Reachable (new.push (.ofPayload .set true 0 1 [5, 0, 1, 0] (by decide))).2 ∧
    ∃ stream following answers idle, (⟨7, List.replicate 60 1⟩ : Message).encode .set true = .ok stream ∧
      (⟨9, [2]⟩ : Message).encode .clear false = .ok following ∧
      (new.push (.ofPayload .set true 0 1 [5, 0, 1, 0] (by decide))).2.feed stream.packets =
        (answers, idle) ∧ idle.isIdle = true ∧
      (∀ other, .ok (some other) ∈ answers → other = ⟨7, List.replicate 60 1⟩) ∧
      (idle.feed following.packets).1 =
        List.replicate (following.length - 1) (.ok none) ++ [.ok (some ⟨9, [2]⟩)] :=
  have reachable : Reachable (new.push (.ofPayload .set true 0 1 [5, 0, 1, 0] (by decide))).2 :=
    .push .new _
  ⟨reachable, feed_resynchronizes reachable (by decide) (by decide) .set .clear true false⟩

end PacketLink.Reassembler
