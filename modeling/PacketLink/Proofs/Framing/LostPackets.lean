import PacketLink.Proofs.Framing.Deliveries
import PacketLink.Proofs.Framing.Resynchronization

namespace PacketLink

/-! What the loss of one packet costs: the message that it belonged to, and the message after that one
if its stream broke off at the very end.

A stream without one of its packets leaves the reassembler at a stream's start, because the packet
after the gap is out of place, unless there is none. Only then does the next stream find packets
pending, and it is refused as a whole. -/

/-- A fitting message as it is sent. -/
structure Sending where
  message : Message
  flip : FlipBit
  ack : Bool
  fits : message.length ≤ 988

namespace Sending

/-- The packets that the message is cut into. -/
def stream (sending : Sending) : PacketStream :=
  ⟨sending.flip, sending.message.packets sending.flip sending.ack⟩

theorem encode_eq (sending : Sending) :
    sending.message.encode sending.flip sending.ack = .ok sending.stream :=
  sending.message.encode_eq_ok sending.flip sending.ack sending.fits

theorem carries (sending : Sending) : Carries sending.stream.packets sending.message :=
  sending.message.carries_packets sending.flip sending.ack sending.fits

end Sending

namespace Reassembler

/-- The messages among the answers to packets, errors left aside. -/
def delivered (answers : List (Except FramingError (Option Message))) : List Message :=
  answers.filterMap fun answer => answer.toOption.join

variable {state : Reassembler} {pending front back : List Packet} {packet : Packet}
  {message : Message} {answers more : List (Except FramingError (Option Message))}

@[simp] theorem delivered_append :
    delivered (answers ++ more) = delivered answers ++ delivered more :=
  List.filterMap_append

theorem delivered_of_errors (errors : ∀ answer ∈ answers, ∃ reason, answer = .error reason) :
    delivered answers = [] := by
  refine List.filterMap_eq_nil_iff.mpr fun answer member => ?_
  obtain ⟨reason, rfl⟩ := errors answer member
  rfl

theorem delivered_replicate (count : Nat) : delivered (List.replicate count (.ok none)) = [] := by
  refine List.filterMap_eq_nil_iff.mpr fun answer member => ?_
  rw [List.eq_of_mem_replicate member]
  rfl

theorem feed_append (packets further : List Packet) :
    state.feed (packets ++ further) =
      ((state.feed packets).1 ++ ((state.feed packets).2.feed further).1,
        ((state.feed packets).2.feed further).2) := by
  induction packets generalizing state with
  | nil => rfl
  | cons packet rest ih => rw [List.cons_append, feed, ih, feed, List.cons_append]

/-- The packets of a stream up to some place short of its end stay pending. -/
theorem Holds.feed_front (holds : state.Holds pending) (left : back ≠ [])
    (carries : Carries (pending ++ (front ++ back)) message) :
    delivered (state.feed front).1 = [] ∧ (state.feed front).2.Holds (pending ++ front) := by
  induction front generalizing state pending with
  | nil => exact ⟨rfl, (List.append_nil pending).symm ▸ holds⟩
  | cons packet rest ih =>
      have remaining : rest ++ back ≠ [] := List.append_ne_nil_of_right_ne_nil rest left
      obtain ⟨next, pushed, holding⟩ := push_of_carries_cons holds remaining carries
      rw [List.cons_append, List.append_cons] at carries
      obtain ⟨silent, stays⟩ := ih holding carries
      rw [feed_cons pushed]
      rw [List.append_assoc, List.singleton_append] at stays
      exact ⟨silent, stays⟩

theorem Holds.eq_new_of_nil (holds : state.Holds []) : state = new := by
  cases holds with
  | idle => rfl
  | midway opens begun unfinished spelled => exact absurd begun (Nat.not_succ_le_zero 0)

/-- Whole streams yield their messages, one by one. -/
theorem feed_streams (sent : List Sending) :
    delivered (new.feed (sent.flatMap (·.stream.packets))).1 = sent.map Sending.message ∧
      (new.feed (sent.flatMap (·.stream.packets))).2 = new := by
  induction sent with
  | nil => exact ⟨rfl, rfl⟩
  | cons sending others ih =>
      obtain ⟨messages, idle⟩ := ih
      have arrived : new.feed sending.stream.packets = (_, new) := feed_of_carries .idle sending.carries
      rw [List.flatMap_cons, feed_append, arrived, delivered_append, delivered_append,
        delivered_replicate, messages]
      exact ⟨rfl, idle⟩

/-- The first of the streams that follow pending packets is lost to them. -/
theorem Holds.feed_streams (holds : state.Holds pending) (begun : pending ≠ []) (sent : List Sending) :
    delivered (state.feed (sent.flatMap (·.stream.packets))).1 = (sent.drop 1).map Sending.message := by
  cases sent with
  | nil => rfl
  | cons sending others =>
      obtain ⟨idle, errors⟩ := holds.feed_interrupting begun sending.carries
      rw [List.flatMap_cons, feed_append, delivered_append, delivered_of_errors errors, idle]
      exact (Reassembler.feed_streams others).1

/-- A stream without one of its packets yields nothing. What is pending after it is nothing, or, where
only the last packet is missing, all the others. -/
theorem feed_gap (carries : Carries (front ++ packet :: back) message) :
    delivered (new.feed (front ++ back)).1 = [] ∧
      (new.feed (front ++ back)).2.Holds (if back = [] then front else []) := by
  obtain ⟨silent, holding⟩ :=
    Holds.feed_front .idle (List.cons_ne_nil packet back) carries
  rw [feed_append, delivered_append, silent]
  cases back with
  | nil => exact ⟨rfl, holding⟩
  | cons next others =>
      have numbers (i : Nat) (other : Packet) (found : (next :: others)[i]? = some other) :
          other.index.val = front.length + (i + 1) := by
        refine (carries.numbered (front.length + (i + 1)) other ?_).1
        rw [List.getElem?_append_right (Nat.le_add_right _ _), Nat.add_sub_cancel_left]
        exact found
      have misplaced : next.index.val ≠ front.length := by
        rw [numbers 0 next rfl]
        omega
      have late : ∀ other ∈ others, other.index.val ≠ 0 := by
        intro other member
        obtain ⟨i, found⟩ := List.getElem?_of_mem member
        rw [numbers (i + 1) other found]
        omega
      obtain ⟨idle, errors⟩ := holding.feed_refused misplaced late
      refine ⟨delivered_of_errors errors, ?_⟩
      rw [idle]
      exact .idle

variable {earlier later : List Sending} {lost : Sending}

theorem delivered_of_loss (cut : lost.stream.packets = front ++ packet :: back) :
    delivered (new.feed (earlier.flatMap (·.stream.packets) ++
        (front ++ back ++ later.flatMap (·.stream.packets)))).1 =
      earlier.map Sending.message ++
        (if front ≠ [] ∧ back = [] then later.drop 1 else later).map Sending.message := by
  obtain ⟨messages, idle⟩ := feed_streams earlier
  have carries := lost.carries
  rw [cut] at carries
  obtain ⟨silent, holding⟩ := feed_gap carries
  rw [feed_append, delivered_append, messages, idle, feed_append, delivered_append, silent,
    List.nil_append]
  refine congrArg (earlier.map Sending.message ++ ·) ?_
  by_cases broken : front ≠ [] ∧ back = []
  · rw [if_pos broken]
    rw [if_pos broken.2] at holding
    exact holding.feed_streams broken.1 later
  · have nothing : (if back = [] then front else []) = [] := by
      split
      · rename_i none
        exact Classical.byContradiction fun begun => broken ⟨begun, none⟩
      · rfl
    rw [nothing] at holding
    rw [if_neg broken, holding.eq_new_of_nil]
    exact (feed_streams later).1

end Reassembler

/-- Each place in a queue of streams is a place in one of the streams. -/
theorem exists_cut_of_lt (sent : List Sending) (index : Nat)
    (within : index < (sent.flatMap (·.stream.packets)).length) :
    ∃ earlier lost later front packet back, sent = earlier ++ lost :: later ∧
      lost.stream.packets = front ++ packet :: back ∧
      index = (earlier.flatMap (·.stream.packets)).length + front.length := by
  induction sent generalizing index with
  | nil => exact absurd within (Nat.not_lt_zero index)
  | cons sending others ih =>
      by_cases here : index < sending.stream.packets.length
      · refine ⟨[], sending, others, sending.stream.packets.take index, sending.stream.packets[index],
          sending.stream.packets.drop (index + 1), rfl, ?_, ?_⟩
        · rw [List.getElem_cons_drop, List.take_append_drop]
        · rw [List.length_take_of_le (Nat.le_of_lt here)]
          exact (Nat.zero_add index).symm
      · rw [List.flatMap_cons, List.length_append] at within
        obtain ⟨earlier, lost, later, front, packet, back, rfl, cut, place⟩ :=
          ih (index - sending.stream.packets.length) (by omega)
        refine ⟨sending :: earlier, lost, later, front, packet, back, rfl, cut, ?_⟩
        rw [List.flatMap_cons, List.length_append]
        omega

namespace Reassembler

/-- Of messages that are sent one after the other, all are delivered in order but the one that lost a
packet, and the one after it if that was the last packet of several. -/
theorem feed_without_packet (sent : List Sending) (index : Nat)
    (within : index < (sent.flatMap (·.stream.packets)).length) :
    (∀ sending ∈ sent, sending.message.encode sending.flip sending.ack = .ok sending.stream) ∧
    ∃ earlier lost later front packet back, sent = earlier ++ lost :: later ∧
      lost.stream.packets = front ++ packet :: back ∧
      index = (earlier.flatMap (·.stream.packets)).length + front.length ∧
      delivered (new.feed ((sent.flatMap (·.stream.packets)).eraseIdx index)).1 =
        earlier.map Sending.message ++
          (if front ≠ [] ∧ back = [] then later.drop 1 else later).map Sending.message := by
  refine ⟨fun sending _ => sending.encode_eq, ?_⟩
  obtain ⟨earlier, lost, later, front, packet, back, rfl, cut, rfl⟩ := exists_cut_of_lt sent index within
  refine ⟨earlier, lost, later, front, packet, back, rfl, cut, rfl, ?_⟩
  rw [List.flatMap_append, List.flatMap_cons, List.eraseIdx_append_of_length_le (Nat.le_add_right _ _),
    Nat.add_sub_cancel_left, cut, List.append_assoc front,
    List.eraseIdx_append_of_length_le (Nat.le_refl _), Nat.sub_self, List.cons_append,
    List.eraseIdx_cons_zero, ← List.append_assoc front]
  exact delivered_of_loss cut

/-- The first of three messages loses the second of its two packets, and the second message with it. -/
theorem feed_without_packet_between_streams :
    ∃ sent : List Sending,
      sent.map Sending.message = [⟨1, List.replicate 60 1⟩, ⟨2, [2]⟩, ⟨3, [3]⟩] ∧
      1 < (sent.flatMap (·.stream.packets)).length ∧
      (∃ earlier lost later front packet back, sent = earlier ++ lost :: later ∧
        lost.stream.packets = front ++ packet :: back ∧
        1 = (earlier.flatMap (·.stream.packets)).length + front.length ∧
        delivered (new.feed ((sent.flatMap (·.stream.packets)).eraseIdx 1)).1 =
          earlier.map Sending.message ++
            (if front ≠ [] ∧ back = [] then later.drop 1 else later).map Sending.message) ∧
      delivered (new.feed ((sent.flatMap (·.stream.packets)).eraseIdx 1)).1 = [⟨3, [3]⟩] :=
  ⟨[⟨⟨1, List.replicate 60 1⟩, .set, true, by decide⟩, ⟨⟨2, [2]⟩, .clear, false, by decide⟩,
      ⟨⟨3, [3]⟩, .set, false, by decide⟩],
    rfl, by decide, (feed_without_packet _ 1 (by decide)).2, by decide +kernel⟩

end Reassembler

end PacketLink
