import PacketLink.Proofs.Framing.Resynchronization
import PacketLink.Proofs.Session.Listening

namespace PacketLink

/-! Debug text put into a script of answers.

Streams may go in ahead of any answer where no other stream is partially received. A receive then ends
as it does without them; it hears them at their places, and the rest of the script is as it was. -/

def answersOf (heard : List Heard) : List ReadResult := heard.filterMap Heard.answer?

/-- The script with streams put in, those of one list ahead of each answer and of the end. -/
def weave : List (List Delivery) → List ReadResult → List ReadResult
  | inserted, [] => arrivals inserted.flatten
  | inserted, answer :: rest => arrivals (inserted.headD []) ++ answer :: weave inserted.tail rest

/-- What is heard when streams of debug text were put in ahead of the answers. -/
def interleave : List (List Delivery) → List Heard → List Heard
  | _, [] => []
  | inserted, .line text :: rest => .line text :: interleave inserted rest
  | inserted, .answer result :: rest =>
      (inserted.headD []).flatMap Delivery.heard ++ .answer result :: interleave inserted.tail rest

namespace Reassembler

/-- The state after the answer to a read; only a packet changes it. -/
def hear (state : Reassembler) : ReadResult → Reassembler
  | .ok bytes =>
      match Packet.ofBytes bytes with
      | .ok packet => (state.push packet).2
      | .error _ => state
  | .error _ => state

def hearAll (state : Reassembler) (answers : List ReadResult) : Reassembler :=
  answers.foldl hear state

end Reassembler

/-- The streams put in are debug text, and where one is put in, none is partially received. -/
structure Insertable (reserved : ReservedCommands) (state : Reassembler) (script : List ReadResult)
    (inserted : List (List Delivery)) : Prop where
  debug : ∀ streams ∈ inserted, ∀ text ∈ streams, text.message.command = reserved.debugMessage
  idle : ∀ (place : Nat) (streams : List Delivery), inserted[place]? = some streams → streams ≠ [] →
    (state.hearAll (script.take place)).isIdle = true

variable {reserved : ReservedCommands} {state next : Reassembler} {script left : List ReadResult}
  {inserted : List (List Delivery)} {answers : List ReadResult} {heard : List Heard}

section Weaving

@[simp] theorem answersOf_append (first second : List Heard) :
    answersOf (first ++ second) = answersOf first ++ answersOf second := by
  simp [answersOf]

@[simp] theorem answersOf_lines (lines : List String) : answersOf (lines.map .line) = [] := by
  simp [answersOf, Heard.answer?]

theorem answersOf_cons_lines (answer : ReadResult) (lines : List String) (heard : List Heard) :
    answersOf (.answer answer :: lines.map .line ++ heard) = answer :: answersOf heard := by
  change answer :: answersOf (lines.map .line ++ heard) = _
  rw [answersOf_append, answersOf_lines, List.nil_append]

theorem weave_nil (script : List ReadResult) : weave [] script = script := by
  induction script with
  | nil => rfl
  | cons answer rest ih =>
      rw [weave, List.tail_nil, ih]
      rfl

theorem interleave_nil (heard : List Heard) : interleave [] heard = heard := by
  induction heard with
  | nil => rfl
  | cons first rest ih =>
      cases first with
      | line text => rw [interleave, ih]
      | answer result =>
          rw [interleave, List.tail_nil, ih]
          rfl

theorem interleave_lines (inserted : List (List Delivery)) (lines : List String) (heard : List Heard) :
    interleave inserted (lines.map .line ++ heard) = lines.map .line ++ interleave inserted heard := by
  induction lines with
  | nil => rfl
  | cons text others ih =>
      rw [List.map_cons, List.cons_append, interleave, ih]
      rfl

theorem interleave_append (inserted : List (List Delivery)) (first second : List Heard) :
    interleave inserted (first ++ second) =
      interleave inserted first ++ interleave (inserted.drop (answersOf first).length) second := by
  induction first generalizing inserted with
  | nil => rfl
  | cons head rest ih =>
      cases head with
      | line text =>
          rw [List.cons_append, interleave, interleave, ih]
          rfl
      | answer result =>
          have count : (answersOf (.answer result :: rest)).length = (answersOf rest).length + 1 := rfl
          rw [List.cons_append, interleave, interleave, ih, count, List.drop_tail, List.append_assoc]
          rfl

end Weaving

theorem Insertable.drop (insertable : Insertable reserved state (answers ++ left) inserted) :
    Insertable reserved (state.hearAll answers) left (inserted.drop answers.length) := by
  constructor
  · intro streams member
    exact insertable.debug streams (List.mem_of_mem_drop member)
  · intro place streams found some_
    rw [List.getElem?_drop] at found
    have idle := insertable.idle _ streams found some_
    rw [List.take_append, List.take_of_length_le (Nat.le_add_right _ _), Nat.add_sub_cancel_left,
      Reassembler.hearAll, List.foldl_append] at idle
    exact idle

theorem Insertable.head (insertable : Insertable reserved state script inserted) :
    (inserted.headD [] ≠ [] → state.isIdle = true) ∧
      ∀ text ∈ inserted.headD [], text.message.command = reserved.debugMessage := by
  cases inserted with
  | nil => exact ⟨fun some_ => absurd rfl some_, by simp⟩
  | cons streams more =>
      exact ⟨insertable.idle 0 streams rfl, insertable.debug streams List.mem_cons_self⟩

section Hearing

variable {pending : List Packet}

theorem Reassembler.Holds.hear (holds : state.Holds pending) (answer : ReadResult) :
    ∃ others, (state.hear answer).Holds others := by
  cases answer with
  | error reason => exact ⟨pending, holds⟩
  | ok bytes =>
      cases parsed : Packet.ofBytes bytes with
      | error reason =>
          simp only [Reassembler.hear, parsed]
          exact ⟨pending, holds⟩
      | ok packet =>
          simp only [Reassembler.hear, parsed]
          exact holds.push packet

end Hearing

namespace Receive

variable {policy : TimeoutPolicy} {pending : List Packet} {answer : ReadResult} {lines : List String}
  {reply : ReceiveOutcome} {outcome : Except ExchangeError (Option ReceiveOutcome)}

theorem hear_of_continued (digested : digest reserved policy state answer = .continued lines next) :
    state.hear answer = next := by
  cases answer with
  | error reason => cases digested
  | ok bytes =>
      simp only [digest] at digested
      split at digested
      · cases digested
      · rename_i packet parsed
        simp only [Reassembler.hear, parsed]
        split at digested
        · cases digested
        · rename_i following pushed
          cases digested
          rw [pushed]
        · rename_i message following pushed
          rw [pushed]
          split at digested
          · cases digested
          · cases digested
            rfl

theorem hear_of_reply (holds : state.Holds pending)
    (digested : digest reserved policy state answer = .ended (.ok (some reply))) :
    state.hear answer = .new := by
  cases answer with
  | error reason =>
      simp only [digest, failed] at digested
      split at digested <;> cases digested
  | ok bytes =>
      simp only [digest] at digested
      split at digested
      · cases digested
      · rename_i packet parsed
        simp only [Reassembler.hear, parsed]
        split at digested
        · cases digested
        · cases digested
        · rename_i message following pushed
          rw [pushed]
          exact (Reassembler.push_eq_some holds pushed).2

/-- At a reply, what was heard is the script up to it, and nothing is pending. -/
theorem listen_concluded (holds : state.Holds pending)
    (listened : listen reserved policy state script = ⟨.ok (some reply), heard, left⟩) :
    script = answersOf heard ++ left ∧ state.hearAll (answersOf heard) = .new := by
  induction script generalizing state pending heard with
  | nil =>
      simp only [listen, failed] at listened
      split at listened <;> cases listened
  | cons answer rest ih =>
      cases digested : digest reserved policy state answer with
      | ended outcome =>
          rw [listen_of_ended digested] at listened
          cases listened
          exact ⟨rfl, hear_of_reply holds digested⟩
      | continued lines next =>
          obtain rfl := hear_of_continued digested
          obtain ⟨others, holding⟩ := holds.hear answer
          cases later : listen reserved policy (state.hear answer) rest with
          | mk outcome heardLater leftLater =>
              simp only [listen_of_continued digested, later, Listening.after] at listened
              cases listened
              obtain ⟨whole, idle⟩ := ih holding later
              rw [answersOf_cons_lines]
              exact ⟨congrArg (answer :: ·) whole, idle⟩

/-- A receive makes one read more than its script has answers, at most. -/
theorem length_answersOf_le (listened : listen reserved policy state script = ⟨outcome, heard, left⟩) :
    (answersOf heard).length + left.length ≤ script.length + 1 := by
  induction script generalizing state heard with
  | nil =>
      cases listened
      exact Nat.le_refl 1
  | cons answer rest ih =>
      cases digested : digest reserved policy state answer with
      | ended ending =>
          rw [listen_of_ended digested] at listened
          cases listened
          change 1 + left.length ≤ left.length + 1 + 1
          omega
      | continued lines next =>
          cases later : listen reserved policy next rest with
          | mk ending heardLater leftLater =>
              simp only [listen_of_continued digested, later, Listening.after] at listened
              cases listened
              have bound := ih later
              rw [answersOf_cons_lines, List.length_cons, List.length_cons]
              omega

theorem answersOf_ne_nil (listened : listen reserved policy state script = ⟨outcome, heard, left⟩) :
    answersOf heard ≠ [] := by
  cases script with
  | nil =>
      cases listened
      exact List.cons_ne_nil _ _
  | cons answer rest =>
      cases digested : digest reserved policy state answer with
      | ended ending =>
          rw [listen_of_ended digested] at listened
          cases listened
          exact List.cons_ne_nil _ _
      | continued lines next =>
          rw [listen_of_continued digested] at listened
          cases listened
          exact List.cons_ne_nil _ _

theorem length_left_lt (holds : state.Holds pending)
    (listened : listen reserved policy state script = ⟨.ok (some reply), heard, left⟩) :
    left.length < script.length := by
  have whole := congrArg List.length (listen_concluded holds listened).1
  have some_ := List.length_pos_iff.mpr (answersOf_ne_nil listened)
  rw [List.length_append] at whole
  omega

theorem listen_ahead {streams : List Delivery} (holds : state.Holds pending)
    (idle : streams ≠ [] → state.isIdle = true)
    (swallowed : ∀ text ∈ streams, text.message.command = reserved.debugMessage)
    (rest : List ReadResult) :
    listen reserved policy state (arrivals streams ++ rest) =
      (listen reserved policy state rest).after (streams.flatMap Delivery.heard) := by
  cases streams with
  | nil => rfl
  | cons text others =>
      obtain rfl := holds.eq_new (idle (List.cons_ne_nil text others))
      exact listen_texts swallowed rest

theorem listen_weave (holds : state.Holds pending)
    (insertable : Insertable reserved state script inserted)
    (within : inserted.length ≤ script.length + 1)
    (listened : listen reserved policy state script = ⟨outcome, heard, left⟩) :
    listen reserved policy state (weave inserted script) =
      ⟨outcome, interleave inserted heard, weave (inserted.drop (answersOf heard).length) left⟩ := by
  obtain ⟨idle, swallowed⟩ := insertable.head
  induction script generalizing state pending inserted heard with
  | nil =>
      have only : inserted.flatten = inserted.headD [] ∧ inserted.drop 1 = [] := by
        cases inserted with
        | nil => exact ⟨rfl, rfl⟩
        | cons streams more =>
            obtain rfl : more = [] := by simpa using within
            simp
      have ahead : listen reserved policy state (arrivals (inserted.headD []) ++ []) = _ :=
        listen_ahead holds idle swallowed []
      rw [List.append_nil] at ahead
      cases listened
      rw [weave, only.1, ahead]
      change _ = Listening.mk _ _ (weave (inserted.drop 1) [])
      rw [only.2]
      rfl
  | cons answer rest ih =>
      rw [weave, listen_ahead holds idle swallowed]
      cases digested : digest reserved policy state answer with
      | ended ending =>
          rw [listen_of_ended digested] at listened
          cases listened
          rw [listen_of_ended digested]
          change _ = Listening.mk _ _ (weave (inserted.drop 1) left)
          rw [List.drop_one]
          rfl
      | continued lines next =>
          obtain rfl := hear_of_continued digested
          obtain ⟨others, holding⟩ := holds.hear answer
          have remaining : Insertable reserved (state.hear answer) rest inserted.tail := by
            rw [← List.drop_one]
            change Insertable reserved (state.hearAll [answer]) rest (inserted.drop [answer].length)
            exact Insertable.drop insertable
          have fewer : inserted.tail.length ≤ rest.length + 1 := by
            simp only [List.length_cons, List.length_tail] at within ⊢
            omega
          obtain ⟨idleLater, swallowedLater⟩ := remaining.head
          cases later : listen reserved policy (state.hear answer) rest with
          | mk ending heardLater leftLater =>
              simp only [listen_of_continued digested, later, Listening.after] at listened
              cases listened
              rw [listen_of_continued digested,
                ih holding remaining fewer later idleLater swallowedLater, answersOf_cons_lines,
                List.length_cons, ← List.drop_tail, List.cons_append, interleave, interleave_lines]
              rfl

end Receive

end PacketLink
