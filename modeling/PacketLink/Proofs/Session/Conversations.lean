import PacketLink.Proofs.Link.CallSequences
import PacketLink.Proofs.Session.Rounds
import PacketLink.Proofs.Session.Weaving

namespace PacketLink

/-! Conversations that end in a reply, by the answers to their transmissions.

`Converses` says which answers lead to which reply. A conversation on a link that has these answers
ahead returns the reply, and one that returns a reply had such answers ahead. -/

def Answer.heard (config : SessionConfig) (answer : Answer) : List Heard :=
  (Exchange.acknowledgments config answer.acknowledgment).map (fun packet => .answer (.ok packet)) ++
    (answer.debug.flatMap Delivery.heard ++ answer.reply.answers)

namespace Receive

variable {reserved : ReservedCommands} {state : Reassembler} {pending : List Packet}
  {reply : ReceiveOutcome} {heard : List Heard} {left : List ReadResult}

theorem after_inversion {listening : Listening} {earlier : List Heard}
    (listened : listening.after earlier = ⟨.ok (some reply), heard, left⟩) :
    ∃ later, listening = ⟨.ok (some reply), later, left⟩ ∧ heard = earlier ++ later := by
  cases listening
  cases listened
  exact ⟨_, rfl, rfl⟩

/-- By the message of the stream that is complete: it is the outcome, or debug text ahead of it. -/
theorem listen_inversion_of_complete {rest : List ReadResult} {earlier : List Bytes} {bytes : Bytes}
    {packets : List Packet} {message : Message}
    (parsed : (earlier ++ [bytes]).map Packet.ofBytes = packets.map .ok)
    (carries : Carries packets message)
    (listened : (listenOn reserved .fatal message rest).after [.answer (.ok bytes)] =
      ⟨.ok (some reply), heard, left⟩)
    (later : ∀ {heard}, listen reserved .fatal .new rest = ⟨.ok (some reply), heard, left⟩ →
      ∃ debug last, rest = (arriving debug last).map .ok ++ left ∧
        (∀ text ∈ debug, text.message.command = reserved.debugMessage) ∧
        classify reserved last.message = some reply ∧
        heard = debug.flatMap Delivery.heard ++ last.answers) :
    ∃ debug last, earlier.map .ok ++ .ok bytes :: rest = (arriving debug last).map .ok ++ left ∧
      (∀ text ∈ debug, text.message.command = reserved.debugMessage) ∧
      classify reserved last.message = some reply ∧
      earlier.map (fun packet => .answer (.ok packet)) ++ heard =
        debug.flatMap Delivery.heard ++ last.answers := by
  let delivery : Delivery := ⟨message, packets, earlier ++ [bytes], parsed, carries⟩
  obtain ⟨heardLater, listenedOn, rfl⟩ := after_inversion listened
  unfold listenOn at listenedOn
  cases classified : classify reserved message with
  | some found =>
      rw [classified] at listenedOn
      cases listenedOn
      exact ⟨[], delivery, by simp [arriving, delivery], by simp, classified,
        by simp [delivery, Delivery.answers]⟩
  | none =>
      rw [classified] at listenedOn
      obtain ⟨heardRest, listenedRest, rfl⟩ := after_inversion listenedOn
      obtain ⟨debug, last, streams, swallowed, concluded, hears⟩ := later listenedRest
      have swallowedAll : ∀ text ∈ delivery :: debug,
          text.message.command = reserved.debugMessage := by
        simpa [delivery, classify_eq_none.mp classified] using swallowed
      exact ⟨delivery :: debug, last, by simp [arriving, delivery, streams], swallowedAll, concluded,
        by simp [delivery, Delivery.heard, Delivery.answers, Delivery.text, hears]⟩

theorem listen_inversion_from {script : List ReadResult} {earlier : List Bytes} (holds : state.Holds pending)
    (parsed : earlier.map Packet.ofBytes = pending.map .ok)
    (listened : listen reserved .fatal state script = ⟨.ok (some reply), heard, left⟩) :
    ∃ debug last, earlier.map .ok ++ script = (arriving debug last).map .ok ++ left ∧
      (∀ text ∈ debug, text.message.command = reserved.debugMessage) ∧
      classify reserved last.message = some reply ∧
      earlier.map (fun packet => .answer (.ok packet)) ++ heard =
        debug.flatMap Delivery.heard ++ last.answers := by
  induction script generalizing state pending earlier heard with
  | nil => cases listened
  | cons answer rest ih =>
      cases answer with
      | error reason =>
          rw [listen_of_ended rfl] at listened
          simp [failed] at listened
      | ok bytes =>
          cases read : Packet.ofBytes bytes with
          | error reason =>
              rw [listen_unparsed read] at listened
              cases congrArg Listening.outcome listened
          | ok packet =>
              have parsedAll : (earlier ++ [bytes]).map Packet.ofBytes =
                  (pending ++ [packet]).map .ok := by
                simp [parsed, read]
              cases pushed : state.push packet with
              | mk answer next =>
                  cases answer with
                  | error reason =>
                      rw [listen_refused read pushed] at listened
                      cases congrArg Listening.outcome listened
                  | ok complete =>
                      cases complete with
                      | none =>
                          rw [listen_of_continued (digest_of_none read pushed)] at listened
                          obtain ⟨later, listenedLater, rfl⟩ := after_inversion listened
                          obtain ⟨debug, last, streams, swallowed, classified, hears⟩ :=
                            ih (Reassembler.push_eq_none holds pushed) parsedAll listenedLater
                          exact ⟨debug, last, by simpa using streams, swallowed, classified,
                            by simpa using hears⟩
                      | some message =>
                          obtain ⟨carries, rfl⟩ := Reassembler.push_eq_some holds pushed
                          rw [listen_of_complete read pushed] at listened
                          -- The next stream begins with nothing pending.
                          have nothing : ([] : List Bytes).map Packet.ofBytes =
                              ([] : List Packet).map .ok := rfl
                          exact listen_inversion_of_complete parsedAll carries listened
                            fun listenedLater => ih .idle nothing listenedLater

/-- A receive that came to an outcome heard streams of debug text, and one other stream. -/
theorem listen_inversion {reads : List ReadResult}
    (listened : listen reserved .fatal .new reads = ⟨.ok (some reply), heard, left⟩) :
    ∃ debug last, reads = (arriving debug last).map .ok ++ left ∧
      (∀ text ∈ debug, text.message.command = reserved.debugMessage) ∧
      classify reserved last.message = some reply ∧
      heard = debug.flatMap Delivery.heard ++ last.answers := by
  have nothing : ([] : List Bytes).map Packet.ofBytes = ([] : List Packet).map .ok := rfl
  exact listen_inversion_from .idle nothing listened

end Receive

namespace Link.Serves

variable {σ ε α : Type} {link : Link σ} {token : CancelToken} {sink : DebugSink}
  {ahead : σ → Prospect → Prop} {serves : link.Serves token sink ahead} {prospect left : Prospect}
  {sent : List (Bytes × Except LinkError Unit)} {heard : List Heard}

/-- A run comes to what the triple says, and to nothing else. -/
theorem Returns.determines {action : Action α} {result found : α} {before after : World σ}
    (returns : serves.Returns action prospect result sent heard left)
    (faces : before.Faces ahead token prospect)
    (ran : action.run link before = (some found, after)) :
    found = result ∧ after.Faces ahead token left := by
  obtain ⟨ended, again, -, facesThen⟩ := returns before faces
  rw [ran] at again
  cases again
  exact ⟨rfl, facesThen⟩

theorem log (serves : link.Serves token sink ahead) {entry : Log.Entry}
    (silent : sink.line? (.log entry) = none) :
    serves.Ends (liftM (Action.log entry) : Attempt ε Unit) prospect (.ok ()) [] [] prospect := by
  intro before faces
  refine ⟨before.record (.note (.log entry)), rfl, ⟨_, before.record_trace _, rfl, ?_⟩,
    ⟨faces.prospect, faces.active⟩⟩
  simp [Trace.heard, silent]

end Link.Serves

/-- A stream that the link took, so many times. -/
def PacketStream.taken (stream : PacketStream) (times : Nat) : List (Bytes × Except LinkError Unit) :=
  (stream.repeated times).map (·, .ok ())

theorem PacketStream.taken_succ (stream : PacketStream) (times : Nat) :
    stream.taken (times + 1) =
      stream.packets.map (fun packet => (packet.bytes, .ok ())) ++ stream.taken times := by
  rw [taken, stream.repeated_succ, List.map_append, List.map_map]
  rfl

namespace Exchange

/-- The answers lead to the reply: each but the last one says that the device is busy, as often as the
limit permits from so many retries on, and the last one does not. -/
inductive Converses (config : SessionConfig) (command : Command) (retryOnSignal : Bool) :
    UInt32 → List Answer → Message → Prop
  | reply {retries : UInt32} {answer : Answer} (obeys : answer.Obeys config)
      (settled : isTransientBusy (answer.outcome config) command retryOnSignal config.reserved = false) :
      Converses config command retryOnSignal retries [answer]
        (messageOf config.reserved (answer.outcome config))
  | busy {retries : UInt32} {answer : Answer} {others : List Answer} {reply : Message}
      (obeys : answer.Obeys config)
      (busy : isTransientBusy (answer.outcome config) command retryOnSignal config.reserved = true)
      (permitted : config.busyRetry.exceeded (retries + 1) = false)
      (later : Converses config command retryOnSignal (retries + 1) others reply) :
      Converses config command retryOnSignal retries (answer :: others) reply

theorem map_script_cons (config : SessionConfig) (answer : Answer) (others : List Answer)
    (left : List ReadResult) :
    (script config (answer :: others)).map .ok ++ left =
      (answer.received config).map .ok ++ ((script config others).map .ok ++ left) := by
  simp [script]

/-- The link takes so many streams and one more, if it takes that one and then the others. -/
theorem accepting_succ {sends : List (Except LinkError Unit)} {times length : Nat} :
    (∀ answer ∈ sends.take ((times + 1) * length), answer = .ok ()) ↔
      (∀ answer ∈ sends.take length, answer = .ok ()) ∧
        ∀ answer ∈ (sends.drop length).take (times * length), answer = .ok () := by
  rw [Nat.succ_mul, Nat.add_comm, List.take_add, List.forall_mem_append]

section Serving

variable {σ : Type} {link : Link σ} {config : SessionConfig} {token : CancelToken}
  {ahead : σ → Prospect → Prop} (serves : link.Serves token config.debugSink ahead)
  {stream : PacketStream} {command : Command} {retryOnSignal : Bool} {retries : UInt32}
  {sends : List (Except LinkError Unit)} {reads left : List ReadResult}

include serves

theorem ends_awaitAcknowledgment (acknowledgment : Bytes) (reads : List ReadResult) :
    serves.Ends (awaitAcknowledgment config)
      ⟨sends, (acknowledgments config acknowledgment).map .ok ++ reads⟩ (.ok ()) []
      ((acknowledgments config acknowledgment).map fun packet => .answer (.ok packet))
      ⟨sends, reads⟩ := by
  unfold awaitAcknowledgment acknowledgments
  cases config.ackEnabled with
  | false => exact serves.done rfl
  | true =>
      simp only [↓reduceIte]
      rw [Attempt.of_bind]
      apply serves.readOutcome_bind
      apply serves.log
      cases config.debugSink <;> rfl

theorem awaitAcknowledgment_inversion {before after : World σ}
    (faces : before.Faces ahead token ⟨sends, reads⟩)
    (ran : (awaitAcknowledgment config).on link before = (some (.ok ()), after)) :
    ∃ acknowledgment more, reads = (acknowledgments config acknowledgment).map .ok ++ more ∧
      after.Faces ahead token ⟨sends, more⟩ := by
  unfold awaitAcknowledgment at ran
  unfold acknowledgments
  cases asked : config.ackEnabled with
  | false =>
      rw [asked] at ran
      cases ran
      exact ⟨[], reads, rfl, faces⟩
  | true =>
      rw [asked] at ran
      obtain ⟨answered, remains, quiet⟩ := serves.reads config.readTimeout faces.prospect
      obtain ⟨received, middle, delivered, logged⟩ := Attempt.ok_of_bind ran
      rw [Attempt.on_of, Action.run_read, answered] at delivered
      cases reads with
      | nil => cases delivered
      | cons answer more =>
          cases answer with
          | error reason => cases delivered
          | ok acknowledgment =>
              have facesThen : (before.afterCall (.read config.readTimeout)
                  (link.read config.readTimeout before.device)).Faces ahead token ⟨sends, more⟩ :=
                faces.afterCall remains quiet
              cases delivered
              cases logged
              exact ⟨received, more, rfl, facesThen.prospect, facesThen.active⟩

omit serves in
theorem listen_arriving {reserved : ReservedCommands} {debug : List Delivery} {reply : Delivery}
    {outcome : ReceiveOutcome}
    (swallowed : ∀ text ∈ debug, text.message.command = reserved.debugMessage)
    (classified : Receive.classify reserved reply.message = some outcome) (rest : List ReadResult) :
    Receive.listen reserved .fatal .new ((Receive.arriving debug reply).map .ok ++ rest) =
      ⟨.ok (some outcome), debug.flatMap Delivery.heard ++ reply.answers, rest⟩ := by
  have parts : (Receive.arriving debug reply).map .ok ++ rest =
      arrivals debug ++ (reply.received.map .ok ++ rest) := by
    simp [Receive.arriving, arrivals, List.map_flatMap]
  rw [parts, Receive.listen_texts swallowed, Receive.listen_reply classified]
  rfl

theorem ends_answered {answer : Answer} (obeys : answer.Obeys config)
    (accepting : ∀ reply ∈ sends.take stream.packets.length, reply = .ok ()) {rounds : Nat}
    (enough : ((answer.received config).map .ok ++ reads : List ReadResult).length < rounds + 1)
    {outcome : Except ExchangeError Message} {sent : List (Bytes × Except LinkError Unit)}
    {heard : List Heard} {later : Prospect}
    (rest : serves.Ends (react config token stream command retryOnSignal rounds retries
      (answer.outcome config)) ⟨sends.drop stream.packets.length, reads⟩ outcome sent heard later) :
    serves.Ends (converse config token stream command retryOnSignal (rounds + 1) retries)
      ⟨sends, (answer.received config).map .ok ++ reads⟩ outcome
      (stream.packets.map (fun packet => (packet.bytes, .ok ())) ++ sent)
      (answer.heard config ++ heard) later := by
  have room : ((Receive.arriving answer.debug answer.reply).map .ok ++ reads :
      List ReadResult).length < rounds + 1 := by
    simp only [Answer.received, List.map_append, List.length_append] at enough ⊢
    omega
  have received := Receive.ends_run serves
    (listen_arriving obeys.debug obeys.classified reads) room (sends.drop stream.packets.length)
  rw [converse_succ, Answer.received, List.map_append, List.append_assoc, Answer.heard,
    List.append_assoc]
  apply serves.bind (ends_transmit_accepted serves stream accepting _)
  apply serves.bind (ends_awaitAcknowledgment serves answer.acknowledgment _)
  exact serves.bind received rest

theorem transmit_inversion {before after : World σ}
    (faces : before.Faces ahead token ⟨sends, reads⟩)
    (ran : (transmit config token stream).on link before = (some (.ok ()), after)) :
    (∀ answer ∈ sends.take stream.packets.length, answer = .ok ()) ∧
      after.Faces ahead token ⟨sends.drop stream.packets.length, reads⟩ := by
  cases ends_transmit_settled serves stream sends with
  | inr refused =>
      obtain ⟨reason, _, _, _, ends⟩ := refused
      cases ((ends reads).determines faces ran).1
  | inl taken => exact ⟨taken.1, ((taken.2 reads).determines faces ran).2⟩

theorem run_inversion {before after : World σ} {outcome : ReceiveOutcome} {rounds : Nat}
    (acknowledgment : Bytes) (faces : before.Faces ahead token ⟨sends, reads⟩)
    (enough : reads.length < rounds)
    (ran : (Receive.run config token .fatal rounds).on link before = (some (.ok (some outcome)), after)) :
    ∃ (answer : Answer) (left : List ReadResult), answer.acknowledgment = acknowledgment ∧
      reads = (Receive.arriving answer.debug answer.reply).map .ok ++ left ∧ answer.Obeys config ∧
      outcome = answer.outcome config ∧ after.Faces ahead token ⟨sends, left⟩ := by
  cases listened : Receive.listen config.reserved .fatal .new reads with
  | mk received heard left =>
      obtain ⟨rfl, facesThen⟩ :=
        (Receive.ends_run serves listened enough sends).determines faces ran
      obtain ⟨debug, reply, streams, swallowed, classified, -⟩ := Receive.listen_inversion listened
      have spoken : reply.message.command ≠ config.reserved.debugMessage := by
        intro silent
        rw [Receive.classify_eq_none.mpr silent] at classified
        cases classified
      have obeys : (⟨acknowledgment, debug, reply⟩ : Answer).Obeys config := ⟨swallowed, spoken⟩
      have same := obeys.classified
      rw [classified] at same
      exact ⟨_, left, rfl, streams, obeys, Option.some.inj same, facesThen⟩

theorem ends_react_settled {reply : ReceiveOutcome} {rounds : Nat} {prospect : Prospect}
    (settled : isTransientBusy reply command retryOnSignal config.reserved = false) :
    serves.Ends (react config token stream command retryOnSignal rounds retries reply) prospect
      (.ok (messageOf config.reserved reply)) [] [] prospect := by
  simp only [react, settled, Bool.false_eq_true, ↓reduceIte]
  exact serves.done rfl

theorem ends_react_busy {reply : ReceiveOutcome} {rounds : Nat} {prospect left : Prospect}
    {outcome : Except ExchangeError Message} {sent : List (Bytes × Except LinkError Unit)}
    {heard : List Heard}
    (busy : isTransientBusy reply command retryOnSignal config.reserved = true)
    (permitted : config.busyRetry.exceeded (retries + 1) = false)
    (rest : serves.Ends (converse config token stream command retryOnSignal rounds (retries + 1))
      prospect outcome sent heard left) :
    serves.Ends (react config token stream command retryOnSignal rounds retries reply) prospect
      outcome sent heard left := by
  simp only [react, busy, permitted, ↓reduceIte, Bool.false_eq_true]
  apply serves.log_bind
  · cases config.debugSink <;> rfl
  · exact serves.bind (ends_pause serves config.busyBackoff) rest

/-- A conversation whose answers are ahead comes to the reply that they lead to. -/
theorem ends_of_converses {answers : List Answer} {reply : Message}
    (converses : Converses config command retryOnSignal retries answers reply)
    (accepting : ∀ answer ∈ sends.take (answers.length * stream.packets.length), answer = .ok ())
    {rounds : Nat}
    (enough : ((script config answers).map .ok ++ left : List ReadResult).length < rounds) :
    serves.Ends (converse config token stream command retryOnSignal rounds retries)
      ⟨sends, (script config answers).map .ok ++ left⟩ (.ok reply) (stream.taken answers.length)
      (answers.flatMap (Answer.heard config))
      ⟨sends.drop (answers.length * stream.packets.length), left⟩ := by
  induction converses generalizing sends rounds with
  | @reply retries answer obeys settled =>
      obtain ⟨fewer, rfl⟩ : ∃ fewer, rounds = fewer + 1 :=
        Nat.exists_eq_succ_of_ne_zero (Nat.ne_zero_of_lt enough)
      obtain ⟨first, -⟩ := accepting_succ.mp accepting
      have single : script config [answer] = answer.received config := List.append_nil _
      rw [single] at enough ⊢
      have reacted : serves.Ends
          (react config token stream command retryOnSignal fewer retries (answer.outcome config))
          ⟨sends.drop stream.packets.length, left⟩ _ [] [] _ := ends_react_settled serves settled
      have round := ends_answered serves obeys first enough reacted
      rw [List.length_singleton, stream.taken_succ, Nat.one_mul]
      exact round
  | @busy retries answer others reply obeys busy permitted later ih =>
      obtain ⟨fewer, rfl⟩ : ∃ fewer, rounds = fewer + 1 :=
        Nat.exists_eq_succ_of_ne_zero (Nat.ne_zero_of_lt enough)
      obtain ⟨first, following⟩ := accepting_succ.mp accepting
      rw [map_script_cons] at enough ⊢
      have fewer_ : ((script config others).map .ok ++ left : List ReadResult).length < fewer := by
        have count := answer.length_received config
        rw [List.length_append, List.length_map] at enough
        omega
      have round := ends_answered serves obeys first enough
        (ends_react_busy serves busy permitted (ih following fewer_))
      rw [List.length_cons, stream.taken_succ, List.flatMap_cons, Nat.succ_mul,
        Nat.add_comm (others.length * stream.packets.length), ← List.drop_drop]
      exact round

theorem react_inversion {before after : World σ} {outcome : ReceiveOutcome} {reply : Message}
    {rounds : Nat} (faces : before.Faces ahead token ⟨sends, reads⟩)
    (ran : (react config token stream command retryOnSignal rounds retries outcome).on link before =
      (some (.ok reply), after)) :
    (isTransientBusy outcome command retryOnSignal config.reserved = false ∧
        messageOf config.reserved outcome = reply) ∨
      isTransientBusy outcome command retryOnSignal config.reserved = true ∧
        config.busyRetry.exceeded (retries + 1) = false ∧
        ∃ rested, rested.Faces ahead token ⟨sends, reads⟩ ∧
          (converse config token stream command retryOnSignal rounds (retries + 1)).on link rested =
            (some (.ok reply), after) := by
  unfold react at ran
  cases busy : isTransientBusy outcome command retryOnSignal config.reserved with
  | false =>
      rw [busy] at ran
      cases ran
      exact .inl ⟨rfl, rfl⟩
  | true =>
      rw [busy, if_pos rfl] at ran
      cases exceeded : config.busyRetry.exceeded (retries + 1) with
      | true =>
          rw [exceeded, if_pos rfl] at ran
          obtain ⟨_, _, _, ran⟩ := Attempt.ok_of_bind ran
          cases ran
      | false =>
          rw [exceeded] at ran
          obtain ⟨_, logged, noted, ranOn⟩ := Attempt.ok_of_bind ran
          obtain ⟨_, rested, paused, ranLater⟩ := Attempt.ok_of_bind ranOn
          cases noted
          have facesLogged : (before.record (.note (.log (.busy command (retries + 1))))).Faces ahead
              token ⟨sends, reads⟩ := ⟨faces.prospect, faces.active⟩
          have facesRested := ((ends_pause serves config.busyBackoff).determines facesLogged paused).2
          exact .inr ⟨rfl, rfl, rested, facesRested, ranLater⟩

/-- A reply that is handed out was led to by the answers that were ahead. -/
theorem converses_of_ok {rounds : Nat} {before after : World σ} {reply : Message}
    (faces : before.Faces ahead token ⟨sends, reads⟩) (enough : reads.length < rounds)
    (ran : (converse config token stream command retryOnSignal rounds retries).on link before =
      (some (.ok reply), after)) :
    ∃ answers left, reads = (script config answers).map .ok ++ left ∧
      (∀ answer ∈ sends.take (answers.length * stream.packets.length), answer = .ok ()) ∧
      Converses config command retryOnSignal retries answers reply := by
  induction rounds generalizing before retries sends reads with
  | zero => exact absurd enough (Nat.not_lt_zero _)
  | succ rounds ih =>
      rw [converse_succ] at ran
      obtain ⟨_, sent, transmitted, ran⟩ := Attempt.ok_of_bind ran
      obtain ⟨_, acked, acknowledged, ran⟩ := Attempt.ok_of_bind ran
      obtain ⟨received, replied, replying, ran⟩ := Attempt.ok_of_bind ran
      obtain ⟨first, facesSent⟩ := transmit_inversion serves faces transmitted
      obtain ⟨acknowledgment, more, rfl, facesAcked⟩ :=
        awaitAcknowledgment_inversion serves facesSent acknowledged
      have room : more.length < rounds + 1 := by
        rw [List.length_append] at enough
        omega
      cases received with
      | none => cases ran
      | some outcome =>
          obtain ⟨answer, rest, rfl, rfl, obeys, rfl, facesReplied⟩ :=
            run_inversion serves acknowledgment facesAcked room replying
          cases react_inversion serves facesReplied ran with
          | inl settled =>
              obtain ⟨unbusy, rfl⟩ := settled
              refine ⟨[answer], rest, ?_, ?_, .reply obeys unbusy⟩
              · simp [script, Answer.received]
              · rw [List.length_singleton, Nat.one_mul]
                exact first
          | inr repeated =>
              obtain ⟨busy, permitted, rested, facesRested, ran⟩ := repeated
              have fewer : rest.length < rounds := by
                have count := answer.reply.received_nonempty
                simp only [Receive.arriving, List.map_append, List.length_append, List.length_map] at room
                omega
              obtain ⟨answers, left, rfl, following, converses⟩ := ih facesRested fewer ran
              refine ⟨answer :: answers, left, ?_, accepting_succ.mpr ⟨first, following⟩,
                .busy obeys busy permitted converses⟩
              simp [script, Answer.received]

end Serving

end Exchange

end PacketLink
