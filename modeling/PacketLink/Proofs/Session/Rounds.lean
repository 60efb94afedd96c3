import PacketLink.Proofs.Session.Answers
import PacketLink.Proofs.Session.Listening

namespace PacketLink

/-! The rounds of a conversation without acknowledgments, by the answers that are ahead.

A round transmits and listens. It settles the conversation, or the device was busy, and the rest of the
answers goes to the next round. -/

namespace Exchange

variable {σ : Type} {link : Link σ} {config : SessionConfig} {token : CancelToken}
  {ahead : σ → Prospect → Prop} (serves : link.Serves token config.debugSink ahead)
  {prospect left : Prospect}

include serves

/-- What becomes of the packets depends on the answers to sends alone. -/
theorem ends_sendPackets (packets : List Packet) (sends : List (Except LinkError Unit)) :
    ∃ outcome sent left, ∀ reads, serves.Ends (sendPackets config token packets) ⟨sends, reads⟩ outcome
      sent [] ⟨left, reads⟩ := by
  induction packets generalizing sends with
  | nil => exact ⟨.ok (), [], sends, fun _ => serves.done rfl⟩
  | cons packet others ih =>
      cases answer : sends.headD (.ok ()) with
      | error reason =>
          refine ⟨.error (.link reason), [(packet.bytes, .error reason)], sends.tail, fun reads => ?_⟩
          apply serves.stop_bind
          exact serves.fails_bind (serves.send ExchangeError.link packet.bytes answer reads)
      | ok accepted =>
          obtain ⟨outcome, sent, left, ends⟩ := ih sends.tail
          refine ⟨outcome, (packet.bytes, .ok accepted) :: sent, left, fun reads => ?_⟩
          apply serves.stop_bind
          apply serves.bind (serves.send ExchangeError.link packet.bytes answer reads)
          apply serves.log_bind
          · cases config.debugSink <;> rfl
          apply serves.wait_bind
          exact ends reads

theorem ends_transmit (stream : PacketStream) (sends : List (Except LinkError Unit)) :
    ∃ outcome sent left, ∀ reads, serves.Ends (transmit config token stream) ⟨sends, reads⟩ outcome
      sent [] ⟨left, reads⟩ := by
  obtain ⟨outcome, sent, left, ends⟩ := ends_sendPackets serves stream.packets sends
  refine ⟨outcome, sent, left, fun reads => ?_⟩
  apply serves.log_bind
  · cases config.debugSink <;> rfl
  · exact ends reads

/-- Either the link takes all packets, or it refuses one of them. -/
theorem ends_sendPackets_settled (packets : List Packet) (sends : List (Except LinkError Unit)) :
    ((∀ answer ∈ sends.take packets.length, answer = .ok ()) ∧ ∀ reads,
      serves.Ends (sendPackets config token packets) ⟨sends, reads⟩ (.ok ())
        (packets.map fun packet => (packet.bytes, .ok ())) [] ⟨sends.drop packets.length, reads⟩) ∨
    ∃ reason sent left, .error reason ∈ sends.take packets.length ∧ ∀ reads,
      serves.Ends (sendPackets config token packets) ⟨sends, reads⟩ (.error (.link reason)) sent []
        ⟨left, reads⟩ := by
  induction packets generalizing sends with
  | nil => exact .inl ⟨by simp, fun _ => serves.done rfl⟩
  | cons packet others ih =>
      cases answer : sends.headD (.ok ()) with
      | error reason =>
          have member : .error reason ∈ sends.take (packet :: others).length := by
            cases sends with
            | nil => cases answer
            | cons first rest => exact List.mem_cons.mpr (.inl answer.symm)
          refine .inr ⟨reason, [(packet.bytes, .error reason)], sends.tail, member, fun reads => ?_⟩
          apply serves.stop_bind
          exact serves.fails_bind (serves.send ExchangeError.link packet.bytes answer reads)
      | ok accepted =>
          have first (outcome : Except ExchangeError Unit)
              (sent : List (Bytes × Except LinkError Unit)) (left : List (Except LinkError Unit))
              (reads : List ReadResult) (rest : serves.Ends (sendPackets config token others)
                ⟨sends.tail, reads⟩ outcome sent [] ⟨left, reads⟩) :
              serves.Ends (sendPackets config token (packet :: others)) ⟨sends, reads⟩ outcome
                ((packet.bytes, .ok ()) :: sent) [] ⟨left, reads⟩ := by
            apply serves.stop_bind
            apply serves.bind (serves.send ExchangeError.link packet.bytes answer reads)
            apply serves.log_bind
            · cases config.debugSink <;> rfl
            apply serves.wait_bind
            exact rest
          cases ih sends.tail with
          | inl taken =>
              refine .inl ⟨?_, fun reads => ?_⟩
              · cases sends with
                | nil => simp
                | cons answered rest => exact List.forall_mem_cons.mpr ⟨answer, taken.1⟩
              · have whole := first _ _ _ reads (taken.2 reads)
                rw [List.drop_tail] at whole
                exact whole
          | inr refused =>
              obtain ⟨reason, sent, left, member, ends⟩ := refused
              have later : .error reason ∈ sends.take (packet :: others).length := by
                cases sends with
                | nil => simp at member
                | cons answered rest => exact List.mem_cons_of_mem answered member
              exact .inr ⟨reason, _, left, later, fun reads => first _ _ _ reads (ends reads)⟩

theorem ends_transmit_settled (stream : PacketStream) (sends : List (Except LinkError Unit)) :
    ((∀ answer ∈ sends.take stream.packets.length, answer = .ok ()) ∧ ∀ reads,
      serves.Ends (transmit config token stream) ⟨sends, reads⟩ (.ok ())
        (stream.packets.map fun packet => (packet.bytes, .ok ())) []
        ⟨sends.drop stream.packets.length, reads⟩) ∨
    ∃ reason sent left, .error reason ∈ sends.take stream.packets.length ∧ ∀ reads,
      serves.Ends (transmit config token stream) ⟨sends, reads⟩ (.error (.link reason)) sent []
        ⟨left, reads⟩ := by
  have unlogged : config.debugSink.line? (.log (.sending stream.length stream.flip)) = none := by
    cases config.debugSink <;> rfl
  cases ends_sendPackets_settled serves stream.packets sends with
  | inl taken => exact .inl ⟨taken.1, fun reads => serves.log_bind unlogged (taken.2 reads)⟩
  | inr refused =>
      obtain ⟨reason, sent, left, member, ends⟩ := refused
      exact .inr ⟨reason, sent, left, member, fun reads => serves.log_bind unlogged (ends reads)⟩

/-- A link that refuses none of the packets takes the whole stream. -/
theorem ends_transmit_accepted (stream : PacketStream) {sends : List (Except LinkError Unit)}
    (accepting : ∀ answer ∈ sends.take stream.packets.length, answer = .ok ())
    (reads : List ReadResult) :
    serves.Ends (transmit config token stream) ⟨sends, reads⟩ (.ok ())
      (stream.packets.map fun packet => (packet.bytes, .ok ())) []
      ⟨sends.drop stream.packets.length, reads⟩ := by
  cases ends_transmit_settled serves stream sends with
  | inl taken => exact taken.2 reads
  | inr refused =>
      obtain ⟨reason, _, _, member, _⟩ := refused
      cases accepting _ member

theorem ends_sleepAll (spans : List Duration) :
    serves.Ends (sleepAll spans) prospect (.ok ()) [] [] prospect := by
  induction spans with
  | nil => exact serves.done rfl
  | cons span spans ih => exact serves.sleep_bind span ih

theorem ends_pause (total : Duration) :
    serves.Ends (pause token total) prospect (.ok ()) [] [] prospect := by
  intro before faces
  change ∃ after, (pause token total).on link before = _ ∧ _
  rw [pause_on]
  exact serves.stop_bind (ends_sleepAll serves (slices total)) before faces

variable {stream : PacketStream} {command : Command} {retryOnSignal : Bool}

/-- Either the reply settles the conversation, or the device was busy and the next round follows. -/
theorem ends_react (stream : PacketStream) (command : Command) (retryOnSignal : Bool)
    (retries : UInt32) (reply : ReceiveOutcome) :
    (∃ final, ∀ rounds prospect,
      serves.Ends (react config token stream command retryOnSignal rounds retries reply) prospect final
        [] [] prospect) ∨
    ∀ rounds prospect outcome sent heard left,
      serves.Ends (converse config token stream command retryOnSignal rounds (retries + 1)) prospect
        outcome sent heard left →
      serves.Ends (react config token stream command retryOnSignal rounds retries reply) prospect
        outcome sent heard left := by
  unfold react
  cases busy : isTransientBusy reply command retryOnSignal config.reserved with
  | false =>
      simp only [Bool.false_eq_true, ↓reduceIte]
      exact .inl ⟨.ok (messageOf config.reserved reply), fun _ _ => serves.done rfl⟩
  | true =>
      cases exceeded : config.busyRetry.exceeded (retries + 1) with
      | true =>
          simp only [↓reduceIte]
          refine .inl ⟨.error (.retryLimitExceeded (retries + 1 - 1)), fun rounds prospect => ?_⟩
          apply serves.log_bind
          · cases config.debugSink <;> rfl
          · exact serves.done rfl
      | false =>
          simp only [↓reduceIte, Bool.false_eq_true]
          right
          intro rounds prospect outcome sent heard left rest
          apply serves.log_bind
          · cases config.debugSink <;> rfl
          · exact serves.bind (ends_pause serves config.busyBackoff) rest

/-- How a conversation goes on after a receive. -/
def conclude (config : SessionConfig) (token : CancelToken) (stream : PacketStream)
    (command : Command) (retryOnSignal : Bool) (rounds : Nat) (retries : UInt32) :
    Option ReceiveOutcome → Attempt ExchangeError Message
  | none => throw (.link .timeout)
  | some reply => react config token stream command retryOnSignal rounds retries reply

omit serves in
theorem converse_succ_conclude (rounds : Nat) (retries : UInt32) :
    converse config token stream command retryOnSignal (rounds + 1) retries = (do
      transmit config token stream
      awaitAcknowledgment config
      let received ← Receive.run config token .fatal (rounds + 1)
      conclude config token stream command retryOnSignal rounds retries received) :=
  rfl

section Rounds

variable (unacknowledged : config.ackEnabled = false) {sends sendsLater : List (Except LinkError Unit)}
  {sent : List (Bytes × Except LinkError Unit)} {retries : UInt32}
  (transmitted : ∀ reads, serves.Ends (transmit config token stream) ⟨sends, reads⟩ (.ok ()) sent []
    ⟨sendsLater, reads⟩)

include unacknowledged transmitted

theorem ends_converse {rounds : Nat} {script : List ReadResult} {heard : List Heard}
    {outcome : Except ExchangeError Message} {sentMore : List (Bytes × Except LinkError Unit)}
    (received : serves.Ends (Receive.run config token .fatal (rounds + 1) >>=
      conclude config token stream command retryOnSignal rounds retries)
      ⟨sendsLater, script⟩ outcome sentMore heard left) :
    serves.Ends (converse config token stream command retryOnSignal (rounds + 1) retries)
      ⟨sends, script⟩ outcome (sent ++ sentMore) heard left := by
  have unasked : serves.Ends (awaitAcknowledgment config) ⟨sendsLater, script⟩ (.ok ()) [] []
      ⟨sendsLater, script⟩ := by
    simp only [awaitAcknowledgment, unacknowledged, Bool.false_eq_true, ↓reduceIte]
    exact serves.done rfl
  rw [converse_succ_conclude]
  apply serves.bind (transmitted script)
  exact serves.bind unasked received

theorem ends_converse_silent {rounds : Nat} {script : List ReadResult} {heard : List Heard}
    {outcome : Except ExchangeError Message}
    (received : serves.Ends (Receive.run config token .fatal (rounds + 1) >>=
      conclude config token stream command retryOnSignal rounds retries)
      ⟨sendsLater, script⟩ outcome [] heard left) :
    serves.Ends (converse config token stream command retryOnSignal (rounds + 1) retries)
      ⟨sends, script⟩ outcome sent heard left := by
  have whole := ends_converse serves unacknowledged transmitted received
  rwa [List.append_nil] at whole

/-- Either a round settles the conversation, or it is followed by another. -/
theorem ends_round (command : Command) (retryOnSignal : Bool) (retries : UInt32)
    (received : Except ExchangeError (Option ReceiveOutcome)) :
    (∃ final, ∀ rounds script heard rest,
      Receive.listen config.reserved .fatal .new script = ⟨received, heard, rest⟩ →
      script.length < rounds + 1 →
      serves.Ends (converse config token stream command retryOnSignal (rounds + 1) retries)
        ⟨sends, script⟩ final sent heard ⟨sendsLater, rest⟩) ∨
    ∃ reply, received = .ok (some reply) ∧ ∀ rounds script heard rest,
      Receive.listen config.reserved .fatal .new script = ⟨received, heard, rest⟩ →
      script.length < rounds + 1 → ∀ outcome sentMore heardMore left,
      serves.Ends (converse config token stream command retryOnSignal rounds (retries + 1))
        ⟨sendsLater, rest⟩ outcome sentMore heardMore left →
      serves.Ends (converse config token stream command retryOnSignal (rounds + 1) retries)
        ⟨sends, script⟩ outcome (sent ++ sentMore) (heard ++ heardMore) left := by
  cases received with
  | error reason =>
      refine .inl ⟨.error reason, fun rounds script heard rest listened enough => ?_⟩
      apply ends_converse_silent serves unacknowledged transmitted
      exact serves.fails_bind (Receive.ends_run serves listened enough sendsLater)
  | ok complete =>
      cases complete with
      | none =>
          refine .inl ⟨.error (.link .timeout), fun rounds script heard rest listened enough => ?_⟩
          apply ends_converse_silent serves unacknowledged transmitted
          exact serves.bind_silent (Receive.ends_run serves listened enough sendsLater) (serves.done rfl)
      | some reply =>
          cases ends_react serves stream command retryOnSignal retries reply with
          | inl settled =>
              obtain ⟨final, ends⟩ := settled
              refine .inl ⟨final, fun rounds script heard rest listened enough => ?_⟩
              apply ends_converse_silent serves unacknowledged transmitted
              exact serves.bind_silent (Receive.ends_run serves listened enough sendsLater) (ends rounds _)
          | inr busy =>
              refine .inr ⟨reply, rfl, fun rounds script heard rest listened enough => ?_⟩
              intro outcome sentMore heardMore left following
              apply ends_converse serves unacknowledged transmitted
              exact serves.bind (Receive.ends_run serves listened enough sendsLater) (busy _ _ _ _ _ _ following)

end Rounds

end Exchange

/-- The session that follows was settled before the first packet went out. -/
theorem Session.returns_request {σ : Type} {link : Link σ} {session following : Session}
    {ahead : σ → Prospect → Prop}
    {serves : link.Serves session.token session.config.debugSink ahead} {message : Message}
    {stream : PacketStream} (prepared : session.prepare message = (.ok stream, following))
    {retryOnSignal : Bool} {rounds : Nat} {prospect left : Prospect}
    {outcome : Except ExchangeError Message} {sent : List (Bytes × Except LinkError Unit)}
    {heard : List Heard}
    (ends : serves.Ends (Exchange.converse session.config session.token stream message.command
      retryOnSignal rounds 0) prospect outcome sent heard left) :
    serves.Returns (session.request message retryOnSignal rounds) prospect (outcome, following) sent
      heard left := by
  rw [request, prepared]
  exact serves.beside ends following

end PacketLink
