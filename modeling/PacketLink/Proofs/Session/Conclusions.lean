import PacketLink.Proofs.Session.Requests

namespace PacketLink

/-! Requests to any device whatever: what must have been read before a reply is handed out. -/

/-- What led to an outcome. Whatever came earlier, the stream was sent whole, and after that the
link was only read from: an acknowledgment if they are on, streams of debug text, and one last
stream. -/
structure Conclusion (config : SessionConfig) (stream : PacketStream) (events : Array Event) where
  earlier : Array Event
  transmission : Array Event
  answers : Array Event
  acknowledgment : Bytes
  debug : List Delivery
  last : Delivery
  parts : events = earlier ++ transmission ++ answers
  attempted : Trace.attempted transmission = stream.packets.map Packet.bytes
  accepted : Trace.accepted transmission = stream.packets.map Packet.bytes
  unread : Trace.delivered transmission = []
  silent : Trace.attempted answers = []
  heard : Trace.delivered answers =
    Exchange.acknowledgments config acknowledgment ++ Receive.arriving debug last
  swallowed : ∀ text ∈ debug, text.message.command = config.reserved.debugMessage

/-- Events ahead of the others change nothing. -/
def Conclusion.preceded {config : SessionConfig} {stream : PacketStream} {events : Array Event}
    (conclusion : Conclusion config stream events) (ahead : Array Event) :
    Conclusion config stream (ahead ++ events) :=
  { conclusion with
    earlier := ahead ++ conclusion.earlier
    parts := by simp [conclusion.parts, Array.append_assoc] }

namespace Exchange

variable {σ : Type} {link : Link σ} {config : SessionConfig} {token : CancelToken}
  {stream : PacketStream} {command : Command} {retryOnSignal : Bool} {rounds : Nat}
  {retries : UInt32} {before after : World σ} {reply : Message}

/-- One transmission and what was read after it, up to the reaction to it. -/
theorem converse_succ_of_ok
    (ran : (converse config token stream command retryOnSignal (rounds + 1) retries).on link before =
      (some (.ok reply), after)) :
    ∃ middle events outcome, ∃ conclusion : Conclusion config stream events,
      middle.trace = before.trace ++ events ∧
      Receive.classify config.reserved conclusion.last.message = some outcome ∧
      (react config token stream command retryOnSignal rounds retries outcome).on link middle =
        (some (.ok reply), after) := by
  rw [converse_succ] at ran
  obtain ⟨_, sent, transmitted, ran⟩ := Attempt.ok_of_bind ran
  obtain ⟨_, acked, acknowledged, ran⟩ := Attempt.ok_of_bind ran
  obtain ⟨received, replied, heard, ran⟩ := Attempt.ok_of_bind ran
  cases received with
  | none => simp at ran
  | some outcome =>
      obtain ⟨transmission, sending⟩ := transmit_sends transmitted
      obtain ⟨first, acknowledgment, acknowledging⟩ := awaitAcknowledgment_reads acknowledged
      obtain ⟨others, debug, last, reading, swallowed, concluded⟩ := Receive.run_heard heard
      have answers := acknowledging.trans reading
      exact ⟨replied, transmission ++ (first ++ others), outcome,
        { earlier := #[], transmission, answers := first ++ others, acknowledgment, debug, last
          parts := by simp
          attempted := sending.attempted
          accepted := sending.accepted
          unread := sending.delivered
          silent := answers.attempted
          heard := answers.delivered
          swallowed }, (sending.trans answers).trace, concluded, ran⟩

/-- A reaction that ends well hands out the outcome, unless that was a busy reply; then the
conversation went on. -/
theorem react_of_ok {outcome : ReceiveOutcome}
    (ran : (react config token stream command retryOnSignal rounds retries outcome).on link before =
      (some (.ok reply), after)) :
    (isTransientBusy outcome command retryOnSignal config.reserved = false ∧
        reply = messageOf config.reserved outcome ∧ after = before) ∨
      ∃ middle events, Stretch before middle events [] [] ∧
        (converse config token stream command retryOnSignal rounds (retries + 1)).on link middle =
          (some (.ok reply), after) := by
  unfold react at ran
  cases busy : isTransientBusy outcome command retryOnSignal config.reserved with
  | false =>
      simp only [busy, Bool.false_eq_true, ↓reduceIte, Attempt.on_pure, Prod.mk.injEq,
        Option.some.injEq, Except.ok.injEq] at ran
      exact .inl ⟨rfl, ran.1.symm, ran.2.symm⟩
  | true =>
      rw [busy, if_pos rfl] at ran
      split at ran
      · obtain ⟨_, _, _, ran⟩ := Attempt.ok_of_bind ran
        simp at ran
      · obtain ⟨_, logged, noted, ran⟩ := Attempt.ok_of_bind ran
        obtain ⟨_, rested, paused, ran⟩ := Attempt.ok_of_bind ran
        obtain ⟨_, logging⟩ := Stretch.of_note noted
        obtain ⟨_, pausing⟩ := pause_silent paused
        exact .inr ⟨rested, _, logging.trans pausing, ran⟩

theorem converse_concludes
    (ran : (converse config token stream command retryOnSignal rounds retries).on link before =
      (some (.ok reply), after)) :
    ∃ events outcome, ∃ conclusion : Conclusion config stream events,
      after.trace = before.trace ++ events ∧
      Receive.classify config.reserved conclusion.last.message = some outcome ∧
      isTransientBusy outcome command retryOnSignal config.reserved = false ∧
      reply = messageOf config.reserved outcome := by
  induction rounds generalizing retries before with
  | zero => simp [converse] at ran
  | succ rounds ih =>
      obtain ⟨middle, events, outcome, conclusion, trace, classified, reacted⟩ :=
        converse_succ_of_ok ran
      rcases react_of_ok reacted with ⟨settled, rfl, rfl⟩ | ⟨rested, pause, pausing, ran⟩
      · exact ⟨events, outcome, conclusion, trace, classified, settled, rfl⟩
      · obtain ⟨later, answer, following, traceLater, rest⟩ := ih ran
        refine ⟨events ++ pause ++ later, answer, following.preceded (events ++ pause), ?_, rest⟩
        rw [traceLater, pausing.trace, trace]
        simp only [Array.append_assoc]

end Exchange

namespace Session

variable {σ : Type} {link : Link σ} {session following : Session} {message reply : Message}
  {retryOnSignal : Bool} {rounds : Nat} {before after : World σ}

theorem encode_of_prepared {stream : PacketStream}
    (prepared : session.prepare message = (.ok stream, following)) :
    message.encode session.nextFlip session.config.ackEnabled = .ok stream := by
  unfold prepare at prepared
  split at prepared
  · cases encoded : message.encode session.nextFlip session.config.ackEnabled with
    | error size => simp [encoded] at prepared
    | ok found =>
        simp only [encoded, Prod.mk.injEq, Except.ok.injEq] at prepared
        rw [prepared.1]
  · simp at prepared

theorem prepared_of_ok
    (ran : (session.request message retryOnSignal rounds).run link before =
      (some (.ok reply, following), after)) :
    ∃ stream, session.prepare message = (.ok stream, following) ∧
      (Exchange.converse session.config session.token stream message.command retryOnSignal rounds
        0).on link before = (some (.ok reply), after) := by
  cases prepared : session.prepare message with
  | mk result next =>
      cases result with
      | error reason => simp [request, prepared] at ran
      | ok stream =>
          rw [request_run link before retryOnSignal rounds prepared] at ran
          obtain ⟨finished, rfl⟩ := Prod.mk.inj ran
          obtain ⟨outcome, conversed, same⟩ := Option.map_eq_some_iff.mp finished
          cases same
          exact ⟨stream, rfl, Prod.ext conversed rfl⟩

theorem request_of_ok
    (ran : (session.request message retryOnSignal rounds).run link before =
      (some (.ok reply, following), after)) :
    ∃ stream, message.encode session.nextFlip session.config.ackEnabled = .ok stream ∧
      (Exchange.converse session.config session.token stream message.command retryOnSignal rounds
        0).on link before = (some (.ok reply), after) := by
  obtain ⟨stream, prepared, conversed⟩ := prepared_of_ok ran
  exact ⟨stream, encode_of_prepared prepared, conversed⟩

/-- Whatever the device does, a reply that is handed out was received whole, after a transmission of
the whole message and with nothing between them but an acknowledgment and debug text. It is neither
debug text nor a busy reply. -/
theorem request_concludes
    (ran : (session.request message retryOnSignal rounds).run link before =
      (some (.ok reply, following), after)) :
    ∃ stream events, ∃ conclusion : Conclusion session.config stream events,
      message.encode session.nextFlip session.config.ackEnabled = .ok stream ∧
      after.trace = before.trace ++ events ∧
      (conclusion.last.message = reply ∨
        conclusion.last.message.command = session.config.reserved.retry ∧
          reply = Message.empty session.config.reserved.retry ∧ retryOnSignal = false) ∧
      reply.command ≠ session.config.reserved.debugMessage ∧
      (reply.command = session.config.reserved.retry → retryOnSignal = false) ∧
      (reply.command = session.config.reserved.deviceStatus →
        message.command = session.config.reserved.deviceStatus ∨
          session.config.reserved.deviceStatus = session.config.reserved.retry) := by
  obtain ⟨stream, encoded, conversed⟩ := request_of_ok ran
  obtain ⟨events, outcome, conclusion, trace, classified, settled, rfl⟩ :=
    Exchange.converse_concludes conversed
  obtain ⟨notDebug, ⟨signal, rfl⟩ | ⟨notSignal, rfl⟩⟩ := Receive.classify_eq_some classified
  · have unretried : retryOnSignal = false := settled
    refine ⟨stream, events, conclusion, encoded, trace, .inr ⟨signal, rfl, unretried⟩, ?_,
      fun _ => unretried, fun same => .inr same.symm⟩
    exact fun same => notDebug (signal.trans same)
  · refine ⟨stream, events, conclusion, encoded, trace, .inl rfl, notDebug,
      fun same => absurd same notSignal, fun same => .inl ?_⟩
    simpa [Exchange.isTransientBusy, show conclusion.last.message.command = _ from same] using settled

/-- A busy reply, and after the second transmission debug text and a request to send again. -/
theorem request_concludes_after_busy :
    ∃ stream events, ∃ conclusion : Conclusion { ackEnabled := true } stream events,
      (Message.empty .ping).encode .set true = .ok stream ∧
      conclusion.last.message.command = .retry := by
  let session := Session.resume { ackEnabled := true } ⟨0⟩ .set
  let before : World Script := { device := .playing (script { ackEnabled := true }
    [⟨[0xAC], [], .encoded ⟨.deviceStatus, [1]⟩ .clear false (by decide)⟩,
      ⟨[], [.encoded ⟨.debugMessage, [104, 0, 105, 0]⟩ .clear false (by decide)],
        .encoded (.empty .retry) .set false (by decide)⟩]) }
  have replied : ((session.request (.empty .ping) false 5).run Link.scripted before).1 =
      some (.ok (.empty .retry), session.advanced) := by
    decide +kernel
  obtain ⟨stream, events, conclusion, encoded, _, same | ⟨signal, _⟩, _⟩ :=
    request_concludes (Action.run_of_outcome replied)
  · exact ⟨stream, events, conclusion, encoded, congrArg Message.command same⟩
  · exact ⟨stream, events, conclusion, encoded, signal⟩

end Session

end PacketLink
