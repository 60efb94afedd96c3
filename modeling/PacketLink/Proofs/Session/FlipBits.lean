import PacketLink.Proofs.Session.Calls

namespace PacketLink

/-! The flip bit during one call, on any link and however the call ends: it advances where a message
is made into packets and nowhere else, and these packets carry it as it was before. -/

namespace Step

/-- What a single call does to the session, and which packets it has to do with. -/
structure Lawful (step : Step) : Prop where
  config : ∀ outcome next, step.returned = some (outcome, next) →
    next.config = step.session.config
  flip : ∀ outcome next, step.returned = some (outcome, next) →
    next.nextFlip =
      if step.makes then step.session.nextFlip.toggled else step.session.nextFlip
  makes_of_ok : ∀ value next, step.returned = some (.ok value, next) →
    step.call.message?.isSome → step.makes = true
  late_of_makes : ∀ reason next, step.returned = some (.error reason, next) →
    step.makes = true → reason.refuses = false
  idle : step.call.message?.isSome → step.makes = false → step.events = #[] ∧ step.prepared = []
  sent : step.call.message?.isSome → ∀ packet ∈ Trace.attempted step.events,
    ∃ parsed, Packet.ofBytes packet = .ok parsed ∧ parsed.flip = step.session.nextFlip
  handed : ∀ packet ∈ step.prepared, packet.flip = step.session.nextFlip
  repeated : ∀ stream, step.call = .pingPong stream →
    ∀ packet ∈ Trace.attempted step.events, packet ∈ stream.packets.map Packet.bytes

variable {step : Step} {message : Message}

theorem makes_of_message (given : step.call.message? = some message) :
    step.makes = step.session.takes message := by
  rw [makes, given]
  rfl

theorem not_pingPong (given : step.call.message? = some message) (stream : PacketStream) :
    step.call ≠ .pingPong stream := by
  intro same
  rw [same] at given
  contradiction

/-- A call that takes no message, on a session that it leaves as it was but for the connection. -/
theorem lawful_of_other (other : step.call.message? = none) (nothing : step.prepared = [])
    (unchanged : ∀ outcome next, step.returned = some (outcome, next) →
      next.config = step.session.config ∧ next.nextFlip = step.session.nextFlip)
    (repeated : ∀ stream, step.call = .pingPong stream →
      ∀ packet ∈ Trace.attempted step.events, packet ∈ stream.packets.map Packet.bytes) :
    step.Lawful := by
  have idle : step.makes = false := by rw [makes, other]; rfl
  exact
    { config := fun outcome next returned => (unchanged outcome next returned).1
      flip := by
        intro outcome next returned
        rw [idle]
        exact (unchanged outcome next returned).2
      makes_of_ok := by simp [other]
      late_of_makes := by simp [idle]
      idle := by simp [other]
      sent := by simp [other]
      handed := by simp [nothing]
      repeated }

theorem lawful_of_refusal {reason : ExchangeError} (given : step.call.message? = some message)
    (refused : step.session.takes message = false)
    (returned : step.returned = some (.error reason, step.session))
    (events : step.events = #[]) (nothing : step.prepared = []) : step.Lawful := by
  have idle : step.makes = false := (makes_of_message given).trans refused
  have same {outcome next} (again : step.returned = some (outcome, next)) :
      next = step.session := by
    rw [returned] at again
    exact (Prod.mk.inj (Option.some.inj again)).2.symm
  exact
    { config := fun outcome next again => by rw [same again]
      flip := by
        intro outcome next again
        rw [same again, idle]
        rfl
      makes_of_ok := by
        intro value next again
        rw [returned] at again
        simp at again
      late_of_makes := by simp [idle]
      idle := fun _ _ => ⟨events, nothing⟩
      sent := by
        rw [events]
        simp [Trace.attempted]
      handed := by simp [nothing]
      repeated := fun stream same => absurd same (not_pingPong given stream) }

theorem lawful_of_stream {stream : PacketStream} (given : step.call.message? = some message)
    (taken : step.session.takes message = true)
    (encoded : message.encode step.session.nextFlip step.session.config.ackEnabled = .ok stream)
    (returned : ∀ outcome next, step.returned = some (outcome, next) →
      next = step.session.advanced ∧ ∀ reason, outcome = .error reason → Late reason)
    (sent : ∀ packet ∈ Trace.attempted step.events, packet ∈ stream.packets.map Packet.bytes)
    (handed : ∀ packet ∈ step.prepared, packet ∈ stream.packets) : step.Lawful := by
  have makes : step.makes = true := (makes_of_message given).trans taken
  obtain ⟨-, rfl⟩ := message.eq_of_encode _ _ encoded
  exact
    { config := fun outcome next again => by rw [(returned outcome next again).1]; rfl
      flip := by
        intro outcome next again
        rw [(returned outcome next again).1, makes]
        rfl
      makes_of_ok := fun _ _ _ _ => makes
      late_of_makes := fun reason next again _ => (returned _ next again).2 reason rfl
      idle := by simp [makes]
      sent := by
        intro _ packet member
        obtain ⟨origin, within, rfl⟩ := List.mem_map.mp (sent packet member)
        exact ⟨origin, origin.ofBytes_bytes, (message.bits_of_mem_packets _ _ within).1⟩
      handed := fun packet member => (message.bits_of_mem_packets _ _ (handed packet member)).1
      repeated := fun stream same => absurd same (not_pingPong given stream) }

theorem prepared_of_error {reason : ExchangeError} {next : Session}
    (returned : step.returned = some (.error reason, next)) : step.prepared = [] := by
  obtain ⟨call, session, events, result⟩ := step
  change result = some (.error reason, next) at returned
  subst returned
  cases call <;> rfl

section Calls

variable {σ : Type} (link : Link σ) (session : Session) (before : World σ)

/-- A call that takes a message, from what it does when the message is refused and when it is made
into a stream. -/
theorem of_message_lawful {call : Call} (given : call.message? = some message)
    (refused : ∀ reason, session.prepare message = (.error reason, session) →
      (call.action session).run link before = (some (.error reason, session), before))
    (taken : ∀ stream, session.prepare message = (.ok stream, session.advanced) →
      0 < stream.length →
      (∃ events, ((call.action session).run link before).2.trace = before.trace ++ events ∧
        ∀ packet ∈ Trace.attempted events, packet ∈ stream.packets.map Packet.bytes) ∧
      (∀ outcome next, ((call.action session).run link before).1 = some (outcome, next) →
        next = session.advanced ∧ ∀ reason, outcome = .error reason → Late reason) ∧
      ∀ packet ∈ (of link call session before).prepared, packet ∈ stream.packets) :
    (of link call session before).Lawful := by
  rcases session.prepare_cases message with
    ⟨reason, refusal, -, untaken⟩ | ⟨stream, prepared, encoded, takes⟩
  · have ran := refused reason refusal
    have returned := of_returned ran
    have silent : (of link call session before).events = #[] := by
      refine events_of ?_
      rw [ran, Array.append_empty]
    exact lawful_of_refusal given untaken returned silent (prepared_of_error returned)
  · obtain ⟨⟨events, trace, only⟩, returned, handed⟩ :=
      taken stream prepared (message.length_pos_of_encode _ _ encoded)
    refine lawful_of_stream given takes encoded returned ?_ handed
    rw [events_of trace]
    exact only

theorem of_request_lawful (message : Message) (retryOnSignal : Bool) (rounds : Nat) :
    (of link (.request message retryOnSignal rounds) session before).Lawful := by
  refine of_message_lawful link session before rfl ?_ ?_
  · intro reason refusal
    simp [Call.action, Session.request, refusal]
  · intro stream prepared nonempty
    have leaves : (Exchange.converse session.config session.token stream message.command
        retryOnSignal rounds 0).Leaves link _ := Exchange.converse_leaves nonempty rounds 0
    obtain ⟨events, trace, ⟨copies, unfinished, transcript, -⟩, late⟩ := leaves before
    have ran := Session.request_run link before retryOnSignal rounds prepared
    refine ⟨⟨events, (congrArg (·.2.trace) ran).trans trace, transcript.only⟩, ?_,
      fun _ member => absurd member List.not_mem_nil⟩
    intro outcome next returned
    rw [Call.action, ran] at returned
    obtain ⟨conversed, finished, same⟩ := Option.map_eq_some_iff.mp returned
    obtain ⟨rfl, rfl⟩ := Prod.mk.inj same
    exact ⟨rfl, fun reason failed => late reason (failed ▸ finished)⟩

theorem of_sendOnly_lawful (message : Message) :
    (of link (.sendOnly message) session before).Lawful := by
  refine of_message_lawful link session before rfl ?_ ?_
  · intro reason refusal
    simp [Call.action, Session.sendOnly, refusal]
  · intro stream prepared nonempty
    have leaves : (Exchange.transmit session.config session.token stream).Leaves link _ :=
      Exchange.transmit_leaves stream
    obtain ⟨events, trace, sent⟩ := leaves before
    have ran := session.sendOnly_run link before prepared
    refine ⟨⟨events, (congrArg (·.2.trace) ran).trans trace, sent.only⟩, ?_,
      fun _ member => absurd member List.not_mem_nil⟩
    intro outcome next returned
    rw [Call.action, ran] at returned
    obtain ⟨transmitted, finished, same⟩ := Option.map_eq_some_iff.mp returned
    obtain ⟨rfl, rfl⟩ := Prod.mk.inj same
    refine ⟨rfl, fun reason failed => ?_⟩
    rw [finished, failed] at sent
    exact sent.late

theorem of_prepare_lawful (message : Message) :
    (of link (.prepare message) session before).Lawful := by
  refine of_message_lawful link session before rfl ?_ ?_
  · intro reason refusal
    simp [Call.action, refusal]
  · intro stream prepared nonempty
    have ran : ((Call.prepare message).action session).run link before =
        (some (.ok stream, session.advanced), before) := by
      simp [Call.action, prepared]
    refine ⟨⟨#[], by rw [ran, Array.append_empty], by simp [Trace.attempted]⟩, ?_, ?_⟩
    · intro outcome next returned
      rw [ran] at returned
      obtain ⟨rfl, rfl⟩ := Prod.mk.inj (Option.some.inj returned)
      exact ⟨rfl, by simp⟩
    · have handed : (of link (.prepare message) session before).prepared = stream.packets := by
        simp [of, Step.prepared, ran]
      rw [handed]
      exact fun packet member => member

/-- A call that takes no message, refused because there is no connection. -/
theorem lawful_of_unconnected {call : Call} (other : call.message? = none)
    (ran : (call.action session).run link before = (some (.error .notConnected, session), before)) :
    (of link call session before).Lawful := by
  have returned := of_returned ran
  have silent : (of link call session before).events = #[] := by
    refine events_of ?_
    rw [ran, Array.append_empty]
  refine lawful_of_other other (prepared_of_error returned) ?_ ?_
  · intro outcome next again
    rw [returned] at again
    obtain ⟨-, rfl⟩ := Prod.mk.inj (Option.some.inj again)
    exact ⟨rfl, rfl⟩
  · intro stream _ packet member
    rw [silent] at member
    contradiction

theorem of_pingPong_lawful (stream : PacketStream) :
    (of link (.pingPong stream) session before).Lawful := by
  cases connected : session.connected with
  | false =>
      refine lawful_of_unconnected link session before rfl ?_
      simp [Call.action, Session.pingPong, connected]
  | true =>
      have ran := session.pingPong_run link before connected stream
      refine lawful_of_other rfl rfl ?_ ?_
      · intro outcome next returned
        rw [of_returned ran] at returned
        obtain ⟨_, _, same⟩ := Option.map_eq_some_iff.mp returned
        obtain ⟨-, rfl⟩ := Prod.mk.inj same
        exact ⟨rfl, rfl⟩
      · rintro _ ⟨⟩
        have leaves : (Exchange.roundTrip session.config session.token stream).Leaves link _ :=
          Exchange.roundTrip_leaves stream
        obtain ⟨events, trace, only⟩ := leaves before
        rw [events_of ((congrArg (·.2.trace) ran).trans trace)]
        exact only

theorem of_receive_lawful (policy : TimeoutPolicy) (rounds : Nat) :
    (of link (.receive policy rounds) session before).Lawful := by
  cases connected : session.connected with
  | false =>
      refine lawful_of_unconnected link session before rfl ?_
      simp [Call.action, Session.receive, connected]
  | true =>
      have ran := session.receive_run link before connected policy rounds
      refine lawful_of_other rfl rfl ?_ (by simp [of])
      intro outcome next returned
      rw [of_returned ran] at returned
      obtain ⟨_, _, same⟩ := Option.map_eq_some_iff.mp returned
      obtain ⟨-, rfl⟩ := Prod.mk.inj same
      exact ⟨rfl, rfl⟩

theorem of_disconnect_lawful : (of link .disconnect session before).Lawful := by
  cases connected : session.connected with
  | false =>
      refine lawful_of_unconnected link session before rfl ?_
      simp [Call.action, Session.disconnect, connected]
  | true =>
      obtain ⟨ended, after, ran⟩ := session.disconnect_run link before connected
      refine lawful_of_other rfl rfl ?_ (by simp [of])
      intro outcome next returned
      rw [of_returned ran] at returned
      obtain ⟨-, rfl⟩ := Prod.mk.inj (Option.some.inj returned)
      exact ⟨rfl, rfl⟩

theorem of_lawful (call : Call) : (of link call session before).Lawful := by
  cases call with
  | request message retryOnSignal rounds =>
      exact of_request_lawful link session before message retryOnSignal rounds
  | sendOnly message => exact of_sendOnly_lawful link session before message
  | prepare message => exact of_prepare_lawful link session before message
  | pingPong stream => exact of_pingPong_lawful link session before stream
  | receive policy rounds => exact of_receive_lawful link session before policy rounds
  | disconnect => exact of_disconnect_lawful link session before

end Calls

end Step

end PacketLink
