import PacketLink.Proofs.Session.Conclusions
import PacketLink.Proofs.Session.Transmissions

namespace PacketLink

/-! What a request puts on the wire, whatever the link does and however the request ends: the stream
again and again, each time but the last answered by a busy reply, and perhaps a last one that breaks
off. -/

/-- After a refused packet nothing is sent. -/
def StopsAtRefusal (sends : List (Bytes × Except LinkError Unit)) : Prop :=
  ∀ earlier packet reason later, sends = earlier ++ (packet, .error reason) :: later → later = []

namespace StopsAtRefusal

theorem accepted_append (packets : List Bytes) {sends : List (Bytes × Except LinkError Unit)}
    (stops : StopsAtRefusal sends) : StopsAtRefusal (packets.map (·, .ok ()) ++ sends) := by
  induction packets with
  | nil => exact stops
  | cons packet rest ih =>
      intro earlier refused reason later split
      cases earlier with
      | nil => simp at split
      | cons first others => exact ih others refused reason later (List.cons.inj split).2

theorem single (packet : Bytes) (result : Except LinkError Unit) :
    StopsAtRefusal [(packet, result)] := by
  intro earlier refused reason later split
  have count := congrArg List.length split
  simp only [List.length_cons, List.length_nil, List.length_append] at count
  exact List.eq_nil_of_length_eq_zero (by omega)

theorem nil : StopsAtRefusal [] := by
  intro earlier packet reason later split
  simp at split

end StopsAtRefusal

variable {σ : Type} {link : Link σ} {config : SessionConfig} {token : CancelToken}
  {stream : PacketStream} {command : Command} {retryOnSignal : Bool}

/-- The copy of the stream after the first `copies` was sent whole, and before anything else was sent
there came a busy reply to it. -/
def AnsweredBusy (config : SessionConfig) (stream : PacketStream) (command : Command)
    (retryOnSignal : Bool) (events : Array Event) (copies : Nat) : Prop :=
  ∃ answered others, events = answered ++ others ∧
    ∃ conclusion : Conclusion config stream answered,
      Trace.sends conclusion.earlier = (stream.repeated copies).map (·, .ok ()) ∧
      ∃ reply, Receive.classify config.reserved conclusion.last.message = some reply ∧
        Exchange.isTransientBusy reply command retryOnSignal config.reserved = true

/-- `copies` of the stream were accepted, and then the packets `unfinished` of one more. -/
structure Transcript (config : SessionConfig) (stream : PacketStream) (command : Command)
    (retryOnSignal : Bool) (events : Array Event) (copies : Nat) (unfinished : List Bytes) :
    Prop where
  accepted : Trace.accepted events = stream.repeated copies ++ unfinished
  begun : unfinished <+: stream.packets.map Packet.bytes
  short : unfinished.length < stream.length
  only : ∀ packet ∈ Trace.attempted events, packet ∈ stream.packets.map Packet.bytes
  stops : StopsAtRefusal (Trace.sends events)
  /-- A copy that another packet follows was answered. -/
  busy : ∀ i < copies, (i + 1) * stream.length < (Trace.sends events).length →
    AnsweredBusy config stream command retryOnSignal events i

namespace Transcript

variable {events : Array Event} {copies : Nat} {unfinished : List Bytes}

theorem nothing (nonempty : 0 < stream.length) (silent : Trace.sends events = []) :
    Transcript config stream command retryOnSignal events 0 [] := by
  refine ⟨?_, List.nil_prefix, nonempty, ?_, ?_, ?_⟩
  · rw [Trace.accepted_eq, silent]
    rfl
  · rw [Trace.attempted_eq, silent]
    simp
  · rw [silent]
    exact .nil
  · intro i within
    exact absurd within (Nat.not_lt_zero i)

theorem of_cut {reason : ExchangeError}
    (sent : Sent (stream.packets.map Packet.bytes) (some (.error reason)) events) :
    ∃ unfinished, Transcript config stream command retryOnSignal events 0 unfinished := by
  have only := sent.only
  cases sent with
  | @cut _ _ accepted left next last parts sends refused late =>
      have count : stream.length = accepted.length + (left.length + 1) := by
        have lengths := congrArg List.length parts
        simpa [PacketStream.length] using lengths
      refine ⟨accepted, ?_, ⟨next :: left, parts.symm⟩, by omega, only, ?_, ?_⟩
      · exact Trace.accepted_of_sends sends (refused.imp_right (Exists.intro next))
      · rw [sends]
        rcases refused with rfl | ⟨answer, rfl⟩
        · exact StopsAtRefusal.nil.accepted_append accepted
        · exact (StopsAtRefusal.single next _).accepted_append accepted
      · intro i within
        exact absurd within (Nat.not_lt_zero i)

theorem once (nonempty : 0 < stream.length)
    (sends : Trace.sends events = (stream.packets.map Packet.bytes).map (·, .ok ())) :
    Transcript config stream command retryOnSignal events 1 [] := by
  have accepted := Trace.accepted_of_sends (sends.trans (List.append_nil _).symm) (.inl rfl)
  refine ⟨?_, List.nil_prefix, nonempty, ?_, ?_, ?_⟩
  · simpa [PacketStream.repeated] using accepted
  · intro packet member
    rw [Trace.attempted_eq, sends] at member
    simpa using member
  · rw [sends, ← List.append_nil (List.map _ _)]
    exact StopsAtRefusal.nil.accepted_append _
  · intro i within more
    rw [sends] at more
    simp only [List.length_map, PacketStream.length] at more
    have least : stream.packets.length ≤ (i + 1) * stream.packets.length :=
      Nat.le_mul_of_pos_left _ (Nat.succ_pos i)
    omega

/-- A busy reply to one copy, ahead of what follows after a pause. -/
theorem preceded {answered pause : Array Event} (conclusion : Conclusion config stream answered)
    (first : conclusion.earlier = #[])
    (sends : Trace.sends answered = (stream.packets.map Packet.bytes).map (·, .ok ()))
    (quiet : Trace.sends pause = []) {reply : ReceiveOutcome}
    (classified : Receive.classify config.reserved conclusion.last.message = some reply)
    (busy : Exchange.isTransientBusy reply command retryOnSignal config.reserved = true)
    (later : Transcript config stream command retryOnSignal events copies unfinished) :
    Transcript config stream command retryOnSignal (answered ++ pause ++ events) (copies + 1)
      unfinished := by
  have round : Trace.sends (answered ++ pause) =
      (stream.packets.map Packet.bytes).map (·, .ok ()) := by
    rw [Trace.sends_append, sends, quiet, List.append_nil]
  have accepted := Trace.accepted_of_sends (round.trans (List.append_nil _).symm) (.inl rfl)
  refine ⟨?_, later.begun, later.short, ?_, ?_, ?_⟩
  · rw [Trace.accepted_append, accepted, later.accepted, stream.repeated_succ, List.append_assoc]
  · intro packet member
    rw [Trace.attempted_append, Trace.attempted_eq (answered ++ pause), round] at member
    rcases List.mem_append.mp member with here | there
    · simpa using here
    · exact later.only packet there
  · rw [Trace.sends_append, round]
    exact later.stops.accepted_append _
  · intro i within more
    cases i with
    | zero =>
        refine ⟨answered, pause ++ events, Array.append_assoc, conclusion, ?_, reply, classified,
          busy⟩
        rw [first]
        rfl
    | succ i =>
        have count : (Trace.sends (answered ++ pause ++ events)).length =
            stream.length + (Trace.sends events).length := by
          rw [Trace.sends_append, round]
          simp [PacketStream.length]
        have moreLater : (i + 1) * stream.length < (Trace.sends events).length := by
          rw [count, Nat.succ_mul (i + 1)] at more
          omega
        obtain ⟨front, others, rfl, following, before, reply, classifiedLater, busyLater⟩ :=
          later.busy i (Nat.lt_of_succ_lt_succ within) moreLater
        refine ⟨answered ++ pause ++ front, others, (Array.append_assoc).symm,
          following.preceded (answered ++ pause), ?_, reply, classifiedLater, busyLater⟩
        have ahead : Trace.sends (answered ++ pause ++ following.earlier) =
            (stream.repeated (i + 1)).map (·, .ok ()) := by
          rw [Trace.sends_append, round, before, stream.repeated_succ, List.map_append]
        exact ahead

end Transcript

/-- What a conversation leaves: a transcript, of whole copies only if it ends well, and no failure of
a call that did not come to use the link. -/
def Transcribed (config : SessionConfig) (stream : PacketStream) (command : Command)
    (retryOnSignal : Bool) (outcome : Option (Except ExchangeError Message))
    (events : Array Event) : Prop :=
  (∃ copies unfinished, Transcript config stream command retryOnSignal events copies unfinished ∧
    ∀ reply, outcome = some (.ok reply) → 1 ≤ copies ∧ unfinished = []) ∧
    ∀ reason, outcome = some (.error reason) → Late reason

namespace Exchange

open Attempt

/-- What is known when a reply to the first copy is in. -/
structure Replied (config : SessionConfig) (stream : PacketStream) (events : Array Event)
    (reply : ReceiveOutcome) where
  conclusion : Conclusion config stream events
  first : conclusion.earlier = #[]
  sends : Trace.sends events = (stream.packets.map Packet.bytes).map (·, .ok ())
  classified : Receive.classify config.reserved conclusion.last.message = some reply

theorem transcribed_of_listens {attempt : Attempt ExchangeError Message} {events : Array Event}
    (nonempty : 0 < stream.length)
    (sends : Trace.sends events = (stream.packets.map Packet.bytes).map (·, .ok ()))
    (listens : attempt.Listens link Late) :
    attempt.Leaves link fun outcome more =>
      Transcribed config stream command retryOnSignal outcome (events ++ more) := by
  refine listens.mono ?_
  rintro outcome more ⟨silent, late⟩
  refine ⟨⟨1, [], .once nonempty ?_, fun _ _ => ⟨Nat.le_refl 1, rfl⟩⟩, late⟩
  rw [Trace.sends_append, sends, silent, List.append_nil]

/-- A part of an answer: nothing is sent, and `heard` holds where the part ends well. -/
def Hears {α : Type} (link : Link σ) (heard : α → Array Event → Prop)
    (attempt : Attempt ExchangeError α) : Prop :=
  attempt.Leaves link fun outcome events =>
    (Trace.sends events = [] ∧ ∀ reason, outcome = some (.error reason) → Late reason) ∧
      ∀ value, outcome = some (.ok value) → heard value events

theorem hears_bind {α : Type} {heard : α → Array Event → Prop}
    {attempt : Attempt ExchangeError α} {next : α → Attempt ExchangeError Message}
    {answered : Array Event} (nonempty : 0 < stream.length)
    (sends : Trace.sends answered = (stream.packets.map Packet.bytes).map (·, .ok ()))
    (first : Hears link heard attempt)
    (rest : ∀ value events, Trace.sends events = [] → heard value events →
      (next value).Leaves link fun outcome more =>
        Transcribed config stream command retryOnSignal outcome (answered ++ events ++ more)) :
    (attempt >>= next).Leaves link fun outcome more =>
      Transcribed config stream command retryOnSignal outcome (answered ++ more) := by
  have still {events : Array Event} (silent : Trace.sends events = []) :
      Transcript config stream command retryOnSignal (answered ++ events) 1 [] := by
    refine .once nonempty ?_
    rw [Trace.sends_append, sends, silent, List.append_nil]
  refine Leaves.bind first ?_ ?_ ?_
  · rintro events ⟨⟨silent, -⟩, -⟩
    exact ⟨⟨1, [], still silent, by simp⟩, by simp⟩
  · rintro reason events ⟨⟨silent, late⟩, -⟩
    refine ⟨⟨1, [], still silent, by simp⟩, fun other same => ?_⟩
    obtain rfl : reason = other := by simpa using same
    exact late reason rfl
  · rintro value events ⟨⟨silent, -⟩, knows⟩
    refine (rest value events silent (knows value rfl)).mono fun outcome more kept => ?_
    rwa [Array.append_assoc] at kept

theorem awaitAcknowledgment_hears :
    Hears link (fun _ events => ∃ acknowledgment,
      Trace.delivered events = acknowledgments config acknowledgment)
      (awaitAcknowledgment config) := by
  refine awaitAcknowledgment_listens.and_of_ok ?_
  intro before after value ran
  obtain ⟨events, acknowledgment, stretch⟩ := awaitAcknowledgment_reads ran
  exact ⟨events, stretch.trace, acknowledgment, stretch.delivered⟩

theorem run_hears (policy : TimeoutPolicy) (rounds : Nat) :
    Hears link (fun received events => ∀ reply, received = some reply →
      ∃ debug last, Trace.delivered events = Receive.arriving debug last ∧
        (∀ text ∈ debug, text.message.command = config.reserved.debugMessage) ∧
        Receive.classify config.reserved last.message = some reply)
      (Receive.run config token policy rounds) := by
  refine (Receive.run_listens policy rounds).and_of_ok ?_
  intro before after received ran
  cases received with
  | none =>
      obtain ⟨events, trace, -⟩ := Receive.run_listens policy rounds before
      rw [ran] at trace
      exact ⟨events, trace, by simp⟩
  | some outcome =>
      obtain ⟨events, debug, last, stretch, swallowed, classified⟩ := Receive.run_heard ran
      refine ⟨events, stretch.trace, fun reply same => ?_⟩
      obtain rfl := Option.some.inj same
      exact ⟨debug, last, stretch.delivered, swallowed, classified⟩

theorem hears_of_listens {α : Type} {attempt : Attempt ExchangeError α}
    (listens : attempt.Listens link Late) : Hears link (fun _ _ => True) attempt :=
  listens.mono fun _ _ silent => ⟨silent, fun _ _ => trivial⟩

/-- The reaction to a reply, with what went before it. `again` is how the conversation goes on after
a busy reply. -/
theorem react_leaves (nonempty : 0 < stream.length) {rounds : Nat} {retries : UInt32}
    {answered : Array Event} {reply : ReceiveOutcome}
    (replied : Replied config stream answered reply)
    (again : (converse config token stream command retryOnSignal rounds (retries + 1)).Leaves link
      (Transcribed config stream command retryOnSignal)) :
    (react config token stream command retryOnSignal rounds retries reply).Leaves link
      fun outcome more =>
        Transcribed config stream command retryOnSignal outcome (answered ++ more) := by
  unfold react
  cases busy : isTransientBusy reply command retryOnSignal config.reserved with
  | false =>
      simp only [Bool.false_eq_true, ↓reduceIte]
      exact transcribed_of_listens nonempty replied.sends (Listens.pure _)
  | true =>
      simp only [↓reduceIte]
      split
      · refine transcribed_of_listens nonempty replied.sends ?_
        exact Listens.bind (Listens.note _) fun _ => Listens.throw rfl
      · refine hears_bind nonempty replied.sends (hears_of_listens (Listens.note _)) ?_
        intro _ noted silent _
        have sends : Trace.sends (answered ++ noted) =
            (stream.packets.map Packet.bytes).map (·, .ok ()) := by
          rw [Trace.sends_append, replied.sends, silent, List.append_nil]
        refine hears_bind nonempty sends (hears_of_listens (pause_listens _)) ?_
        intro _ paused silentLater _
        refine again.mono ?_
        rintro outcome more ⟨⟨copies, unfinished, transcript, whole⟩, late⟩
        have quiet : Trace.sends (noted ++ paused) = [] := by
          rw [Trace.sends_append, silent, silentLater, List.append_nil]
        have longer := transcript.preceded replied.conclusion replied.first replied.sends quiet
          replied.classified busy
        rw [← Array.append_assoc] at longer
        refine ⟨⟨copies + 1, unfinished, longer, fun reply ended => ?_⟩, late⟩
        exact ⟨Nat.succ_pos copies, (whole reply ended).2⟩

/-- The reply to the first copy, put together from what its parts left. -/
def Replied.ofParts {transmission first others : Array Event} {acknowledgment : Bytes}
    {debug : List Delivery} {last : Delivery} {reply : ReceiveOutcome}
    (sends : Trace.sends transmission = (stream.packets.map Packet.bytes).map (·, .ok ()))
    (unheard : Trace.delivered transmission = []) (silentFirst : Trace.sends first = [])
    (acknowledged : Trace.delivered first = acknowledgments config acknowledgment)
    (silentOthers : Trace.sends others = [])
    (heard : Trace.delivered others = Receive.arriving debug last)
    (swallowed : ∀ text ∈ debug, text.message.command = config.reserved.debugMessage)
    (classified : Receive.classify config.reserved last.message = some reply) :
    Replied config stream (transmission ++ (first ++ others)) reply where
  conclusion :=
    { earlier := #[], transmission, answers := first ++ others, acknowledgment, debug, last
      parts := by simp
      attempted := by rw [Trace.attempted_eq, sends]; simp
      accepted := Trace.accepted_of_sends (sends.trans (List.append_nil _).symm) (.inl rfl)
      unread := unheard
      silent := by rw [Trace.attempted_eq, Trace.sends_append, silentFirst, silentOthers]; rfl
      heard := by rw [Trace.delivered_append, acknowledged, heard]
      swallowed }
  first := rfl
  sends := by rw [Trace.sends_append, sends, Trace.sends_append, silentFirst, silentOthers]; simp
  classified := classified

theorem converse_leaves (nonempty : 0 < stream.length) (rounds : Nat) (retries : UInt32) :
    (converse config token stream command retryOnSignal rounds retries).Leaves link
      (Transcribed config stream command retryOnSignal) := by
  induction rounds generalizing retries with
  | zero => exact Leaves.unfinished ⟨⟨0, [], .nothing nonempty rfl, by simp⟩, by simp⟩
  | succ rounds ih =>
      rw [converse_succ]
      refine Leaves.bind (transmit_leaves stream) ?_ ?_ ?_
      · intro events sent
        cases sent
      · intro reason events sent
        obtain ⟨unfinished, transcript⟩ := Transcript.of_cut sent
        refine ⟨⟨0, unfinished, transcript, by simp⟩, fun other same => ?_⟩
        obtain rfl : reason = other := by simpa using same
        exact sent.late
      rintro _ transmission (⟨sends, unheard⟩ | _)
      refine hears_bind nonempty sends awaitAcknowledgment_hears ?_
      rintro _ first silentFirst ⟨acknowledgment, acknowledged⟩
      have sendsFirst : Trace.sends (transmission ++ first) =
          (stream.packets.map Packet.bytes).map (·, .ok ()) := by
        rw [Trace.sends_append, sends, silentFirst, List.append_nil]
      refine hears_bind nonempty sendsFirst (run_hears .fatal (rounds + 1)) ?_
      intro received others silentOthers heard
      cases received with
      | none =>
          refine transcribed_of_listens nonempty ?_ (Listens.throw rfl)
          rw [Trace.sends_append, sendsFirst, silentOthers, List.append_nil]
      | some reply =>
          obtain ⟨debug, last, delivered, swallowed, classified⟩ := heard reply rfl
          have replied := Replied.ofParts sends unheard silentFirst acknowledged silentOthers
            delivered swallowed classified
          rw [← Array.append_assoc] at replied
          exact react_leaves nonempty replied (ih (retries + 1))

end Exchange

namespace Session

/-- Whether the session takes the message to send it. -/
def takes (session : Session) (message : Message) : Bool := session.connected && message.fits

theorem prepare_cases (session : Session) (message : Message) :
    (∃ reason, session.prepare message = (.error reason, session) ∧ reason.refuses = true ∧
        session.takes message = false) ∨
      ∃ stream, session.prepare message = (.ok stream, session.advanced) ∧
        message.encode session.nextFlip session.config.ackEnabled = .ok stream ∧
        session.takes message = true := by
  cases connected : session.connected with
  | false => exact .inl ⟨.notConnected, by simp [prepare, connected], rfl, by simp [takes, connected]⟩
  | true =>
      cases fits : message.fits with
      | false =>
          have oversize : message.encode session.nextFlip session.config.ackEnabled =
              .error ⟨message.length, Message.packetsNeeded message.length⟩ := by
            simp [Message.encode, fits]
          exact .inl ⟨_, by rw [prepare, if_pos connected, oversize], rfl,
            by simp [takes, connected, fits]⟩
      | true =>
          obtain ⟨stream, encoded, prepared⟩ :=
            prepare_of_fits connected (message.fits_iff.mp fits)
          exact .inr ⟨stream, prepared, encoded, by simp [takes, connected, fits]⟩

/-- Whatever the link does and however the call ends, also if it does not: the packets that were
accepted are copies of the message's stream and the start of one more, every copy that was followed
by another packet had a busy reply, and nothing follows a refused packet. A call that succeeds sent
whole copies only; one that fails because there is no connection or the message is too long does not
use the link. -/
theorem request_transcript (link : Link σ) (session : Session) (message : Message)
    (retryOnSignal : Bool) (rounds : Nat) (before : World σ) :
    ∃ events,
      ((session.request message retryOnSignal rounds).run link before).2.trace =
        before.trace ++ events ∧
      (∀ stream, message.encode session.nextFlip session.config.ackEnabled = .ok stream →
        ∃ copies unfinished, Transcript session.config stream message.command retryOnSignal events
            copies unfinished ∧
          ∀ reply following,
            ((session.request message retryOnSignal rounds).run link before).1 =
              some (.ok reply, following) → 1 ≤ copies ∧ unfinished = []) ∧
      (∀ size, message.encode session.nextFlip session.config.ackEnabled = .error size →
        events = #[]) ∧
      ∀ reason following,
        ((session.request message retryOnSignal rounds).run link before).1 =
          some (.error reason, following) →
        (reason = .notConnected ∨ ∃ size, reason = .oversize size) → events = #[] := by
  rcases session.prepare_cases message with
    ⟨reason, refused, -, -⟩ | ⟨stream, prepared, encoded, -⟩
  · refine ⟨#[], by simp [request, refused], fun stream encoded => ?_, fun _ _ => rfl,
      fun _ _ _ _ => rfl⟩
    refine ⟨0, [], .nothing (message.length_pos_of_encode _ _ encoded) rfl, ?_⟩
    simp [request, refused]
  · have nonempty := message.length_pos_of_encode _ _ encoded
    have leaves : (Exchange.converse session.config session.token stream message.command
        retryOnSignal rounds 0).Leaves link _ := Exchange.converse_leaves nonempty rounds 0
    obtain ⟨events, trace, transcript, late⟩ := leaves before
    rw [request_run link before retryOnSignal rounds prepared]
    refine ⟨events, trace, fun other again => ?_, fun size oversize => ?_, ?_⟩
    · obtain rfl : stream = other := Except.ok.inj (encoded.symm.trans again)
      obtain ⟨copies, unfinished, transcript, whole⟩ := transcript
      refine ⟨copies, unfinished, transcript, fun reply following ended => ?_⟩
      obtain ⟨outcome, conversed, same⟩ := Option.map_eq_some_iff.mp ended
      obtain ⟨rfl, -⟩ := Prod.mk.inj same
      exact whole reply conversed
    · rw [encoded] at oversize
      contradiction
    · intro reason following ended unused
      obtain ⟨outcome, conversed, same⟩ := Option.map_eq_some_iff.mp ended
      obtain ⟨rfl, -⟩ := Prod.mk.inj same
      have used := late reason conversed
      rcases unused with rfl | ⟨size, rfl⟩
      · contradiction
      · contradiction

end Session

end PacketLink
