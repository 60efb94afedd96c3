import PacketLink.Proofs.Session.Calls
import PacketLink.Proofs.Session.Listening

namespace PacketLink

/-! Receiving message after message from a queue.

Each soft receive takes debug text up to the next other message, and that message; none of it is left
over, and nothing behind it is touched. When only debug text is left, a receive takes that and ends
without an outcome. -/

/-- What a receive returned, with the session after it. -/
def Step.receipt : Step → Option (Except ExchangeError (Option ReceiveOutcome) × Session)
  | ⟨.receive .., _, _, returned⟩ => returned
  | _ => none

/-- What a message that is not debug text is to the caller. -/
def Delivery.outcome (reserved : ReservedCommands) (reply : Delivery) : ReceiveOutcome :=
  if reply.message.command = reserved.retry then .retryRequested else .message reply.message

theorem Delivery.classify_of_spoken {reserved : ReservedCommands} (reply : Delivery)
    (spoken : reply.message.command ≠ reserved.debugMessage) :
    Receive.classify reserved reply.message = some (reply.outcome reserved) := by
  unfold Receive.classify Delivery.outcome
  rw [if_neg spoken]
  split <;> rfl

section Queued

variable (reserved : ReservedCommands) (queued : List Delivery)

/-- The outcomes that a queue holds, in order. -/
def outcomesOf : List ReceiveOutcome :=
  (queued.filter (·.message.command ≠ reserved.debugMessage)).map (Delivery.outcome reserved)

/-- The lines of debug text that a queue holds, in order. -/
def textsOf : List String :=
  (queued.filter (·.message.command = reserved.debugMessage)).map Delivery.text

end Queued

/-- The receives take a queue apart: each but the last hears debug text and one other message, returns
that message, and leaves the queue behind it to the next. -/
inductive Session.Drains (session : Session) : List Delivery → List Step → Prop
  | last {debug : List Delivery} {step : Step}
      (swallowed : ∀ text ∈ debug, text.message.command = session.config.reserved.debugMessage)
      (returned : step.receipt = some (.ok none, session))
      (heard : Trace.heard session.config.debugSink step.events =
        debug.flatMap Delivery.heard ++ [.answer (.error .timeout)]) :
      Drains session debug [step]
  | next {debug queued : List Delivery} {reply : Delivery} {step : Step} {later : List Step}
      (swallowed : ∀ text ∈ debug, text.message.command = session.config.reserved.debugMessage)
      (spoken : reply.message.command ≠ session.config.reserved.debugMessage)
      (returned : step.receipt = some (.ok (some (reply.outcome session.config.reserved)), session))
      (heard : Trace.heard session.config.debugSink step.events =
        debug.flatMap Delivery.heard ++ reply.answers)
      (following : Drains session queued later) :
      Drains session (debug ++ reply :: queued) (step :: later)

variable {reserved : ReservedCommands} {debug queued : List Delivery} {reply : Delivery}

section Views

theorem outcomesOf_append (first second : List Delivery) :
    outcomesOf reserved (first ++ second) = outcomesOf reserved first ++ outcomesOf reserved second := by
  simp [outcomesOf]

theorem textsOf_append (first second : List Delivery) :
    textsOf reserved (first ++ second) = textsOf reserved first ++ textsOf reserved second := by
  simp [textsOf]

theorem outcomesOf_cons (spoken : reply.message.command ≠ reserved.debugMessage) :
    outcomesOf reserved (reply :: queued) = reply.outcome reserved :: outcomesOf reserved queued := by
  simp [outcomesOf, spoken]

theorem textsOf_cons (spoken : reply.message.command ≠ reserved.debugMessage) :
    textsOf reserved (reply :: queued) = textsOf reserved queued := by
  simp [textsOf, spoken]

variable (swallowed : ∀ text ∈ debug, text.message.command = reserved.debugMessage)

include swallowed

theorem outcomesOf_debug : outcomesOf reserved debug = [] := by
  simp only [outcomesOf, List.map_eq_nil_iff, List.filter_eq_nil_iff]
  intro text member
  simp [swallowed text member]

theorem textsOf_debug : textsOf reserved debug = debug.map Delivery.text := by
  rw [textsOf, List.filter_eq_self.mpr]
  intro text member
  simp [swallowed text member]

end Views

theorem line?_answers (stream : Delivery) : stream.answers.filterMap Heard.line? = [] := by
  simp only [Delivery.answers, List.filterMap_map]
  exact List.filterMap_eq_nil_iff.mpr fun _ _ => rfl

theorem packet?_answers (stream : Delivery) :
    stream.answers.filterMap Heard.packet? = stream.received := by
  simp only [Delivery.answers, List.filterMap_map]
  exact List.filterMap_some

theorem packet?_heard (debug : List Delivery) :
    (debug.flatMap Delivery.heard).filterMap Heard.packet? = debug.flatMap Delivery.received := by
  induction debug with
  | nil => rfl
  | cons text others ih =>
      rw [List.flatMap_cons, List.filterMap_append, ih, Delivery.heard, List.filterMap_append,
        packet?_answers]
      exact congrArg (· ++ _) (List.append_nil _)

theorem line?_heard (debug : List Delivery) :
    (debug.flatMap Delivery.heard).filterMap Heard.line? = debug.map Delivery.text := by
  induction debug with
  | nil => rfl
  | cons text others ih =>
      rw [List.flatMap_cons, List.filterMap_append, ih, Delivery.heard, List.filterMap_append,
        line?_answers]
      rfl

namespace Session.Drains

variable {session : Session} {steps : List Step}

theorem receipts (drains : session.Drains queued steps) :
    steps.map Step.receipt =
      (outcomesOf session.config.reserved queued).map (fun outcome => some (.ok (some outcome), session)) ++
        [some (.ok none, session)] := by
  induction drains with
  | last swallowed returned heard =>
      rw [outcomesOf_debug swallowed, List.map_singleton, returned]
      rfl
  | next swallowed spoken returned heard following ih =>
      rw [outcomesOf_append, outcomesOf_debug swallowed, outcomesOf_cons spoken, List.map_cons, returned,
        ih]
      rfl

theorem lines (drains : session.Drains queued steps) :
    (steps.flatMap fun step => Trace.lines session.config.debugSink step.events) =
      textsOf session.config.reserved queued := by
  induction drains with
  | last swallowed returned heard =>
      rw [List.flatMap_singleton, Trace.lines_eq, heard, List.filterMap_append, line?_heard,
        textsOf_debug swallowed]
      exact List.append_nil _
  | next swallowed spoken returned heard following ih =>
      rw [List.flatMap_cons, Trace.lines_eq, heard, List.filterMap_append, line?_heard, line?_answers,
        ih, textsOf_append, textsOf_debug swallowed, textsOf_cons spoken, List.append_nil]

theorem delivered (drains : session.Drains queued steps) :
    (steps.flatMap fun step => Trace.delivered step.events) =
      queued.flatMap Delivery.received := by
  induction drains with
  | last swallowed returned heard =>
      rw [List.flatMap_singleton, Trace.delivered_eq session.config.debugSink, heard,
        List.filterMap_append, packet?_heard]
      exact List.append_nil _
  | next swallowed spoken returned heard following ih =>
      rw [List.flatMap_cons, Trace.delivered_eq session.config.debugSink, heard,
        List.filterMap_append, packet?_heard, packet?_answers, ih, List.flatMap_append,
        List.flatMap_cons, List.append_assoc]

end Session.Drains

section Serving

variable {σ : Type} {link : Link σ} {session next : Session} {ahead : σ → Prospect → Prop}
  (serves : link.Serves session.token session.config.debugSink ahead)
  {before : World σ} {prospect left : Prospect}

theorem Session.steps_of_returns (call : Call) {outcome : Except ExchangeError call.Value}
    {sent : List (Bytes × Except LinkError Unit)} {heard : List Heard}
    (returns : serves.Returns (call.action session) prospect (outcome, next) sent heard left)
    (faces : before.Faces ahead session.token prospect) (later : List Move) :
    (Step.of link call session before).returned = some (outcome, next) ∧
      Trace.heard session.config.debugSink (Step.of link call session before).events = heard ∧
      ∃ after, after.Faces ahead session.token left ∧
        session.steps link (.call call :: later) before =
          Step.of link call session before :: next.steps link later after := by
  obtain ⟨after, ran, ⟨events, trace, -, heardThen⟩, facesThen⟩ := returns before faces
  refine ⟨Step.of_returned ran, ?_, after, facesThen, ?_⟩
  · rw [Step.events_of (by rw [ran]; exact trace), heardThen]
  · rw [steps, ran]

variable (connected : session.connected = true) (sends : List (Except LinkError Unit))

include serves connected

theorem Session.drains_after_texts
    (swallowed : ∀ text ∈ debug, text.message.command = session.config.reserved.debugMessage)
    {rounds : Nat} (enough : (arrivals (debug ++ queued)).length < rounds)
    (faces : before.Faces ahead session.token ⟨sends, arrivals (debug ++ queued)⟩) :
    session.Drains (debug ++ queued) (session.steps link
      (List.replicate ((outcomesOf session.config.reserved queued).length + 1)
        (.call (.receive .soft rounds))) before) := by
  induction queued generalizing debug before with
  | nil =>
      have listened : Receive.listen session.config.reserved .soft .new (arrivals (debug ++ [])) =
          ⟨.ok none, debug.flatMap Delivery.heard ++ [.answer (.error .timeout)], []⟩ := by
        rw [arrivals_append, Receive.listen_texts swallowed]
        rfl
      have returns := session.returns_receive serves connected listened enough sends
      obtain ⟨returned, heard, after, -, run⟩ :=
        Session.steps_of_returns serves (.receive .soft rounds) returns faces []
      rw [List.append_nil]
      change Drains session debug (session.steps link [.call (.receive .soft rounds)] before)
      rw [run]
      exact .last swallowed returned heard
  | cons stream others ih =>
      by_cases silent : stream.message.command = session.config.reserved.debugMessage
      · -- One more stream of debug text ahead.
        have longer : ∀ text ∈ debug ++ [stream],
            text.message.command = session.config.reserved.debugMessage := by
          intro text member
          rcases List.mem_append.mp member with earlier | here
          · exact swallowed text earlier
          · rwa [List.mem_singleton.mp here]
        have unspoken : outcomesOf session.config.reserved (stream :: others) =
            outcomesOf session.config.reserved others := by
          simp [outcomesOf, silent]
        rw [List.append_cons] at enough faces ⊢
        rw [unspoken]
        exact ih longer enough faces
      · have listened : Receive.listen session.config.reserved .soft .new
            (arrivals (debug ++ stream :: others)) =
            ⟨.ok (some (stream.outcome session.config.reserved)),
              debug.flatMap Delivery.heard ++ stream.answers, arrivals others⟩ := by
          rw [arrivals_append, arrivals_cons, Receive.listen_texts swallowed,
            Receive.listen_reply (stream.classify_of_spoken silent)]
          rfl
        have returns := session.returns_receive serves connected listened enough sends
        obtain ⟨returned, heard, after, facesThen, run⟩ :=
          Session.steps_of_returns serves (.receive .soft rounds) returns faces
            (List.replicate ((outcomesOf session.config.reserved others).length + 1)
              (.call (.receive .soft rounds)))
        have shorter : (arrivals ([] ++ others)).length < rounds := by
          simp only [arrivals_append, arrivals_cons, List.length_append] at enough ⊢
          simp only [arrivals_nil, List.length_nil]
          omega
        rw [outcomesOf_cons silent, List.length_cons, List.replicate_succ, run]
        exact .next swallowed silent returned heard (ih (by simp) shorter facesThen)

/-- Receives bring the messages of a queue in order, each once, and its debug text goes to the sink;
together they take every packet of the queue. -/
theorem Session.receives_drain (queued : List Delivery) (rounds : Nat)
    (enough : (arrivals queued).length < rounds) (before : World σ)
    (faces : before.Faces ahead session.token ⟨sends, arrivals queued⟩) :
    ∃ steps, session.steps link
        (List.replicate ((outcomesOf session.config.reserved queued).length + 1)
          (.call (.receive .soft rounds))) before = steps ∧
      session.Drains queued steps ∧
      steps.map Step.receipt =
        (outcomesOf session.config.reserved queued).map
          (fun outcome => some (.ok (some outcome), session)) ++ [some (.ok none, session)] ∧
      (steps.flatMap fun step => Trace.lines session.config.debugSink step.events) =
        textsOf session.config.reserved queued ∧
      (steps.flatMap fun step => Trace.delivered step.events) =
        queued.flatMap Delivery.received := by
  have nothing : ∀ text ∈ ([] : List Delivery),
      text.message.command = session.config.reserved.debugMessage := by simp
  have drains := session.drains_after_texts serves connected sends nothing enough faces
  exact ⟨_, rfl, drains, drains.receipts, drains.lines, drains.delivered⟩

end Serving

/-- Debug text, a message of two packets, a request to send again, and debug text at the end. -/
theorem Session.receives_drain_between_texts :
    ∃ steps, (Session.resume {} ⟨0⟩ .set).steps Link.scripted
        (List.replicate 3 (.call (.receive .soft 6)))
        { device := .bringing ([.encoded ⟨.debugMessage, [104, 0, 105, 0]⟩ .clear false (by decide),
          .encoded ⟨7, List.replicate 60 1⟩ .set true (by decide),
          .encoded (.empty .retry) .set false (by decide),
          .encoded ⟨.debugMessage, [111, 0, 107, 0]⟩ .clear true (by decide)]) } = steps ∧
      steps.map Step.receipt =
        [some (.ok (some (.message ⟨7, List.replicate 60 1⟩)), .resume {} ⟨0⟩ .set),
          some (.ok (some .retryRequested), .resume {} ⟨0⟩ .set),
          some (.ok none, .resume {} ⟨0⟩ .set)] ∧
      (steps.flatMap fun step => Trace.lines .log step.events) = ["hi", "ok"] := by
  have serves : Link.scripted.Serves (Session.resume {} ⟨0⟩ .set).token
      (Session.resume {} ⟨0⟩ .set).config.debugSink Script.Foretells := Link.scripted_serves _ _
  obtain ⟨steps, ran, -, receipts, lines, -⟩ := Session.receives_drain serves rfl []
    [.encoded ⟨.debugMessage, [104, 0, 105, 0]⟩ .clear false (by decide),
      .encoded ⟨7, List.replicate 60 1⟩ .set true (by decide),
      .encoded (.empty .retry) .set false (by decide),
      .encoded ⟨.debugMessage, [111, 0, 107, 0]⟩ .clear true (by decide)] 6 (by decide)
    { device := .bringing _ } ⟨Script.bringing_foretells _, by simp⟩
  exact ⟨steps, ran, receipts, lines.trans (by decide)⟩

end PacketLink
