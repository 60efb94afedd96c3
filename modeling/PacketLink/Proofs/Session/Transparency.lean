import PacketLink.Proofs.Session.Rounds
import PacketLink.Proofs.Session.Weaving

namespace PacketLink

/-! Debug text does not change what a session does.

Two runs are compared: one on a script of answers, and one on that script with debug text put in.
Result, sent packets and what is left of the script are the same, and the sink gets the texts that were
put in, each at its place, and nothing else besides. -/

namespace Link.Serves

variable {σ α : Type} {link : Link σ} {token : CancelToken} {sink : DebugSink}
  {ahead : σ → Prospect → Prop}

/-- Whatever debug text is put into the script before the action stops reading, the action returns the
same result, and the text is heard at its places. The rounds only have to exceed the script. -/
def ReturnsWoven (serves : link.Serves token sink ahead) (reserved : ReservedCommands)
    (act : Nat → Action α) (prospect : Prospect) (result : α)
    (sent : List (Bytes × Except LinkError Unit)) (heard : List Heard) (left : Prospect) : Prop :=
  ∀ inserted, Insertable reserved .new prospect.reads inserted →
    inserted.length ≤ (answersOf heard).length →
    ∀ rounds, (weave inserted prospect.reads).length < rounds →
      serves.Returns (act rounds) ⟨prospect.sends, weave inserted prospect.reads⟩ result sent
        (interleave inserted heard) left

/-- Debug text changes neither the result nor what is sent and what is left of a script. -/
def Transparent (serves : link.Serves token sink ahead) (reserved : ReservedCommands)
    (act : Nat → Action α) : Prop :=
  ∀ prospect, ∃ result sent heard left,
    (∀ rounds, prospect.reads.length < rounds →
      serves.Returns (act rounds) prospect result sent heard left) ∧
    serves.ReturnsWoven reserved act prospect result sent heard left

/-- As `Transparent`, for one script; there is at most one read more than it has answers. -/
def Unaffected (serves : link.Serves token sink ahead) (reserved : ReservedCommands)
    (act : Nat → Action α) (prospect : Prospect) : Prop :=
  ∃ result sent heard left, (answersOf heard).length ≤ prospect.reads.length + 1 ∧
    serves.ReturnsWoven reserved act prospect result sent heard left

variable {serves : link.Serves token sink ahead} {reserved : ReservedCommands}
  {act : Nat → Action α}

theorem Transparent.of_unaffected (unaffected : ∀ prospect, serves.Unaffected reserved act prospect) :
    serves.Transparent reserved act := by
  intro prospect
  obtain ⟨result, sent, heard, left, -, returns⟩ := unaffected prospect
  refine ⟨result, sent, heard, left, fun rounds enough => ?_, returns⟩
  have nothing : Insertable reserved .new prospect.reads [] := ⟨by simp, by simp⟩
  have plain := returns [] nothing (Nat.zero_le _) rounds
  rw [weave_nil, interleave_nil] at plain
  exact plain enough

/-- What stops before the first read. -/
theorem Unaffected.of_unread {prospect left : Prospect} {result : α}
    {sent : List (Bytes × Except LinkError Unit)}
    (returns : ∀ rounds, prospect.reads.length < rounds →
      serves.Returns (act rounds) prospect result sent [] left) :
    serves.Unaffected reserved act prospect := by
  refine ⟨result, sent, [], left, Nat.zero_le _, fun inserted _ none_ rounds enough => ?_⟩
  obtain rfl : inserted = [] := List.eq_nil_of_length_eq_zero (Nat.le_zero.mp none_)
  rw [weave_nil] at enough ⊢
  exact returns rounds enough

section Listening

variable {policy : TimeoutPolicy} {received : Except ExchangeError (Option ReceiveOutcome)}
  {sends sendsLater : List (Except LinkError Unit)} {script rest : List ReadResult}
  {heard : List Heard} {sent : List (Bytes × Except LinkError Unit)} {result : α}

/-- What stops with the receive. -/
theorem Unaffected.of_settled
    (listened : Receive.listen reserved policy .new script = ⟨received, heard, rest⟩)
    (settles : ∀ rounds script heard rest,
      Receive.listen reserved policy .new script = ⟨received, heard, rest⟩ →
      script.length < rounds + 1 →
      serves.Returns (act (rounds + 1)) ⟨sends, script⟩ result sent heard ⟨sendsLater, rest⟩) :
    serves.Unaffected reserved act ⟨sends, script⟩ := by
  have count := Nat.le_of_add_right_le (Receive.length_answersOf_le listened)
  refine ⟨result, sent, heard, ⟨sendsLater, rest⟩, count, ?_⟩
  intro inserted insertable within rounds enough
  cases rounds with
  | zero => exact absurd enough (Nat.not_lt_zero _)
  | succ rounds =>
      have woven := Receive.listen_weave .idle insertable (Nat.le_trans within count) listened
      -- Nothing was put in behind the last answer.
      rw [List.drop_of_length_le within, weave_nil] at woven
      exact settles rounds _ _ _ woven enough

/-- What goes on after the receive, with the rest of the script. -/
theorem Unaffected.of_repeated {reply : ReceiveOutcome} {later : Nat → Action α}
    (listened : Receive.listen reserved policy .new script = ⟨.ok (some reply), heard, rest⟩)
    (repeats : ∀ rounds script heard rest,
      Receive.listen reserved policy .new script = ⟨.ok (some reply), heard, rest⟩ →
      script.length < rounds + 1 → ∀ result sentMore heardMore left,
      serves.Returns (later rounds) ⟨sendsLater, rest⟩ result sentMore heardMore left →
      serves.Returns (act (rounds + 1)) ⟨sends, script⟩ result (sent ++ sentMore)
        (heard ++ heardMore) left)
    (unaffected : serves.Unaffected reserved later ⟨sendsLater, rest⟩) :
    serves.Unaffected reserved act ⟨sends, script⟩ := by
  obtain ⟨result, sentMore, heardMore, left, bound, returns⟩ := unaffected
  obtain ⟨rfl, idle⟩ := Receive.listen_concluded .idle listened
  have total : (answersOf (heard ++ heardMore)).length ≤ (answersOf heard ++ rest).length + 1 := by
    rw [answersOf_append, List.length_append, List.length_append, Nat.add_assoc]
    exact Nat.add_le_add_left bound _
  refine ⟨result, sent ++ sentMore, heard ++ heardMore, left, total, ?_⟩
  intro inserted insertable within rounds enough
  cases rounds with
  | zero => exact absurd enough (Nat.not_lt_zero _)
  | succ rounds =>
      have woven := Receive.listen_weave .idle insertable (Nat.le_trans within total) listened
      have shorter := Receive.length_left_lt .idle woven
      -- The reply left nothing pending, so the rest is a script of its own.
      have remaining := insertable.drop
      rw [idle] at remaining
      rw [answersOf_append, List.length_append] at within
      rw [interleave_append]
      apply repeats rounds _ _ _ woven enough
      apply returns _ remaining
      · rw [List.length_drop]
        omega
      · exact Nat.lt_of_lt_of_le shorter (Nat.le_of_lt_succ enough)

end Listening

end Link.Serves

namespace Exchange

variable {σ : Type} {link : Link σ} {config : SessionConfig} {token : CancelToken}
  {ahead : σ → Prospect → Prop} (serves : link.Serves token config.debugSink ahead)

include serves

/-- By the answers that are left: each round takes one at least. -/
theorem converse_unaffected (unacknowledged : config.ackEnabled = false) (stream : PacketStream)
    (command : Command) (retryOnSignal : Bool) (retries : UInt32) (prospect : Prospect) :
    serves.Unaffected config.reserved
      (fun rounds => (converse config token stream command retryOnSignal rounds retries).run)
      prospect := by
  induction length : prospect.reads.length using Nat.strongRecOn
    generalizing prospect retries with
  | ind length ih =>
      obtain ⟨sends, script⟩ := prospect
      subst length
      obtain ⟨transmission, sent, sendsLater, transmitted⟩ := ends_transmit serves stream sends
      cases transmission with
      | error reason =>
          apply Link.Serves.Unaffected.of_unread
          intro rounds enough
          cases rounds with
          | zero => exact absurd enough (Nat.not_lt_zero _)
          | succ rounds => exact serves.fails_bind (transmitted script)
      | ok _ =>
          cases listened : Receive.listen config.reserved .fatal .new script with
          | mk received heard rest =>
              cases ends_round serves unacknowledged transmitted command retryOnSignal retries
                received with
              | inl settled =>
                  obtain ⟨final, ends⟩ := settled
                  exact .of_settled listened ends
              | inr repeated =>
                  obtain ⟨reply, rfl, ends⟩ := repeated
                  apply Link.Serves.Unaffected.of_repeated listened ends
                  exact ih rest.length (Receive.length_left_lt .idle listened) (retries + 1)
                    ⟨sendsLater, rest⟩ rfl

end Exchange

namespace Session

section Serving

variable {σ : Type} {link : Link σ} {session : Session} {ahead : σ → Prospect → Prop}
  (serves : link.Serves session.token session.config.debugSink ahead)

include serves

theorem request_unaffected (unacknowledged : session.config.ackEnabled = false) (message : Message)
    (retryOnSignal : Bool) (prospect : Prospect) :
    serves.Unaffected session.config.reserved (session.request message retryOnSignal) prospect := by
  cases prepared : session.prepare message with
  | mk encoded following =>
      cases encoded with
      | error reason =>
          apply Link.Serves.Unaffected.of_unread
          intro rounds _ before faces
          rw [request, prepared]
          exact ⟨before, rfl, .refl _ before, faces⟩
      | ok stream =>
          obtain ⟨outcome, sent, heard, left, bound, returns⟩ := Exchange.converse_unaffected serves
            unacknowledged stream message.command retryOnSignal 0 prospect
          refine ⟨(outcome, following), sent, heard, left, bound, ?_⟩
          intro inserted insertable within rounds enough
          exact returns_request prepared (returns inserted insertable within rounds enough)

theorem receive_unaffected (connected : session.connected = true) (policy : TimeoutPolicy)
    (prospect : Prospect) :
    serves.Unaffected session.config.reserved (session.receive policy) prospect := by
  cases listened : Receive.listen session.config.reserved policy .new prospect.reads with
  | mk outcome heard left =>
      apply Link.Serves.Unaffected.of_settled listened
      intro rounds script heard rest listened enough
      exact returns_receive serves connected listened enough prospect.sends

/-- Without acknowledgments, requests and receives do not notice debug text. -/
theorem debug_transparent (connected : session.connected = true)
    (unacknowledged : session.config.ackEnabled = false) :
    (∀ message retryOnSignal,
      serves.Transparent session.config.reserved (session.request message retryOnSignal)) ∧
    ∀ policy, serves.Transparent session.config.reserved (session.receive policy) := by
  constructor
  · intro message retryOnSignal
    exact .of_unaffected (request_unaffected serves unacknowledged message retryOnSignal)
  · intro policy
    exact .of_unaffected (receive_unaffected serves connected policy)

end Serving

/-- A device that is busy once, with debug text ahead of both of its replies. -/
theorem debug_transparent_around_busy :
    ∃ result after afterToo,
      ((Session.resume {} ⟨0⟩ .set).request (.empty .ping) false 3).run Link.scripted
        { device := .bringing ([.encoded ⟨.deviceStatus, [1]⟩ .clear false (by decide),
          .encoded ⟨.ping, [7]⟩ .set false (by decide)]) } = (some result, after) ∧
      ((Session.resume {} ⟨0⟩ .set).request (.empty .ping) false 6).run Link.scripted
        { device := .bringing ([.encoded ⟨.debugMessage, [104, 0, 105, 0]⟩ .clear false (by decide),
          .encoded ⟨.deviceStatus, [1]⟩ .clear false (by decide),
          .encoded ⟨.debugMessage, (List.replicate 30 [65, 0]).flatten⟩ .set true (by decide),
          .encoded ⟨.ping, [7]⟩ .set false (by decide)]) } = (some result, afterToo) ∧
      result = (.ok ⟨.ping, [7]⟩, .resume {} ⟨0⟩ .clear) ∧
      Trace.sends afterToo.trace = Trace.sends after.trace ∧
      Trace.lines .log afterToo.trace = ["hi", String.ofList (List.replicate 30 'A')] := by
  have serves : Link.scripted.Serves (Session.resume {} ⟨0⟩ .set).token
      (Session.resume {} ⟨0⟩ .set).config.debugSink Script.Foretells := Link.scripted_serves _ _
  obtain ⟨result, sent, heard, left, plain, woven⟩ :=
    (debug_transparent serves rfl rfl).1 (.empty .ping) false
      ⟨[], arrivals [.encoded ⟨.deviceStatus, [1]⟩ .clear false (by decide),
        .encoded ⟨.ping, [7]⟩ .set false (by decide)]⟩
  obtain ⟨after, ran, ⟨events, trace, sends, hears⟩, -⟩ := plain 3 (by decide)
    { device := .bringing _ } ⟨Script.bringing_foretells _, by simp⟩
  have whole : after.trace = events := by simpa using trace
  have replied : some result = some (.ok ⟨.ping, [7]⟩, .resume {} ⟨0⟩ .clear) :=
    (congrArg Prod.fst ran).symm.trans (by decide +kernel)
  have heardAs := congrArg (fun ended => Trace.heard .log ended.2.trace) ran
  obtain rfl := heardAs.trans (whole ▸ hears)
  have insertable : Insertable {} .new (arrivals [.encoded ⟨.deviceStatus, [1]⟩ .clear false (by decide),
      .encoded ⟨.ping, [7]⟩ .set false (by decide)])
      [[.encoded ⟨.debugMessage, [104, 0, 105, 0]⟩ .clear false (by decide)],
        [.encoded ⟨.debugMessage, (List.replicate 30 [65, 0]).flatten⟩ .set true (by decide)]] := by
    constructor
    · simp [Delivery.encoded]
    · intro place streams found some_
      cases place with
      | zero => rfl
      | succ place =>
          cases place with
          | zero => decide +kernel
          | succ place => simp at found
  obtain ⟨afterToo, ranToo, ⟨eventsToo, traceToo, sendsToo, hearsToo⟩, -⟩ :=
    woven _ insertable (by decide +kernel) 6 (by decide +kernel)
      { device := .bringing ([.encoded ⟨.debugMessage, [104, 0, 105, 0]⟩ .clear false (by decide),
          .encoded ⟨.deviceStatus, [1]⟩ .clear false (by decide),
          .encoded ⟨.debugMessage, (List.replicate 30 [65, 0]).flatten⟩ .set true (by decide),
          .encoded ⟨.ping, [7]⟩ .set false (by decide)]) } ⟨Script.bringing_foretells _, by simp⟩
  have wholeToo : afterToo.trace = eventsToo := by simpa using traceToo
  refine ⟨result, after, afterToo, ran, ranToo, Option.some.inj replied, ?_, ?_⟩
  · rw [whole, wholeToo, sends, sendsToo]
  · have heardToo : Trace.heard .log afterToo.trace = _ := wholeToo ▸ hearsToo
    rw [Trace.lines_eq, heardToo]
    decide +kernel

end Session

end PacketLink
