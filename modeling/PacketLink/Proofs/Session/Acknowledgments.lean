import PacketLink.Proofs.Session.Conversations
import PacketLink.Proofs.Session.Queues
import PacketLink.Proofs.Session.Conclusions

namespace PacketLink

/-! Debug text around the acknowledgment of a transmission.

The acknowledgment is one read, whatever it brings. Debug text behind it is taken out of the traffic
like any other; of debug text ahead of it, the first packet is taken for the acknowledgment, and the
receive begins in the middle of what the device sent. -/

/-- The answer with more debug text between its acknowledgment and its reply. -/
structure Answer.Extends (config : SessionConfig) (answer more : Answer) : Prop where
  acknowledgment : more.acknowledgment = answer.acknowledgment
  reply : more.reply = answer.reply
  debug : answer.debug.Sublist more.debug
  swallowed : ∀ text ∈ more.debug, text.message.command = config.reserved.debugMessage

namespace Answer

variable {config : SessionConfig} {answer more : Answer}

theorem outcome_reply (config : SessionConfig) (answer : Answer) :
    answer.outcome config = answer.reply.outcome config.reserved := rfl

theorem Extends.outcome_eq (extends_ : answer.Extends config more) :
    more.outcome config = answer.outcome config := by
  unfold Answer.outcome
  rw [extends_.reply]

theorem Extends.obeys (extends_ : answer.Extends config more) (obeys : answer.Obeys config) :
    more.Obeys config :=
  ⟨extends_.swallowed, by rw [extends_.reply]; exact obeys.reply⟩

theorem received_acknowledged (acknowledged : config.ackEnabled = true) (answer : Answer) :
    answer.received config =
      answer.acknowledgment :: Receive.arriving answer.debug answer.reply := by
  simp [received, Exchange.acknowledgments, acknowledged]

theorem lines_heard (config : SessionConfig) (answer : Answer) :
    (answer.heard config).filterMap Heard.line? = answer.lines := by
  have silent : ((Exchange.acknowledgments config answer.acknowledgment).map
      fun packet => Heard.answer (.ok packet)).filterMap Heard.line? = [] := by
    rw [List.filterMap_map]
    exact List.filterMap_eq_nil_iff.mpr fun _ _ => rfl
  rw [Answer.heard, List.filterMap_append, List.filterMap_append, silent, line?_heard, line?_answers,
    List.append_nil]
  rfl

theorem lines_flatMap_heard (config : SessionConfig) (answers : List Answer) :
    (answers.flatMap (Answer.heard config)).filterMap Heard.line? = answers.flatMap Answer.lines := by
  induction answers with
  | nil => rfl
  | cons answer others ih =>
      rw [List.flatMap_cons, List.filterMap_append, lines_heard, ih, List.flatMap_cons]

end Answer

theorem Exchange.Converses.head_busy {config : SessionConfig} {command : Command}
    {retryOnSignal : Bool} {retries : UInt32} {answer : Answer} {others : List Answer}
    {reply : Message} (converses : Converses config command retryOnSignal retries (answer :: others) reply)
    (more : others ≠ []) :
    answer.Obeys config ∧
      isTransientBusy (answer.outcome config) command retryOnSignal config.reserved = true ∧
      config.busyRetry.exceeded (retries + 1) = false ∧
      Converses config command retryOnSignal (retries + 1) others reply := by
  cases converses with
  | reply obeys settled => exact absurd rfl more
  | busy obeys busy permitted later => exact ⟨obeys, busy, permitted, later⟩

theorem Exchange.Converses.extended {config : SessionConfig} {command : Command}
    {retryOnSignal : Bool} {retries : UInt32} {answers more : List Answer} {reply : Message}
    (converses : Converses config command retryOnSignal retries answers reply)
    (extended : List.Forall₂ (Answer.Extends config) answers more) :
    Converses config command retryOnSignal retries more reply := by
  induction converses generalizing more with
  | reply obeys settled =>
      obtain _ | ⟨extends_, _ | _⟩ := extended
      rw [← extends_.outcome_eq] at settled ⊢
      exact .reply (extends_.obeys obeys) settled
  | busy obeys busy permitted later ih =>
      obtain _ | ⟨extends_, others⟩ := extended
      rw [← extends_.outcome_eq] at busy
      exact .busy (extends_.obeys obeys) busy permitted (ih others)

section

variable {config : SessionConfig} {command : Command} {retryOnSignal : Bool} {retries : UInt32}
  {earlier later : List Answer} {answer other : Answer} {reply : Message}

theorem Exchange.Converses.obeys
    (converses : Converses config command retryOnSignal retries (earlier ++ answer :: later) reply) :
    answer.Obeys config := by
  induction earlier generalizing retries with
  | nil =>
      cases converses with
      | reply obeys settled => exact obeys
      | busy obeys busy permitted later => exact obeys
  | cons first between ih => exact ih (converses.head_busy (by simp)).2.2.2

/-- Another answer with the same reply, in the place of one of them. -/
theorem Exchange.Converses.replaced
    (converses : Converses config command retryOnSignal retries (earlier ++ answer :: later) reply)
    (obeys : other.Obeys config) (same : other.outcome config = answer.outcome config) :
    Converses config command retryOnSignal retries (earlier ++ other :: later) reply := by
  induction earlier generalizing retries with
  | nil =>
      cases converses with
      | reply _ settled =>
          rw [← same] at settled ⊢
          exact .reply obeys settled
      | busy _ busy permitted later =>
          rw [← same] at busy
          exact .busy obeys busy permitted later
  | cons first between ih =>
      obtain ⟨obeysFirst, busy, permitted, later⟩ := converses.head_busy (by simp)
      exact .busy obeysFirst busy permitted (ih later)

/-- Another answer that the device is not busy, in the place of one of them. -/
theorem Exchange.Converses.concluded
    (converses : Converses config command retryOnSignal retries (earlier ++ answer :: later) reply)
    (obeys : other.Obeys config)
    (settled : isTransientBusy (other.outcome config) command retryOnSignal config.reserved = false) :
    Converses config command retryOnSignal retries (earlier ++ [other])
      (messageOf config.reserved (other.outcome config)) := by
  induction earlier generalizing retries with
  | nil => exact .reply obeys settled
  | cons first between ih =>
      obtain ⟨obeysFirst, busy, permitted, later⟩ := converses.head_busy (by simp)
      exact .busy obeysFirst busy permitted (ih later)

end

theorem Delivery.first_parsed (stream : Delivery) {bytes : Bytes} {others : List Bytes}
    (received : stream.received = bytes :: others) :
    ∃ first, Packet.ofBytes bytes = .ok first ∧ first.index.val = 0 ∧ 4 ≤ first.payload.length := by
  have parsed := stream.parsed
  rw [received] at parsed
  obtain ⟨first, later, packets, parsedFirst, -⟩ := List.map_eq_cons_iff.mp parsed.symm
  have found : stream.packets[0]? = some first := by rw [packets]; rfl
  exact ⟨first, parsedFirst.symm, (stream.whole.numbered 0 first found).1,
    stream.whole.opened first found⟩

namespace Receive

variable {reserved : ReservedCommands}

theorem listen_headless {stream : Delivery} {head : Bytes} {second : Bytes} {rest : List Bytes}
    (received : stream.received = head :: second :: rest) (more : List ReadResult) :
    listen reserved .fatal .new ((second :: rest).map .ok ++ more) =
      ⟨.error (.framing (.unexpectedIndex 0 1)), [.answer (.ok second)], rest.map .ok ++ more⟩ := by
  have parsed := stream.parsed
  rw [received] at parsed
  obtain ⟨first, others, packets, -, parsedOthers⟩ := List.map_eq_cons_iff.mp parsed.symm
  obtain ⟨next, later, rfl, parsedNext, -⟩ := List.map_eq_cons_iff.mp parsedOthers
  have found : stream.packets[1]? = some next := by rw [packets]; rfl
  have index : next.index.val = 1 := (stream.whole.numbered 1 next found).1
  have late : next.index.val ≠ 0 := by omega
  have refused := Reassembler.new_refuses late
  rw [index] at refused
  exact listen_refused parsedNext.symm refused

/-- A packet that is no stream by itself, ahead of a whole stream. -/
theorem listen_stray {stray : Bytes} (partial_ : ∀ alone : Delivery, alone.received ≠ [stray])
    (stream : Delivery) (more : List ReadResult) :
    ∃ reason heard left, heard.filterMap Heard.line? = [] ∧
      listen reserved .fatal .new (.ok stray :: (stream.received.map .ok ++ more)) =
        ⟨.error (.framing reason), heard, left⟩ := by
  cases read : Packet.ofBytes stray with
  | error reason => exact ⟨reason, _, _, rfl, listen_unparsed read⟩
  | ok packet =>
      cases pushed : Reassembler.new.push packet with
      | mk answer next =>
          cases answer with
          | error reason => exact ⟨reason, _, _, rfl, listen_refused read pushed⟩
          | ok complete =>
              cases complete with
              | some message =>
                  obtain ⟨carries, -⟩ := Reassembler.push_eq_some .idle pushed
                  exact absurd rfl (partial_ ⟨message, [packet], [stray], by simp [read], carries⟩)
              | none =>
                  -- What it opened is broken off by the first packet of the whole stream.
                  have holding := Reassembler.push_eq_none .idle pushed
                  cases received : stream.received with
                  | nil => exact absurd stream.received_nonempty (by simp [received])
                  | cons bytes others =>
                      obtain ⟨first, parsed, index, -⟩ := stream.first_parsed received
                      have misplaced : first.index.val ≠ ([] ++ [packet]).length := by
                        rw [index]
                        exact Nat.zero_ne_one
                      obtain ⟨reason, refused⟩ := holding.refuses misplaced
                      refine ⟨reason, [.answer (.ok stray), .answer (.ok bytes)],
                        others.map .ok ++ more, rfl, ?_⟩
                      · rw [listen_of_continued (digest_of_none read pushed), List.map_cons,
                          List.cons_append, listen_refused parsed refused]
                        rfl

/-- The acknowledgment where a receive begins, with the debug text that was ahead of it. -/
theorem listen_displaced {config : SessionConfig} (acknowledged : config.ackEnabled = true)
    {first : Delivery} {others : List Delivery} {answer : Answer}
    (swallowed : ∀ text ∈ others, text.message.command = config.reserved.debugMessage)
    (broken : 1 < first.received.length ∨
      ∀ alone : Delivery, alone.received ≠ [answer.acknowledgment]) (more : List ReadResult) :
    ∃ head rest reason heard left, arrivals (first :: others) = .ok head :: rest ∧
      heard.filterMap Heard.line? =
        (if 1 < first.received.length then [] else others.map Delivery.text) ∧
      listen config.reserved .fatal .new (rest ++ ((answer.received config).map .ok ++ more)) =
        ⟨.error (.framing reason), heard, left⟩ := by
  cases received : first.received with
  | nil => exact absurd first.received_nonempty (by simp [received])
  | cons head tail =>
      cases tail with
      | cons second rest =>
          have listened : listen config.reserved .fatal .new ((second :: rest).map .ok ++
              (arrivals others ++ ((answer.received config).map .ok ++ more))) = _ :=
            listen_headless received _
          rw [← List.append_assoc] at listened
          exact ⟨head, _, _, _, _, by simp [received], by simp [Heard.line?], listened⟩
      | nil =>
          have alone : ∀ alone : Delivery, alone.received ≠ [answer.acknowledgment] :=
            broken.resolve_left (by simp [received])
          -- Behind the stray acknowledgment comes a whole stream: debug text, or the reply.
          obtain ⟨stream, behind, arriving_⟩ : ∃ (stream : Delivery) (behind : List Bytes),
              arriving answer.debug answer.reply = stream.received ++ behind := by
            cases answer.debug with
            | nil => exact ⟨answer.reply, [], by simp [arriving]⟩
            | cons text texts => exact ⟨text, arriving texts answer.reply, by simp [arriving]⟩
          obtain ⟨reason, heard, left, silent, listened⟩ :=
            listen_stray alone stream (behind.map .ok ++ more)
          refine ⟨head, arrivals others, reason, others.flatMap Delivery.heard ++ heard, left,
            by simp [received], ?_, ?_⟩
          · rw [List.filterMap_append, silent, line?_heard]
            simp
          · have parts : (answer.received config).map .ok ++ more =
                .ok answer.acknowledgment :: (stream.received.map .ok ++ (behind.map .ok ++ more)) := by
              simp [Answer.received_acknowledged acknowledged, arriving_]
            rw [parts, listen_texts swallowed, listened]
            rfl

end Receive

theorem Receive.arriving_eq_single {debug : List Delivery} {reply : Delivery} {bytes : Bytes}
    {rest : List ReadResult} (single : (arriving debug reply).map .ok ++ rest = [.ok bytes]) :
    debug = [] ∧ reply.received = [bytes] ∧ rest = [] := by
  have some_ := reply.received_nonempty
  cases debug with
  | nil =>
      cases received : reply.received with
      | nil => simp [received] at some_
      | cons first others => simpa [arriving, received, and_assoc] using single
  | cons text texts =>
      have more := text.received_nonempty
      have length := congrArg List.length single
      simp only [arriving, List.flatMap_cons, List.length_append, List.length_map,
        List.length_singleton] at length
      omega

theorem Exchange.script_eq_pair {config : SessionConfig} (acknowledged : config.ackEnabled = true)
    {answers : List Answer} {acknowledgment packet : Bytes} {left : List ReadResult}
    (pair : (script config answers).map .ok ++ left = [.ok acknowledgment, .ok packet])
    (some_ : answers ≠ []) :
    ∃ reply : Delivery, reply.received = [packet] ∧ answers = [⟨acknowledgment, [], reply⟩] ∧
      left = [] := by
  obtain ⟨⟨first, debug, reply⟩, others, rfl⟩ := List.exists_cons_of_ne_nil some_
  rw [map_script_cons, Answer.received_acknowledged acknowledged] at pair
  obtain ⟨same, later⟩ := List.cons.inj pair
  obtain rfl : first = acknowledgment := Except.ok.inj same
  obtain ⟨rfl, received, rest⟩ := Receive.arriving_eq_single later
  obtain ⟨done, rfl⟩ := List.append_eq_nil_iff.mp rest
  cases others with
  | nil => exact ⟨reply, received, rfl, rfl⟩
  | cons next more =>
      have unread := next.length_received config
      simp [script, List.ne_nil_of_length_pos unread] at done

/-- The answers to transmissions with debug text ahead of one of the acknowledgments. -/
def displacing (config : SessionConfig) (earlier : List Answer) (texts : List Delivery)
    (later : List Answer) : List ReadResult :=
  (script config earlier).map .ok ++ (arrivals texts ++ (script config later).map .ok)

section

variable {config : SessionConfig} (acknowledged : config.ackEnabled = true) {first alone : Delivery}
  {answer : Answer} {head : Bytes} (single : first.received = [head])
  (whole : alone.received = [answer.acknowledgment]) (earlier later : List Answer)
  (others : List Delivery)

include acknowledged single whole

/-- A whole stream in the place of an acknowledgment is one more stream of the answer. -/
theorem displacing_eq_swallowed : displacing config earlier (first :: others) (answer :: later) =
    (script config (earlier ++ ⟨head, others ++ alone :: answer.debug, answer.reply⟩ :: later)).map
      .ok := by
  simp [displacing, script, arrivals, Answer.received_acknowledged acknowledged, Receive.arriving,
    single, whole, List.map_flatMap]

/-- A whole stream in the place of an acknowledgment is a reply by itself. -/
theorem displacing_eq_taken : displacing config earlier (first :: others) (answer :: later) =
    (script config (earlier ++ [⟨head, others, alone⟩])).map .ok ++
      ((Receive.arriving answer.debug answer.reply).map .ok ++ (script config later).map .ok) := by
  simp [displacing, script, arrivals, Answer.received_acknowledged acknowledged, Receive.arriving,
    single, whole, List.map_flatMap]

end

namespace Exchange

section Serving

variable {σ : Type} {link : Link σ} {config : SessionConfig} {token : CancelToken}
  {ahead : σ → Prospect → Prop} (serves : link.Serves token config.debugSink ahead)
  {stream : PacketStream} {command : Command} {retryOnSignal : Bool} {retries : UInt32}
  {sends : List (Except LinkError Unit)} {left : List ReadResult} {first : Delivery}
  {others : List Delivery} {earlier later : List Answer} {answer : Answer} {rounds : Nat}
  (acknowledged : config.ackEnabled = true)
  (swallowed : ∀ text ∈ others, text.message.command = config.reserved.debugMessage)
  (broken : 1 < first.received.length ∨
    ∀ alone : Delivery, alone.received ≠ [answer.acknowledgment])

include serves acknowledged swallowed broken

theorem ends_displaced
    (accepting : ∀ reply ∈ sends.take stream.packets.length, reply = .ok ())
    (enough : (arrivals (first :: others) ++ ((answer.received config).map .ok ++ left) :
      List ReadResult).length < rounds) :
    ∃ reason heard prospect, heard.filterMap Heard.line? =
        (if 1 < first.received.length then [] else others.map Delivery.text) ∧
      serves.Ends (converse config token stream command retryOnSignal rounds retries)
        ⟨sends, arrivals (first :: others) ++ ((answer.received config).map .ok ++ left)⟩
        (.error (.framing reason)) (stream.taken 1) heard prospect := by
  obtain ⟨fewer, rfl⟩ : ∃ fewer, rounds = fewer + 1 :=
    Nat.exists_eq_succ_of_ne_zero (Nat.ne_zero_of_lt enough)
  obtain ⟨head, rest, reason, heard, remaining, parts, lines, listened⟩ :=
    Receive.listen_displaced acknowledged swallowed broken left
  rw [parts] at enough ⊢
  generalize (answer.received config).map Except.ok ++ left = behind at *
  have acked : serves.Ends (awaitAcknowledgment config)
      ⟨sends.drop stream.packets.length, .ok head :: (rest ++ behind)⟩ (.ok ()) []
      [.answer (.ok head)] ⟨sends.drop stream.packets.length, rest ++ behind⟩ := by
    have single : serves.Ends (awaitAcknowledgment config) ⟨sends.drop stream.packets.length, _⟩ _ _ _ _ :=
      ends_awaitAcknowledgment serves head (rest ++ behind)
    simp only [acknowledgments, acknowledged, ↓reduceIte] at single
    exact single
  have failed := Receive.ends_run serves listened (Nat.lt_of_succ_lt enough)
    (sends.drop stream.packets.length)
  refine ⟨reason, [.answer (.ok head)] ++ heard, ⟨sends.drop stream.packets.length, remaining⟩, ?_, ?_⟩
  · rw [List.filterMap_append, lines]
    rfl
  · rw [converse_succ, stream.taken_succ]
    apply serves.bind (ends_transmit_accepted serves stream accepting _)
    apply serves.bind acked
    exact serves.fails_bind failed

/-- By the answers ahead of the one that is displaced: they are as they were. -/
theorem ends_displaced_of_converses {reply : Message}
    (converses : Converses config command retryOnSignal retries (earlier ++ answer :: later) reply)
    (accepting : ∀ reply ∈ sends.take ((earlier ++ answer :: later).length * stream.packets.length),
      reply = .ok ())
    (enough : (displacing config earlier (first :: others) (answer :: later) ++ left).length < rounds) :
    ∃ reason heard prospect, heard.filterMap Heard.line? = earlier.flatMap Answer.lines ++
        (if 1 < first.received.length then [] else others.map Delivery.text) ∧
      serves.Ends (converse config token stream command retryOnSignal rounds retries)
        ⟨sends, displacing config earlier (first :: others) (answer :: later) ++ left⟩
        (.error (.framing reason)) (stream.taken (earlier.length + 1)) heard prospect := by
  induction earlier generalizing retries sends rounds with
  | nil =>
      have here : displacing config [] (first :: others) (answer :: later) ++ left =
          arrivals (first :: others) ++
            ((answer.received config).map .ok ++ ((script config later).map .ok ++ left)) := by
        simp [displacing, script]
      rw [here] at enough ⊢
      exact ends_displaced serves acknowledged swallowed broken (accepting_succ.mp accepting).1 enough
  | cons before between ih =>
      have parts : displacing config (before :: between) (first :: others) (answer :: later) ++ left =
          (before.received config).map .ok ++
            (displacing config between (first :: others) (answer :: later) ++ left) := by
        simp [displacing, script]
      rw [parts] at enough ⊢
      obtain ⟨fewer, rfl⟩ : ∃ fewer, rounds = fewer + 1 :=
        Nat.exists_eq_succ_of_ne_zero (Nat.ne_zero_of_lt enough)
      obtain ⟨once, following⟩ := accepting_succ.mp accepting
      have room : (displacing config between (first :: others) (answer :: later) ++ left).length <
          fewer := by
        have count := before.length_received config
        rw [List.length_append, List.length_map] at enough
        omega
      obtain ⟨obeys, busy, permitted, conversing⟩ := converses.head_busy (by simp)
      obtain ⟨reason, heard, prospect, lines, ends⟩ := ih conversing following room
      refine ⟨reason, before.heard config ++ heard, prospect, ?_, ?_⟩
      · rw [List.filterMap_append, before.lines_heard, lines, List.flatMap_cons, List.append_assoc]
      · rw [List.length_cons, stream.taken_succ]
        exact ends_answered serves obeys once enough (ends_react_busy serves busy permitted ends)

end Serving

end Exchange

/-- As `Returns`, with only the lines of what was heard. -/
def Link.Serves.Tells {σ α : Type} {link : Link σ} {token : CancelToken} {sink : DebugSink}
    {ahead : σ → Prospect → Prop} (serves : link.Serves token sink ahead) (action : Action α)
    (prospect : Prospect) (result : α) (sent : List (Bytes × Except LinkError Unit))
    (lines : List String) (left : Prospect) : Prop :=
  ∃ heard, heard.filterMap Heard.line? = lines ∧
    serves.Returns action prospect result sent heard left

theorem Link.Serves.Tells.run {σ α : Type} {link : Link σ} {token : CancelToken} {sink : DebugSink}
    {ahead : σ → Prospect → Prop} {serves : link.Serves token sink ahead} {action : Action α}
    {prospect left : Prospect} {result : α} {sent : List (Bytes × Except LinkError Unit)}
    {lines : List String} (tells : serves.Tells action prospect result sent lines left)
    {device : σ} (foretold : ahead device prospect) :
    ∃ after, action.run link { device } = (some result, after) ∧ Trace.sends after.trace = sent ∧
      Trace.lines sink after.trace = lines := by
  obtain ⟨heard, rfl, returns⟩ := tells
  obtain ⟨after, ran, ⟨events, trace, rfl, rfl⟩, -⟩ := returns { device } ⟨foretold, by simp⟩
  have whole : after.trace = events := by simpa using trace
  exact ⟨after, ran, by rw [whole], by rw [whole, Trace.lines_eq]⟩

/-- A device that acknowledges one transmission and replies to it, with debug text before and after the
acknowledgment. -/
def Script.acknowledging (acknowledgment : Bytes) (early late : List Delivery) (reply : Delivery) :
    Script where
  reads := (early.flatMap Delivery.received ++ acknowledgment :: Receive.arriving late reply).map
    .packet

theorem Script.acknowledging_foretells (acknowledgment : Bytes) (early late : List Delivery)
    (reply : Delivery) :
    (Script.acknowledging acknowledgment early late reply).Foretells
      ⟨[], arrivals early ++ .ok acknowledgment :: (Receive.arriving late reply).map .ok⟩ := by
  refine ⟨rfl, rfl, rfl, rfl, ?_⟩
  simp only [acknowledging, arrivals, List.map_append, List.map_flatMap, List.map_cons, List.map_map]
  rfl

namespace Session

theorem tells_request {σ : Type} {link : Link σ} {session following : Session}
    {ahead : σ → Prospect → Prop}
    {serves : link.Serves session.token session.config.debugSink ahead} {message : Message}
    {stream : PacketStream} {retryOnSignal : Bool} {rounds : Nat} {prospect left : Prospect}
    {answers : List Answer} {outcome : Except ExchangeError Message}
    {sent : List (Bytes × Except LinkError Unit)}
    (prepared : session.prepare message = (.ok stream, following))
    (ends : serves.Ends (Exchange.converse session.config session.token stream message.command
      retryOnSignal rounds 0) prospect outcome sent (answers.flatMap (Answer.heard session.config)) left) :
    serves.Tells (session.request message retryOnSignal rounds) prospect (outcome, following) sent
      (answers.flatMap Answer.lines) left :=
  ⟨_, Answer.lines_flatMap_heard _ _, returns_request prepared ends⟩

section Displaced

-- The answer's acknowledgment is a whole stream, and what stands ahead of it begins with one packet.
variable {σ : Type} {link : Link σ} {session following : Session} {ahead : σ → Prospect → Prop}
  {serves : link.Serves session.token session.config.debugSink ahead} {message reply : Message}
  {stream : PacketStream} {retryOnSignal : Bool} {rounds : Nat} {sends : List (Except LinkError Unit)}
  {left : List ReadResult} {earlier later : List Answer} {answer : Answer} {first alone : Delivery}
  {others : List Delivery} (acknowledged : session.config.ackEnabled = true)
  (prepared : session.prepare message = (.ok stream, following))
  (converses : Exchange.Converses session.config message.command retryOnSignal 0
    (earlier ++ answer :: later) reply)
  (accepting : ∀ reply ∈ sends.take ((earlier ++ answer :: later).length * stream.packets.length),
    reply = .ok ())
  (texts : ∀ text ∈ others, text.message.command = session.config.reserved.debugMessage)
  (one : first.received.length = 1) (whole : alone.received = [answer.acknowledgment])
  (room : (displacing session.config earlier (first :: others) (answer :: later) ++ left).length <
    rounds)

include acknowledged prepared converses accepting texts one whole room

theorem tells_swallowed (silent : alone.message.command = session.config.reserved.debugMessage) :
    serves.Tells (session.request message retryOnSignal rounds)
      ⟨sends, displacing session.config earlier (first :: others) (answer :: later) ++ left⟩
      (.ok reply, following) (stream.taken (earlier ++ answer :: later).length)
      (earlier.flatMap Answer.lines ++ (others.map Delivery.text ++
        alone.text :: (answer :: later).flatMap Answer.lines))
      ⟨sends.drop ((earlier ++ answer :: later).length * stream.packets.length), left⟩ := by
  obtain ⟨head, single⟩ := List.length_eq_one_iff.mp one
  have obeys : (⟨head, others ++ alone :: answer.debug, answer.reply⟩ : Answer).Obeys
      session.config := by
    refine ⟨List.forall_mem_append.mpr ⟨texts, ?_⟩, converses.obeys.reply⟩
    exact List.forall_mem_cons.mpr ⟨silent, converses.obeys.debug⟩
  rw [displacing_eq_swallowed acknowledged single whole] at room ⊢
  have ends := Exchange.ends_of_converses serves (converses.replaced obeys rfl)
    (by simpa using accepting) room
  have tells := tells_request prepared ends
  simpa [Answer.lines] using tells

theorem tells_taken (spoken : alone.message.command ≠ session.config.reserved.debugMessage)
    (settled : Exchange.isTransientBusy (alone.outcome session.config.reserved) message.command
      retryOnSignal session.config.reserved = false) :
    serves.Tells (session.request message retryOnSignal rounds)
      ⟨sends, displacing session.config earlier (first :: others) (answer :: later) ++ left⟩
      (.ok (Exchange.messageOf session.config.reserved (alone.outcome session.config.reserved)),
        following) (stream.taken (earlier.length + 1))
      (earlier.flatMap Answer.lines ++ others.map Delivery.text)
      ⟨sends.drop ((earlier.length + 1) * stream.packets.length),
        (Receive.arriving answer.debug answer.reply).map .ok ++
          ((script session.config later).map .ok ++ left)⟩ := by
  obtain ⟨head, single⟩ := List.length_eq_one_iff.mp one
  have obeys : (⟨head, others, alone⟩ : Answer).Obeys session.config := ⟨texts, spoken⟩
  have taken : ∀ answer ∈ sends.take ((earlier ++ [(⟨head, others, alone⟩ : Answer)]).length *
      stream.packets.length), answer = .ok () := by
    refine fun answer member => accepting answer (List.take_subset_take_left _ ?_ member)
    refine Nat.mul_le_mul_right _ ?_
    simp only [List.length_append, List.length_cons, List.length_nil]
    omega
  rw [displacing_eq_taken acknowledged single whole, List.append_assoc, List.append_assoc] at room ⊢
  have ends := Exchange.ends_of_converses serves (converses.concluded obeys settled) taken room
  have tells := tells_request prepared ends
  simpa [Answer.lines, Answer.outcome_reply] using tells

end Displaced

/-- A request that came to a reply had one answer for each of its transmissions. More debug text behind
an acknowledgment changes nothing but what the sink gets. Debug text ahead of one makes the request fail
after the transmission that it answers, unless its first stream is one packet and the acknowledgment is
a whole stream. If it is, that packet is taken for the acknowledgment, and the acknowledgment for debug
text if it is such a stream, and otherwise for the reply, which ends the request unless it says that the
device is busy. -/
theorem debug_around_acknowledgment {σ : Type} {link : Link σ} {session following : Session}
    {ahead : σ → Prospect → Prop}
    (serves : link.Serves session.token session.config.debugSink ahead)
    (acknowledged : session.config.ackEnabled = true) {message reply : Message}
    {retryOnSignal : Bool} {rounds : Nat} {sends : List (Except LinkError Unit)}
    {reads : List ReadResult} {before after : World σ}
    (faces : before.Faces ahead session.token ⟨sends, reads⟩) (enough : reads.length < rounds)
    (ran : (session.request message retryOnSignal rounds).run link before =
      (some (.ok reply, following), after)) :
    ∃ stream answers left sendsLeft,
      message.encode session.nextFlip true = .ok stream ∧
      reads = (script session.config answers).map .ok ++ left ∧
      serves.Tells (session.request message retryOnSignal rounds) ⟨sends, reads⟩
        (.ok reply, following) (stream.taken answers.length) (answers.flatMap Answer.lines)
        ⟨sendsLeft, left⟩ ∧
      (∀ more, List.Forall₂ (Answer.Extends session.config) answers more → ∀ rounds,
        ((script session.config more).map .ok ++ left : List ReadResult).length < rounds →
        serves.Tells (session.request message retryOnSignal rounds)
          ⟨sends, (script session.config more).map .ok ++ left⟩ (.ok reply, following)
          (stream.taken answers.length) (more.flatMap Answer.lines) ⟨sendsLeft, left⟩) ∧
      (∀ earlier answer later first others, answers = earlier ++ answer :: later →
        (∀ text ∈ first :: others, text.message.command = session.config.reserved.debugMessage) →
        (1 < first.received.length ∨
          ∀ alone : Delivery, alone.received ≠ [answer.acknowledgment]) → ∀ rounds,
        (displacing session.config earlier (first :: others) (answer :: later) ++ left).length <
          rounds →
        ∃ reason prospect, serves.Tells (session.request message retryOnSignal rounds)
          ⟨sends, displacing session.config earlier (first :: others) (answer :: later) ++ left⟩
          (.error (.framing reason), following) (stream.taken (earlier.length + 1))
          (earlier.flatMap Answer.lines ++
            if 1 < first.received.length then [] else others.map Delivery.text) prospect) ∧
      ∀ earlier answer later first others (alone : Delivery), answers = earlier ++ answer :: later →
        (∀ text ∈ first :: others, text.message.command = session.config.reserved.debugMessage) →
        first.received.length = 1 → alone.received = [answer.acknowledgment] → ∀ rounds,
        (displacing session.config earlier (first :: others) (answer :: later) ++ left).length <
          rounds →
        (alone.message.command = session.config.reserved.debugMessage →
          serves.Tells (session.request message retryOnSignal rounds)
            ⟨sends, displacing session.config earlier (first :: others) (answer :: later) ++ left⟩
            (.ok reply, following) (stream.taken answers.length)
            (earlier.flatMap Answer.lines ++ (others.map Delivery.text ++
              alone.text :: (answer :: later).flatMap Answer.lines)) ⟨sendsLeft, left⟩) ∧
        (alone.message.command ≠ session.config.reserved.debugMessage →
          Exchange.isTransientBusy (alone.outcome session.config.reserved) message.command
            retryOnSignal session.config.reserved = false →
          serves.Tells (session.request message retryOnSignal rounds)
            ⟨sends, displacing session.config earlier (first :: others) (answer :: later) ++ left⟩
            (.ok (Exchange.messageOf session.config.reserved (alone.outcome session.config.reserved)),
              following) (stream.taken (earlier.length + 1))
            (earlier.flatMap Answer.lines ++ others.map Delivery.text)
            ⟨sends.drop ((earlier.length + 1) * stream.packets.length),
              (Receive.arriving answer.debug answer.reply).map .ok ++
                ((script session.config later).map .ok ++ left)⟩) := by
  obtain ⟨stream, prepared, replied⟩ := prepared_of_ok ran
  have encoded := encode_of_prepared prepared
  rw [acknowledged] at encoded
  obtain ⟨answers, left, rfl, accepting, converses⟩ :=
    Exchange.converses_of_ok serves faces enough replied
  refine ⟨stream, answers, left, sends.drop (answers.length * stream.packets.length), encoded, rfl,
    ?_, ?_, ?_, ?_⟩
  · exact tells_request prepared (Exchange.ends_of_converses serves converses accepting enough)
  · intro more extended rounds enough
    have accepted := accepting
    rw [extended.length_eq] at accepted ⊢
    have ends := Exchange.ends_of_converses serves (converses.extended extended) accepted enough
    exact tells_request prepared ends
  · intro earlier answer later first others parts swallowed broken rounds room
    subst parts
    have texts : ∀ text ∈ others, text.message.command = session.config.reserved.debugMessage :=
      fun text member => swallowed text (List.mem_cons_of_mem first member)
    obtain ⟨reason, heard, prospect, lines, ends⟩ := Exchange.ends_displaced_of_converses serves
      acknowledged texts broken converses accepting room
    exact ⟨reason, prospect, heard, lines, returns_request prepared ends⟩
  · intro earlier answer later first others alone parts swallowed one whole rounds room
    subst parts
    have texts : ∀ text ∈ others, text.message.command = session.config.reserved.debugMessage :=
      fun text member => swallowed text (List.mem_cons_of_mem first member)
    exact ⟨tells_swallowed acknowledged prepared converses accepting texts one whole room,
      tells_taken acknowledged prepared converses accepting texts one whole room⟩

/-- Debug text of one packet, and then an acknowledgment without payload. -/
theorem request_takes_debug_for_acknowledgment :
    let request := (resume { ackEnabled := true } ⟨0⟩ .clear).request (.empty .ping) false 9
    let text : Delivery := .encoded ⟨.debugMessage, [104, 0, 105, 0]⟩ .clear false (by decide)
    let reply : Delivery := .encoded ⟨.ping, [3]⟩ .clear false (by decide)
    ((request.run Link.scripted { device := .acknowledging [0x40, 0] [] [] reply }).1.map Prod.fst =
        some (.ok ⟨.ping, [3]⟩)) ∧
      (request.run Link.scripted { device := .acknowledging [0x40, 0] [text] [] reply }).1.map Prod.fst =
        some (.error (.framing (.truncated 0 4))) := by
  decide +kernel

theorem debug_around_acknowledgment_of_ping :
    let session := resume { ackEnabled := true } ⟨0⟩ .clear
    let request := session.request (.empty .ping) false 9
    let text : Delivery := .encoded ⟨.debugMessage, [104, 0, 105, 0]⟩ .clear false (by decide)
    let reply : Delivery := .encoded ⟨.ping, [3]⟩ .clear false (by decide)
    ∃ reason sent behind ahead,
      request.run Link.scripted { device := .acknowledging [0x40, 0] [] [text] reply } =
        (some (.ok ⟨.ping, [3]⟩, session.advanced), behind) ∧
      Trace.sends behind.trace = sent ∧ Trace.lines .log behind.trace = ["hi"] ∧
      request.run Link.scripted { device := .acknowledging [0x40, 0] [text] [] reply } =
        (some (.error (.framing reason), session.advanced), ahead) ∧
      Trace.sends ahead.trace = sent ∧ Trace.lines .log ahead.trace = [] := by
  intro session request text reply
  have serves : Link.scripted.Serves session.token session.config.debugSink Script.Foretells :=
    Link.scripted_serves _ _
  obtain ⟨after, ran⟩ : ∃ after,
      request.run Link.scripted { device := .acknowledging [0x40, 0] [] [] reply } =
        (some (.ok ⟨.ping, [3]⟩, session.advanced), after) :=
    ⟨_, Prod.ext (by decide +kernel) rfl⟩
  obtain ⟨stream, answers, left, sendsLeft, -, reads, plain, behind, ahead, -⟩ :=
    debug_around_acknowledgment serves rfl ⟨Script.acknowledging_foretells _ _ _ _, by simp⟩
      (by decide +kernel) ran
  -- The request was sent, so it was answered.
  have answered : answers ≠ [] := by
    rintro rfl
    obtain ⟨again, ranAgain, silent, -⟩ := plain.run (Script.acknowledging_foretells _ _ _ _)
    have sends : Trace.sends (request.run Link.scripted
        { device := .acknowledging [0x40, 0] [] [] reply }).2.trace = [] :=
      ranAgain ▸ silent
    exact absurd sends (by decide +kernel)
  have acknowledged : session.config.ackEnabled = true := rfl
  obtain ⟨last, single, rfl, rfl⟩ := Exchange.script_eq_pair acknowledged reads.symm answered
  have received : last.received = reply.received := single
  have texts : ∀ given ∈ [text], given.message.command = session.config.reserved.debugMessage := by
    simp [text, Delivery.encoded, session]
  have extended : (⟨[0x40, 0], [], last⟩ : Answer).Extends session.config
      ⟨[0x40, 0], [text], last⟩ :=
    ⟨rfl, rfl, List.nil_sublist _, texts⟩
  have late : ((script session.config [⟨[0x40, 0], [text], last⟩]).map .ok ++ [] :
      List ReadResult) = .ok [0x40, 0] :: (Receive.arriving [text] reply).map .ok := by
    simp [script, Answer.received_acknowledged acknowledged, Receive.arriving, received]
  have early : displacing session.config [] [text] [⟨[0x40, 0], [], last⟩] ++ [] =
      arrivals [text] ++ .ok [0x40, 0] :: (Receive.arriving [] reply).map .ok := by
    simp [displacing, script, Answer.received_acknowledged acknowledged, Receive.arriving, received]
  have unwhole (stream : Delivery) : stream.received ≠ [[0x40, 0]] := by
    intro alone
    obtain ⟨first, parsed, -, opened⟩ := stream.first_parsed alone
    cases parsed
    exact absurd opened (by decide)
  have told := behind _ (.cons extended .nil) 9 (late ▸ by decide +kernel)
  rw [late] at told
  obtain ⟨behind, ranBehind, sentBehind, linesBehind⟩ :=
    told.run (Script.acknowledging_foretells _ [] _ _)
  obtain ⟨reason, prospect, displaced⟩ :=
    ahead [] _ [] text [] rfl texts (.inr unwhole) 9 (early ▸ by decide +kernel)
  rw [early] at displaced
  obtain ⟨ahead, ranAhead, sentAhead, linesAhead⟩ :=
    displaced.run (Script.acknowledging_foretells _ [text] [] _)
  exact ⟨reason, _, behind, ahead, ranBehind, sentBehind, linesBehind, ranAhead, sentAhead,
    linesAhead⟩

end Session

end PacketLink
