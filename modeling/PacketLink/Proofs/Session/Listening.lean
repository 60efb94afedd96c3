import PacketLink.Proofs.Link.Services
import PacketLink.Proofs.Session.Receiving
import PacketLink.Session.Basic

namespace PacketLink

/-! A receive by the answers to its reads alone.

`digest` says what one answer makes of a receive, and `listen` what a script does: the outcome, what
was heard on the way, and what is left of the script. A receive on any link that answers in this way
ends as `listen` says. -/

/-- The answers that bring these streams, one after the other. -/
def arrivals (streams : List Delivery) : List ReadResult :=
  streams.flatMap fun stream => stream.received.map .ok

@[simp] theorem arrivals_nil : arrivals [] = [] := rfl

@[simp] theorem arrivals_cons (stream : Delivery) (streams : List Delivery) :
    arrivals (stream :: streams) = stream.received.map .ok ++ arrivals streams := by
  simp [arrivals]

@[simp] theorem arrivals_append (streams others : List Delivery) :
    arrivals (streams ++ others) = arrivals streams ++ arrivals others := by
  simp [arrivals]

/-- Answers reads with the packets of a queue. -/
def Script.bringing (queued : List Delivery) : Script where
  reads := queued.flatMap fun stream => stream.received.map .packet

theorem Script.bringing_foretells (queued : List Delivery) :
    (Script.bringing queued).Foretells ⟨[], arrivals queued⟩ := by
  refine ⟨rfl, rfl, rfl, rfl, ?_⟩
  simp only [bringing, arrivals, List.map_flatMap, List.map_map]
  rfl

namespace Delivery

def answers (stream : Delivery) : List Heard :=
  stream.received.map fun packet => .answer (.ok packet)

/-- What is heard of a stream of debug text: its packets, and then the text. -/
def heard (stream : Delivery) : List Heard := stream.answers ++ [.line stream.text]

end Delivery

namespace Receive

inductive Digest where
  | ended (outcome : Except ExchangeError (Option ReceiveOutcome))
  /-- Reading goes on from a state, after lines of debug text. -/
  | continued (lines : List String) (next : Reassembler)

/-- What a failed read is to the caller. -/
def failed (policy : TimeoutPolicy) (reason : LinkError) :
    Except ExchangeError (Option ReceiveOutcome) :=
  if reason.isTimeout ∧ policy = .soft then .ok none else .error (.link reason)

def digest (reserved : ReservedCommands) (policy : TimeoutPolicy) (state : Reassembler) :
    ReadResult → Digest
  | .error reason => .ended (failed policy reason)
  | .ok bytes =>
      match Packet.ofBytes bytes with
      | .error reason => .ended (.error (.framing reason))
      | .ok packet =>
          match state.push packet with
          | (.error reason, _) => .ended (.error (.framing reason))
          | (.ok none, next) => .continued [] next
          | (.ok (some message), next) =>
              match classify reserved message with
              | some outcome => .ended (.ok (some outcome))
              | none => .continued [DebugText.decode message.payload] next

/-- How a receive ended: its outcome, what was heard, and what is left of the script. -/
structure Listening where
  outcome : Except ExchangeError (Option ReceiveOutcome)
  heard : List Heard
  left : List ReadResult

def Listening.after (listening : Listening) (earlier : List Heard) : Listening :=
  { listening with heard := earlier ++ listening.heard }

section Scripts

variable (reserved : ReservedCommands) (policy : TimeoutPolicy)

/-- Where the script ends, a read times out. -/
def listen : Reassembler → List ReadResult → Listening
  | _, [] => ⟨failed policy .timeout, [.answer (.error .timeout)], []⟩
  | state, answer :: rest =>
      match digest reserved policy state answer with
      | .ended outcome => ⟨outcome, [.answer answer], rest⟩
      | .continued lines next => (listen next rest).after (.answer answer :: lines.map .line)

/-- How a receive goes on after a complete message. -/
def listenOn (message : Message) (rest : List ReadResult) : Listening :=
  match classify reserved message with
  | some outcome => ⟨.ok (some outcome), [], rest⟩
  | none => (listen reserved policy .new rest).after [.line (DebugText.decode message.payload)]

end Scripts

variable {reserved : ReservedCommands} {policy : TimeoutPolicy} {state next : Reassembler}
  {answer : ReadResult} {bytes : Bytes} {packet : Packet} {message : Message}
  {script rest : List ReadResult} {outcome : Except ExchangeError (Option ReceiveOutcome)}
  {lines : List String}

theorem listen_of_ended (digested : digest reserved policy state answer = .ended outcome) :
    listen reserved policy state (answer :: rest) = ⟨outcome, [.answer answer], rest⟩ := by
  rw [listen, digested]

theorem listen_of_continued (digested : digest reserved policy state answer = .continued lines next) :
    listen reserved policy state (answer :: rest) =
      (listen reserved policy next rest).after (.answer answer :: lines.map .line) := by
  rw [listen, digested]

theorem listen_unparsed {reason : FramingError} (parsed : Packet.ofBytes bytes = .error reason) :
    listen reserved policy state (.ok bytes :: rest) =
      ⟨.error (.framing reason), [.answer (.ok bytes)], rest⟩ := by
  apply listen_of_ended
  simp only [digest, parsed]

section Digests

variable (parsed : Packet.ofBytes bytes = .ok packet)

include parsed

theorem digest_of_none (pushed : state.push packet = (.ok none, next)) :
    digest reserved policy state (.ok bytes) = .continued [] next := by
  simp only [digest, parsed, pushed]

theorem digest_of_reply {reply : ReceiveOutcome}
    (pushed : state.push packet = (.ok (some message), next))
    (classified : classify reserved message = some reply) :
    digest reserved policy state (.ok bytes) = .ended (.ok (some reply)) := by
  simp only [digest, parsed, pushed, classified]

theorem digest_of_text (pushed : state.push packet = (.ok (some message), next))
    (classified : classify reserved message = none) :
    digest reserved policy state (.ok bytes) =
      .continued [DebugText.decode message.payload] next := by
  simp only [digest, parsed, pushed, classified]

theorem listen_refused {reason : FramingError} (pushed : state.push packet = (.error reason, next)) :
    listen reserved policy state (.ok bytes :: rest) =
      ⟨.error (.framing reason), [.answer (.ok bytes)], rest⟩ := by
  apply listen_of_ended
  simp only [digest, parsed, pushed]

theorem listen_of_complete (pushed : state.push packet = (.ok (some message), .new)) :
    listen reserved policy state (.ok bytes :: rest) =
      (listenOn reserved policy message rest).after [.answer (.ok bytes)] := by
  cases classified : classify reserved message with
  | some reply =>
      rw [listen_of_ended (digest_of_reply parsed pushed classified), listenOn, classified]
      rfl
  | none =>
      rw [listen_of_continued (digest_of_text parsed pushed classified), listenOn, classified]
      rfl

end Digests

/-- The packets that complete the pending ones. -/
theorem listen_stream {pending packets : List Packet} {received : List Bytes}
    (holds : state.Holds pending) (carries : Carries (pending ++ packets) message)
    (parsed : received.map Packet.ofBytes = packets.map .ok) (rest : List ReadResult) :
    listen reserved policy state (received.map .ok ++ rest) =
      (listenOn reserved policy message rest).after
        (received.map fun packet => .answer (.ok packet)) := by
  induction packets generalizing state pending received with
  | nil =>
      rw [List.append_nil] at carries
      exact absurd carries holds.not_carries
  | cons packet others ih =>
      cases received with
      | nil => cases parsed
      | cons first more =>
          have read := (List.cons.inj parsed).1
          have parsedMore := (List.cons.inj parsed).2
          rw [List.map_cons, List.cons_append]
          cases others with
          | nil =>
              cases List.map_eq_nil_iff.mp parsedMore
              exact listen_of_complete read (Reassembler.push_of_carries holds carries)
          | cons second later =>
              obtain ⟨next, pushed, holding⟩ :=
                Reassembler.push_of_carries_cons holds (List.cons_ne_nil second later) carries
              rw [List.append_cons] at carries
              rw [listen_of_continued (digest_of_none read pushed), ih holding carries parsedMore]
              rfl

section Streams

variable {reply : Delivery} {texts : List Delivery}

theorem listen_reply {result : ReceiveOutcome}
    (classified : classify reserved reply.message = some result) (rest : List ReadResult) :
    listen reserved policy .new (reply.received.map .ok ++ rest) =
      ⟨.ok (some result), reply.answers, rest⟩ := by
  rw [listen_stream .idle reply.whole reply.parsed, listenOn, classified, Listening.after,
    List.append_nil]
  rfl

/-- Debug text comes ahead of whatever the receive ends with. -/
theorem listen_texts (swallowed : ∀ text ∈ texts, text.message.command = reserved.debugMessage)
    (rest : List ReadResult) :
    listen reserved policy .new (arrivals texts ++ rest) =
      (listen reserved policy .new rest).after (texts.flatMap Delivery.heard) := by
  induction texts with
  | nil => rfl
  | cons text others ih =>
      have silent := classify_eq_none.mpr (swallowed text List.mem_cons_self)
      have later := ih fun other member => swallowed other (List.mem_cons_of_mem text member)
      rw [arrivals_cons, List.append_assoc, listen_stream .idle text.whole text.parsed, listenOn,
        silent]
      simp only [later]
      simp only [Listening.after, List.flatMap_cons, Delivery.heard, Delivery.answers, Delivery.text,
        List.append_assoc]

end Streams

/-- How a receive goes on after the answer to a read. -/
def respond (config : SessionConfig) (token : CancelToken) (policy : TimeoutPolicy) (rounds : Nat)
    (state : Reassembler) : ReadResult → Attempt ExchangeError (Option ReceiveOutcome)
  | .error reason => afterFailedRead policy state reason
  | .ok received => do
      match ← absorb state received with
      | (none, next) => packets config token policy rounds next
      | (some message, next) => proceed config token policy rounds message next

theorem packets_succ (config : SessionConfig) (token : CancelToken) (policy : TimeoutPolicy)
    (rounds : Nat) (state : Reassembler) :
    packets config token policy (rounds + 1) state = (do
      Attempt.stopIfCancelled token .cancelled
      let answer ← Action.read config.readTimeout
      respond config token policy rounds state answer) := rfl

section Serving

variable {σ : Type} {link : Link σ} {config : SessionConfig} {token : CancelToken}
  {ahead : σ → Prospect → Prop} (serves : link.Serves token config.debugSink ahead)
  {prospect left : Prospect} {rounds : Nat} {heard : List Heard}

include serves

theorem ends_deliver (text : String) {next : Unit → Attempt ExchangeError (Option ReceiveOutcome)}
    (rest : serves.Ends (next ()) prospect outcome [] heard left) :
    serves.Ends (liftM (deliver config.debugSink text) >>= next) prospect outcome []
      (.line text :: heard) left := by
  rw [deliver_eq]
  have noted := serves.note_bind (config.debugSink.note text) rest
  rw [config.debugSink.line?_note] at noted
  exact noted

theorem ends_afterFailedRead (reason : LinkError) :
    serves.Ends (afterFailedRead policy state reason) prospect (failed policy reason) [] []
      prospect := by
  unfold afterFailedRead failed
  split
  · cases idle : state.isIdle with
    | true => exact serves.done rfl
    | false =>
        apply serves.log_bind
        · cases config.debugSink <;> rfl
        · exact serves.done rfl
  · exact serves.done rfl

section Absorbing

theorem ends_absorb_unparsed {reason : FramingError} (parsed : Packet.ofBytes bytes = .error reason) :
    serves.Ends (absorb state bytes) prospect (.error (.framing reason)) [] [] prospect := by
  simp only [absorb, parsed]
  apply serves.log_bind
  · cases config.debugSink <;> rfl
  · exact serves.done rfl

variable (parsed : Packet.ofBytes bytes = .ok packet)

include parsed

theorem ends_absorb_refused {reason : FramingError} (pushed : state.push packet = (.error reason, next)) :
    serves.Ends (absorb state bytes) prospect (.error (.framing reason)) [] [] prospect := by
  simp only [absorb, parsed, pushed]
  apply serves.log_bind
  · cases config.debugSink <;> rfl
  apply serves.log_bind
  · cases config.debugSink <;> rfl
  exact serves.done rfl

theorem ends_absorb {complete : Option Message} (pushed : state.push packet = (.ok complete, next)) :
    serves.Ends (absorb state bytes) prospect (.ok (complete, next)) [] [] prospect := by
  simp only [absorb, parsed]
  apply serves.log_bind
  · cases config.debugSink <;> rfl
  cases complete with
  | none =>
      simp only [pushed]
      exact serves.done rfl
  | some message =>
      simp only [pushed]
      apply serves.log_bind
      · cases config.debugSink <;> rfl
      exact serves.done rfl

end Absorbing

/-- Either the answer ends the receive, or the receive is what follows the lines of debug text. -/
theorem ends_respond (policy : TimeoutPolicy) (rounds : Nat) (state : Reassembler) (answer : ReadResult) :
    (∃ outcome, digest config.reserved policy state answer = .ended outcome ∧
      ∀ prospect, serves.Ends (respond config token policy rounds state answer) prospect outcome [] []
        prospect) ∨
    ∃ lines next, digest config.reserved policy state answer = .continued lines next ∧
      ∀ prospect outcome heard left,
        serves.Ends (packets config token policy rounds next) prospect outcome [] heard left →
        serves.Ends (respond config token policy rounds state answer) prospect outcome []
          (lines.map .line ++ heard) left := by
  cases answer with
  | error reason => exact .inl ⟨_, rfl, fun _ => ends_afterFailedRead serves reason⟩
  | ok bytes =>
      cases parsed : Packet.ofBytes bytes with
      | error reason =>
          refine .inl ⟨.error (.framing reason), by simp only [digest, parsed], fun prospect => ?_⟩
          exact serves.fails_bind (ends_absorb_unparsed serves parsed)
      | ok packet =>
          cases pushed : state.push packet with
          | mk answer next =>
              cases answer with
              | error reason =>
                  refine .inl ⟨.error (.framing reason), by simp only [digest, parsed, pushed],
                    fun prospect => ?_⟩
                  exact serves.fails_bind (ends_absorb_refused serves parsed pushed)
              | ok complete =>
                  have absorbed (prospect : Prospect) : serves.Ends (absorb state bytes) prospect
                      (.ok (complete, next)) [] [] prospect := ends_absorb serves parsed pushed
                  cases complete with
                  | none =>
                      refine .inr ⟨[], next, digest_of_none parsed pushed, ?_⟩
                      intro prospect outcome heard left rest
                      exact serves.bind (absorbed prospect) rest
                  | some message =>
                      cases classified : classify config.reserved message with
                      | some reply =>
                          refine .inl ⟨_, digest_of_reply parsed pushed classified, fun prospect => ?_⟩
                          apply serves.bind (absorbed prospect)
                          simp only [proceed, classified]
                          exact serves.done rfl
                      | none =>
                          refine .inr ⟨_, next, digest_of_text parsed pushed classified, ?_⟩
                          intro prospect outcome heard left rest
                          apply serves.bind (absorbed prospect)
                          simp only [proceed, classified]
                          exact ends_deliver serves _ rest

/-- A receive ends as its script says, whatever the rounds, as long as they do not run out. -/
theorem ends_packets (enough : script.length < rounds) (sends : List (Except LinkError Unit)) :
    serves.Ends (packets config token policy rounds state) ⟨sends, script⟩
      (listen config.reserved policy state script).outcome []
      (listen config.reserved policy state script).heard
      ⟨sends, (listen config.reserved policy state script).left⟩ := by
  induction script generalizing state rounds with
  | nil =>
      cases rounds with
      | zero => exact absurd enough (Nat.not_lt_zero _)
      | succ rounds =>
          rw [packets_succ]
          apply serves.stop_bind
          apply serves.readOutcome_bind
          exact ends_afterFailedRead serves .timeout
  | cons answer rest ih =>
      cases rounds with
      | zero => exact absurd enough (Nat.not_lt_zero _)
      | succ rounds =>
          rw [packets_succ]
          apply serves.stop_bind
          cases ends_respond serves policy rounds state answer with
          | inl ended =>
              obtain ⟨outcome, digested, ends⟩ := ended
              rw [listen_of_ended digested]
              apply serves.readOutcome_bind
              exact ends ⟨sends, rest⟩
          | inr continued =>
              obtain ⟨lines, next, digested, ends⟩ := continued
              rw [listen_of_continued digested]
              apply serves.readOutcome_bind
              exact ends _ _ _ _ (ih (Nat.lt_of_succ_lt_succ enough))

theorem ends_run {rest : List ReadResult}
    (listened : listen config.reserved policy .new script = ⟨outcome, heard, rest⟩)
    (enough : script.length < rounds) (sends : List (Except LinkError Unit)) :
    serves.Ends (run config token policy rounds) ⟨sends, script⟩ outcome [] heard ⟨sends, rest⟩ := by
  have ends : serves.Ends (run config token policy rounds) ⟨sends, script⟩ _ [] _ _ :=
    ends_packets serves enough sends
  rw [listened] at ends
  exact ends

end Serving

end Receive

theorem Session.returns_receive {σ : Type} {link : Link σ} {session : Session}
    {ahead : σ → Prospect → Prop}
    (serves : link.Serves session.token session.config.debugSink ahead)
    (connected : session.connected = true) {policy : TimeoutPolicy} {script rest : List ReadResult}
    {outcome : Except ExchangeError (Option ReceiveOutcome)} {heard : List Heard}
    (listened : Receive.listen session.config.reserved policy .new script = ⟨outcome, heard, rest⟩)
    {rounds : Nat} (enough : script.length < rounds) (sends : List (Except LinkError Unit)) :
    serves.Returns (session.receive policy rounds) ⟨sends, script⟩ (outcome, session) [] heard
      ⟨sends, rest⟩ := by
  rw [Session.receive, if_pos connected]
  exact serves.beside (Receive.ends_run serves listened enough sends) session

end PacketLink
