import PacketLink.Session.Receive
import PacketLink.Proofs.Framing.Deliveries
import PacketLink.Proofs.Framing.Reassembly
import PacketLink.Proofs.Link.Cooperation

namespace PacketLink

/-! Receiving one outcome: debug text goes to the sink stream by stream, and the first other stream
is the outcome. -/

/-- The debug text that a message spells. -/
def Delivery.text (delivery : Delivery) : String :=
  DebugText.decode delivery.message.payload

namespace Receive

/-- How a receive goes on after a complete message. -/
def proceed (config : SessionConfig) (token : CancelToken) (policy : TimeoutPolicy) (rounds : Nat)
    (message : Message) (next : Reassembler) : Attempt ExchangeError (Option ReceiveOutcome) :=
  match classify config.reserved message with
  | some outcome => return some outcome
  | none => do
      deliver config.debugSink (DebugText.decode message.payload)
      packets config token policy rounds next

theorem deliver_eq (sink : DebugSink) (text : String) :
    deliver sink text = Action.note (sink.note text) := by
  cases sink <;> rfl

theorem classify_eq_none {reserved : ReservedCommands} {message : Message} :
    classify reserved message = none ↔ message.command = reserved.debugMessage := by
  by_cases debug : message.command = reserved.debugMessage
  · simp [classify, debug]
  · by_cases signal : message.command = reserved.retry
    · rw [classify, if_neg debug, if_pos signal]
      simp [debug]
    · rw [classify, if_neg debug, if_neg signal]
      simp [debug]

theorem classify_eq_some {reserved : ReservedCommands} {message : Message}
    {outcome : ReceiveOutcome} (classified : classify reserved message = some outcome) :
    message.command ≠ reserved.debugMessage ∧
      (message.command = reserved.retry ∧ outcome = .retryRequested ∨
        message.command ≠ reserved.retry ∧ outcome = .message message) := by
  by_cases debug : message.command = reserved.debugMessage
  · simp [classify, debug] at classified
  · by_cases signal : message.command = reserved.retry
    · rw [classify, if_neg debug, if_pos signal] at classified
      exact ⟨debug, .inl ⟨signal, (Option.some.inj classified).symm⟩⟩
    · rw [classify, if_neg debug, if_neg signal] at classified
      exact ⟨debug, .inr ⟨signal, (Option.some.inj classified).symm⟩⟩

section Cooperating

variable {σ : Type} {link : Link σ} {config : SessionConfig} {token : CancelToken}
  {queued : σ → List Bytes → Prop} (cooperates : link.Cooperates token config.debugSink queued)
  {policy : TimeoutPolicy} {queue left sent received : List Bytes} {lines : List String}
  {outcome : Except ExchangeError (Option ReceiveOutcome)}

include cooperates

theorem performs_deliver (text : String) :
    cooperates.Performs (liftM (deliver config.debugSink text) : Attempt ExchangeError Unit) queue
      (.ok ()) [] [] [text] queue := by
  have line : (config.debugSink.line? (config.debugSink.note text)).toList = [text] := by
    rw [config.debugSink.line?_note]
    rfl
  rw [deliver_eq]
  exact line ▸ cooperates.note (config.debugSink.note text)

theorem performs_absorb {state next : Reassembler} {packet : Packet} {bytes : Bytes}
    {message : Option Message} (parsed : Packet.ofBytes bytes = .ok packet)
    (pushed : state.push packet = (.ok message, next)) (queue : List Bytes) :
    cooperates.Performs (absorb state bytes) queue (.ok (message, next)) [] [] [] queue := by
  simp only [absorb, parsed]
  refine cooperates.log_bind (by cases config.debugSink <;> rfl) ?_
  cases message with
  | none =>
      simp only [pushed]
      exact cooperates.done _ _ rfl
  | some message =>
      simp only [pushed]
      refine cooperates.log_bind (by cases config.debugSink <;> rfl) ?_
      exact cooperates.done _ _ rfl

/-- A stream that is begun with the pending packets is read to its end. -/
theorem performs_stream {state : Reassembler} {pending packets : List Packet} {bytes : List Bytes}
    {message : Message} {rounds : Nat} (holds : state.Holds pending)
    (carries : Carries (pending ++ packets) message)
    (parsed : bytes.map Packet.ofBytes = packets.map .ok)
    (rest : cooperates.Performs (proceed config token policy rounds message .new) queue outcome sent
      received lines left) :
    cooperates.Performs (Receive.packets config token policy (bytes.length + rounds) state)
      (bytes ++ queue) outcome sent (bytes ++ received) lines left := by
  induction packets generalizing state pending bytes with
  | nil => exact absurd (by simpa using carries) holds.not_carries
  | cons packet others ih =>
      obtain ⟨first, more, rfl, read, parsedMore⟩ :
          ∃ first more, bytes = first :: more ∧ Packet.ofBytes first = .ok packet ∧
            more.map Packet.ofBytes = others.map .ok := by
        cases bytes with
        | nil => simp at parsed
        | cons first more => exact ⟨first, more, rfl, by simpa using parsed⟩
      have count : (first :: more).length + rounds = (more.length + rounds) + 1 := by
        simp only [List.length_cons]
        omega
      rw [count, Receive.packets]
      refine cooperates.stop_bind (cooperates.readOutcome_bind config.readTimeout first ?_)
      by_cases last : others = []
      · subst last
        obtain rfl : more = [] := by simpa using parsedMore
        have pushed := Reassembler.push_of_carries holds carries
        have absorbed := performs_absorb cooperates read pushed queue
        simp only [List.length_nil, Nat.zero_add]
        exact cooperates.bind absorbed rest
      · obtain ⟨next, pushed, holding⟩ := Reassembler.push_of_carries_cons holds last carries
        have absorbed := performs_absorb cooperates read pushed (more ++ queue)
        have remaining := ih holding (by simpa using carries) parsedMore
        exact cooperates.bind absorbed remaining

/-- The packets of debug text and of the reply after it, as one queue. -/
def arriving (debug : List Delivery) (reply : Delivery) : List Bytes :=
  debug.flatMap Delivery.received ++ reply.received

theorem performs_run (policy : TimeoutPolicy) (queue : List Bytes) (debug : List Delivery)
    (reply : Delivery) {outcome : ReceiveOutcome}
    (swallowed : ∀ text ∈ debug, classify config.reserved text.message = none)
    (classified : classify config.reserved reply.message = some outcome) {rounds : Nat}
    (enough : (arriving debug reply).length ≤ rounds) :
    cooperates.Performs (run config token policy rounds) (arriving debug reply ++ queue)
      (.ok (some outcome)) [] (arriving debug reply) (debug.map Delivery.text) queue := by
  unfold run arriving
  induction debug generalizing rounds with
  | nil =>
      obtain ⟨extra, rfl⟩ := Nat.exists_eq_add_of_le enough
      have answered : cooperates.Performs (proceed config token policy extra reply.message .new) queue
          (.ok (some outcome)) [] [] [] queue := by
        simp only [proceed, classified]
        exact cooperates.done _ _ rfl
      have read := performs_stream cooperates .idle reply.whole reply.parsed answered
      simpa [arriving] using read
  | cons text others ih =>
      have shorter : text.received.length ≤ rounds := by
        simp [arriving] at enough
        omega
      obtain ⟨extra, rfl⟩ := Nat.exists_eq_add_of_le shorter
      have remaining : (arriving others reply).length ≤ extra := by
        simp [arriving] at enough ⊢
        omega
      have rest := ih (fun other member => swallowed other (by simp [member])) remaining
      have delivered : cooperates.Performs (proceed config token policy extra text.message .new)
          (arriving others reply ++ queue) (.ok (some outcome)) [] (arriving others reply)
          (text.text :: others.map Delivery.text) queue := by
        simp only [proceed, swallowed text (by simp)]
        exact cooperates.bind (performs_deliver cooperates text.text) rest
      have read := performs_stream cooperates .idle text.whole text.parsed delivered
      simpa [arriving] using read

end Cooperating

section Arbitrary

/-! What any link delivered, where a receive came to an outcome. -/

variable {σ : Type} {link : Link σ} {config : SessionConfig} {token : CancelToken}
  {policy : TimeoutPolicy} {before after : World σ} {outcome : ReceiveOutcome}

theorem absorb_of_ok {state next : Reassembler} {bytes : Bytes} {message : Option Message}
    (ran : (absorb state bytes).on link before = (some (.ok (message, next)), after)) :
    ∃ events packet, Stretch before after events [] [] ∧ Packet.ofBytes bytes = .ok packet ∧
      state.push packet = (.ok message, next) := by
  cases parsed : Packet.ofBytes bytes with
  | error reason =>
      simp only [absorb, parsed] at ran
      obtain ⟨_, _, _, ran⟩ := Attempt.ok_of_bind ran
      simp at ran
  | ok packet =>
      simp only [absorb, parsed] at ran
      obtain ⟨_, logged, noted, ran⟩ := Attempt.ok_of_bind ran
      obtain ⟨_, logging⟩ := Stretch.of_note noted
      cases pushed : state.push packet with
      | mk result following =>
          simp only [pushed] at ran
          cases result with
          | error reason =>
              obtain ⟨_, _, _, ran⟩ := Attempt.ok_of_bind ran
              simp at ran
          | ok complete =>
              cases complete with
              | none =>
                  simp only [Attempt.on_pure, Prod.mk.injEq, Option.some.injEq, Except.ok.injEq] at ran
                  obtain ⟨⟨rfl, rfl⟩, rfl⟩ := ran
                  exact ⟨_, packet, logging, rfl, pushed⟩
              | some whole =>
                  obtain ⟨_, told, notedWhole, ran⟩ := Attempt.ok_of_bind ran
                  obtain ⟨_, telling⟩ := Stretch.of_note notedWhole
                  simp only [Attempt.on_pure, Prod.mk.injEq, Option.some.injEq, Except.ok.injEq] at ran
                  obtain ⟨⟨rfl, rfl⟩, rfl⟩ := ran
                  exact ⟨_, packet, logging.trans telling, rfl, pushed⟩

theorem afterFailedRead_ne_some {state : Reassembler} {reason : LinkError}
    (ran : (afterFailedRead policy state reason).on link before =
      (some (.ok (some outcome)), after)) : False := by
  unfold afterFailedRead at ran
  split at ran
  · dsimp only at ran
    split at ran
    · obtain ⟨_, _, _, ran⟩ := Attempt.ok_of_bind ran
      simp at ran
    · simp at ran
  · simp at ran

/-- Each round that an outcome follows reads one packet and takes it in. -/
theorem packets_succ_of_ok {state : Reassembler} {rounds : Nat}
    (ran : (packets config token policy (rounds + 1) state).on link before =
      (some (.ok (some outcome)), after)) :
    ∃ middle events bytes packet message next, Stretch before middle events [] [bytes] ∧
      Packet.ofBytes bytes = .ok packet ∧ state.push packet = (.ok message, next) ∧
      (match message with
        | none => packets config token policy rounds next
        | some message => proceed config token policy rounds message next).on link middle =
          (some (.ok (some outcome)), after) := by
  obtain ⟨answer, heard, delivered, ran⟩ := Attempt.ok_of_bind (Attempt.ok_of_stop_bind ran)
  cases answer with
  | error reason => exact (afterFailedRead_ne_some ran).elim
  | ok bytes =>
      obtain ⟨_, reading⟩ := Stretch.of_readOutcome delivered
      obtain ⟨⟨message, next⟩, taken, absorbed, ran⟩ := Attempt.ok_of_bind ran
      obtain ⟨_, packet, absorbing, parsed, pushed⟩ := absorb_of_ok absorbed
      refine ⟨taken, _, bytes, packet, message, next, reading.trans absorbing, parsed, pushed, ?_⟩
      cases message <;> exact ran

/-- The packets of the unfinished stream and those that were read are streams of debug text and one
stream of the outcome. -/
theorem packets_heard {state : Reassembler} {pending : List Packet} {earlier : List Bytes}
    {rounds : Nat} (holds : state.Holds pending)
    (parsed : earlier.map Packet.ofBytes = pending.map .ok)
    (ran : (packets config token policy rounds state).on link before =
      (some (.ok (some outcome)), after)) :
    ∃ events received debug last, Stretch before after events [] received ∧
      earlier ++ received = arriving debug last ∧
      (∀ text ∈ debug, text.message.command = config.reserved.debugMessage) ∧
      classify config.reserved last.message = some outcome := by
  induction rounds generalizing state pending earlier before with
  | zero => simp [packets] at ran
  | succ rounds ih =>
      obtain ⟨middle, _, bytes, packet, message, next, reading, read, pushed, ran⟩ :=
        packets_succ_of_ok ran
      have parsedAll : (earlier ++ [bytes]).map Packet.ofBytes = (pending ++ [packet]).map .ok := by
        simp [parsed, read]
      cases message with
      | none =>
          obtain ⟨_, received, debug, last, following, streams, rest⟩ :=
            ih (Reassembler.push_eq_none holds pushed) parsedAll ran
          exact ⟨_, _, debug, last, reading.trans following, by simpa using streams, rest⟩
      | some message =>
          obtain ⟨carries, rfl⟩ := Reassembler.push_eq_some holds pushed
          let delivery : Delivery :=
            ⟨message, pending ++ [packet], earlier ++ [bytes], parsedAll, carries⟩
          unfold proceed at ran
          cases classified : classify config.reserved message with
          | some found =>
              simp only [classified] at ran
              obtain ⟨same, rfl⟩ := Prod.mk.inj ran
              refine ⟨_, _, [], delivery, reading, by simp [arriving, delivery], by simp, ?_⟩
              simpa [delivery, classified] using same
          | none =>
              simp only [classified] at ran
              obtain ⟨_, shown, delivering, ran⟩ := Attempt.ok_of_bind ran
              rw [deliver_eq] at delivering
              obtain ⟨_, showing⟩ := Stretch.of_note delivering
              -- The next stream begins with nothing pending.
              have nothing : ([] : List Bytes).map Packet.ofBytes = ([] : List Packet).map .ok := rfl
              obtain ⟨_, received, debug, last, following, streams, swallowed, concluded⟩ :=
                ih .idle nothing ran
              refine ⟨_, _, delivery :: debug, last, reading.trans (showing.trans following), ?_, ?_,
                concluded⟩
              · rw [List.nil_append] at streams
                simp [arriving, streams, delivery]
              · simpa [delivery, classify_eq_none.mp classified] using swallowed

theorem run_heard {rounds : Nat}
    (ran : (run config token policy rounds).on link before = (some (.ok (some outcome)), after)) :
    ∃ events debug last, Stretch before after events [] (arriving debug last) ∧
      (∀ text ∈ debug, text.message.command = config.reserved.debugMessage) ∧
      classify config.reserved last.message = some outcome := by
  have nothing : ([] : List Bytes).map Packet.ofBytes = ([] : List Packet).map .ok := rfl
  obtain ⟨events, received, debug, last, reading, streams, rest⟩ :=
    packets_heard .idle nothing ran
  rw [List.nil_append] at streams
  exact ⟨events, debug, last, streams ▸ reading, rest⟩

end Arbitrary

end Receive

end PacketLink
