import PacketLink.Proofs.Session.Answers

namespace PacketLink

/-! Requests on a connected session, from the message to the reply. -/

namespace Session

/-- The session after a message was prepared. -/
def advanced (session : Session) : Session :=
  { session with nextFlip := session.nextFlip.toggled }

variable {session : Session} {message : Message}

theorem prepare_of_fits (connected : session.connected = true) (fits : message.length ≤ 988) :
    ∃ stream, message.encode session.nextFlip session.config.ackEnabled = .ok stream ∧
      session.prepare message = (.ok stream, session.advanced) := by
  refine ⟨_, message.encode_eq_ok _ _ fits, ?_⟩
  simp [prepare, connected, message.encode_eq_ok _ _ fits, advanced]

theorem request_run {σ : Type} (link : Link σ) (before : World σ) {stream : PacketStream}
    {following : Session} (retryOnSignal : Bool) (rounds : Nat)
    (prepared : session.prepare message = (.ok stream, following)) :
    (session.request message retryOnSignal rounds).run link before =
      ((((Exchange.converse session.config session.token stream message.command retryOnSignal rounds
        0).on link before).1.map fun outcome => (outcome, following)),
        ((Exchange.converse session.config session.token stream message.command retryOnSignal rounds
          0).on link before).2) := by
  simp only [request, prepared]
  rw [Action.run_bind, Attempt.on]
  split <;> rename_i ran <;> rw [ran] <;> rfl

end Session

/-- Wherever `queue` is ahead, the request ends with `outcome`, and the session has moved on to the
next flip bit; what is sent, received, put into the sink and left is as for `Performs`. -/
def Link.Cooperates.Requests {σ : Type} {link : Link σ} {session : Session}
    {queued : σ → List Bytes → Prop}
    (_ : link.Cooperates session.token session.config.debugSink queued) (message : Message)
    (retryOnSignal : Bool) (rounds : Nat) (queue : List Bytes)
    (outcome : Except ExchangeError Message) (sent received : List Bytes) (lines : List String)
    (left : List Bytes) : Prop :=
  ∀ before : World σ, before.Ready queued session.token queue →
    ∃ after, (session.request message retryOnSignal rounds).run link before =
        (some (outcome, session.advanced), after) ∧
      Exchanged session.config.debugSink before after sent received lines ∧
      after.Ready queued session.token left

theorem Answer.messageOf_outcome (config : SessionConfig) (answer : Answer) :
    Exchange.messageOf config.reserved (answer.outcome config) =
      if answer.reply.message.command = config.reserved.retry then
        Message.empty config.reserved.retry
      else answer.reply.message := by
  unfold Answer.outcome
  split <;> rfl

theorem RetryLimit.exceeded_ofNat (most : UInt32) (busy : Nat) :
    (attempts most).exceeded (UInt32.ofNat busy) = decide (most.toNat < busy % 2 ^ 32) := by
  simp only [exceeded, UInt32.lt_iff_toNat_lt, UInt32.toNat_ofNat']

section Cooperating

variable {σ : Type} {link : Link σ} {session : Session} {queued : σ → List Bytes → Prop}
  (cooperates : link.Cooperates session.token session.config.debugSink queued)
  {message : Message} {retryOnSignal : Bool} {rounds : Nat}

include cooperates

theorem Session.requests_of_converse {stream : PacketStream}
    {queue sent received left : List Bytes} {outcome : Except ExchangeError Message}
    {lines : List String} (prepared : session.prepare message = (.ok stream, session.advanced))
    (performs : cooperates.Performs
      (Exchange.converse session.config session.token stream message.command retryOnSignal rounds 0)
      queue outcome sent received lines left) :
    cooperates.Requests message retryOnSignal rounds queue outcome sent received lines left := by
  intro before ready
  obtain ⟨after, ran, exchanged, remains⟩ := performs before ready
  refine ⟨after, ?_, exchanged, remains⟩
  rw [Session.request_run link before retryOnSignal rounds prepared, ran]
  rfl

variable {stream : PacketStream} {busy : List Answer}
  (prepared : session.prepare message = (.ok stream, session.advanced))
  (obey : ∀ answer ∈ busy, answer.Obeys session.config)
  (areBusy : ∀ answer ∈ busy, Exchange.isTransientBusy (answer.outcome session.config)
    message.command retryOnSignal session.config.reserved = true)

include prepared obey areBusy

theorem Session.requests_reply {final : Answer} (finalObeys : final.Obeys session.config)
    (settled : Exchange.isTransientBusy (final.outcome session.config) message.command
      retryOnSignal session.config.reserved = false)
    (permitted : ∀ i < busy.length,
      session.config.busyRetry.exceeded (UInt32.ofNat (i + 1)) = false)
    (enough : (script session.config (busy ++ [final])).length ≤ rounds) (later : List Bytes) :
    cooperates.Requests message retryOnSignal rounds
      (script session.config (busy ++ [final]) ++ later)
      (.ok (Exchange.messageOf session.config.reserved (final.outcome session.config)))
      (stream.repeated (busy.length + 1)) (script session.config (busy ++ [final]))
      ((busy ++ [final]).flatMap Answer.lines) later := by
  have fromZero : ∀ i < busy.length,
      session.config.busyRetry.exceeded (0 + UInt32.ofNat (i + 1)) = false := by
    simpa only [UInt32.zero_add] using permitted
  exact Session.requests_of_converse cooperates prepared
    (Exchange.performs_converse cooperates obey areBusy finalObeys settled 0 fromZero enough later)

theorem Session.requests_giveUp {most : UInt32} (limit : session.config.busyRetry = .attempts most)
    (small : most.toNat + 1 < 2 ^ 32) (more : most.toNat < busy.length)
    (enough : (script session.config busy).length ≤ rounds) (later : List Bytes) :
    cooperates.Requests message retryOnSignal rounds
      (script session.config busy ++ later) (.error (.retryLimitExceeded most))
      (stream.repeated (most.toNat + 1)) (script session.config (busy.take (most.toNat + 1)))
      ((busy.take (most.toNat + 1)).flatMap Answer.lines)
      (script session.config (busy.drop (most.toNat + 1)) ++ later) := by
  have spent : (busy.take most.toNat).length = most.toNat := 
    List.length_take_of_le (Nat.le_of_lt more)
  have tried : busy.take (most.toNat + 1) = busy.take most.toNat ++ [busy[most.toNat]] :=
    (List.take_append_getElem more).symm
  have permitted : ∀ i < (busy.take most.toNat).length,
      session.config.busyRetry.exceeded (0 + UInt32.ofNat (i + 1)) = false := by
    intro i within
    rw [limit, UInt32.zero_add, RetryLimit.exceeded_ofNat, decide_eq_false_iff_not]
    omega
  have exceeded : session.config.busyRetry.exceeded
      (0 + UInt32.ofNat (busy.take most.toNat).length + 1) = true := by
    have next : (0 : UInt32) + UInt32.ofNat most.toNat + 1 = UInt32.ofNat (most.toNat + 1) := by
      rw [UInt32.zero_add, UInt32.ofNat_add]
      rfl
    rw [limit, spent, next, RetryLimit.exceeded_ofNat, decide_eq_true_iff]
    omega
  -- The answers after the limit stay in the queue.
  have parts : script session.config busy = script session.config (busy.take (most.toNat + 1)) ++
      script session.config (busy.drop (most.toNat + 1)) := by
    rw [← script_append, List.take_append_drop]
  rw [parts, List.length_append] at enough
  rw [tried] at enough
  have performs : cooperates.Performs (Exchange.converse session.config session.token stream
      message.command retryOnSignal rounds 0) _ _ _ _ _ _ := Exchange.performs_converse_giveUp cooperates
    (fun answer member => obey answer (List.mem_of_mem_take member))
    (fun answer member => areBusy answer (List.mem_of_mem_take member))
    (obey _ (List.getElem_mem more)) (areBusy _ (List.getElem_mem more)) 0 permitted exceeded
    (by omega) (script session.config (busy.drop (most.toNat + 1)) ++ later)
  rw [spent, ← tried, UInt32.zero_add, UInt32.ofNat_toNat] at performs
  rw [parts, List.append_assoc]
  exact Session.requests_of_converse cooperates prepared performs

end Cooperating

section Answered

variable {σ : Type} {link : Link σ} {session : Session} {queued : σ → List Bytes → Prop}
  {message : Message} {retryOnSignal : Bool} {rounds : Nat} {busy : List Answer} {final : Answer}

/-- The device answers each transmission, with busy replies at first. Their number decides between
the first other reply and the retry limit. -/
theorem Session.requests_answered
    (cooperates : link.Cooperates session.token session.config.debugSink queued)
    (connected : session.connected = true)
    (fits : message.length ≤ 988) (obey : ∀ answer ∈ busy ++ [final], answer.Obeys session.config)
    (areBusy : ∀ answer ∈ busy, Exchange.isTransientBusy (answer.outcome session.config)
      message.command retryOnSignal session.config.reserved = true)
    (settled : Exchange.isTransientBusy (final.outcome session.config) message.command
      retryOnSignal session.config.reserved = false)
    (countable : busy.length < 2 ^ 32 - 1)
    (enough : (script session.config (busy ++ [final])).length ≤ rounds) (later : List Bytes) :
    ∃ stream, message.encode session.nextFlip session.config.ackEnabled = .ok stream ∧
      ((session.config.busyRetry = .unbounded ∨
          ∃ most, session.config.busyRetry = .attempts most ∧ busy.length ≤ most.toNat) →
        cooperates.Requests message retryOnSignal rounds
          (script session.config (busy ++ [final]) ++ later)
          (.ok (if final.reply.message.command = session.config.reserved.retry then
              Message.empty session.config.reserved.retry
            else final.reply.message))
          (stream.repeated (busy.length + 1)) (script session.config (busy ++ [final]))
          ((busy ++ [final]).flatMap Answer.lines) later) ∧
      ∀ most, session.config.busyRetry = .attempts most → most.toNat < busy.length →
        cooperates.Requests message retryOnSignal rounds
          (script session.config (busy ++ [final]) ++ later) (.error (.retryLimitExceeded most))
          (stream.repeated (most.toNat + 1))
          (script session.config (busy.take (most.toNat + 1)))
          ((busy.take (most.toNat + 1)).flatMap Answer.lines)
          (script session.config (busy.drop (most.toNat + 1) ++ [final]) ++ later) := by
  obtain ⟨stream, encoded, prepared⟩ := Session.prepare_of_fits connected fits
  have obeyBusy : ∀ answer ∈ busy, answer.Obeys session.config :=
    fun answer member => obey answer (List.mem_append_left _ member)
  refine ⟨stream, encoded, ?_, ?_⟩
  · intro permitted
    have within : ∀ i < busy.length,
        session.config.busyRetry.exceeded (UInt32.ofNat (i + 1)) = false := by
      intro i earlier
      rcases permitted with limit | ⟨most, limit, attempts⟩
      · rw [limit]
        rfl
      · rw [limit, RetryLimit.exceeded_ofNat, decide_eq_false_iff_not]
        omega
    rw [← Answer.messageOf_outcome]
    exact Session.requests_reply cooperates prepared obeyBusy areBusy (obey final (by simp)) settled
      within enough later
  · intro most limit more
    rw [script_append, List.length_append] at enough
    rw [script_append, script_append, List.append_assoc, List.append_assoc]
    exact Session.requests_giveUp cooperates prepared obeyBusy areBusy limit (by omega) more
      (by omega) _

end Answered

/-- With acknowledgments and one retry permitted, a device that is busy once and then sends debug
text ahead of its reply. -/
theorem Session.requests_answered_busy_once :
    ∃ stream after, (Message.empty .ping).encode .set true = .ok stream ∧
      ((Session.resume { ackEnabled := true, busyRetry := .attempts 1 } ⟨0⟩ .set).request
          (Message.empty .ping) false 5).run Link.scripted
        { device := .playing (script { ackEnabled := true, busyRetry := .attempts 1 }
          [⟨[0xAC], [], .encoded ⟨.deviceStatus, [1]⟩ .clear false (by decide)⟩,
            ⟨[], [.encoded ⟨.debugMessage, [104, 0, 105, 0]⟩ .clear false (by decide)],
              .encoded ⟨.ping, [7]⟩ .set false (by decide)⟩]) } =
        (some (.ok ⟨.ping, [7]⟩,
          .resume { ackEnabled := true, busyRetry := .attempts 1 } ⟨0⟩ .clear), after) ∧
      Trace.accepted after.trace = stream.repeated 2 ∧
      Trace.lines .log after.trace = ["hi"] ∧ after.device.Queues [] := by
  obtain ⟨stream, encoded, replied, -⟩ := @Session.requests_answered Script Link.scripted
    (.resume { ackEnabled := true, busyRetry := .attempts 1 } ⟨0⟩ .set) Script.Queues
    (.empty .ping) false 5
    [⟨[0xAC], [], .encoded ⟨.deviceStatus, [1]⟩ .clear false (by decide)⟩]
    ⟨[], [.encoded ⟨.debugMessage, [104, 0, 105, 0]⟩ .clear false (by decide)],
      .encoded ⟨.ping, [7]⟩ .set false (by decide)⟩
    (Link.scripted_cooperates ⟨0⟩ .log) rfl (by decide)
    (by simpa using ⟨⟨by simp, by decide⟩, ⟨by simp [Delivery.encoded], by decide⟩⟩)
    (by simpa using by decide) (by decide) (by decide) (by decide) []
  obtain ⟨after, ran, ⟨events, stretch, lines⟩, remains⟩ :=
    replied (.inr ⟨1, rfl, by decide⟩) { device := .playing _ } ⟨Script.playing_queues _, by simp⟩
  have trace : after.trace = events := by simpa using stretch.trace
  refine ⟨stream, after, encoded, ran, ?_, ?_, remains.queue⟩
  · rw [trace, stretch.accepted]
    rfl
  · rw [trace]
    exact lines.trans (by decide)

end PacketLink
