import Mathlib.Algebra.Group.Nat.Defs
import PacketLink.Proofs.Session.Receiving
import PacketLink.Proofs.Session.Sending

namespace PacketLink

/-! Requests to a device that answers each transmission: with an acknowledgment if it was asked for,
with debug text, and with one reply. Busy replies cost one transmission each, up to the limit. -/

/-- What the device sends in answer to one transmission. -/
structure Answer where
  /-- Read and dropped, whatever it holds; only there if acknowledgments are on. -/
  acknowledgment : Bytes
  debug : List Delivery
  reply : Delivery

namespace Answer

variable (config : SessionConfig) (answer : Answer)

def received : List Bytes :=
  Exchange.acknowledgments config answer.acknowledgment ++
    Receive.arriving answer.debug answer.reply

def lines : List String := answer.debug.map Delivery.text

/-- Debug text carries the debug code, and the reply does not. -/
structure Obeys : Prop where
  debug : ∀ text ∈ answer.debug, text.message.command = config.reserved.debugMessage
  reply : answer.reply.message.command ≠ config.reserved.debugMessage

/-- What the reply is to a request. -/
def outcome : ReceiveOutcome :=
  if answer.reply.message.command = config.reserved.retry then .retryRequested
  else .message answer.reply.message

theorem length_received : 1 ≤ (answer.received config).length := by
  have := answer.reply.received_nonempty
  simp only [received, Receive.arriving, List.length_append]
  omega

variable {config answer}

theorem Obeys.swallowed (obeys : answer.Obeys config) (text : Delivery)
    (member : text ∈ answer.debug) :
    Receive.classify config.reserved text.message = none :=
  Receive.classify_eq_none.mpr (obeys.debug text member)

theorem Obeys.classified (obeys : answer.Obeys config) :
    Receive.classify config.reserved answer.reply.message = some (answer.outcome config) := by
  unfold Receive.classify outcome
  rw [if_neg obeys.reply]
  split <;> rfl

end Answer

/-- All packets that the device sends in these answers. -/
def script (config : SessionConfig) (answers : List Answer) : List Bytes :=
  answers.flatMap (Answer.received config)

theorem script_append (config : SessionConfig) (answers others : List Answer) :
    script config (answers ++ others) = script config answers ++ script config others := by
  simp [script]

theorem script_singleton (config : SessionConfig) (answer : Answer) :
    script config [answer] = answer.received config := by
  simp [script]

theorem length_le_script (config : SessionConfig) (answers : List Answer) :
    answers.length ≤ (script config answers).length := by
  induction answers with
  | nil => simp [script]
  | cons answer others ih =>
      have count := answer.length_received config
      simp only [script, List.flatMap_cons, List.length_append, List.length_cons] at ih ⊢
      omega

/-- The packets of a stream as they are sent, so many times. -/
def PacketStream.repeated (stream : PacketStream) (times : Nat) : List Bytes :=
  (List.replicate times (stream.packets.map Packet.bytes)).flatten

theorem PacketStream.repeated_succ (stream : PacketStream) (times : Nat) :
    stream.repeated (times + 1) = stream.packets.map Packet.bytes ++ stream.repeated times := by
  simp [repeated, List.replicate_succ]

theorem PacketStream.repeated_one (stream : PacketStream) :
    stream.repeated 1 = stream.packets.map Packet.bytes := by
  simp [repeated]

theorem PacketStream.repeated_add (stream : PacketStream) (times more : Nat) :
    stream.repeated (times + more) = stream.repeated times ++ stream.repeated more := by
  rw [repeated, List.replicate_add, List.flatten_append]
  rfl

namespace Exchange

/-- How a conversation goes on after a reply. -/
def react (config : SessionConfig) (token : CancelToken) (stream : PacketStream)
    (command : Command) (retryOnSignal : Bool) (rounds : Nat) (retries : UInt32)
    (reply : ReceiveOutcome) : Attempt ExchangeError Message :=
  if isTransientBusy reply command retryOnSignal config.reserved then
    if config.busyRetry.exceeded (retries + 1) then do
      Action.log (.stillBusy command)
      throw (.retryLimitExceeded (retries + 1 - 1))
    else do
      Action.log (.busy command (retries + 1))
      pause token config.busyBackoff
      converse config token stream command retryOnSignal rounds (retries + 1)
  else return messageOf config.reserved reply

theorem converse_succ (config : SessionConfig) (token : CancelToken) (stream : PacketStream)
    (command : Command) (retryOnSignal : Bool) (rounds : Nat) (retries : UInt32) :
    converse config token stream command retryOnSignal (rounds + 1) retries = (do
      transmit config token stream
      awaitAcknowledgment config
      match ← Receive.run config token .fatal (rounds + 1) with
      | none => throw (.link .timeout)
      | some reply => react config token stream command retryOnSignal rounds retries reply) :=
  rfl

section Cooperating

variable {σ : Type} {link : Link σ} {config : SessionConfig} {token : CancelToken}
  {queued : σ → List Bytes → Prop} (cooperates : link.Cooperates token config.debugSink queued)
  {stream : PacketStream} {command : Command} {retryOnSignal : Bool}

include cooperates

/-- One transmission and its answer. -/
theorem performs_round {answer : Answer} (obeys : answer.Obeys config)
    {rounds : Nat} (enough : (answer.received config).length ≤ rounds) {retries : UInt32}
    {outcome : Except ExchangeError Message} {queue sent received left : List Bytes}
    {lines : List String}
    (rest : cooperates.Performs
      (react config token stream command retryOnSignal (rounds - 1) retries (answer.outcome config))
      queue outcome sent received lines left) :
    cooperates.Performs (converse config token stream command retryOnSignal rounds retries)
      (answer.received config ++ queue) outcome (stream.packets.map Packet.bytes ++ sent)
      (answer.received config ++ received) (answer.lines ++ lines) left := by
  have room : (Receive.arriving answer.debug answer.reply).length ≤ rounds := by
    simp only [Answer.received, List.length_append] at enough
    omega
  obtain ⟨fewer, rfl⟩ : ∃ fewer, rounds = fewer + 1 :=
    Nat.exists_eq_add_of_le' (Nat.le_trans (answer.length_received config) enough)
  intro before ready
  obtain ⟨sentAll, transmitted, first, readyToAcknowledge⟩ :=
    performs_transmit cooperates _ stream before ready
  rw [Answer.received, List.append_assoc] at readyToAcknowledge
  obtain ⟨acked, acknowledged, second, readyToReply⟩ :=
    performs_awaitAcknowledgment cooperates _ _ sentAll readyToAcknowledge
  obtain ⟨heard, replied, third, readyToReact⟩ := Receive.performs_run cooperates .fatal queue
    answer.debug answer.reply obeys.swallowed obeys.classified room acked readyToReply
  obtain ⟨after, reacted, fourth, remains⟩ := rest heard readyToReact
  refine ⟨after, ?_, ?_, remains⟩
  · rw [converse_succ, Attempt.on_bind_of_ok transmitted, Attempt.on_bind_of_ok acknowledged,
      Attempt.on_bind_of_ok replied]
    exact reacted
  · simpa [Answer.received, Answer.lines] using first.trans (second.trans (third.trans fourth))

/-- A busy reply within the limit costs a pause, and the conversation starts over. -/
theorem performs_react_busy {reply : ReceiveOutcome} {rounds : Nat} {retries : UInt32}
    {outcome : Except ExchangeError Message} {queue sent received left : List Bytes}
    {lines : List String}
    (busy : isTransientBusy reply command retryOnSignal config.reserved = true)
    (permitted : config.busyRetry.exceeded (retries + 1) = false)
    (rest : cooperates.Performs
      (converse config token stream command retryOnSignal rounds (retries + 1)) queue outcome sent
      received lines left) :
    cooperates.Performs (react config token stream command retryOnSignal rounds retries reply) queue
      outcome sent received lines left := by
  simp only [react, busy, permitted, ↓reduceIte, Bool.false_eq_true]
  refine cooperates.log_bind (by cases config.debugSink <;> rfl) ?_
  exact cooperates.bind (performs_pause cooperates queue config.busyBackoff) rest

theorem performs_react_giveUp {reply : ReceiveOutcome} {rounds : Nat} {retries : UInt32}
    {queue : List Bytes}
    (busy : isTransientBusy reply command retryOnSignal config.reserved = true)
    (exceeded : config.busyRetry.exceeded (retries + 1) = true) :
    cooperates.Performs (react config token stream command retryOnSignal rounds retries reply) queue
      (.error (.retryLimitExceeded retries)) [] [] [] queue := by
  have attempts : retries + 1 - 1 = retries := by simp
  simp only [react, busy, exceeded, ↓reduceIte, attempts]
  refine cooperates.log_bind (by cases config.debugSink <;> rfl) ?_
  exact cooperates.done _ _ rfl

theorem performs_react_reply {reply : ReceiveOutcome} {rounds : Nat} {retries : UInt32}
    {queue : List Bytes}
    (settled : isTransientBusy reply command retryOnSignal config.reserved = false) :
    cooperates.Performs (react config token stream command retryOnSignal rounds retries reply) queue
      (.ok (messageOf config.reserved reply)) [] [] [] queue := by
  simp only [react, settled, Bool.false_eq_true, ↓reduceIte]
  exact cooperates.done _ _ rfl

variable {busy : List Answer}
  (obey : ∀ answer ∈ busy, answer.Obeys config)
  (areBusy : ∀ answer ∈ busy,
    isTransientBusy (answer.outcome config) command retryOnSignal config.reserved = true)

include obey areBusy

/-- Busy replies within the limit cost one transmission each. What follows them counts on from where
they left the counter. -/
theorem performs_busy (retries : UInt32)
    (permitted : ∀ i < busy.length,
      config.busyRetry.exceeded (retries + UInt32.ofNat (i + 1)) = false)
    {rounds : Nat} (enough : (script config busy).length ≤ rounds)
    {outcome : Except ExchangeError Message} {queue sent received left : List Bytes}
    {lines : List String}
    (rest : cooperates.Performs (converse config token stream command retryOnSignal
      (rounds - busy.length) (retries + UInt32.ofNat busy.length)) queue outcome sent received lines
      left) :
    cooperates.Performs (converse config token stream command retryOnSignal rounds retries)
      (script config busy ++ queue) outcome (stream.repeated busy.length ++ sent)
      (script config busy ++ received) (busy.flatMap Answer.lines ++ lines) left := by
  induction busy generalizing retries rounds with
  | nil => simpa [script, PacketStream.repeated] using rest
  | cons answer others ih =>
      have count := answer.length_received config
      have room : (answer.received config).length + (script config others).length ≤ rounds := by
        simpa [script] using enough
      have advanced (more : Nat) :
          retries + UInt32.ofNat (more + 1) = retries + 1 + UInt32.ofNat more := by
        rw [Nat.add_comm, UInt32.ofNat_add, UInt32.add_assoc]
        rfl
      rw [List.length_cons, advanced, Nat.sub_add_eq, Nat.sub_right_comm] at rest
      have later := ih (fun other member => obey other (List.mem_cons_of_mem answer member))
        (fun other member => areBusy other (List.mem_cons_of_mem answer member)) (retries + 1)
        (fun i within => advanced (i + 1) ▸ permitted (i + 1) (Nat.succ_lt_succ within))
        (show (script config others).length ≤ rounds - 1 by omega) rest
      have continued := performs_react_busy cooperates (areBusy answer List.mem_cons_self)
        (permitted 0 (Nat.succ_pos _)) later
      have round := performs_round cooperates (obey answer List.mem_cons_self) (by omega) continued
      simpa [script, PacketStream.repeated_succ] using round

/-- Busy replies within the limit, and then an answer that ends the conversation. -/
theorem performs_busy_last {last : Answer} (lastObeys : last.Obeys config) (retries : UInt32)
    (permitted : ∀ i < busy.length,
      config.busyRetry.exceeded (retries + UInt32.ofNat (i + 1)) = false)
    {rounds : Nat} (enough : (script config (busy ++ [last])).length ≤ rounds) (queue : List Bytes)
    {outcome : Except ExchangeError Message}
    (ends : ∀ rounds, cooperates.Performs (react config token stream command retryOnSignal rounds
      (retries + UInt32.ofNat busy.length) (last.outcome config)) queue outcome [] [] [] queue) :
    cooperates.Performs (converse config token stream command retryOnSignal rounds retries)
      (script config (busy ++ [last]) ++ queue) outcome (stream.repeated (busy.length + 1))
      (script config (busy ++ [last])) ((busy ++ [last]).flatMap Answer.lines) queue := by
  have fewer := length_le_script config busy
  rw [script_append, script_singleton] at enough ⊢
  rw [List.length_append] at enough
  have round := performs_round cooperates lastObeys
    (show (last.received config).length ≤ rounds - busy.length by omega) (ends _)
  have whole := performs_busy cooperates obey areBusy retries permitted
    (show (script config busy).length ≤ rounds by omega) round
  simpa [PacketStream.repeated_add, PacketStream.repeated_one] using whole

/-- Busy replies within the limit, and then another one. -/
theorem performs_converse {final : Answer} (finalObeys : final.Obeys config)
    (settled : isTransientBusy (final.outcome config) command retryOnSignal config.reserved = false)
    (retries : UInt32)
    (permitted : ∀ i < busy.length,
      config.busyRetry.exceeded (retries + UInt32.ofNat (i + 1)) = false)
    {rounds : Nat} (enough : (script config (busy ++ [final])).length ≤ rounds) (queue : List Bytes) :
    cooperates.Performs (converse config token stream command retryOnSignal rounds retries)
      (script config (busy ++ [final]) ++ queue) (.ok (messageOf config.reserved (final.outcome config)))
      (stream.repeated (busy.length + 1)) (script config (busy ++ [final]))
      ((busy ++ [final]).flatMap Answer.lines) queue :=
  performs_busy_last cooperates obey areBusy finalObeys retries permitted enough queue
    fun _ => performs_react_reply cooperates settled

/-- Busy replies within the limit, and then one more. -/
theorem performs_converse_giveUp {last : Answer} (lastObeys : last.Obeys config)
    (lastBusy : isTransientBusy (last.outcome config) command retryOnSignal config.reserved = true)
    (retries : UInt32)
    (permitted : ∀ i < busy.length,
      config.busyRetry.exceeded (retries + UInt32.ofNat (i + 1)) = false)
    (exceeded : config.busyRetry.exceeded (retries + UInt32.ofNat busy.length + 1) = true)
    {rounds : Nat} (enough : (script config (busy ++ [last])).length ≤ rounds) (queue : List Bytes) :
    cooperates.Performs (converse config token stream command retryOnSignal rounds retries)
      (script config (busy ++ [last]) ++ queue)
      (.error (.retryLimitExceeded (retries + UInt32.ofNat busy.length)))
      (stream.repeated (busy.length + 1)) (script config (busy ++ [last]))
      ((busy ++ [last]).flatMap Answer.lines) queue :=
  performs_busy_last cooperates obey areBusy lastObeys retries permitted enough queue
    fun _ => performs_react_giveUp cooperates lastBusy exceeded

end Cooperating

end Exchange

end PacketLink
