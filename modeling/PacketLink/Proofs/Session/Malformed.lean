import PacketLink.Proofs.Framing.Parsing
import PacketLink.Proofs.Link.Replays
import PacketLink.Session.Exchange

namespace PacketLink

/-! What received bytes that hold no packet lead to.

`Reads` is about all the reads that an action can come to, whatever was answered before: it says what
the action goes on with for each answer. Of bytes that hold no packet there are four uses, and each
operation has its own. -/

/-- `P` holds of each read of the action, given as what the action does next by the answer. -/
inductive Action.Reads {α : Type} (P : (ReadResult → Action α) → Prop) : Action α → Prop
  | done (value : α) : Reads P (.done value)
  | unfinished : Reads P .unfinished
  | read {timeout : Duration} {next : ReadResult → Action α} (here : P next)
      (later : ∀ answer, Reads P (next answer)) : Reads P (.step (.read timeout) next)
  | other {effect : Effect} {next : effect.Answer → Action α} (unread : ∀ timeout, effect ≠ .read timeout)
      (later : ∀ answer, Reads P (next answer)) : Reads P (.step effect next)

namespace Action

variable {α β : Type} {P : (ReadResult → Action α) → Prop} {Q : (ReadResult → Action β) → Prop}

abbrev Unread (action : Action α) : Prop := action.Reads fun _ => False

theorem Reads.bind {action : Action α} {next : α → Action β} (first : action.Reads P)
    (extended : ∀ answered, P answered → Q fun answer => answered answer >>= next)
    (later : ∀ value, (next value).Reads Q) : (action >>= next).Reads Q := by
  induction first with
  | done value => exact later value
  | unfinished => exact .unfinished
  | read here _ ih => exact .read (extended _ here) ih
  | other unread _ ih => exact .other unread ih

theorem Unread.bind {action : Action α} {next : α → Action β} (first : action.Unread)
    (later : ∀ value, (next value).Reads Q) : (action >>= next).Reads Q :=
  Reads.bind first (fun _ absurd_ => absurd_.elim) later

theorem Unread.reads {action : Action α} (unread : action.Unread) : action.Reads P := by
  have same : (action >>= .done).Reads P := unread.bind .done
  rwa [bind_done] at same

theorem Unread.step {effect : Effect} (unread : ∀ timeout, effect ≠ .read timeout) :
    Action.Unread (.step effect .done) :=
  .other unread .done

end Action

namespace Attempt

variable {ε ε' α β : Type} {P : (ReadResult → Action (Except ε α)) → Prop}
  {Q : (ReadResult → Action (Except ε β)) → Prop} {attempt : Attempt ε α} {next : α → Attempt ε β}

theorem reads_bind (first : attempt.run.Reads P)
    (extended : ∀ answered, P answered → Q fun answer => answered answer >>= ExceptT.bindCont next)
    (later : ∀ value, (next value).run.Reads Q) : (attempt >>= next).run.Reads Q := by
  refine Action.Reads.bind first extended fun outcome => ?_
  cases outcome with
  | error reason => exact .done _
  | ok value => exact later value

theorem unread_bind (first : attempt.run.Unread) (later : ∀ value, (next value).run.Reads Q) :
    (attempt >>= next).run.Reads Q :=
  reads_bind first (fun _ absurd_ => absurd_.elim) later

theorem read_bind {timeout : Duration} {next : ReadResult → Attempt ε β}
    (here : Q fun answer => (next answer).run) (later : ∀ answer, (next answer).run.Reads Q) :
    ((liftM (Action.read timeout) : Attempt ε ReadResult) >>= next).run.Reads Q :=
  .read here later

theorem of_read_bind {wrap : LinkError → ε} {timeout : Duration} {next : Bytes → Attempt ε β}
    (here : Q fun answer => ExceptT.bindCont next (answer.mapError wrap))
    (later : ∀ bytes, (next bytes).run.Reads Q) :
    (Attempt.of wrap (Action.read timeout) >>= next).run.Reads Q := by
  refine .read here fun answer => ?_
  cases answer with
  | error reason => exact .done _
  | ok bytes => exact later bytes

theorem unread_stop (token : CancelToken) (reason : ε) :
    (stopIfCancelled token reason).run.Unread :=
  .other nofun fun _ => .done _

theorem unread_log (entry : Log.Entry) : (liftM (Action.log entry) : Attempt ε Unit).run.Unread :=
  .other nofun fun _ => .done _

theorem unread_wait (span : Duration) : (liftM (Action.wait span) : Attempt ε Unit).run.Unread := by
  unfold Action.wait
  split
  · exact .done _
  · exact .other nofun fun _ => .done _

theorem unread_send (wrap : LinkError → ε) (packet : Bytes) :
    (Attempt.of wrap (Action.send packet)).run.Unread :=
  .other nofun fun _ => .done _

end Attempt

namespace Malformed

variable {α β : Type}

/-- They fail the action, as what is wrong with them says. -/
def Rejects (fail : FramingError → α) (next : ReadResult → Action α) : Prop :=
  ∀ bytes reason, Packet.ofBytes bytes = .error reason →
    next (.ok bytes) = Action.log (.badPacket reason) >>= fun _ => .done (fail reason)

/-- Whatever bytes there are, two of them go into the log, and that is all. -/
def Discards (next : ReadResult → Action α) : Prop :=
  ∃ rest, ∀ bytes, next (.ok bytes) = Action.log (.acknowledged (bytes.take 2)) >>= fun _ => rest

/-- It does not matter what the bytes are. -/
def Ignores (next : ReadResult → Action α) : Prop :=
  ∃ rest, ∀ bytes, next (.ok bytes) = rest

/-- They are dropped, and the wait for an echo goes on. -/
def Drains (next : ReadResult → Action α) : Prop :=
  ∃ timing token reference controller rounds finish,
    (∀ bytes, Packet.isEcho reference bytes = true →
      next (.ok bytes) = Action.log (.echoReceived controller) >>= fun _ => finish (.ok ())) ∧
    ∀ bytes reason, Packet.ofBytes bytes = .error reason →
      next (.ok bytes) =
        Action.log (.echoMismatch controller (bytes.take reference.framed.length)) >>= fun _ =>
          (Handshake.awaitEcho timing token reference controller rounds).run >>= finish

section Extending

variable {answered : ReadResult → Action α} {next : α → Action β}

theorem Rejects.bind {fail : FramingError → α} {failing : FramingError → β}
    (rejects : Rejects fail answered) (settled : ∀ reason, next (fail reason) = .done (failing reason)) :
    Rejects failing fun answer => answered answer >>= next := by
  intro bytes reason malformed
  refine (congrArg (· >>= next) (rejects bytes reason malformed)).trans ?_
  simp only [bind_assoc, Action.done_bind, settled]

theorem Discards.bind (discards : Discards answered) : Discards fun answer => answered answer >>= next := by
  obtain ⟨rest, discarded⟩ := discards
  refine ⟨rest >>= next, fun bytes => (congrArg (· >>= next) (discarded bytes)).trans ?_⟩
  simp only [bind_assoc]

theorem Ignores.bind (ignores : Ignores answered) : Ignores fun answer => answered answer >>= next := by
  obtain ⟨rest, ignored⟩ := ignores
  exact ⟨rest >>= next, fun bytes => congrArg (· >>= next) (ignored bytes)⟩

theorem Drains.bind (drains : Drains answered) : Drains fun answer => answered answer >>= next := by
  obtain ⟨timing, token, reference, controller, rounds, finish, echoed, drained⟩ := drains
  refine ⟨timing, token, reference, controller, rounds, fun outcome => finish outcome >>= next, ?_, ?_⟩
  · intro bytes echo
    refine (congrArg (· >>= next) (echoed bytes echo)).trans ?_
    simp only [bind_assoc]
  · intro bytes reason malformed
    refine (congrArg (· >>= next) (drained bytes reason malformed)).trans ?_
    simp only [bind_assoc]

end Extending

theorem not_isEcho {bytes : Bytes} {reason : FramingError}
    (malformed : Packet.ofBytes bytes = .error reason) (reference : Packet) :
    ¬ reference.isEcho bytes = true := by
  intro echo
  obtain ⟨tail, rfl⟩ := List.isPrefixOf_iff_prefix.mp echo
  rw [reference.ofBytes_framed_append] at malformed
  cases malformed

section Operations

variable {config : SessionConfig} {token : CancelToken}

theorem absorb_unread (state : Reassembler) (received : Bytes) :
    (Receive.absorb state received).run.Unread := by
  unfold Receive.absorb
  split
  · exact Attempt.unread_bind (Attempt.unread_log _) fun _ => .done _
  · refine Attempt.unread_bind (Attempt.unread_log _) fun _ => ?_
    split
    · exact Attempt.unread_bind (Attempt.unread_log _) fun _ => .done _
    · exact .done _
    · exact Attempt.unread_bind (Attempt.unread_log _) fun _ => .done _

theorem afterFailedRead_unread (policy : TimeoutPolicy) (state : Reassembler) (reason : LinkError) :
    (Receive.afterFailedRead policy state reason).run.Unread := by
  unfold Receive.afterFailedRead
  split
  · split
    · exact Attempt.unread_bind (Attempt.unread_log _) fun _ => .done _
    · exact .done _
  · exact .done _

theorem deliver_unread (sink : DebugSink) (text : String) :
    (liftM (Receive.deliver sink text) : Attempt ExchangeError Unit).run.Unread := by
  cases sink <;> exact .other nofun fun _ => .done _

theorem packets_reject (policy : TimeoutPolicy) (rounds : Nat) (state : Reassembler) :
    (Receive.packets config token policy rounds state).run.Reads
      (Rejects fun reason => .error (.framing reason)) := by
  induction rounds generalizing state with
  | zero => exact .unfinished
  | succ rounds ih =>
      refine Attempt.unread_bind (Attempt.unread_stop _ _) fun _ => Attempt.read_bind ?_ ?_
      · intro bytes reason malformed
        have absorbed : Receive.absorb state bytes =
            (do Action.log (.badPacket reason); throw (.framing reason)) := by
          rw [Receive.absorb, malformed]
        dsimp only
        rw [absorbed]
        rfl
      · intro answer
        cases answer with
        | error reason => exact (afterFailedRead_unread policy state reason).reads
        | ok received =>
            refine Attempt.unread_bind (absorb_unread state received) fun complete => ?_
            obtain ⟨complete, next⟩ := complete
            cases complete with
            | none => exact ih next
            | some message =>
                dsimp only
                split
                · exact .done _
                · exact Attempt.unread_bind (deliver_unread _ _) fun _ => ih next

theorem awaitEcho_drains (timing : HandshakeTiming) (reference : Packet) (controller : Log.Controller)
    (rounds : Nat) :
    (Handshake.awaitEcho timing token reference controller rounds).run.Reads Drains := by
  induction rounds with
  | zero => exact .unfinished
  | succ rounds ih =>
      refine Attempt.unread_bind (Attempt.unread_stop _ _) fun _ => Attempt.of_read_bind ?_ ?_
      · refine ⟨timing, token, reference, controller, rounds, .done, ?_, ?_⟩
        · intro bytes echo
          exact if_pos echo
        · intro bytes reason malformed
          rw [Action.bind_done]
          exact if_neg (not_isEcho malformed reference)
      · intro bytes
        split
        · exact (Attempt.unread_log _).reads
        · exact Attempt.unread_bind (Attempt.unread_log _) fun _ => ih

theorem ignoring_read (timeout : Duration) {next : Bytes → Attempt ExchangeError α}
    (same : ∀ bytes others, next bytes = next others) (later : ∀ bytes, (next bytes).run.Reads Ignores) :
    (Attempt.of .link (Action.read timeout) >>= next).run.Reads Ignores := by
  refine Attempt.of_read_bind ⟨(next []).run, fun bytes => ?_⟩ later
  exact congrArg ExceptT.run (same bytes [])

theorem sendPackets_unread (packets : List Packet) :
    (Exchange.sendPackets config token packets).run.Unread := by
  induction packets with
  | nil => exact .done _
  | cons packet rest ih =>
      refine Attempt.unread_bind (Attempt.unread_stop _ _) fun _ => ?_
      refine Attempt.unread_bind (Attempt.unread_send _ _) fun _ => ?_
      refine Attempt.unread_bind (Attempt.unread_log _) fun _ => ?_
      exact Attempt.unread_bind (Attempt.unread_wait _) fun _ => ih

theorem transmit_unread (stream : PacketStream) :
    (Exchange.transmit config token stream).run.Unread :=
  Attempt.unread_bind (Attempt.unread_log _) fun _ => sendPackets_unread stream.packets

theorem pause_unread (total : Duration) : (Exchange.pause token total).run.Unread := by
  have until_ (deadline : Duration) (rounds : Nat) :
      (Exchange.pauseUntil token deadline rounds).run.Unread := by
    induction rounds with
    | zero => exact .unfinished
    | succ rounds ih =>
        refine Attempt.unread_bind (Attempt.unread_stop _ _) fun _ => ?_
        refine Attempt.unread_bind (.other nofun fun _ => .done _) fun moment => ?_
        split
        · exact Attempt.unread_bind (.other nofun fun _ => .done _) fun _ => ih
        · exact .done _
  exact Attempt.unread_bind (.other nofun fun _ => .done _) fun moment => until_ _ _

theorem roundTrip_ignores (stream : PacketStream) :
    (Exchange.roundTrip config token stream).run.Reads Ignores := by
  refine Attempt.unread_bind (transmit_unread stream) fun _ => ?_
  split
  · refine ignoring_read _ (fun _ _ => rfl) fun _ => ?_
    exact ignoring_read _ (fun _ _ => rfl) fun _ => .done _
  · exact ignoring_read _ (fun _ _ => rfl) fun _ => .done _

theorem awaitAcknowledgment_discards :
    (Exchange.awaitAcknowledgment config).run.Reads Discards := by
  unfold Exchange.awaitAcknowledgment
  split
  · refine Attempt.of_read_bind ⟨.done (.ok ()), fun bytes => ?_⟩ fun _ => (Attempt.unread_log _).reads
    rfl
  · exact .done _

def DiscardsOrRejects (fail : FramingError → α) (next : ReadResult → Action α) : Prop :=
  Discards next ∨ Rejects fail next

theorem converse_reads (stream : PacketStream) (command : Command) (retryOnSignal : Bool) (rounds : Nat)
    (retries : UInt32) :
    (Exchange.converse config token stream command retryOnSignal rounds retries).run.Reads
      (DiscardsOrRejects fun reason => .error (.framing reason)) := by
  induction rounds generalizing retries with
  | zero => exact .unfinished
  | succ rounds ih =>
      refine Attempt.unread_bind (transmit_unread stream) fun _ => ?_
      refine Attempt.reads_bind awaitAcknowledgment_discards (fun _ discards => .inl discards.bind)
        fun _ => ?_
      refine Attempt.reads_bind (packets_reject .fatal (rounds + 1) .new)
        (fun _ rejects => .inr (rejects.bind fun _ => rfl)) fun outcome => ?_
      cases outcome with
      | none => exact .done _
      | some reply =>
          dsimp only
          split
          · split
            · exact Attempt.unread_bind (Attempt.unread_log _) fun _ => .done _
            · refine Attempt.unread_bind (Attempt.unread_log _) fun _ => ?_
              exact Attempt.unread_bind (pause_unread _) fun _ => ih _
          · exact .done _

theorem sendResetMarker_unread (timing : HandshakeTiming) (left attempt : Nat) :
    (Handshake.sendResetMarker timing token left attempt).run.Unread := by
  induction left generalizing attempt with
  | zero => exact .done _
  | succ left ih =>
      refine Attempt.unread_bind (Attempt.unread_stop _ _) fun _ => ?_
      refine Attempt.unread_bind (.other nofun fun _ => .done _) fun answer => ?_
      cases answer with
      | ok _ => exact .done _
      | error reason =>
          refine Attempt.unread_bind (Attempt.unread_log _) fun _ => ?_
          split
          · exact Attempt.unread_bind (Attempt.unread_wait _) fun _ => ih _
          · exact ih _

theorem handshake_drains (timing : HandshakeTiming) (probe : Message) (rounds : Nat) :
    (Handshake.run timing token probe rounds).run.Reads Drains := by
  refine Attempt.unread_bind (Attempt.unread_log _) fun _ => ?_
  refine Attempt.unread_bind (.done _) fun (reference, next) => ?_
  refine Attempt.unread_bind (Attempt.unread_log _) fun _ => ?_
  refine Attempt.unread_bind (sendResetMarker_unread timing _ _) fun _ => ?_
  refine Attempt.unread_bind (Attempt.unread_send _ _) fun _ => ?_
  refine Attempt.unread_bind (Attempt.unread_log _) fun _ => ?_
  have echoes : (Handshake.awaitEchoes timing token reference rounds).run.Reads Drains := by
    refine Attempt.unread_bind (Attempt.unread_log _) fun _ => ?_
    refine Attempt.reads_bind (awaitEcho_drains timing _ _ rounds) (fun _ drains => drains.bind)
      fun _ => ?_
    exact Attempt.unread_bind (Attempt.unread_log _) fun _ => awaitEcho_drains timing _ _ rounds
  have awaited : (Handshake.awaitEchoes timing token reference rounds).outcome.run.Reads
      (@Drains (Except HandshakeError (Except HandshakeError Unit))) :=
    Action.Reads.bind echoes (fun _ drains => drains.bind) fun _ => .done _
  refine Attempt.reads_bind awaited (fun _ drains => drains.bind) fun outcome => ?_
  cases outcome with
  | ok _ =>
      refine Attempt.unread_bind (Attempt.unread_wait _) fun _ => ?_
      exact Attempt.unread_bind (Attempt.unread_log _) fun _ => .done _
  | error reason =>
      refine Attempt.unread_bind (Attempt.unread_log _) fun _ => ?_
      refine Attempt.unread_bind (.other nofun fun _ => .done _) fun cleaned => ?_
      cases cleaned with
      | ok _ => exact .done _
      | error secondary => exact Attempt.unread_bind (Attempt.unread_log _) fun _ => .done _

end Operations

end Malformed

end PacketLink
