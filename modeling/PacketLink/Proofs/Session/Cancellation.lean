import PacketLink.Proofs.Link.Lateness
import PacketLink.Proofs.Session.Calls

namespace PacketLink

/-! What a session asks of the link once its token is raised.

The host looks at the token before every send, and before every read of a message, but not before it
reads an acknowledgment or a packet of a round trip. So a request can be late once: with the
acknowledgment of a stream whose last packet raised the token. -/

namespace TimedCall

/-- The packet, accepted in time. -/
def sent (packet : Packet) : TimedCall := ⟨.send packet.bytes (.ok ()), false⟩

theorem sent_early (packet : Packet) : (sent packet).Early := ⟨rfl, rfl⟩

theorem forall_sent_early (packets : List Packet) :
    ∀ call ∈ packets.map sent, call.Early := by
  intro call member
  obtain ⟨packet, -, rfl⟩ := List.mem_map.mp member
  exact sent_early packet

/-- The calls end with a read in time, and it delivered a packet. -/
def EndInDelivery (timeout : Duration) (calls : List TimedCall) : Prop :=
  ∃ earlier packet, calls = earlier ++ [⟨.read timeout (.ok packet), false⟩]

theorem EndInDelivery.preceded {timeout : Duration} {calls : List TimedCall}
    (ends : EndInDelivery timeout calls) (front : List TimedCall) :
    EndInDelivery timeout (front ++ calls) := by
  obtain ⟨earlier, packet, rfl⟩ := ends
  exact ⟨front ++ earlier, packet, (List.append_assoc _ _ _).symm⟩

end TimedCall

open TimedCall Attempt

variable {σ : Type} {link : Link σ} {config : SessionConfig} {token : CancelToken}

namespace Receive

theorem absorb_quiet (state : Reassembler) (received : Bytes) :
    (absorb state received).Quiet link token := by
  intro late
  unfold absorb
  split
  · refine .note_bind ?_
    exact .throw rfl
  · refine .note_bind ?_
    split
    · refine .note_bind ?_
      exact .throw rfl
    · exact .pure rfl
    · refine .note_bind ?_
      exact .pure rfl

theorem afterFailedRead_proceeds (policy : TimeoutPolicy) (state : Reassembler)
    (reason : LinkError) (late : Bool) :
    (afterFailedRead policy state reason).Proceeds link token late fun outcome calls =>
      calls = [] ∧ ∀ reply, outcome ≠ some (.ok (some reply)) := by
  unfold afterFailedRead
  split
  · dsimp only
    split
    · refine .note_bind ?_
      exact .pure ⟨rfl, by simp⟩
    · exact .pure ⟨rfl, by simp⟩
  · exact .throw ⟨rfl, by simp⟩

/-- The calls of a receive. One that starts late makes none, and does not end well. -/
structure Receives (timeout : Duration) (late : Bool)
    (outcome : Option (Except ExchangeError (Option ReceiveOutcome))) (calls : List TimedCall) :
    Prop where
  early : ∀ call ∈ calls, call.Early
  delivered : ∀ reply, outcome = some (.ok (some reply)) → EndInDelivery timeout calls
  idle : late = true → calls = [] ∧ ∀ value, outcome ≠ some (.ok value)

theorem Receives.preceded {timeout : Duration} {later : Bool}
    {outcome : Option (Except ExchangeError (Option ReceiveOutcome))} {calls : List TimedCall}
    (receives : Receives timeout later outcome calls) (packet : Bytes) :
    Receives timeout false outcome (⟨.read timeout (.ok packet), false⟩ :: calls) where
  early := forall_early_cons ⟨rfl, rfl⟩ receives.early
  delivered reply ended := (receives.delivered reply ended).preceded [_]
  idle := by simp

theorem packets_proceeds (policy : TimeoutPolicy) (rounds : Nat) (state : Reassembler)
    (late : Bool) :
    (packets config token policy rounds state).Proceeds link token late
      (Receives config.readTimeout late) := by
  induction rounds generalizing state late with
  | zero => exact .unfinished ⟨by simp, by simp, by simp⟩
  | succ rounds ih =>
      refine .stop_bind (fun raised => ⟨by simp, by simp, by simp⟩) fun active => ?_
      subst active
      refine .readOutcome_bind fun answer later _ => ?_
      have first : TimedCall.Early ⟨.read config.readTimeout answer, false⟩ := ⟨rfl, rfl⟩
      have alone : ∀ call ∈ [(⟨.read config.readTimeout answer, false⟩ : TimedCall)], call.Early :=
        forall_early_cons first (by simp)
      cases answer with
      | error reason =>
          refine (afterFailedRead_proceeds policy state reason later).mono ?_
          rintro outcome calls ⟨rfl, unanswered⟩
          exact ⟨alone, fun reply ended => absurd ended (unanswered reply), by simp⟩
      | ok received =>
          refine (absorb_quiet state received).bind ?_ ?_ ?_
          · exact ⟨alone, by simp, by simp⟩
          · exact fun reason => ⟨alone, by simp, by simp⟩
          rintro ⟨message, next⟩ between
          cases message with
          | none =>
              exact (ih next between).mono fun outcome calls receives => receives.preceded received
          | some message =>
              dsimp only
              split
              · exact .pure ⟨alone, fun _ _ => ⟨[], received, rfl⟩, by simp⟩
              · have goesOn := (ih next between).mono fun outcome calls receives =>
                  receives.preceded received
                unfold deliver
                split
                · exact .note_bind goesOn
                · exact .note_bind goesOn

theorem run_proceeds (policy : TimeoutPolicy) (rounds : Nat) (late : Bool) :
    (run config token policy rounds).Proceeds link token late
      (Receives config.readTimeout late) :=
  packets_proceeds policy rounds _ late

end Receive

namespace Exchange

/-- The calls of a transmission; one that ends well sent all packets. -/
structure Transmits (packets : List Packet) (outcome : Option (Except ExchangeError Unit))
    (calls : List TimedCall) : Prop where
  early : ∀ call ∈ calls, call.Early
  whole : outcome = some (.ok ()) → calls = packets.map sent

theorem sendPackets_proceeds (packets : List Packet) (late : Bool) :
    (sendPackets config token packets).Proceeds link token late (Transmits packets) := by
  induction packets generalizing late with
  | nil => exact .pure ⟨by simp, fun _ => rfl⟩
  | cons packet rest ih =>
      refine .stop_bind (fun _ => ⟨by simp, by simp⟩) fun _ => ?_
      refine .send_bind (fun reason => ⟨?_, by simp⟩) fun later _ => ?_
      · exact forall_early_cons ⟨rfl, rfl⟩ (by simp)
      · refine .note_bind (.wait_bind ((ih later).mono fun outcome calls transmits => ⟨?_, ?_⟩))
        · exact forall_early_cons (sent_early packet) transmits.early
        · intro ended
          rw [transmits.whole ended]
          rfl

theorem transmit_proceeds (stream : PacketStream) (late : Bool) :
    (transmit config token stream).Proceeds link token late (Transmits stream.packets) :=
  .note_bind (sendPackets_proceeds stream.packets late)

/-- The calls for an acknowledgment: its read is the one that may be late. -/
def Acknowledges (config : SessionConfig) (late : Bool) (calls : List TimedCall) : Prop :=
  (∀ call ∈ calls, call.Early) ∨
    late = true ∧ config.ackEnabled = true ∧
      ∃ result, calls = [⟨.read config.readTimeout result, true⟩]

theorem Acknowledges.early_of_ok {late between : Bool} {acknowledged heard : List TimedCall}
    {reply : Option ReceiveOutcome} (acknowledges : Acknowledges config late acknowledged)
    (kept : late = true → between = true)
    (receives : Receive.Receives config.readTimeout between (some (.ok reply)) heard) :
    ∀ call ∈ acknowledged, call.Early := by
  rcases acknowledges with early | ⟨raised, -⟩
  · exact early
  · exact absurd rfl ((receives.idle (kept raised)).2 reply)

theorem awaitAcknowledgment_proceeds (late : Bool) :
    (awaitAcknowledgment config).Proceeds link token late fun _ calls =>
      Acknowledges config late calls := by
  unfold awaitAcknowledgment
  split
  · rename_i enabled
    have acknowledges (result : Except LinkError Bytes) :
        Acknowledges config late [⟨.read config.readTimeout result, late⟩] := by
      cases late with
      | false => exact .inl (forall_early_cons ⟨rfl, rfl⟩ (by simp))
      | true => exact .inr ⟨rfl, enabled, result, rfl⟩
    refine .read_bind (fun reason => acknowledges _) fun received later _ => ?_
    exact .note_bind (.pure (acknowledges _))
  · exact .pure (.inl (by simp))

theorem pauseUntil_quiet (deadline : Duration) (rounds : Nat) :
    (pauseUntil token deadline rounds).Quiet link token := by
  intro late
  induction rounds generalizing late with
  | zero => exact .unfinished rfl
  | succ rounds ih =>
      refine .stop_bind (fun _ => rfl) fun _ => .now_bind fun moment => ?_
      split
      · exact .sleep_bind (ih false)
      · exact .pure rfl

theorem pause_quiet (total : Duration) : (pause token total).Quiet link token := fun late =>
  .now_bind fun moment => pauseUntil_quiet (moment + total) (pauseRounds total) late

variable {stream : PacketStream} {command : Command} {retryOnSignal : Bool}

/-- The calls of a request: all of them early, or all but the read of the acknowledgment of a stream
that was sent whole. -/
inductive Conversed (config : SessionConfig) (stream : PacketStream)
    (outcome : Option (Except ExchangeError Message)) : List TimedCall → Prop
  | early {calls : List TimedCall} (early : ∀ call ∈ calls, call.Early)
      (answered : ∀ reply, outcome = some (.ok reply) → EndInDelivery config.readTimeout calls) :
      Conversed config stream outcome calls
  | acknowledgment (front : List TimedCall) {result : Except LinkError Bytes}
      (enabled : config.ackEnabled = true) (early : ∀ call ∈ front, call.Early)
      (failed : ∀ reply, outcome ≠ some (.ok reply)) :
      Conversed config stream outcome
        (front ++ (stream.packets.map sent ++ [⟨.read config.readTimeout result, true⟩]))

namespace Conversed

variable {outcome : Option (Except ExchangeError Message)} {front calls : List TimedCall}

theorem failed (early : ∀ call ∈ calls, call.Early)
    (unanswered : ∀ reply, outcome ≠ some (.ok reply)) :
    Conversed config stream outcome calls :=
  .early early fun reply ended => absurd ended (unanswered reply)

theorem of_acknowledges {late : Bool} (acknowledges : Acknowledges config late calls)
    (unanswered : ∀ reply, outcome ≠ some (.ok reply)) :
    Conversed config stream outcome (stream.packets.map sent ++ calls) := by
  rcases acknowledges with early | ⟨-, enabled, result, rfl⟩
  · exact .failed (forall_early_append (forall_sent_early _) early) unanswered
  · exact .acknowledgment [] enabled (by simp) unanswered

theorem preceded (early : ∀ call ∈ front, call.Early)
    (conversed : Conversed config stream outcome calls) :
    Conversed config stream outcome (front ++ calls) := by
  cases conversed with
  | early later answered =>
      exact .early (forall_early_append early later) fun reply ended =>
        (answered reply ended).preceded front
  | acknowledgment others enabled later failed =>
      rw [← List.append_assoc]
      exact .acknowledgment _ enabled (forall_early_append early later) failed

theorem of_receives {acknowledged heard : List TimedCall} {later between : Bool}
    {received : Option (Except ExchangeError (Option ReceiveOutcome))}
    (acknowledges : Acknowledges config later acknowledged) (kept : later = true → between = true)
    (receives : Receive.Receives config.readTimeout between received heard)
    (unanswered : ∀ reply, outcome ≠ some (.ok reply)) :
    Conversed config stream outcome (stream.packets.map sent ++ (acknowledged ++ heard)) := by
  rcases acknowledges with early | late
  · exact .failed (forall_early_append (forall_sent_early _)
      (forall_early_append early receives.early)) unanswered
  · rw [(receives.idle (kept late.1)).1, List.append_nil]
    exact .of_acknowledges (.inr late) unanswered

theorem exchanges (conversed : Conversed config stream outcome calls) :
    ∀ call ∈ calls, call.event.exchanges = true := by
  intro call member
  cases conversed with
  | early early answered => exact (early call member).exchanges
  | acknowledgment front enabled early failed =>
      rw [← List.append_assoc] at member
      rcases List.mem_append.mp member with here | last
      · exact (forall_early_append early (forall_sent_early _) call here).exchanges
      · rw [List.mem_singleton.mp last]
        rfl

theorem delivered {reply : Message} (conversed : Conversed config stream (some (.ok reply)) calls) :
    EndInDelivery config.readTimeout calls := by
  cases conversed with
  | early early answered => exact answered reply rfl
  | acknowledgment front enabled early failed => exact absurd rfl (failed reply)

/-- A late call is the last one, and reads the acknowledgment. -/
theorem of_late {earlier later : List TimedCall} {call : TimedCall}
    (conversed : Conversed config stream outcome calls) (split : calls = earlier ++ call :: later)
    (late : call.late = true) :
    later = [] ∧ config.ackEnabled = true ∧
      (∃ result, call.event = .read config.readTimeout result) ∧
      ∃ front, (∀ other ∈ front, other.Early) ∧ earlier = front ++ stream.packets.map sent := by
  cases conversed with
  | early early answered =>
      have member : call ∈ calls := by simp [split]
      have unraised := (early call member).unraised
      simp [unraised] at late
  | @acknowledgment front result enabled early failed =>
      rw [← List.append_assoc] at split
      rcases List.eq_nil_or_concat later with rfl | ⟨others, last, rfl⟩
      · obtain ⟨sameEarlier, sameCall⟩ := List.append_inj' split rfl
        obtain rfl := List.head_eq_of_cons_eq sameCall
        exact ⟨rfl, enabled, ⟨result, rfl⟩, front, early, sameEarlier.symm⟩
      · rw [List.concat_eq_append, ← List.cons_append, ← List.append_assoc] at split
        have member : call ∈ front ++ stream.packets.map sent := by
          rw [(List.append_inj' split rfl).1]
          simp
        have unraised := (forall_early_append early (forall_sent_early _) call member).unraised
        simp [unraised] at late

end Conversed

theorem react_proceeds {rounds : Nat} {retries : UInt32} {reply : ReceiveOutcome}
    {answered : List TimedCall} (early : ∀ call ∈ answered, call.Early)
    (delivered : EndInDelivery config.readTimeout answered) (late : Bool)
    (again : ∀ later,
      (converse config token stream command retryOnSignal rounds (retries + 1)).Proceeds link token
        later (Conversed config stream)) :
    (react config token stream command retryOnSignal rounds retries reply).Proceeds link token late
      fun outcome more => Conversed config stream outcome (answered ++ more) := by
  have broken {outcome : Option (Except ExchangeError Message)}
      (unanswered : ∀ reply, outcome ≠ some (.ok reply)) :
      Conversed config stream outcome (answered ++ []) :=
    .failed ((List.append_nil answered).symm ▸ early) unanswered
  unfold react
  split
  · split
    · refine .note_bind ?_
      exact .throw (broken (by simp))
    · refine .note_bind ((pause_quiet config.busyBackoff).bind ?_ ?_ ?_)
      · exact broken (by simp)
      · exact fun reason => broken (by simp)
      · intro _ later
        exact (again later).mono fun outcome calls conversed => conversed.preceded early
  · refine .pure (.early ((List.append_nil answered).symm ▸ early) fun _ _ => ?_)
    exact (List.append_nil answered).symm ▸ delivered

theorem converse_proceeds (rounds : Nat) (retries : UInt32) (late : Bool) :
    (converse config token stream command retryOnSignal rounds retries).Proceeds link token late
      (Conversed config stream) := by
  induction rounds generalizing retries late with
  | zero => exact .unfinished (.failed (by simp) (by simp))
  | succ rounds ih =>
      rw [converse_succ]
      refine .bind (transmit_proceeds stream late) ?_ ?_ ?_
      · exact fun calls transmits => .failed transmits.early (by simp)
      · exact fun reason calls transmits => .failed transmits.early (by simp)
      rintro _ transmitted later transmits -
      obtain rfl := transmits.whole rfl
      refine .bind (awaitAcknowledgment_proceeds later) ?_ ?_ ?_
      · exact fun calls acknowledges => .of_acknowledges acknowledges (by simp)
      · exact fun reason calls acknowledges => .of_acknowledges acknowledges (by simp)
      intro _ calls between acknowledges kept
      refine .bind (Receive.run_proceeds .fatal (rounds + 1) between) ?_ ?_ ?_
      · exact fun heard receives => .of_receives acknowledges kept receives (by simp)
      · exact fun reason heard receives => .of_receives acknowledges kept receives (by simp)
      intro received heard last receives _
      cases received with
      | none =>
          refine .throw ?_
          rw [List.append_nil]
          exact .of_receives acknowledges kept receives (by simp)
      | some reply =>
          have early := acknowledges.early_of_ok kept receives
          have all := forall_early_append transmits.early (forall_early_append early receives.early)
          have delivered := ((receives.delivered reply rfl).preceded calls).preceded
            (stream.packets.map sent)
          refine (react_proceeds all delivered last (ih (retries + 1))).mono ?_
          intro outcome more conversed
          rwa [List.append_assoc, List.append_assoc] at conversed

/-- The calls of a round trip: only its reads may be late. -/
theorem roundTrip_proceeds (stream : PacketStream) (late : Bool) :
    (roundTrip config token stream).Proceeds link token late fun _ calls =>
      ∀ call ∈ calls, call.Early ∨ ∃ result, call.event = .read config.readTimeout result := by
  unfold roundTrip
  have timely {outcome : Option (Except ExchangeError Unit)} {calls : List TimedCall}
      (transmits : Transmits stream.packets outcome calls) : ∀ call ∈ calls,
        call.Early ∨ ∃ result, call.event = .read config.readTimeout result :=
    fun call member => .inl (transmits.early call member)
  refine .bind (transmit_proceeds stream late) ?_ ?_ ?_
  · exact fun calls transmits => timely transmits
  · exact fun reason calls transmits => timely transmits
  intro _ calls later transmits _
  have reads (reads : List TimedCall)
      (only : ∀ call ∈ reads, ∃ result, call.event = .read config.readTimeout result) :
      ∀ call ∈ calls ++ reads,
        call.Early ∨ ∃ result, call.event = .read config.readTimeout result := by
    intro call member
    rcases List.mem_append.mp member with here | there
    · exact timely transmits call here
    · exact .inr (only call there)
  split
  · refine .read_bind (fun reason => reads _ (by simp)) fun acknowledgment between _ => ?_
    refine .read_bind (fun reason => reads _ (by simp)) fun reply last _ => ?_
    exact .pure (reads _ (by simp))
  · refine .read_bind (fun reason => reads _ (by simp)) fun reply last _ => ?_
    exact .pure (reads _ (by simp))

end Exchange

namespace Session

variable (link : Link σ) (session : Session) (before : World σ)

theorem calls_beside {ε α : Type} (attempt : Attempt ε α) (following : Session) :
    Action.calls link session.token (attempt.run >>= fun outcome => .done (outcome, following))
      before = attempt.calls link session.token before := by
  rw [Action.calls_bind]
  split <;> exact List.append_nil _

theorem request_conversed (message : Message) (retryOnSignal : Bool) (rounds : Nat) :
    ((session.request message retryOnSignal rounds).calls link session.token before = [] ∧
        ∃ reason, session.request message retryOnSignal rounds =
          .done (.error reason, session)) ∨
      ∃ stream outcome, session.prepare message = (.ok stream, session.advanced) ∧
        ((session.request message retryOnSignal rounds).run link before).1 =
          outcome.map (·, session.advanced) ∧
        Exchange.Conversed session.config stream outcome
          ((session.request message retryOnSignal rounds).calls link session.token before) := by
  rcases session.prepare_cases message with ⟨reason, refused, -⟩ | ⟨stream, prepared, -⟩
  · have ended : session.request message retryOnSignal rounds = .done (.error reason, session) := by
      rw [request, refused]
      rfl
    exact .inl ⟨by rw [ended]; rfl, reason, ended⟩
  · refine .inr ⟨stream, _, prepared,
      congrArg Prod.fst (request_run link before retryOnSignal rounds prepared), ?_⟩
    rw [request, prepared]
    refine (calls_beside link session before _ _).symm ▸ ?_
    exact Exchange.converse_proceeds rounds 0 _ before rfl

theorem sendOnly_early (message : Message) :
    ∀ call ∈ (session.sendOnly message).calls link session.token before, call.Early := by
  rcases session.prepare_cases message with ⟨reason, refused, -⟩ | ⟨stream, prepared, -⟩
  · have silent : (session.sendOnly message).calls link session.token before = [] := by
      rw [sendOnly, refused]
      rfl
    simp [silent]
  · rw [sendOnly, prepared]
    exact (calls_beside link session before _ _).symm ▸
      (Exchange.transmit_proceeds stream _ before rfl).early

theorem pingPong_timely (stream : PacketStream) :
    ∀ call ∈ (session.pingPong stream).calls link session.token before,
      call.Early ∨ ∃ result, call.event = .read session.config.readTimeout result := by
  cases connected : session.connected with
  | false =>
      have silent : (session.pingPong stream).calls link session.token before = [] := by
        rw [pingPong, connected]
        rfl
      simp [silent]
  | true =>
      rw [pingPong, if_pos connected]
      exact (calls_beside link session before _ _).symm ▸
        Exchange.roundTrip_proceeds stream _ before rfl

theorem receive_early (policy : TimeoutPolicy) (rounds : Nat) :
    ∀ call ∈ (session.receive policy rounds).calls link session.token before, call.Early := by
  cases connected : session.connected with
  | false =>
      have silent : (session.receive policy rounds).calls link session.token before = [] := by
        rw [receive, connected]
        rfl
      simp [silent]
  | true =>
      rw [receive, if_pos connected]
      exact (calls_beside link session before _ _).symm ▸
        (Receive.run_proceeds policy rounds _ before rfl).early

/-- Whatever the link does, and whichever of its calls raises the token: once it is raised, a request,
a message without a reply and a round trip send nothing more, and a receive reads nothing more. A
request may still read one packet, the acknowledgment of a stream that was sent whole before; and it
returns a reply only if its last read began in time. -/
theorem calls_once_cancelled :
    (∀ message retryOnSignal rounds,
      (∀ earlier call later,
        (session.request message retryOnSignal rounds).calls link session.token before =
            earlier ++ call :: later → call.late = true →
          later = [] ∧ session.config.ackEnabled = true ∧
            (∃ result, call.event = .read session.config.readTimeout result) ∧
            ∃ stream front, session.prepare message = (.ok stream, session.advanced) ∧
              (∀ other ∈ front, other.Early) ∧ earlier = front ++ stream.packets.map sent) ∧
      ∀ reply following,
        ((session.request message retryOnSignal rounds).run link before).1 =
            some (.ok reply, following) →
          EndInDelivery session.config.readTimeout
            ((session.request message retryOnSignal rounds).calls link session.token before)) ∧
    (∀ message, ∀ call ∈ (session.sendOnly message).calls link session.token before,
      call.late = false) ∧
    (∀ stream, ∀ call ∈ (session.pingPong stream).calls link session.token before,
      call.late = true → ∃ result, call.event = .read session.config.readTimeout result) ∧
    ∀ policy rounds, ∀ call ∈ (session.receive policy rounds).calls link session.token before,
      call.late = false := by
  refine ⟨fun message retryOnSignal rounds => ?_, ?_, ?_, ?_⟩
  · rcases session.request_conversed link before message retryOnSignal rounds with
      ⟨silent, reason, refused⟩ | ⟨stream, outcome, prepared, ended, conversed⟩
    · refine ⟨fun earlier call later split => ?_, fun reply following ended => ?_⟩
      · simp [silent] at split
      · simp [refused] at ended
    · refine ⟨fun earlier call later split late => ?_, fun reply following returned => ?_⟩
      · obtain ⟨last, enabled, read, front, early, parts⟩ := conversed.of_late split late
        exact ⟨last, enabled, read, stream, front, prepared, early, parts⟩
      · rw [ended] at returned
        obtain ⟨value, same, pair⟩ := Option.map_eq_some_iff.mp returned
        obtain rfl := (Prod.mk.inj pair).1
        subst same
        exact conversed.delivered
  · exact fun message call member => (session.sendOnly_early link before message call member).unraised
  · intro stream call member late
    rcases session.pingPong_timely link before stream call member with early | read
    · simp [early.unraised] at late
    · exact read
  · exact fun policy rounds call member =>
      (session.receive_early link before policy rounds call member).unraised

end Session

end PacketLink
