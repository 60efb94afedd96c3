import PacketLink.Proofs.Checked.Deadlines
import PacketLink.Proofs.Session.HandshakeFailures
import PacketLink.Proofs.Session.Rounds

namespace PacketLink

/-! When requests and handshakes sleep, and for how long.

A request sleeps after each packet and, in slices, before each retransmission; a handshake sleeps
between two markers and after the second echo. -/

namespace Exchange

/-- The sleeps of one transmission. -/
def settling (config : SessionConfig) (packets : Nat) : List Duration :=
  (List.replicate packets config.packetSettle.slept).flatten

/-- The sleeps of a request of so many packets, by its retransmissions. -/
def schedule (config : SessionConfig) (packets : Nat) : (retransmissions : Nat) → List Duration
  | 0 => settling config packets
  | more + 1 => settling config packets ++ (slices config.busyBackoff ++ schedule config packets more)

variable {config : SessionConfig} {token : CancelToken}

theorem settling_succ (config : SessionConfig) (packets : Nat) :
    settling config (packets + 1) = config.packetSettle.slept ++ settling config packets := by
  rw [settling, List.replicate_succ, List.flatten_cons]
  rfl

@[simp] theorem total_settling (config : SessionConfig) (packets : Nat) :
    Duration.total (settling config packets) = packets * config.packetSettle.nanos := by
  simp [settling]

theorem total_schedule (config : SessionConfig) (packets retransmissions : Nat) :
    Duration.total (schedule config packets retransmissions) =
      (retransmissions + 1) * packets * config.packetSettle.nanos +
        retransmissions * config.busyBackoff.nanos := by
  induction retransmissions with
  | zero => simp [schedule]
  | succ more ih =>
      rw [schedule, Duration.total_append, Duration.total_append, total_settling, total_slices, ih,
        Nat.succ_mul (more + 1) packets, Nat.add_mul ((more + 1) * packets),
        Nat.succ_mul more config.busyBackoff.nanos]
      omega

/-- The run did not come to an end of its own: there were too few rounds, it was cancelled, or it failed
where the link refused a packet. -/
inductive CutShort {α : Type} :
    Option (Except ExchangeError α) → List (Bytes × Except LinkError Unit) → Prop
  | unfinished {sent : List (Bytes × Except LinkError Unit)} : CutShort none sent
  | cancelled {sent : List (Bytes × Except LinkError Unit)} : CutShort (some (.error .cancelled)) sent
  | refused {sent : List (Bytes × Except LinkError Unit)} {reason : ExchangeError}
      {answer : Bytes × Except LinkError Unit} (member : answer ∈ sent)
      (unaccepted : answer.2 ≠ .ok ()) : CutShort (some (.error reason)) sent

namespace CutShort

variable {α β : Type} {outcome : Option (Except ExchangeError α)} {reason : ExchangeError}
  {sent : List (Bytes × Except LinkError Unit)}

theorem later (cut : CutShort outcome sent) (earlier : List (Bytes × Except LinkError Unit)) :
    CutShort outcome (earlier ++ sent) := by
  cases cut with
  | unfinished => exact .unfinished
  | cancelled => exact .cancelled
  | refused member unaccepted => exact .refused (List.mem_append_right _ member) unaccepted

theorem of_error (cut : CutShort (some (.error reason) : Option (Except ExchangeError α)) sent) :
    CutShort (some (.error reason) : Option (Except ExchangeError β)) sent := by
  cases cut with
  | cancelled => exact .cancelled
  | refused member unaccepted => exact .refused member unaccepted

end CutShort

/-- The run was cut short, or the stream went out once and once more for each retransmission. -/
def Scheduled {α : Type} (config : SessionConfig) (stream : PacketStream)
    (outcome : Option (Except ExchangeError α)) (sent : List (Bytes × Except LinkError Unit))
    (slept : List Duration) : Prop :=
  CutShort outcome sent ∨ ∃ retransmissions,
    sent.map Prod.fst = stream.repeated (retransmissions + 1) ∧
      slept = schedule config stream.length retransmissions

namespace Scheduled

variable {α : Type} {stream : PacketStream} {outcome : Option (Except ExchangeError α)}
  {sent more : List (Bytes × Except LinkError Unit)} {slept : List Duration}

theorem once (whole : sent.map Prod.fst = stream.packets.map Packet.bytes) :
    Scheduled config stream outcome sent (settling config stream.length) :=
  .inr ⟨0, whole.trans stream.repeated_one.symm, rfl⟩

theorem again (scheduled : Scheduled config stream outcome more slept)
    (whole : sent.map Prod.fst = stream.packets.map Packet.bytes) :
    Scheduled config stream outcome (sent ++ more)
      (settling config stream.length ++ (slices config.busyBackoff ++ slept)) := by
  rcases scheduled with cut | ⟨retransmissions, repeated, rfl⟩
  · exact .inl (cut.later sent)
  · right
    refine ⟨retransmissions + 1, ?_, rfl⟩
    rw [List.map_append, whole, repeated, ← stream.repeated_succ]

end Scheduled

section Steps

variable {σ : Type} {link : Link σ} {policy : TimeoutPolicy}

open Attempt

theorem sendPackets_paces (packets : List Packet) :
    (sendPackets config token packets).Paces link fun outcome sent slept =>
      CutShort outcome sent ∨
        sent.map Prod.fst = packets.map Packet.bytes ∧ slept = settling config packets.length := by
  induction packets with
  | nil => exact Paces.pure (.inr ⟨rfl, rfl⟩)
  | cons packet rest ih =>
      apply Paces.stop_bind (.inl .cancelled)
      apply Paces.send_bind
      · intro reason
        exact .inl (.refused (List.mem_singleton_self _) nofun)
      · apply Paces.note_bind
        apply Paces.wait_bind
        apply ih.mono
        intro outcome sent slept paced
        rcases paced with cut | ⟨whole, rfl⟩
        · exact .inl (cut.later [(packet.bytes, .ok ())])
        · exact .inr ⟨congrArg (packet.bytes :: ·) whole, (settling_succ config rest.length).symm⟩

theorem transmit_paces (stream : PacketStream) :
    (transmit config token stream).Paces link fun outcome sent slept =>
      CutShort outcome sent ∨
        sent.map Prod.fst = stream.packets.map Packet.bytes ∧
          slept = settling config stream.length :=
  Paces.note_bind (sendPackets_paces stream.packets)

theorem sleepAll_paces (spans : List Duration) :
    (sleepAll spans).Paces link fun outcome sent slept =>
      sent = [] ∧ outcome = some (.ok ()) ∧ slept = spans := by
  induction spans with
  | nil => exact Paces.pure ⟨rfl, rfl, rfl⟩
  | cons span spans ih =>
      apply Paces.sleep_bind
      apply ih.mono
      intro outcome sent slept paced
      obtain ⟨silent, ended, rfl⟩ := paced
      exact ⟨silent, ended, rfl⟩

theorem pause_paces (total : Duration) :
    (pause token total).Paces link fun outcome sent slept =>
      sent = [] ∧ (CutShort outcome sent ∨ outcome = some (.ok ()) ∧ slept = slices total) := by
  have stopped : (stopIfCancelled token .cancelled >>= fun _ => sleepAll (slices total)).Paces link
      fun outcome sent slept =>
        sent = [] ∧ (CutShort outcome sent ∨ outcome = some (.ok ()) ∧ slept = slices total) := by
    apply Paces.stop_bind ⟨rfl, .inl .cancelled⟩
    exact (sleepAll_paces (slices total)).mono fun _ _ _ paced => ⟨paced.1, .inr paced.2⟩
  intro before
  rw [pause_on]
  exact stopped before

theorem awaitAcknowledgment_rests : (awaitAcknowledgment config).Rests link := by
  unfold awaitAcknowledgment
  split
  · exact Rests.bind (Rests.read _ _) fun _ => Rests.note _
  · exact Rests.pure ()

theorem absorb_rests (state : Reassembler) (received : Bytes) :
    (Receive.absorb state received).Rests link := by
  unfold Receive.absorb
  split
  · exact Rests.bind (Rests.note _) fun _ => Rests.throw _
  · apply Rests.bind (Rests.note _)
    intro _
    split
    · exact Rests.bind (Rests.note _) fun _ => Rests.throw _
    · exact Rests.pure _
    · exact Rests.bind (Rests.note _) fun _ => Rests.pure _

theorem afterFailedRead_rests (state : Reassembler) (reason : LinkError) :
    (Receive.afterFailedRead policy state reason).Rests link := by
  unfold Receive.afterFailedRead
  split
  · dsimp only
    split
    · exact Rests.bind (Rests.note _) fun _ => Rests.pure _
    · exact Rests.pure _
  · exact Rests.throw _

theorem packets_rests (rounds : Nat) (state : Reassembler) :
    (Receive.packets config token policy rounds state).Rests link := by
  induction rounds generalizing state with
  | zero => exact Rests.unfinished
  | succ rounds ih =>
      rw [Receive.packets_succ]
      apply Rests.bind (Rests.stop _ _)
      intro _
      apply Rests.bind (Rests.readOutcome _)
      intro answer
      cases answer with
      | error reason => exact afterFailedRead_rests state reason
      | ok received =>
          apply Rests.bind (absorb_rests state received)
          intro absorbed
          obtain ⟨complete, next⟩ := absorbed
          cases complete with
          | none => exact ih next
          | some message =>
              change (Receive.proceed config token policy rounds message next).Rests link
              unfold Receive.proceed
              split
              · exact Rests.pure _
              · rw [Receive.deliver_eq]
                exact Rests.bind (Rests.note _) fun _ => ih next

theorem retry_paces {α : Type} {stream : PacketStream} {sent : List (Bytes × Except LinkError Unit)}
    {next : Attempt ExchangeError α} (whole : sent.map Prod.fst = stream.packets.map Packet.bytes)
    (again : next.Paces link (Scheduled config stream)) :
    (pause token config.busyBackoff >>= fun _ => next).Paces link fun outcome more slept =>
      Scheduled config stream outcome (sent ++ more) (settling config stream.length ++ slept) := by
  apply Paces.bind (pause_paces config.busyBackoff)
  · intro more slept _
    exact .inl .unfinished
  · intro reason more slept paced
    obtain ⟨rfl, cut | ⟨failed, -⟩⟩ := paced
    · exact .inl (cut.of_error.later sent)
    · cases failed
  · intro _ more slept paced
    obtain ⟨rfl, cut | ⟨-, rfl⟩⟩ := paced
    · cases cut
    · exact again.mono fun _ _ _ scheduled => scheduled.again whole

/-- Each transmission is slept after packet by packet, and each but the last is followed by a wait. -/
theorem converse_paces (stream : PacketStream) (command : Command) (retryOnSignal : Bool)
    (rounds : Nat) (retries : UInt32) :
    (converse config token stream command retryOnSignal rounds retries).Paces link
      (Scheduled config stream) := by
  induction rounds generalizing retries with
  | zero => exact Paces.unfinished (.inl .unfinished)
  | succ rounds ih =>
      rw [converse_succ_conclude]
      apply Paces.bind (transmit_paces stream)
      · intro sent slept _
        exact .inl .unfinished
      · intro reason sent slept paced
        rcases paced with cut | ⟨whole, rfl⟩
        · exact .inl cut.of_error
        · exact .once whole
      · intro _ sent slept paced
        rcases paced with cut | ⟨whole, rfl⟩
        · cases cut
        · have once {outcome : Option (Except ExchangeError Message)} : Scheduled config stream outcome
              (sent ++ []) (settling config stream.length ++ []) := by
            rw [List.append_nil, List.append_nil]
            exact .once whole
          apply awaitAcknowledgment_rests.bind_paces (.inl .unfinished) fun _ => once
          intro _
          apply (packets_rests (rounds + 1) Reassembler.new).bind_paces (.inl .unfinished) fun _ => once
          intro received
          cases received with
          | none => exact Paces.throw once
          | some reply =>
              simp only [conclude, react]
              split
              · split
                · exact Paces.note_bind (Paces.throw once)
                · exact Paces.note_bind (retry_paces whole (ih (retries + 1)))
              · exact Paces.pure once

end Steps

end Exchange

namespace Handshake

open Attempt

variable {σ α : Type} {link : Link σ} {timing : HandshakeTiming} {token : CancelToken}
  {reference : Packet} {controller : Log.Controller} {rounds : Nat}

/-- The sleeps between so many markers. -/
def spacing (timing : HandshakeTiming) (markers : Nat) : List Duration :=
  (List.replicate (markers - 1) timing.resetBackoff.slept).flatten

theorem spacing_succ (timing : HandshakeTiming) (markers : Nat) :
    spacing timing (markers + 2) = timing.resetBackoff.slept ++ spacing timing (markers + 1) := by
  simp only [spacing, Nat.add_one_sub_one]
  rw [List.replicate_succ, List.flatten_cons]

@[simp] theorem total_spacing (timing : HandshakeTiming) (markers : Nat) :
    Duration.total (spacing timing markers) = (markers - 1) * timing.resetBackoff.nanos := by
  simp [spacing]

def markers (sent : List (Bytes × Except LinkError Unit)) : Nat :=
  (sent.map Prod.fst).count resetMarker

/-- How a handshake sleeps that is not cancelled. -/
structure Paced (timing : HandshakeTiming) (outcome : Option (Except HandshakeError α))
    (sent : List (Bytes × Except LinkError Unit)) (slept : List Duration) : Prop where
  failed : ∀ reason, outcome = some (.error reason) → reason ≠ .cancelled →
    slept = spacing timing (markers sent)
  opened : ∀ value, outcome = some (.ok value) →
    slept = spacing timing (markers sent) ++ timing.postConnectSettle.slept

theorem Paced.cancelled {sent : List (Bytes × Except LinkError Unit)} {slept : List Duration} :
    Paced timing (some (.error .cancelled) : Option (Except HandshakeError α)) sent slept :=
  ⟨fun _ same other => absurd (by cases same; rfl) other, nofun⟩

theorem Paced.of_error {reason : HandshakeError} {sent : List (Bytes × Except LinkError Unit)}
    {slept : List Duration} (paced : slept = spacing timing (markers sent)) :
    Paced timing (some (.error reason) : Option (Except HandshakeError α)) sent slept :=
  ⟨fun _ _ _ => paced, nofun⟩

theorem sendResetMarker_paces (left attempt : Nat) :
    (sendResetMarker timing token left attempt).Paces link fun outcome sent slept =>
      outcome = some (.error .cancelled) ∨ ∃ tried, sent.map Prod.fst = List.replicate tried resetMarker ∧
        slept = spacing timing tried ∧ (0 < left → 0 < tried) := by
  induction left generalizing attempt with
  | zero => exact Paces.throw (.inr ⟨0, rfl, rfl, nofun⟩)
  | succ left ih =>
      apply Paces.stop_bind (.inl rfl)
      apply Paces.sendOutcome_bind
      intro result
      cases result with
      | ok _ => exact Paces.pure (.inr ⟨1, rfl, rfl, fun _ => Nat.one_pos⟩)
      | error reason =>
          apply Paces.note_bind
          cases left with
          | zero => exact Paces.throw (.inr ⟨1, rfl, rfl, fun _ => Nat.one_pos⟩)
          | succ left =>
              rw [if_pos (Nat.succ_ne_zero left)]
              apply Paces.wait_bind
              apply (ih (attempt + 1)).mono
              intro outcome sent slept paced
              rcases paced with cancelled | ⟨tried, marked, rfl, again⟩
              · exact .inl cancelled
              · obtain ⟨fewer, rfl⟩ := Nat.exists_eq_add_of_le' (again (Nat.succ_pos left))
                right
                refine ⟨fewer + 2, ?_, (spacing_succ timing fewer).symm, fun _ => Nat.succ_pos _⟩
                exact congrArg (resetMarker :: ·) marked

theorem awaitEcho_rests (rounds : Nat) :
    (awaitEcho timing token reference controller rounds).Rests link := by
  induction rounds with
  | zero => exact Rests.unfinished
  | succ rounds ih =>
      apply Rests.bind (Rests.stop _ _)
      intro _
      apply Rests.bind (Rests.read _ _)
      intro received
      split
      · exact Rests.note _
      · exact Rests.bind (Rests.note _) fun _ => ih

theorem awaitEchoes_rests : (awaitEchoes timing token reference rounds).Rests link := by
  apply Rests.bind (Rests.note _)
  intro _
  apply Rests.bind (awaitEcho_rests rounds)
  intro _
  exact Rests.bind (Rests.note _) fun _ => awaitEcho_rests rounds

theorem cleanUp_paces (reason : HandshakeError) :
    (cleanUp reason).Paces link fun outcome sent slept =>
      outcome = some (.error reason) ∧ sent = [] ∧ slept = [] := by
  apply Paces.note_bind
  apply Paces.call_bind (fun before => ⟨_, Action.run_reset link before⟩) (fun _ => rfl)
  intro result
  cases result with
  | ok _ => exact Paces.throw ⟨rfl, rfl, rfl⟩
  | error secondary => exact Paces.note_bind (Paces.throw ⟨rfl, rfl, rfl⟩)

/-- From the probe on a handshake sleeps only where it succeeds. -/
theorem conclude_paces (next : FlipBit) :
    (conclude timing token reference next rounds).Paces link fun outcome sent slept =>
      sent = [] ∧ (∀ reason, outcome = some (.error reason) → slept = []) ∧
        ∀ value, outcome = some (.ok value) → slept = timing.postConnectSettle.slept := by
  apply Paces.bind (Paces.outcome awaitEchoes_rests)
  · intro sent slept looked
    obtain ⟨_, -, rfl, rfl⟩ := looked
    exact ⟨rfl, nofun, nofun⟩
  · intro reason sent slept looked
    obtain ⟨ended, looked, rfl, rfl⟩ := looked
    exact ⟨rfl, fun _ _ => rfl, nofun⟩
  · intro result sent slept looked
    obtain ⟨_, -, rfl, rfl⟩ := looked
    cases result with
    | ok _ =>
        apply Paces.wait_bind
        apply Paces.note_bind
        exact Paces.pure ⟨rfl, nofun, fun _ _ => List.append_nil _⟩
    | error reason =>
        apply (cleanUp_paces reason).mono
        intro outcome more slept cleaned
        obtain ⟨rfl, rfl, rfl⟩ := cleaned
        exact ⟨rfl, fun _ _ => rfl, nofun⟩

theorem run_paces (probe : Message) :
    (run timing token probe rounds).Paces link (Paced timing) := by
  apply Paces.note_bind
  cases fits : probePacket probe .clear with
  | error reason => exact Paces.throw (.of_error rfl)
  | ok prepared =>
      obtain ⟨reference, next⟩ := prepared
      rw [ofExcept_bind]
      apply Paces.note_bind
      apply Paces.bind (sendResetMarker_paces timing.resetAttempts 1)
      · intro sent slept _
        exact ⟨nofun, nofun⟩
      · intro reason sent slept paced
        rcases paced with cancelled | ⟨tried, marked, rfl, -⟩
        · cases cancelled
          exact .cancelled
        · apply Paced.of_error
          rw [markers, marked, List.count_replicate_self]
      · intro _ sent slept paced
        rcases paced with cancelled | ⟨tried, marked, rfl, -⟩
        · cases cancelled
        · have counted (answer : Except LinkError Unit) :
              markers (sent ++ [(reference.bytes, answer)]) = tried := by
            simp [markers, marked, Session.resetMarker_ne reference]
          apply Paces.send_bind
          · intro reason
            apply Paced.of_error
            rw [counted, List.append_nil]
          · apply Paces.note_bind
            apply (conclude_paces next).mono
            intro outcome more slept later
            obtain ⟨rfl, failed, opened⟩ := later
            constructor
            · intro reason ended _
              rw [failed reason ended, List.append_nil, counted]
            · intro value ended
              rw [opened value ended, counted]

end Handshake

namespace Session

section Delays

variable {σ : Type} {link : Link σ} {before after : World σ} {events : Array Event}

theorem request_paced {session following : Session} {message : Message} {retryOnSignal : Bool}
    {rounds : Nat} {stream : PacketStream} {ended : Except ExchangeError Message}
    (connected : session.connected = true)
    (encoded : message.encode session.nextFlip session.config.ackEnabled = .ok stream)
    (ran : (session.request message retryOnSignal rounds).run link before =
      (some (ended, following), after))
    (trace : after.trace = before.trace ++ events) (uncancelled : ended ≠ .error .cancelled)
    (accepted : ∀ sent ∈ Trace.sends events, sent.2 = .ok ()) :
    ∃ retransmissions, Trace.attempted events = stream.repeated (retransmissions + 1) ∧
      Trace.sleeps events = Exchange.schedule session.config stream.length retransmissions := by
  have prepared : session.prepare message = (.ok stream, session.advanced) := by
    rw [prepare, if_pos connected, encoded]
    rfl
  have conversed : (Exchange.converse session.config session.token stream message.command
      retryOnSignal rounds 0).Paces link _ := Exchange.converse_paces stream _ _ rounds 0
  obtain ⟨others, traceAgain, paced⟩ := conversed before
  rw [request, prepared] at ran
  change (_ >>= fun outcome => .done (outcome, session.advanced) : Action _).run link before = _ at ran
  rw [run_beside] at ran
  obtain ⟨returned, rfl⟩ := Prod.mk.inj ran
  obtain ⟨outcome, finished, same⟩ := Option.map_eq_some_iff.mp returned
  obtain rfl : outcome = ended := (Prod.mk.inj same).1
  obtain rfl : others = events := (Array.append_right_inj _).mp (traceAgain.symm.trans trace)
  rw [finished] at paced
  rw [Trace.attempted_eq]
  cases paced with
  | inr whole => exact whole
  | inl cut =>
      cases cut with
      | cancelled => exact absurd rfl uncancelled
      | refused member unaccepted => exact absurd (accepted _ member) unaccepted

theorem connect_paces (config : SessionConfig) (token : CancelToken) (probe : Message) (rounds : Nat) :
    (connect config token probe rounds).Paces link (Handshake.Paced config.handshake) := by
  apply Attempt.Paces.bind (Handshake.run_paces probe)
  · intro sent slept _
    exact ⟨nofun, nofun⟩
  · intro reason sent slept paced
    exact ⟨fun other same => paced.failed other (by cases same; rfl), nofun⟩
  · intro next sent slept paced
    apply Attempt.Paces.note_bind
    apply Attempt.Paces.pure
    rw [List.append_nil, List.append_nil]
    exact ⟨nofun, fun _ _ => paced.opened next rfl⟩

theorem connect_paced {config : SessionConfig} {token : CancelToken} {probe : Message} {rounds : Nat}
    {ended : Except HandshakeError Session}
    (ran : (connect config token probe rounds).on link before = (some ended, after))
    (trace : after.trace = before.trace ++ events) :
    Handshake.Paced config.handshake (some ended) (Trace.sends events) (Trace.sleeps events) := by
  have paces : (connect config token probe rounds).Paces link _ := connect_paces config token probe rounds
  obtain ⟨others, traceAgain, paced⟩ := paces before
  rw [ran] at traceAgain paced
  obtain rfl : others = events := (Array.append_right_inj _).mp (traceAgain.symm.trans trace)
  exact paced

/-- What a request or a handshake sleeps, if it is not cancelled, and so the time that it takes. A
request adds up the settle delays of all packets of all transmissions and a backoff before each
retransmission, which its loop over the clock sleeps in slices; a handshake, a backoff between two
markers and the settle delay after it succeeded. A deadline beyond the last moment of the clock stops the
program before the first slice, and no request is any different without one. -/
theorem delays_add_up (link : Link σ) (before : World σ) :
    (∀ (session : Session) (message : Message) (retryOnSignal : Bool) (rounds : Nat)
      (stream : PacketStream) (ended : Except ExchangeError Message) (following : Session)
      (after : World σ) (events : Array Event),
      session.connected = true →
      message.encode session.nextFlip session.config.ackEnabled = .ok stream →
      (session.request message retryOnSignal rounds).run link before =
        (some (ended, following), after) →
      after.trace = before.trace ++ events →
      ended ≠ .error .cancelled → (∀ sent ∈ Trace.sends events, sent.2 = .ok ()) →
      ∃ retransmissions, Trace.attempted events = stream.repeated (retransmissions + 1) ∧
        Trace.sleeps events =
          Exchange.schedule session.config stream.length retransmissions ∧
        (∀ slice ∈ Exchange.slices session.config.busyBackoff, slice ≤ Duration.ofMillis 50) ∧
        Duration.total (Trace.sleeps events) =
          (retransmissions + 1) * stream.length * session.config.packetSettle.nanos +
            retransmissions * session.config.busyBackoff.nanos ∧
        after.clock.nanos = before.clock.nanos + Duration.total (Trace.sleeps events) ∧
        (after.clock.nanos + session.config.busyBackoff.nanos < Clocked.clockBound →
          Attempt.on (Clocked.request session message retryOnSignal rounds) link before =
            (some (.ok (ended, following)), after))) ∧
    (∀ (token : CancelToken) (total : Duration),
      Attempt.on (Clocked.pause token total).run link before =
        if before.clock.nanos + total.nanos < Clocked.clockBound then
          (((Exchange.pause token total).on link before).1.map .ok,
            ((Exchange.pause token total).on link before).2)
        else (some (.error (.overflow (before.clock.nanos + total.nanos) Clocked.clockBound)),
          before)) ∧
    ∀ (config : SessionConfig) (token : CancelToken) (probe : Message) (rounds : Nat)
      (ended : Except HandshakeError Session) (after : World σ) (events : Array Event),
      (connect config token probe rounds).on link before = (some ended, after) →
      after.trace = before.trace ++ events → ended ≠ .error .cancelled →
      (∀ reason, ended = .error reason → Duration.total (Trace.sleeps events) =
        ((Trace.attempted events).count [0xFF, 0xFF] - 1) *
          config.handshake.resetBackoff.nanos) ∧
      (∀ opened, ended = .ok opened → Duration.total (Trace.sleeps events) =
        ((Trace.attempted events).count [0xFF, 0xFF] - 1) *
            config.handshake.resetBackoff.nanos + config.handshake.postConnectSettle.nanos) ∧
      after.clock.nanos = before.clock.nanos + Duration.total (Trace.sleeps events) := by
  refine ⟨?_, fun _ _ => Clocked.on_pause before, ?_⟩
  · intro session message retryOnSignal rounds stream ended following after events connected encoded
      ran trace uncancelled accepted
    obtain ⟨retransmissions, sent, slept⟩ :=
      request_paced connected encoded ran trace uncancelled accepted
    have total := Exchange.total_schedule session.config stream.length retransmissions
    rw [← slept] at total
    exact ⟨retransmissions, sent, slept, fun _ => Exchange.slice_le, total,
      Action.run_clock link ran trace, Clocked.request_run ran⟩
  · intro config token probe rounds ended after events ran trace uncancelled
    have paced := connect_paced ran trace
    rw [Trace.attempted_eq]
    constructor
    · intro reason failed
      have awake : reason ≠ .cancelled := by
        intro same
        exact uncancelled (failed.trans (congrArg _ same))
      rw [paced.failed reason (congrArg some failed) awake, Handshake.total_spacing]
      rfl
    constructor
    · intro opened succeeded
      rw [paced.opened opened (congrArg some succeeded), Duration.total_append,
        Handshake.total_spacing, Duration.total_slept]
      rfl
    · exact Action.run_clock link ran trace

end Delays

/-- A request that is answered after a busy reply, and a handshake on a link that is down. -/
theorem delays_add_up_around_failures :
    let config : SessionConfig := { busyBackoff := .ofMillis 120 }
    let answers : List Answer :=
      [⟨[], [], .encoded ⟨.deviceStatus, [1]⟩ .clear false (by decide)⟩,
        ⟨[], [], .encoded ⟨.ping, [7]⟩ .set false (by decide)⟩]
    (∃ after retransmissions,
      ((resume config ⟨0⟩ .set).request (.empty .ping) false 2).run Link.scripted
          { device := .playing (script config answers) } =
        (some (.ok ⟨.ping, [7]⟩, resume config ⟨0⟩ .clear), after) ∧
      (Trace.attempted after.trace).length = retransmissions + 1 ∧
      Duration.total (Trace.sleeps after.trace) =
        (retransmissions + 1) * 1 * 700000 + retransmissions * 120000000 ∧
      Attempt.on (Clocked.request (resume config ⟨0⟩ .set) (.empty .ping) false 2) Link.scripted
          { device := .playing (script config answers) } =
        (some (.ok (.ok ⟨.ping, [7]⟩, resume config ⟨0⟩ .clear)), after)) ∧
    ∃ after, (connect {} ⟨0⟩ ⟨0x0001, []⟩ 1).on Link.scripted { device := { failingSends := 10 } } =
        (some (.error (.linkDown 10)), after) ∧
      Duration.total (Trace.sleeps after.trace) =
        ((Trace.attempted after.trace).count [0xFF, 0xFF] - 1) * 1000000000 := by
  intro config answers
  let session := resume config ⟨0⟩ .set
  let busy : World Script := { device := .playing (script config answers) }
  let down : World Script := { device := { failingSends := 10 } }
  have returned : ((session.request (.empty .ping) false 2).run Link.scripted busy).1 =
      some (.ok ⟨.ping, [7]⟩, resume config ⟨0⟩ .clear) := by
    decide +kernel
  have accepted : ∀ sent ∈ Trace.sends
      ((session.request (.empty .ping) false 2).run Link.scripted busy).2.trace, sent.2 = .ok () := by
    decide +kernel
  have encoded : (Message.empty .ping).encode .set false =
      .ok ⟨.set, [Message.single (.empty .ping) .set false]⟩ := by
    decide
  have unopened : ((connect {} ⟨0⟩ ⟨0x0001, []⟩ 1).on Link.scripted down).1 =
      some (.error (.linkDown 10)) := by
    decide +kernel
  have replied := Action.run_of_outcome returned
  have failed : (connect {} ⟨0⟩ ⟨0x0001, []⟩ 1).on Link.scripted down = _ :=
    Action.run_of_outcome unopened
  have within : ((session.request (.empty .ping) false 2).run Link.scripted busy).2.clock.nanos +
      session.config.busyBackoff.nanos < Clocked.clockBound := by
    decide +kernel
  obtain ⟨retransmissions, sent, -, -, total, -, clocked⟩ := (delays_add_up Link.scripted busy).1
    session (.empty .ping) false 2 _ _ _ _ _ rfl encoded replied Array.empty_append.symm nofun accepted
  obtain ⟨slept, -, -⟩ := (delays_add_up Link.scripted down).2.2 {} ⟨0⟩ ⟨0x0001, []⟩ 1 _ _ _ failed
    Array.empty_append.symm nofun
  have count : (Trace.attempted ((session.request (.empty .ping) false 2).run
      Link.scripted busy).2.trace).length = retransmissions + 1 := by
    rw [sent]
    simp [PacketStream.repeated]
  exact ⟨⟨_, retransmissions, replied, count, total, clocked within⟩, _, failed, slept _ rfl⟩

end Session

end PacketLink
