import PacketLink.Proofs.Checked.Attempts
import PacketLink.Proofs.Session.Calls

namespace PacketLink

/-! Requests on a clock with a last moment.

The clock counts seconds in 63 bits, and to add a wait to a moment is a checked operation. A deadline that
the clock cannot show stops the program; where each one can be shown, a request is what it was. -/

namespace Clocked

/-- Moments of the clock are below it, in nanoseconds. -/
def clockBound : Nat := 2 ^ 63 * 1000000000

def pause (token : CancelToken) (total : Duration) : Guarded ExchangeError Unit := do
  let now ← Guarded.of Action.now
  let deadline ← Guarded.check (Checked.add clockBound now.nanos total.nanos)
  Guarded.of (Exchange.pauseUntil token ⟨deadline⟩ (Exchange.pauseRounds total))

def converse (config : SessionConfig) (token : CancelToken) (stream : PacketStream)
    (command : Command) (retryOnSignal : Bool) :
    (rounds : Nat) → (retries : UInt32) → Guarded ExchangeError Message
  | 0, _ => Guarded.of Attempt.unfinished
  | rounds + 1, retries => do
      Guarded.of (Exchange.transmit config token stream)
      Guarded.of (Exchange.awaitAcknowledgment config)
      match ← Guarded.of (Receive.run config token .fatal (rounds + 1)) with
      | none => throw (.link .timeout)
      | some reply =>
          if Exchange.isTransientBusy reply command retryOnSignal config.reserved then
            let retries := retries + 1
            if config.busyRetry.exceeded retries then
              Guarded.of (Action.log (.stillBusy command))
              throw (.retryLimitExceeded (retries - 1))
            else
              Guarded.of (Action.log (.busy command retries))
              pause token config.busyBackoff
              converse config token stream command retryOnSignal rounds retries
          else return Exchange.messageOf config.reserved reply

def request (session : Session) (message : Message) (retryOnSignal : Bool) (rounds : Nat) :
    ExceptT Fault Action (Except ExchangeError Message × Session) :=
  match session.prepare message with
  | (.error reason, following) => return (.error reason, following)
  | (.ok stream, following) => do
      let outcome ← (converse session.config session.token stream message.command retryOnSignal
        rounds 0).run
      return (outcome, following)

variable {σ ε α β : Type} {link : Link σ}

/-- On a link, while the clock stays below the limit, the guarded attempt is the other one. -/
def Follows (link : Link σ) (limit : Nat) (guarded : Guarded ε α) (attempt : Attempt ε α) : Prop :=
  ∀ before, (attempt.on link before).2.clock.nanos < limit →
    Attempt.on guarded.run link before =
      ((attempt.on link before).1.map .ok, (attempt.on link before).2)

theorem on_of (attempt : Attempt ε α) (before : World σ) :
    Attempt.on (Guarded.of attempt).run link before =
      ((attempt.on link before).1.map .ok, (attempt.on link before).2) :=
  Attempt.on_lift link before attempt.run

theorem clock_le (action : Action α) (before : World σ) :
    before.clock.nanos ≤ (action.run link before).2.clock.nanos := by
  obtain ⟨events, -, clock⟩ := action.exists_clock link before
  rw [clock]
  exact Nat.le_add_right _ _

namespace Follows

variable {limit : Nat}

theorem of (attempt : Attempt ε α) : Follows link limit (Guarded.of attempt) attempt :=
  fun before _ => on_of attempt before

theorem bind {guarded : Guarded ε α} {attempt : Attempt ε α} {guardedNext : α → Guarded ε β}
    {next : α → Attempt ε β} (first : Follows link limit guarded attempt)
    (rest : ∀ value, Follows link limit (guardedNext value) (next value)) :
    Follows link limit (guarded >>= guardedNext) (attempt >>= next) := by
  intro before within
  have sequence : Attempt.on (guarded >>= guardedNext).run link before =
      Attempt.on (guarded.run >>= ExceptT.bindCont guardedNext) link before := rfl
  rw [sequence, Attempt.on_bind, Attempt.on_bind]
  rw [Attempt.on_bind] at within
  have followed := first before
  cases ran : attempt.on link before with
  | mk outcome between =>
      rw [ran] at within followed
      match outcome with
      | none =>
          rw [followed within]
          rfl
      | some (.error reason) =>
          rw [followed within]
          rfl
      | some (.ok value) =>
          have reached : between.clock.nanos < limit :=
            Nat.lt_of_le_of_lt (clock_le (next value).run between) within
          rw [followed reached]
          exact rest value between within

end Follows

variable {token : CancelToken} {total : Duration}

/-- A pause whose deadline the clock can show is a pause; at any other the program stops. -/
theorem on_pause (before : World σ) :
    Attempt.on (pause token total).run link before =
      if before.clock.nanos + total.nanos < clockBound then
        (((Exchange.pause token total).on link before).1.map .ok,
          ((Exchange.pause token total).on link before).2)
      else
        (some (.error (.overflow (before.clock.nanos + total.nanos) clockBound)), before) := by
  have looked : Attempt.on (pause token total).run link before =
      Attempt.on (Guarded.check (Checked.add clockBound before.clock.nanos total.nanos) >>=
        fun deadline => Guarded.of
          (Exchange.pauseUntil token ⟨deadline⟩ (Exchange.pauseRounds total))).run link before := rfl
  rw [looked, Checked.add]
  split
  · exact on_of (Exchange.pause token total) before
  · rfl

theorem pause_follows :
    Follows link (clockBound - total.nanos) (pause token total) (Exchange.pause token total) := by
  intro before within
  have start : before.clock.nanos ≤ ((Exchange.pause token total).on link before).2.clock.nanos :=
    clock_le (Exchange.pause token total).run before
  rw [on_pause, if_pos]
  change ((Exchange.pause token total).on link before).2.clock.nanos < _ at within
  omega

theorem converse_follows (config : SessionConfig) (stream : PacketStream) (command : Command)
    (retryOnSignal : Bool) (rounds : Nat) (retries : UInt32) :
    Follows link (clockBound - config.busyBackoff.nanos)
      (converse config token stream command retryOnSignal rounds retries)
      (Exchange.converse config token stream command retryOnSignal rounds retries) := by
  induction rounds generalizing retries with
  | zero => exact .of _
  | succ rounds ih =>
      refine .bind (.of _) fun _ => .bind (.of _) fun _ => .bind (.of _) fun received => ?_
      cases received with
      | none => exact .of (throw (ExchangeError.link .timeout))
      | some reply =>
          dsimp only
          split
          · split
            · exact .bind (.of _) fun _ => .of (throw _)
            · exact .bind (.of _) fun _ => .bind pause_follows fun _ => ih _
          · exact .of (pure _)

/-- A request comes to no deadline beyond the clock if its end and one more backoff are within it. -/
theorem request_run {session following : Session} {message : Message} {retryOnSignal : Bool}
    {rounds : Nat} {before after : World σ} {ended : Except ExchangeError Message}
    (ran : (session.request message retryOnSignal rounds).run link before =
      (some (ended, following), after))
    (within : after.clock.nanos + session.config.busyBackoff.nanos < clockBound) :
    Attempt.on (request session message retryOnSignal rounds) link before =
      (some (.ok (ended, following)), after) := by
  cases prepared : session.prepare message with
  | mk result advanced =>
      rw [Session.request, prepared] at ran
      rw [request, prepared]
      cases result with
      | error reason =>
          cases ran
          rfl
      | ok stream =>
          change (_ >>= fun outcome => .done (outcome, advanced) : Action _).run link before = _ at ran
          rw [Session.run_beside] at ran
          obtain ⟨returned, rfl⟩ := Prod.mk.inj ran
          obtain ⟨outcome, finished, same⟩ := Option.map_eq_some_iff.mp returned
          cases same
          have follows := converse_follows session.config stream message.command retryOnSignal rounds 0
            before (Nat.lt_sub_of_add_lt within)
          rw [finished] at follows
          change Attempt.on (_ >>= fun outcome => pure (outcome, following) : Attempt Fault _) link before = _
          rw [Attempt.on_bind, follows]
          rfl

end Clocked

end PacketLink
