import PacketLink.Proofs.Session.Listening
import PacketLink.Proofs.Session.Transmissions
import PacketLink.Proofs.Session.Variants

namespace PacketLink

/-! The two timeout policies, run side by side.

A receive takes the same steps under both of them until a read times out. There the fatal policy fails
and the soft one yields nothing; what the soft policy does beside that is one entry in the log. -/

namespace Receive

variable {σ α : Type} {link : Link σ} {config : SessionConfig} {token : CancelToken}

/-- What the soft policy yields where the fatal one yields this. -/
def soften : Except ExchangeError (Option ReceiveOutcome) →
    Except ExchangeError (Option ReceiveOutcome)
  | .error (.link .timeout) => .ok none
  | outcome => outcome

theorem soften_timely {reason : ExchangeError} (timely : reason ≠ .link .timeout) :
    soften (.error reason) = .error reason := by
  simp [soften, timely]

/-- A run under the fatal policy and the run under the soft one. -/
inductive Softened : (fatal soft : Option (Except ExchangeError (Option ReceiveOutcome)) × World σ) →
    Prop
  | same {outcome : Option (Except ExchangeError (Option ReceiveOutcome))} {after : World σ}
      (timely : outcome ≠ some (.error (.link .timeout))) (settled : outcome ≠ some (.ok none)) :
      Softened (outcome, after) (outcome, after)
  | idle {after : World σ} :
      Softened (some (.error (.link .timeout)), after) (some (.ok none), after)
  | discarded {after : World σ} :
      Softened (some (.error (.link .timeout)), after)
        (some (.ok none), after.record (.note (.log .partialDiscarded)))

namespace Softened

/-- Steps that both receives take ahead of what is softened. -/
theorem bind {first : Attempt ExchangeError α}
    {fatal soft : α → Attempt ExchangeError (Option ReceiveOutcome)}
    (timely : first.Listens link (· ≠ .link .timeout))
    (rest : ∀ value after, Softened ((fatal value).on link after) ((soft value).on link after))
    (before : World σ) : Softened ((first >>= fatal).on link before) ((first >>= soft).on link before) := by
  obtain ⟨_, _, _, fails⟩ := timely before
  rw [Attempt.on_bind, Attempt.on_bind]
  cases ran : first.on link before with
  | mk outcome after =>
      rw [ran] at fails
      match outcome with
      | none => exact .same nofun nofun
      | some (.ok value) => exact rest value after
      | some (.error reason) =>
          have untimed : reason ≠ .link .timeout := fails reason rfl
          exact .same (by simpa using untimed) nofun

theorem afterFailedRead (state : Reassembler) (reason : LinkError) (before : World σ) :
    Softened ((afterFailedRead .fatal state reason).on link before)
      ((afterFailedRead .soft state reason).on link before) := by
  cases reason with
  | timeout =>
      cases idle : state.isIdle with
      | true =>
          simp only [Receive.afterFailedRead, idle]
          exact .idle
      | false =>
          simp only [Receive.afterFailedRead, idle]
          exact .discarded
  | _ => exact .same nofun nofun

/-- What follows a complete message is a reply, or lines of text and the rest of the receive. -/
theorem proceed {rounds : Nat} {next : Reassembler}
    (later : ∀ after, Softened ((packets config token .fatal rounds next).on link after)
      ((packets config token .soft rounds next).on link after))
    (message : Message) (before : World σ) :
    Softened ((proceed config token .fatal rounds message next).on link before)
      ((proceed config token .soft rounds message next).on link before) := by
  unfold Receive.proceed
  cases classify config.reserved message with
  | some outcome => exact .same nofun nofun
  | none =>
      apply bind
      · rw [deliver_eq]
        exact .note _
      · exact fun _ => later

theorem packets (rounds : Nat) (state : Reassembler) (before : World σ) :
    Softened ((packets config token .fatal rounds state).on link before)
      ((packets config token .soft rounds state).on link before) := by
  induction rounds generalizing state before with
  | zero => exact .same nofun nofun
  | succ rounds ih =>
      rw [packets_succ, packets_succ]
      apply bind
      · exact .stop nofun
      intro _
      apply bind (.readOutcome _)
      intro answer after
      cases answer with
      | error reason => exact afterFailedRead state reason after
      | ok received =>
          apply bind (absorb_listens (fun _ => nofun) state received)
          rintro ⟨complete, next⟩
          cases complete with
          | none => exact ih next
          | some message => exact proceed (ih next) message

theorem run (link : Link σ) (config : SessionConfig) (token : CancelToken) (rounds : Nat)
    (before : World σ) :
    Softened ((run config token .fatal rounds).on link before)
      ((run config token .soft rounds).on link before) :=
  packets rounds .new before

variable {fatal soft : Option (Except ExchangeError (Option ReceiveOutcome)) × World σ}

theorem outcome_eq (softened : Softened fatal soft) : soft.1 = fatal.1.map soften := by
  cases softened with
  | @same outcome after timely settled =>
      match outcome with
      | none | some (.ok _) => rfl
      | some (.error reason) =>
          have untimed : reason ≠ .link .timeout := by simpa using timely
          rw [Option.map_some, soften_timely untimed]
  | idle | discarded => rfl

theorem settled (softened : Softened fatal soft) : fatal.1 ≠ some (.ok none) := by
  cases softened with
  | same timely settled => exact settled
  | idle | discarded => exact nofun

/-- The soft policy adds at most an entry to the log that is no device text. -/
theorem exists_trace (softened : Softened fatal soft) : ∃ notes : List Note,
    soft.2.trace = fatal.2.trace ++ (notes.map Event.note).toArray ∧
      ∀ sink : DebugSink, notes.filterMap sink.line? = [] := by
  cases softened with
  | same | idle => exact ⟨[], by simp, fun _ => rfl⟩
  | discarded =>
      refine ⟨[.log .partialDiscarded], by simp, fun sink => ?_⟩
      cases sink <;> rfl

theorem calls_eq (softened : Softened fatal soft) :
    Trace.calls soft.2.trace = Trace.calls fatal.2.trace := by
  obtain ⟨notes, trace, -⟩ := softened.exists_trace
  rw [trace, Trace.calls_append, Trace.calls_notes, List.append_nil]

theorem lines_eq (softened : Softened fatal soft) (sink : DebugSink) :
    Trace.lines sink soft.2.trace = Trace.lines sink fatal.2.trace := by
  obtain ⟨notes, trace, silent⟩ := softened.exists_trace
  rw [trace, Trace.lines_append, Trace.lines_notes, silent, List.append_nil]

theorem device_eq (softened : Softened fatal soft) : soft.2.device = fatal.2.device := by
  cases softened <;> rfl

end Softened

theorem soften_eq_error_iff (outcome : Option (Except ExchangeError (Option ReceiveOutcome)))
    (reason : ExchangeError) : outcome.map soften = some (.error reason) ↔
      outcome = some (.error reason) ∧ reason ≠ .link .timeout := by
  match outcome with
  | none | some (.ok _) => simp [soften]
  | some (.error other) =>
      by_cases timely : other = .link .timeout
      · subst timely
        constructor
        · nofun
        · rintro ⟨same, untimed⟩
          exact absurd (by simpa using same.symm) untimed
      · rw [Option.map_some, soften_timely timely]
        constructor
        · intro same
          obtain rfl : other = reason := by simpa using same
          exact ⟨rfl, timely⟩
        · exact And.left

/-- The fatal policy always has an outcome. -/
theorem run_fatal_settled (rounds : Nat) (before : World σ) :
    ((run config token .fatal rounds).on link before).1 ≠ some (.ok none) :=
  (Softened.run link config token rounds before).settled

end Receive

/-! ### The reply that a request falls back to -/

theorem Attempt.on_bind_congr {σ ε α β : Type} {link : Link σ} {before : World σ}
    {first : Attempt ε α} {next other : α → Attempt ε β}
    (same : ∀ value after, first.on link before = (some (.ok value), after) →
      (next value).on link after = (other value).on link after) :
    (first >>= next).on link before = (first >>= other).on link before := by
  rw [on_bind, on_bind]
  split
  · rename_i value after ran
    exact same value after ran
  · rfl
  · rfl

namespace Exchange

variable {σ : Type} {link : Link σ} {exceeded : Nat → Bool} {config : SessionConfig}
  {token : CancelToken} {stream : PacketStream} {command : Command} {retryOnSignal : Bool}

theorem on_converseWith_fallback (fallback other : Attempt ExchangeError Message) (rounds busy : Nat)
    (before : World σ) :
    (converseWith fallback exceeded config token stream command retryOnSignal rounds busy).on link
        before =
      (converseWith other exceeded config token stream command retryOnSignal rounds busy).on link
        before := by
  induction rounds generalizing busy before with
  | zero => rfl
  | succ rounds ih =>
      rw [converseWith, converseWith]
      apply Attempt.on_bind_congr
      intro _ sent _
      apply Attempt.on_bind_congr
      intro _ listening _
      apply Attempt.on_bind_congr
      intro received after ran
      cases received with
      | none => exact absurd (congrArg Prod.fst ran) (Receive.run_fatal_settled _ _)
      | some reply =>
          dsimp only
          split
          · split
            · rfl
            · apply Attempt.on_bind_congr
              intro _ logged _
              apply Attempt.on_bind_congr
              intro _ paused _
              exact ih _ _
          · rfl

end Exchange

namespace Session

theorem run_requestWith_fallback {σ : Type} (link : Link σ)
    (fallback other : Attempt ExchangeError Message) (exceeded : Nat → Bool) (session : Session)
    (message : Message) (retryOnSignal : Bool) (rounds : Nat) (before : World σ) :
    (session.requestWith fallback exceeded message retryOnSignal rounds).run link before =
      (session.requestWith other exceeded message retryOnSignal rounds).run link before := by
  unfold requestWith
  rcases session.prepare message with ⟨prepared, following⟩
  cases prepared with
  | error reason => rfl
  | ok stream =>
      have same : Action.run link (Exchange.converseWith fallback exceeded session.config session.token
            stream message.command retryOnSignal rounds 0).run before =
          Action.run link (Exchange.converseWith other exceeded session.config session.token stream
            message.command retryOnSignal rounds 0).run before :=
        Exchange.on_converseWith_fallback fallback other rounds 0 before
      dsimp only
      rw [Action.run_bind, Action.run_bind, same]

end Session

/-- Under both policies a receive takes the same steps from any moment on, and only a timeout differs. -/
theorem timeout_policies_agree {σ : Type} (link : Link σ) (config : SessionConfig)
    (token : CancelToken) (rounds : Nat) (before : World σ) :
    ∃ outcome fatalAfter softAfter,
      (Receive.run config token .fatal rounds).on link before = (outcome, fatalAfter) ∧
      (Receive.run config token .soft rounds).on link before =
        (outcome.map Receive.soften, softAfter) ∧
      Trace.calls softAfter.trace = Trace.calls fatalAfter.trace ∧
      (∀ sink, Trace.lines sink softAfter.trace = Trace.lines sink fatalAfter.trace) ∧
      softAfter.device = fatalAfter.device ∧
      outcome ≠ some (.ok none) ∧
      (∀ reason, outcome.map Receive.soften = some (.error reason) ↔
        outcome = some (.error reason) ∧ reason ≠ .link .timeout) ∧
      ∀ (fallback : Attempt ExchangeError Message) (session : Session) (message : Message)
        (retryOnSignal : Bool),
        (session.requestWith fallback session.config.busyRetry.exceededWrapping message retryOnSignal
            rounds).run link before =
          (session.request message retryOnSignal rounds).run link before := by
  have softened := Receive.Softened.run link config token rounds before
  refine ⟨_, _, _, rfl, Prod.ext softened.outcome_eq rfl, softened.calls_eq, softened.lines_eq,
    softened.device_eq, softened.settled, Receive.soften_eq_error_iff _, ?_⟩
  intro fallback session message retryOnSignal
  rw [session.request_eq_with]
  exact session.run_requestWith_fallback link fallback _ _ message retryOnSignal rounds before

end PacketLink
