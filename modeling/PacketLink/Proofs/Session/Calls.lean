import PacketLink.Session.Basic
import PacketLink.Proofs.Session.Transcripts

namespace PacketLink

/-! Runs of calls on one session, each on the session that the call before it left. -/

inductive Call where
  | request (message : Message) (retryOnSignal : Bool) (rounds : Nat)
  | sendOnly (message : Message)
  | prepare (message : Message)
  | pingPong (stream : PacketStream)
  | receive (policy : TimeoutPolicy) (rounds : Nat)
  | disconnect

namespace Call

abbrev Value : Call → Type
  | .request .. => Message
  | .sendOnly _ | .disconnect => Unit
  | .prepare _ => PacketStream
  | .pingPong _ => Nat
  | .receive .. => Option ReceiveOutcome

def action (session : Session) : (call : Call) → Action (Except ExchangeError call.Value × Session)
  | .request message retryOnSignal rounds => session.request message retryOnSignal rounds
  | .sendOnly message => session.sendOnly message
  | .prepare message => .done (session.prepare message)
  | .pingPong stream => session.pingPong stream
  | .receive policy rounds => session.receive policy rounds
  | .disconnect => session.disconnect

def message? : Call → Option Message
  | .request message .. | .sendOnly message | .prepare message => some message
  | .pingPong _ | .receive .. | .disconnect => none

end Call

/-- A call on the session, or a token raised from outside between two calls. -/
inductive Move where
  | call (call : Call)
  | cancel (token : CancelToken)

/-- A call as it was made on `session`: the events during it, and what it returned with the session
that it left, if it returned. -/
structure Step where
  call : Call
  session : Session
  events : Array Event
  returned : Option (Except ExchangeError call.Value × Session)

namespace Step

variable {σ : Type}

def of (link : Link σ) (call : Call) (session : Session) (before : World σ) : Step where
  call
  session
  events := ((call.action session).run link before).2.trace.extract before.trace.size
  returned := ((call.action session).run link before).1

def makes (step : Step) : Bool := step.call.message?.any step.session.takes

/-- The packets that the call hands to its caller. -/
def prepared : Step → List Packet
  | ⟨.prepare _, _, _, some (.ok stream, _)⟩ => stream.packets
  | _ => []

theorem of_returned {link : Link σ} {call : Call} {session : Session} {before after : World σ}
    {ended : Option (Except ExchangeError call.Value × Session)}
    (ran : (call.action session).run link before = (ended, after)) :
    (of link call session before).returned = ended := congrArg Prod.fst ran

theorem events_of {link : Link σ} {call : Call} {session : Session} {before : World σ}
    {events : Array Event}
    (trace : ((call.action session).run link before).2.trace = before.trace ++ events) :
    (of link call session before).events = events := by
  change Array.extract _ _ _ = _
  rw [trace]
  simp

end Step

/-- The calls of a run, up to the first that does not return. -/
def Session.steps {σ : Type} (link : Link σ) : List Move → Session → World σ → List Step
  | [], _, _ => []
  | .cancel token :: later, session, world =>
      steps link later session { world with raised := token :: world.raised }
  | .call call :: later, session, world =>
      Step.of link call session world ::
        match ((call.action session).run link world).1 with
        | none => []
        | some (_, next) => steps link later next ((call.action session).run link world).2

/-- The steps are one run of calls, begun on `session`. -/
inductive Consecutive : Session → List Step → Prop
  | nil (session : Session) : Consecutive session []
  | last {step : Step} (unreturned : step.returned = none) : Consecutive step.session [step]
  | cons {step : Step} {outcome : Except ExchangeError step.call.Value} {next : Session}
      {later : List Step} (returned : step.returned = some (outcome, next))
      (following : Consecutive next later) : Consecutive step.session (step :: later)

namespace Session

variable {σ : Type}

theorem steps_consecutive (link : Link σ) (moves : List Move) (session : Session)
    (world : World σ) : Consecutive session (session.steps link moves world) := by
  induction moves generalizing session world with
  | nil => exact .nil session
  | cons move later ih =>
      cases move with
      | cancel token => exact ih session _
      | call call =>
          cases returned : ((call.action session).run link world).1 with
          | none =>
              have alone : session.steps link (.call call :: later) world =
                  [Step.of link call session world] := by
                simp only [steps, returned]
              rw [alone]
              exact @Consecutive.last (Step.of link call session world) returned
          | some ended =>
              have first : session.steps link (.call call :: later) world =
                  Step.of link call session world ::
                    ended.2.steps link later ((call.action session).run link world).2 := by
                simp only [steps, returned]
              rw [first]
              exact @Consecutive.cons (Step.of link call session world) _ _ _ returned (ih _ _)

theorem exists_of_mem_steps {link : Link σ} {moves : List Move} {session : Session}
    {world : World σ} {step : Step} (member : step ∈ session.steps link moves world) :
    ∃ call session before, step = Step.of link call session before := by
  induction moves generalizing session world with
  | nil => simp [steps] at member
  | cons move later ih =>
      cases move with
      | cancel token => exact ih member
      | call call =>
          simp only [steps] at member
          rcases List.mem_cons.mp member with first | others
          · exact ⟨call, session, world, first⟩
          · cases returned : ((call.action session).run link world).1 with
            | none => simp [returned] at others
            | some ended =>
                rw [returned] at others
                exact ih others

section Runs

variable (link : Link σ) (session : Session) (before : World σ)

/-- The run of an action that hands out an attempt's outcome beside the session that follows. -/
theorem run_beside {ε α : Type} (attempt : Attempt ε α) (following : Session) :
    (attempt.run >>= fun outcome => .done (outcome, following) : Action _).run link before =
      ((attempt.on link before).1.map fun outcome => (outcome, following),
        (attempt.on link before).2) := by
  rw [Action.run_bind, Attempt.on]
  split <;> rename_i ran <;> rw [ran] <;> rfl

theorem sendOnly_run {message : Message} {stream : PacketStream} {following : Session}
    (prepared : session.prepare message = (.ok stream, following)) :
    (session.sendOnly message).run link before =
      (((Exchange.transmit session.config session.token stream).on link before).1.map
          fun outcome => (outcome, following),
        ((Exchange.transmit session.config session.token stream).on link before).2) := by
  rw [sendOnly, prepared]
  exact run_beside link before _ following

variable (connected : session.connected = true)

include connected

theorem pingPong_run (stream : PacketStream) :
    (session.pingPong stream).run link before =
      (((Exchange.roundTrip session.config session.token stream).on link before).1.map
          fun outcome => (outcome, session),
        ((Exchange.roundTrip session.config session.token stream).on link before).2) := by
  rw [pingPong, if_pos connected]
  exact run_beside link before _ session

theorem receive_run (policy : TimeoutPolicy) (rounds : Nat) :
    (session.receive policy rounds).run link before =
      (((Receive.run session.config session.token policy rounds).on link before).1.map
          fun outcome => (outcome, session),
        ((Receive.run session.config session.token policy rounds).on link before).2) := by
  rw [receive, if_pos connected]
  exact run_beside link before _ session

theorem disconnect_run :
    ∃ outcome after, session.disconnect.run link before =
      (some (outcome, { session with connected := false }), after) := by
  rw [disconnect, if_pos connected]
  exact ⟨_, _, rfl⟩

end Runs

end Session

end PacketLink
