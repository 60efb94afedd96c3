import PacketLink.Proofs.Session.Alternation
import PacketLink.Proofs.Session.Cancellation

namespace PacketLink

/-! The life of a session: connected until it is told to disconnect, and never again after that.

A connected session only sends and reads; disconnecting resets the link and disposes of it, once; and
a session that is disconnected refuses every call and leaves the link alone. -/

namespace Session

/-- What disconnecting returns: a failure of the disposal outranks one of the reset. -/
def parting : (reset disposal : Except LinkError Unit) → Except ExchangeError Unit
  | _, .error reason => .error (.link reason)
  | .error reason, .ok () => .error (.link reason)
  | .ok (), .ok () => .ok ()

end Session

/-- What a call can be in the life of its session. -/
inductive Step.Lives : Step → Prop
  | serving {call : Call} {session : Session} {events : Array Event}
      {returned : Option (Except ExchangeError call.Value × Session)}
      (connected : session.connected = true) (other : call ≠ .disconnect)
      (exchanges : ∀ event ∈ Trace.calls events, event.exchanges = true)
      (stays : ∀ outcome next, returned = some (outcome, next) → next.connected = true) :
      Lives ⟨call, session, events, returned⟩
  | parting {session : Session} {events : Array Event} {reset disposal : Except LinkError Unit}
      (connected : session.connected = true)
      (calls : Trace.calls events = [.reset reset, .dispose disposal]) :
      Lives ⟨.disconnect, session, events,
        some (Session.parting reset disposal, { session with connected := false })⟩
  | refusing {call : Call} {session : Session} (parted : session.connected = false) :
      Lives ⟨call, session, #[], some (.error .notConnected, session)⟩

namespace Session

variable {σ : Type} (link : Link σ) (session : Session) (before : World σ)

theorem action_of_parted {session : Session} (parted : session.connected = false) (call : Call) :
    call.action session = .done (.error .notConnected, session) := by
  cases call with
  | request message retryOnSignal rounds => simp [Call.action, request, prepare, parted]
  | sendOnly message => simp [Call.action, sendOnly, prepare, parted]
  | prepare message => simp [Call.action, prepare, parted]
  | pingPong stream => simp [Call.action, pingPong, parted]
  | receive policy rounds => simp [Call.action, receive, parted]
  | disconnect => simp [Call.action, disconnect, parted]

theorem disconnect_parts (connected : session.connected = true) :
    ∃ reset disposal,
      (session.disconnect.run link before).1 =
        some (parting reset disposal, { session with connected := false }) ∧
      (session.disconnect.calls link session.token before).map TimedCall.event =
        [.reset reset, .dispose disposal] := by
  rw [disconnect, if_pos connected]
  refine ⟨(link.reset before.device).result,
    (link.dispose (link.reset before.device).device).result, ?_, rfl⟩
  simp only [Action.run_bind, Action.log, Action.run_note, Action.run_reset, Action.run_dispose,
    Action.pure_eq_done, Action.run_done, World.afterCall_device, World.record_device]
  cases (link.dispose (link.reset before.device).device).result with
  | error reason => cases (link.reset before.device).result <;> rfl
  | ok _ => cases (link.reset before.device).result <;> rfl

/-- A call other than disconnecting only sends and reads. -/
theorem action_exchanges {call : Call} (other : call ≠ .disconnect) :
    ∀ timed ∈ (call.action session).calls link session.token before,
      timed.event.exchanges = true := by
  intro timed member
  have read {timeout : Duration} (reads : ∃ result, timed.event = .read timeout result) :
      timed.event.exchanges = true := by
    obtain ⟨result, same⟩ := reads
    rw [same]
    rfl
  cases call with
  | request message retryOnSignal rounds =>
      rcases session.request_conversed link before message retryOnSignal rounds with
        ⟨silent, -⟩ | ⟨stream, outcome, -, -, conversed⟩
      · rw [Call.action, silent] at member
        contradiction
      · exact conversed.exchanges timed member
  | sendOnly message => exact (session.sendOnly_early link before message timed member).exchanges
  | prepare message => contradiction
  | pingPong stream =>
      rcases session.pingPong_timely link before stream timed member with early | reads
      · exact early.exchanges
      · exact read reads
  | receive policy rounds =>
      exact (session.receive_early link before policy rounds timed member).exchanges
  | disconnect => exact absurd rfl other

theorem connected_of_beside {ε α : Type} {ended : Option (Except ε α)} {outcome : Except ε α}
    {following next : Session} (returned : ended.map (·, following) = some (outcome, next)) :
    next.connected = following.connected := by
  obtain ⟨_, _, same⟩ := Option.map_eq_some_iff.mp returned
  rw [(Prod.mk.inj same).2]

theorem action_stays (connected : session.connected = true) {call : Call} (other : call ≠ .disconnect)
    {outcome : Except ExchangeError call.Value} {next : Session}
    (returned : ((call.action session).run link before).1 = some (outcome, next)) :
    next.connected = session.connected := by
  cases call with
  | request message retryOnSignal rounds =>
      rcases session.request_conversed link before message retryOnSignal rounds with
        ⟨-, reason, refused⟩ | ⟨stream, ended, -, ran, -⟩
      · rw [Call.action, refused] at returned
        exact congrArg (·.2.connected) (Option.some.inj returned).symm
      · rw [Call.action, ran] at returned
        exact (connected_of_beside returned : next.connected = session.advanced.connected)
  | sendOnly message =>
      rcases session.prepare_cases message with ⟨reason, refused, -⟩ | ⟨stream, prepared, -⟩
      · rw [Call.action, sendOnly, refused] at returned
        exact congrArg (·.2.connected) (Option.some.inj returned).symm
      · rw [Call.action, session.sendOnly_run link before prepared] at returned
        exact (connected_of_beside returned : next.connected = session.advanced.connected)
  | prepare message =>
      rcases session.prepare_cases message with ⟨reason, refused, -⟩ | ⟨stream, prepared, -⟩
      · rw [Call.action, refused] at returned
        exact congrArg (·.2.connected) (Option.some.inj returned).symm
      · rw [Call.action, prepared] at returned
        exact congrArg (·.2.connected) (Option.some.inj returned).symm
  | pingPong stream =>
      rw [Call.action, session.pingPong_run link before connected] at returned
      exact connected_of_beside returned
  | receive policy rounds =>
      rw [Call.action, session.receive_run link before connected] at returned
      exact connected_of_beside returned
  | disconnect => exact absurd rfl other

end Session

namespace Step

variable {σ : Type} {link : Link σ} {call : Call} {session : Session} {before : World σ}

theorem of_eq {events : Array Event} {returned : Option (Except ExchangeError call.Value × Session)}
    (trace : ((call.action session).run link before).2.trace = before.trace ++ events)
    (ended : ((call.action session).run link before).1 = returned) :
    of link call session before = ⟨call, session, events, returned⟩ := by
  subst ended
  exact congrArg (Step.mk call session · _) (events_of trace)

theorem of_lives : (of link call session before).Lives := by
  obtain ⟨events, trace, calls⟩ :=
    Action.trace_calls link session.token (call.action session) before
  cases connected : session.connected with
  | false =>
      have refused := Session.action_of_parted connected call
      have silent : of link call session before =
          ⟨call, session, #[], some (.error .notConnected, session)⟩ := by
        refine of_eq ?_ ?_
        · rw [refused]
          exact Array.append_empty.symm
        · rw [refused]
          rfl
      rw [silent]
      exact .refusing connected
  | true =>
      by_cases other : call = .disconnect
      · subst other
        obtain ⟨reset, disposal, returned, parts⟩ := session.disconnect_parts link before connected
        rw [of_eq trace returned]
        exact .parting connected (calls.trans parts)
      · rw [of_eq trace rfl]
        refine .serving connected other ?_ fun outcome next returned => ?_
        · intro event member
          rw [calls] at member
          obtain ⟨timed, called, rfl⟩ := List.mem_map.mp member
          exact session.action_exchanges link before other timed called
        · exact (session.action_stays link before connected other returned).trans connected

/-- After a call the session is connected if it was before, unless the call was to disconnect. -/
theorem Lives.connected_iff {step : Step} (lives : step.Lives)
    {outcome : Except ExchangeError step.call.Value} {next : Session}
    (returned : step.returned = some (outcome, next)) :
    next.connected = true ↔ step.session.connected = true ∧ step.call ≠ .disconnect := by
  cases lives with
  | serving connected other exchanges stays =>
      exact iff_of_true (stays outcome next returned) ⟨connected, other⟩
  | parting connected calls =>
      obtain ⟨-, rfl⟩ := Prod.mk.inj (Option.some.inj returned)
      simp
  | refusing parted =>
      obtain ⟨-, rfl⟩ := Prod.mk.inj (Option.some.inj returned)
      simp [parted]

end Step

theorem Consecutive.connected_iff {session : Session} {step : Step} {earlier later : List Step}
    (consecutive : Consecutive session (earlier ++ step :: later))
    (live : ∀ other ∈ earlier, other.Lives) :
    step.session.connected = true ↔
      session.connected = true ∧ ∀ other ∈ earlier, other.call ≠ .disconnect := by
  induction earlier generalizing session with
  | nil =>
      obtain ⟨rfl, -⟩ := consecutive.of_cons
      simp
  | cons first rest ih =>
      rcases consecutive.of_cons with ⟨rfl, none | ⟨outcome, next, returned, following⟩⟩
      · simp at none
      obtain ⟨firstLives, restLive⟩ := List.forall_mem_cons.mp live
      rw [ih following restLive, firstLives.connected_iff returned, List.forall_mem_cons, and_assoc]

namespace Session

variable {σ : Type}

theorem connected_of_opened {session : Session} {bit : FlipBit} (opened : Opened session bit) :
    session.connected = true := by
  cases opened with
  | connected ran => rw [connect_of_ok ran]
  | resumed config token next => rfl

/-- Whatever the link does and whichever tokens are raised: in a run of calls on an opened session,
the session is connected up to the first call to disconnect and never after it. Until then calls only
send and read. That call resets the link and disposes of it, once each. Later calls are refused, and
change neither the session nor the link. -/
theorem life_of_run (link : Link σ) {session : Session} {bit : FlipBit}
    (opened : Opened session bit) (moves : List Move) (world : World σ) :
    ∀ earlier step later, session.steps link moves world = earlier ++ step :: later →
      (step.session.connected = true ↔ ∀ other ∈ earlier, other.call ≠ .disconnect) ∧
        step.Lives := by
  intro earlier step later parts
  have live : ∀ other ∈ session.steps link moves world, other.Lives := by
    intro other member
    obtain ⟨call, start, before, rfl⟩ := exists_of_mem_steps member
    exact Step.of_lives
  rw [parts] at live
  obtain ⟨before, here⟩ := List.forall_mem_append.mp live
  have run := session.steps_consecutive link moves world
  rw [parts] at run
  refine ⟨?_, here step List.mem_cons_self⟩
  rw [run.connected_iff before]
  exact and_iff_right (connected_of_opened opened)

theorem life_of_run_past_disconnecting :
    ∃ first second, steps Link.scripted
        [.call .disconnect, .cancel ⟨0⟩, .call (.request ⟨0x0002, []⟩ true 1)]
        (resume {} ⟨0⟩ .clear) { device := { failingReset := true } } = [first, second] ∧
      first.session.connected = true ∧ second.session.connected = false ∧
      first.Lives ∧ second.Lives := by
  have life := life_of_run Link.scripted (.resumed {} ⟨0⟩ .clear)
    [.call .disconnect, .cancel ⟨0⟩, .call (.request ⟨0x0002, []⟩ true 1)]
    { device := { failingReset := true } }
  exact ⟨_, _, rfl, rfl, rfl, (life [] _ _ rfl).2, (life [_] _ _ rfl).2⟩

end Session

end PacketLink
