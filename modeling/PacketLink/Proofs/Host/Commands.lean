import PacketLink.Host.Run
import PacketLink.Proofs.Session.HandshakeFailures
import PacketLink.Proofs.Session.Lifecycle

namespace PacketLink

/-! The commands that talk to a device, in their parts.

Each of them connects, exchanges, disconnects, and says what came of the exchange: `goes_on`. The
exchange only sends and reads, and leaves the session connected. -/

section Exchanging

variable {σ α β : Type} {link : Link σ} {token : CancelToken}

theorem Action.of_bind {action : Action α} {next : α → Action β} {before after : World σ} {result : β}
    (ran : (action >>= next).run link before = (some result, after)) :
    ∃ value middle, action.run link before = (some value, middle) ∧
      (next value).run link middle = (some result, after) := by
  rw [run_bind] at ran
  split at ran
  · rename_i value middle first
    exact ⟨value, middle, first, ran⟩
  · cases ran

theorem Attempt.on_lift_bind {ε : Type} {action : Action α} {next : α → Attempt ε β} {value : α}
    {before after : World σ} (ran : action.run link before = (some value, after)) :
    (liftM action >>= next : Attempt ε β).on link before = (next value).on link after := by
  rw [on_bind, on_lift, ran]
  rfl

theorem Attempt.on_lift_bind_stuck {ε : Type} {action : Action α} {next : α → Attempt ε β}
    {before after : World σ} (ran : action.run link before = (none, after)) :
    (liftM action >>= next : Attempt ε β).on link before = (none, after) := by
  rw [on_bind, on_lift, ran]
  rfl

/-- Wherever it starts, the action only sends and reads. -/
def Action.Exchanges (link : Link σ) (token : CancelToken) (action : Action α) : Prop :=
  ∀ before, ∀ call ∈ action.calls link token before, call.event.exchanges = true

namespace Action.Exchanges

theorem done (value : α) : (Action.done value).Exchanges link token := nofun

theorem bind {action : Action α} {next : α → Action β} (first : action.Exchanges link token)
    (second : ∀ value, (next value).Exchanges link token) :
    (action >>= next).Exchanges link token := by
  intro before call member
  rw [calls_bind] at member
  rcases List.mem_append.mp member with here | there
  · exact first before call here
  · split at there
    · exact second _ _ call there
    · contradiction

theorem bind_attempt {ε : Type} {attempt : Attempt ε α} {next : α → Attempt ε β}
    (first : attempt.run.Exchanges link token)
    (second : ∀ value, (next value).run.Exchanges link token) :
    (attempt >>= next).run.Exchanges link token := by
  apply bind first
  intro ended
  cases ended with
  | error reason => exact done _
  | ok value => exact second value

theorem lift {ε : Type} {action : Action α} (exchanges : action.Exchanges link token) :
    (liftM action : Attempt ε α).run.Exchanges link token :=
  bind exchanges fun _ => done _

theorem note (note : Note) : (Action.note note).Exchanges link token := nofun

theorem now : Action.now.Exchanges link token := nofun

theorem isCancelled (other : CancelToken) : (Action.isCancelled other).Exchanges link token := nofun

end Action.Exchanges

theorem Action.trace_exchanges {action : Action α} {before : World σ}
    (exchanges : ∀ call ∈ action.calls link token before, call.event.exchanges = true) :
    ∃ events, (action.run link before).2.trace = before.trace ++ events ∧
      ∀ event ∈ Trace.calls events, event.exchanges = true := by
  obtain ⟨events, trace, calls⟩ := action.trace_calls link token before
  refine ⟨events, trace, fun event member => ?_⟩
  rw [calls] at member
  obtain ⟨call, among, rfl⟩ := List.mem_map.mp member
  exact exchanges call among

end Exchanging

namespace Benchmark

variable {σ : Type} {link : Link σ} {session : Session} {stream : PacketStream}
  {onRate : Throughput.Rate → Action Unit} {start duration : Duration}

theorem tick_exchanges (reports : ∀ rate, (onRate rate).Exchanges link session.token)
    (counter : Throughput.Counter) : (tick onRate counter).Exchanges link session.token := by
  apply Action.Exchanges.bind .now
  intro moment
  split
  · exact .bind (reports _) fun _ => .done _
  · exact .done _

theorem roundTrips_exchanges (reports : ∀ rate, (onRate rate).Exchanges link session.token)
    (rounds : Nat) (counter : Throughput.Counter) :
    (roundTrips session stream onRate start duration rounds counter).run.Exchanges link
      session.token := by
  induction rounds generalizing counter with
  | zero => exact nofun
  | succ rounds ih =>
      apply Action.Exchanges.bind_attempt (.lift .now)
      intro moment
      apply Action.Exchanges.bind_attempt (.lift (.isCancelled _))
      intro cancelled
      split
      · apply Action.Exchanges.bind_attempt (.lift ?_)
        · intro returned
          apply Action.Exchanges.bind_attempt (.done _)
          intro _
          apply Action.Exchanges.bind_attempt (.lift (tick_exchanges reports _))
          intro counter
          exact ih counter
        · intro before call member
          exact session.action_exchanges link before
            (show Call.pingPong stream ≠ .disconnect from nofun) call member
      · exact .done _

theorem run_exchanges (probe : Message) (reports : ∀ rate, (onRate rate).Exchanges link session.token)
    (rounds : Nat) : (run session probe duration onRate rounds).Exchanges link session.token := by
  unfold run
  cases session.prepare_cases probe with
  | inl refused =>
      obtain ⟨reason, prepared, -, -⟩ := refused
      rw [prepared]
      exact .done _
  | inr made =>
      obtain ⟨stream, prepared, -, -⟩ := made
      rw [prepared]
      apply Action.Exchanges.bind .now
      intro start
      apply Action.Exchanges.bind (.note _)
      intro _
      have trips (counter : Throughput.Counter) : (roundTrips session.advanced stream onRate start
          duration rounds counter).run.Exchanges link session.advanced.token :=
        @roundTrips_exchanges σ link session.advanced stream onRate start duration reports rounds counter
      apply Action.Exchanges.bind (trips _)
      intro ended
      cases ended with
      | error reason => exact .done _
      | ok counter => exact .bind .now fun _ => .done _

theorem run_following {probe : Message} {rounds : Nat} {before after : World σ} {following : Session}
    {ended : Except ExchangeError Summary}
    (ran : (run session probe duration onRate rounds).run link before =
      (some (ended, following), after)) : following.connected = session.connected := by
  unfold run at ran
  cases session.prepare_cases probe with
  | inl refused =>
      obtain ⟨reason, prepared, -, -⟩ := refused
      rw [prepared] at ran
      cases ran
      rfl
  | inr made =>
      obtain ⟨stream, prepared, -, -⟩ := made
      rw [prepared] at ran
      obtain ⟨start, _, -, ran⟩ := Action.of_bind ran
      obtain ⟨_, _, -, ran⟩ := Action.of_bind ran
      obtain ⟨tripped, _, -, ran⟩ := Action.of_bind ran
      cases tripped with
      | error reason =>
          cases ran
          rfl
      | ok counter =>
          obtain ⟨moment, _, -, ran⟩ := Action.of_bind ran
          cases ran
          rfl

end Benchmark

/-- A handshake that succeeds only sends and reads. -/
theorem Session.connect_exchanges {σ : Type} {link : Link σ} {config : SessionConfig}
    {token : CancelToken} {probe : Message} {rounds : Nat} {before after : World σ} {session : Session}
    (ran : (connect config token probe rounds).on link before = (some (.ok session), after)) :
    ∀ call ∈ (connect config token probe rounds).run.calls link token before,
      call.event.exchanges = true := by
  intro call member
  obtain ⟨events, trace, called⟩ :=
    (connect config token probe rounds).run.trace_calls link token before
  have isCall : call.event ∈ Trace.calls events := by
    rw [called]
    exact List.mem_map_of_mem member
  rcases Nat.lt_or_ge 62 (4 + probe.length) with long | short
  · have refused : (connect config token probe rounds).Makes link _ := connect_long long
    obtain ⟨_, -, -, failed, -⟩ := refused before
    rw [ran] at failed
    cases failed
  · have makes : (connect config token probe rounds).Makes link _ := connect_makes short
    obtain ⟨others, traceAgain, -, disciplined⟩ := makes before
    obtain rfl : others = events := (Array.append_right_inj _).mp (traceAgain.symm.trans trace)
    have unreset := disciplined.succeeded session (by rw [ran])
    cases event : call.event with
    | send packet result => rfl
    | read timeout result => rfl
    | reset result =>
        rw [event] at isCall
        have one : result ∈ Trace.resets (Trace.calls others) :=
          List.mem_filterMap.mpr ⟨_, isCall, rfl⟩
        rw [unreset] at one
        contradiction
    | dispose result =>
        rw [event] at isCall
        exact absurd isCall (disciplined.undisposed result)
    | sleep span =>
        rw [event] at isCall
        exact absurd (List.mem_filter.mp isCall).2 nofun
    | note note =>
        rw [event] at isCall
        exact absurd (List.mem_filter.mp isCall).2 nofun

namespace Host

variable {σ α : Type} {link : Link σ}

/-- The attempt only leaves notes, and ends with `verdict`. -/
def Remarks (link : Link σ) (attempt : Attempt HostError Unit) (verdict : Except HostError Unit) :
    Prop :=
  ∀ before, ∃ after events, attempt.on link before = (some verdict, after) ∧
    after.trace = before.trace ++ events ∧ Trace.calls events = [] ∧ after.device = before.device

theorem Remarks.done {attempt : Attempt HostError Unit} {verdict : Except HostError Unit}
    (immediate : attempt.run = .done verdict) : Remarks link attempt verdict := by
  intro before
  have ran : attempt.on link before = (some verdict, before) := by
    rw [Attempt.on, immediate, Action.run_done]
  exact ⟨before, #[], ran, Array.append_empty.symm, rfl, rfl⟩

theorem Remarks.print (line : String) : Remarks link (liftM (print line)) (.ok ()) := by
  intro before
  exact ⟨before.record (.note (.output line)), #[.note (.output line)], Attempt.on_lift link before _,
    before.record_trace _, rfl, rfl⟩

theorem Remarks.asked {value : α} {next : α → Attempt HostError Unit} {report : Attempt HostError Unit}
    {verdict : Except HostError Unit} (asked : next value = report)
    (remarks : Remarks link report verdict) :
    Remarks link (Attempt.ofExcept (.ok value) >>= next) verdict := by
  subst asked
  exact remarks

theorem disconnect_run {session : Session} (connected : session.connected = true)
    (before : World σ) :
    ∃ outcome following device reset after events,
      session.disconnect.run link before = (some (outcome, following), after) ∧
      after.trace = before.trace ++ events ∧
      Trace.calls events = [.reset reset, .dispose (link.dispose device).result] ∧
      after.device = (link.dispose device).device := by
  let noted := before.record (.note (.log .disconnecting))
  let between := noted.afterCall .reset (link.reset noted.device)
  let parted := between.afterCall .dispose (link.dispose between.device)
  obtain ⟨reset, disposal, returned, -⟩ := session.disconnect_parts link before connected
  have following : (session.disconnect.run link before).2 = parted := by
    rw [Session.disconnect, if_pos connected]
    rfl
  have trace : parted.trace = before.trace ++ (#[.note (.log .disconnecting)] ++
      (Trace.called (link.reset noted.device).notes (.reset (link.reset noted.device).result) ++
      Trace.called (link.dispose between.device).notes
        (.dispose (link.dispose between.device).result))) := by
    simp [parted, between, noted, Trace.called]
  refine ⟨_, _, between.device, (link.reset noted.device).result, parted, _,
    Prod.ext returned following, trace, ?_, rfl⟩
  simp only [Trace.called, Trace.calls_append, Trace.calls_notes]
  rfl

/-- Disconnecting resets the link and disposes of it, and its failure is no failure of the command. -/
theorem close_run {session : Session} (connected : session.connected = true) (before : World σ) :
    ∃ device reset after events, (close session).run link before = (some (), after) ∧
      after.trace = before.trace ++ events ∧
      Trace.calls events = [.reset reset, .dispose (link.dispose device).result] ∧
      after.device = (link.dispose device).device := by
  obtain ⟨outcome, following, device, reset, after, events, ran, trace, calls, same⟩ :=
    @disconnect_run σ link session connected before
  rw [close, Action.run_bind, ran]
  cases outcome with
  | ok _ => exact ⟨device, reset, after, events, rfl, trace, calls, same⟩
  | error reason =>
      refine ⟨device, reset, after.record (.note (.log (.disconnectFailed reason))),
        events ++ #[.note (.log (.disconnectFailed reason))], rfl, ?_, ?_, same⟩
      · rw [World.record_trace, trace, Array.append_assoc]
      · rw [Trace.calls_append, calls]
        rfl

/-- The commands that talk to a device. -/
inductive DeviceCommand where
  | ping (payload : Option Bytes)
  | status
  | bench (seconds : UInt64)

namespace DeviceCommand

def hostCommand : DeviceCommand → HostCommand
  | .ping payload => .ping payload
  | .status => .status
  | .bench seconds => .bench seconds

/-- What an exchange yields that succeeds. -/
abbrev Value : DeviceCommand → Type
  | .ping _ | .status => Message
  | .bench _ => Benchmark.Summary

open Attempt (on_lift_bind on_lift_bind_stuck)

section Parts

variable (context : Context) (rounds : Nat)

def body (path : String) : DeviceCommand → Attempt HostError Unit
  | .ping payload => Host.ping path context.config context.token (payload.getD context.probe) rounds
  | .status => Host.status context.config context.token context.probe rounds
  | .bench seconds => Host.bench context.config context.token context.probe seconds rounds

/-- The message of the handshake. -/
def probe : DeviceCommand → Message
  | .ping payload => pingMessage (payload.getD context.probe)
  | .status | .bench _ => pingMessage context.probe

/-- What is done with the session. -/
def exchange (session : Session) :
    (command : DeviceCommand) → Action (Except ExchangeError command.Value × Session)
  | .ping payload => session.request (pingMessage (payload.getD context.probe)) true rounds
  | .status => session.request (.empty context.config.reserved.deviceStatus) true rounds
  | .bench seconds =>
      Benchmark.run session (pingMessage context.probe) (.ofSeconds seconds.toNat)
        (printRate context.config.ack) rounds

/-- What the command says to a value: a ping has to come back as it was sent. -/
def check : (command : DeviceCommand) → command.Value → Except HostError Unit
  | .ping payload, reply =>
      if reply = pingMessage (payload.getD context.probe) then .ok ()
      else .error (.replyMismatch (payload.getD context.probe) reply)
  | .status, _ | .bench _, _ => .ok ()

/-- What the command says to the outcome of its exchange. -/
def verdict (command : DeviceCommand) :
    Except ExchangeError command.Value → Except HostError Unit
  | .error reason => .error (.exchange reason)
  | .ok value => command.check context value

end Parts

variable {context : Context} {rounds : Nat} {session following : Session}
  {before after : World σ}

theorem run_eq {τ : Type} (system : Hid.System τ) (context : Context) (command : DeviceCommand)
    (rounds : Nat) (world : World τ) :
    Host.run system context command.hostCommand rounds world =
      withInterface system context (fun path => command.body context rounds path) world := by
  cases command <;> rfl

theorem exchange_exchanges (command : DeviceCommand) :
    (command.exchange context rounds session).Exchanges link session.token := by
  have request (message : Message) :
      (session.request message true rounds).Exchanges link session.token := by
    intro before call member
    exact session.action_exchanges link before
      (show Call.request message true rounds ≠ .disconnect from nofun) call member
  cases command with
  | ping payload => exact request _
  | status => exact request _
  | bench seconds =>
      apply Benchmark.run_exchanges
      intro rate
      exact .bind (.note _) fun _ => .note _

theorem exchange_stays {command : DeviceCommand} {outcome : Except ExchangeError command.Value}
    (connected : session.connected = true)
    (ran : (command.exchange context rounds session).run link before =
      (some (outcome, following), after)) : following.connected = true := by
  have request {message : Message} {reply : Except ExchangeError Message}
      (ran : (session.request message true rounds).run link before = (some (reply, following), after)) :
      following.connected = true := by
    have stays := session.action_stays link before connected
      (show Call.request message true rounds ≠ .disconnect from nofun) (congrArg Prod.fst ran)
    exact stays.trans connected
  cases command with
  | ping payload => exact request ran
  | status => exact request ran
  | bench seconds => exact (Benchmark.run_following ran).trans connected

/-- How a command goes on from a session: it may say so, it exchanges, and once the exchange has
returned it disconnects and says what came of it. -/
structure GoesOn (link : Link σ) (context : Context) (rounds : Nat) (command : DeviceCommand)
    (session : Session) (rest : Attempt HostError Unit) (greeted prepared : World σ) : Prop where
  device : prepared.device = greeted.device
  trace : ∃ noted, prepared.trace = greeted.trace ++ noted ∧ Trace.calls noted = []
  stuck : ∀ between, (command.exchange context rounds session).run link prepared = (none, between) →
    rest.on link greeted = (none, between)
  returned : ∀ outcome following between,
    (command.exchange context rounds session).run link prepared =
        (some (outcome, following), between) →
      ∃ report, Remarks link report (command.verdict context outcome) ∧
        rest.on link greeted = (liftM (close following) >>= fun _ => report).on link between

theorem goes_on (link : Link σ) (command : DeviceCommand) (path : String) :
    ∃ rest, command.body context rounds path =
        (connect context.config context.token (command.probe context) rounds >>= rest) ∧
      ∀ session greeted, ∃ prepared,
        GoesOn link context rounds command session (rest session) greeted prepared := by
  cases command with
  | ping payload =>
      refine ⟨_, rfl, fun session greeted =>
        ⟨greeted.record (.note (.output s!"Connected to {path}")), rfl,
          ⟨#[.note (.output s!"Connected to {path}")], greeted.record_trace _, rfl⟩, ?_, ?_⟩⟩
      · intro between ran
        exact (on_lift_bind rfl).trans ((on_lift_bind rfl).trans (on_lift_bind_stuck ran))
      · intro outcome following between ran
        refine ⟨_, ?_, (on_lift_bind rfl).trans ((on_lift_bind rfl).trans
          ((on_lift_bind ran).trans (on_lift_bind rfl)))⟩
        cases outcome with
        | error reason => exact .done rfl
        | ok reply =>
            simp only [verdict, check]
            by_cases same : reply = pingMessage (payload.getD context.probe)
            · rw [if_pos same]
              exact Remarks.asked (if_pos same) (.print _)
            · rw [if_neg same]
              exact Remarks.asked (if_neg same) (.done rfl)
  | status =>
      refine ⟨_, rfl, fun session greeted => ⟨greeted, rfl, ⟨#[], Array.append_empty.symm, rfl⟩, ?_, ?_⟩⟩
      · intro between ran
        exact on_lift_bind_stuck ran
      · intro outcome following between ran
        refine ⟨_, ?_, on_lift_bind ran⟩
        cases outcome with
        | error reason => exact .done rfl
        | ok reply => exact Remarks.print _
  | bench seconds =>
      refine ⟨_, rfl, fun session greeted => ⟨greeted, rfl, ⟨#[], Array.append_empty.symm, rfl⟩, ?_, ?_⟩⟩
      · intro between ran
        exact on_lift_bind_stuck ran
      · intro outcome following between ran
        refine ⟨_, ?_, on_lift_bind ran⟩
        cases outcome with
        | error reason => exact .done rfl
        | ok summary => exact Remarks.print _

end DeviceCommand

end Host

end PacketLink
