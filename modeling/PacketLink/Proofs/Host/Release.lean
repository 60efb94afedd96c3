import PacketLink.Proofs.Hid.Closings
import PacketLink.Proofs.Host.Commands

namespace PacketLink

/-! The commands that talk to a device give it back. -/

namespace World

variable {σ τ : Type} (world : World σ)

theorem mapDevice_device (change : σ → τ) :
    (world.mapDevice change).device = change world.device := rfl

theorem logAll_device (entries : List Log.Entry) : (world.logAll entries).device = world.device := by
  induction entries generalizing world with
  | nil => rfl
  | cons entry rest ih => exact ih _

theorem logAll_trace (entries : List Log.Entry) :
    ∃ noted, (world.logAll entries).trace = world.trace ++ noted ∧ Trace.calls noted = [] := by
  induction entries generalizing world with
  | nil => exact ⟨#[], Array.append_empty.symm, rfl⟩
  | cons entry rest ih =>
      obtain ⟨noted, trace, calls⟩ := ih (world.record (.note (.log entry)))
      refine ⟨#[.note (.log entry)] ++ noted, ?_, ?_⟩
      · rw [World.logAll, List.foldl_cons, ← World.logAll, trace, World.record_trace,
          Array.append_assoc]
      · rw [Trace.calls_append, calls]
        rfl

end World

namespace Host

variable {σ : Type} {system : Hid.System σ} {context : Context} {rounds : Nat} {world : World σ}

/-- The moment after an interface was opened. -/
def opened (world : World σ) (opening : Hid.Opening σ) : World σ :=
  (world.mapDevice fun _ => opening.system).logAll opening.log

/-- The moment at which the handshake starts: the device had its time to get ready. -/
def ready (world : World σ) (opening : Hid.Opening σ) : World (Hid.Handle σ) :=
  let started := (opened world opening).mapDevice (⟨·, true⟩)
  { started.record (.sleep postOpenDelay) with clock := started.clock + postOpenDelay }

/-- A command ends as its attempt does, and gives back an interface that is still open. -/
def concluded (system : Hid.System σ)
    (ran : Option (Except HostError Unit) × World (Hid.Handle σ)) : Outcome σ :=
  ⟨ran.1, ran.2.mapDevice (Hid.Handle.release system)⟩

theorem opened_device (opening : Hid.Opening σ) : (opened world opening).device = opening.system :=
  World.logAll_device _ _

theorem ready_device (opening : Hid.Opening σ) :
    (ready world opening).device = ⟨opening.system, true⟩ :=
  congrArg (Hid.Handle.mk · true) (opened_device opening)

section Interface

variable {opening : Hid.Opening σ} {body : String → Attempt HostError Unit}
  (tried : system.openFirst context.config.vid context.config.pid world.device = opening)

include tried

theorem withInterface_refused {reason : LinkError} (refused : opening.result = .error reason) :
    withInterface system context body world =
      ⟨some (.error (.opening context.config.vid context.config.pid reason)), opened world opening⟩ := by
  rw [withInterface, tried]
  obtain ⟨result, device, entries⟩ := opening
  obtain rfl : result = .error reason := refused
  rfl

theorem withInterface_opened {interface : Hid.Interface} (found : opening.result = .ok interface) :
    withInterface system context body world =
      concluded system ((body interface.path).on ((system.link interface).monitoredBy context.monitor)
        ((opened world opening).mapDevice (⟨·, true⟩))) := by
  rw [withInterface, tried]
  obtain ⟨result, device, entries⟩ := opening
  obtain rfl : result = .ok interface := found
  rfl

end Interface

/-- On a link that was just opened, connecting is the handshake once the device had its time. -/
theorem connect_on {link : Link (Hid.Handle σ)} {opening : Hid.Opening σ} {config : HostConfig}
    {token : CancelToken} {probe : Message} :
    (connect config token probe rounds).on link ((opened world opening).mapDevice (⟨·, true⟩)) =
      let greeted := (Session.connect config.toSessionConfig token probe rounds).on link
        (ready world opening)
      (greeted.1.map (·.mapError .handshake), greeted.2) := by
  rw [connect, Attempt.on_lift_bind (Action.run_sleep _ _ _), Attempt.on_of]
  rfl

/-- From `greeted` on the command made its exchange, which came to `returned` and left the interface
open. -/
structure Exchanged (link : Link (Hid.Handle σ)) (context : Context) (rounds : Nat)
    (command : DeviceCommand) (session : Session) (greeted : World (Hid.Handle σ))
    (returned : Option (Except ExchangeError command.Value × Session))
    (between : World (Hid.Handle σ)) : Prop where
  ran : ∃ prepared noted, prepared.trace = greeted.trace ++ noted ∧ Trace.calls noted = [] ∧
    (command.exchange context rounds session).run link prepared = (returned, between)
  calls : ∃ events, between.trace = greeted.trace ++ events ∧
    ∀ event ∈ Trace.calls events, event.exchanges = true
  isOpen : between.device.isOpen = true

/-- After `between` there was one reset and then the disposal, which closed the interface. -/
structure Parted (system : Hid.System σ) (between parted : World (Hid.Handle σ)) : Prop where
  calls : ∃ events reset, parted.trace = between.trace ++ events ∧
    Trace.calls events = [.reset reset, .dispose (.ok ())]
  closed : parted.device.isOpen = false
  closes : ∀ closings : Hid.Closings system,
    closings.count parted.device.system = closings.count between.device.system + 1

theorem Parted.remark {between parted after : World (Hid.Handle σ)} (gone : Parted system between parted)
    {events : Array Event} (trace : after.trace = parted.trace ++ events)
    (quiet : Trace.calls events = []) (same : after.device = parted.device) :
    Parted system between after := by
  obtain ⟨closing, reset, before, calls⟩ := gone.calls
  constructor
  · refine ⟨closing ++ events, reset, ?_, ?_⟩
    · rw [trace, before, Array.append_assoc]
    · rw [Trace.calls_append, calls, quiet, List.append_nil]
  · rw [same]
    exact gone.closed
  · rw [same]
    exact gone.closes

section Monitored

variable {interface : Hid.Interface} {monitor : Option Monitor.Config} {command : DeviceCommand}
  {session : Session} {greeted prepared : World (Hid.Handle σ)} {rest : Attempt HostError Unit}

theorem run_stays_open {α : Type} {action : Action α} {token : CancelToken}
    {before : World (Hid.Handle σ)} (isOpen : before.device.isOpen = true)
    (exchanges : ∀ call ∈
      action.calls ((system.link interface).monitoredBy monitor) token before,
      call.event.exchanges = true) :
    (action.run ((system.link interface).monitoredBy monitor) before).2.device.isOpen = true := by
  rw [Hid.System.run_isOpen action token before, isOpen]
  intro call member result disposal
  have exchange := exchanges call member
  rw [disposal] at exchange
  cases exchange

theorem greeted_parts {opening : Hid.Opening σ} {config : SessionConfig} {token : CancelToken}
    {probe : Message}
    (ran : (Session.connect config token probe rounds).on
      ((system.link interface).monitoredBy monitor) (ready world opening) =
        (some (.ok session), greeted)) :
    (∃ events, greeted.trace = (ready world opening).trace ++ events ∧
      ∀ event ∈ Trace.calls events, event.exchanges = true) ∧
    session.connected = true ∧ greeted.device.isOpen = true := by
  have exchanges := Session.connect_exchanges ran
  obtain ⟨events, trace, calls⟩ := Action.trace_exchanges exchanges
  have isOpen := run_stays_open (congrArg Hid.Handle.isOpen (ready_device opening)) exchanges
  rw [← Attempt.on, ran] at trace isOpen
  refine ⟨⟨events, trace, calls⟩, ?_, isOpen⟩
  rw [Session.connect_of_ok ran]

theorem close_parts {between : World (Hid.Handle σ)} (connected : session.connected = true)
    (isOpen : between.device.isOpen = true) :
    ∃ parted, (close session).run ((system.link interface).monitoredBy monitor) between =
      (some (), parted) ∧ Parted system between parted := by
  obtain ⟨device, reset, parted, events, ran, trace, calls, left⟩ :=
    @close_run _ ((system.link interface).monitoredBy monitor) session connected between
  have disposes : ((system.link interface).monitoredBy monitor).dispose device =
      device.dispose system interface.path := by
    cases monitor <;> rfl
  rw [disposes] at calls left
  have disposed : (device.dispose system interface.path).result = .ok () := by
    unfold Hid.Handle.dispose
    split <;> rfl
  rw [disposed] at calls
  have shut : parted.device.isOpen = false := by
    rw [left]
    exact device.dispose_isOpen interface.path
  refine ⟨parted, ran, ⟨events, reset, trace, calls⟩, shut, fun closings => ?_⟩
  have due := @Hid.Closings.run_due _ _ system interface monitor closings (close session) between
  rwa [ran, Hid.Closings.due, Hid.Closings.due, shut, isOpen] at due

theorem exchanged_of_goesOn
    (goes : DeviceCommand.GoesOn ((system.link interface).monitoredBy monitor) context rounds command
      session rest greeted prepared)
    (isOpen : greeted.device.isOpen = true) :
    ∃ returned between,
      (command.exchange context rounds session).run ((system.link interface).monitoredBy monitor)
        prepared = (returned, between) ∧
      Exchanged ((system.link interface).monitoredBy monitor) context rounds command session greeted
        returned between := by
  have exchanges := @DeviceCommand.exchange_exchanges _
    ((system.link interface).monitoredBy monitor) context rounds session command prepared
  obtain ⟨noted, before, quiet⟩ := goes.trace
  obtain ⟨events, trace, calls⟩ := Action.trace_exchanges exchanges
  refine ⟨_, _, rfl, ⟨prepared, noted, before, quiet, rfl⟩, ⟨noted ++ events, ?_, ?_⟩, ?_⟩
  · rw [trace, before, Array.append_assoc]
  · rw [Trace.calls_append, quiet, List.nil_append]
    exact calls
  · exact run_stays_open (by rw [goes.device, isOpen]) exchanges

/-- What a command does with a session that is connected. -/
theorem goesOn_parts
    (goes : DeviceCommand.GoesOn ((system.link interface).monitoredBy monitor) context rounds command
      session rest greeted prepared)
    (connected : session.connected = true) (isOpen : greeted.device.isOpen = true) :
    ∃ returned between,
      Exchanged ((system.link interface).monitoredBy monitor) context rounds command session greeted
        returned between ∧
      (returned = none →
        rest.on ((system.link interface).monitoredBy monitor) greeted = (none, between)) ∧
      ∀ outcome following, returned = some (outcome, following) → ∃ parted,
        rest.on ((system.link interface).monitoredBy monitor) greeted =
          (some (command.verdict context outcome), parted) ∧ Parted system between parted := by
  obtain ⟨returned, between, ran, exchanged⟩ := exchanged_of_goesOn goes isOpen
  refine ⟨returned, between, exchanged, ?_, ?_⟩
  · rintro rfl
    exact goes.stuck between ran
  · rintro outcome following rfl
    obtain ⟨report, remarks, went⟩ := goes.returned outcome following between ran
    have stays := DeviceCommand.exchange_stays connected ran
    obtain ⟨parted, closed, gone⟩ :=
      @close_parts _ system interface monitor following between stays exchanged.isOpen
    obtain ⟨after, events, remarked, trace, quiet, same⟩ := remarks parted
    refine ⟨after, ?_, gone.remark trace quiet same⟩
    rw [went, Attempt.on_lift_bind closed, remarked]

end Monitored

/-- An interface that was opened is closed once, by the attempt or after it. -/
theorem closed_once (closings : Hid.Closings system) (attempt : Attempt HostError Unit)
    {interface : Hid.Interface} {monitor : Option Monitor.Config} {vid pid : UInt16} :
    closings.count (concluded system (attempt.on ((system.link interface).monitoredBy monitor)
      ((opened world (system.openFirst vid pid world.device)).mapDevice (⟨·, true⟩)))).world.device =
        closings.count world.device + 1 := by
  rw [concluded, World.mapDevice_device, closings.count_release, Attempt.on, closings.run_due,
    World.mapDevice_device, opened_device, Hid.Closings.due, closings.count_openFirst]
  rfl

theorem ok_of_toBool {outcome : Option (Except HostError Unit)}
    (finished : outcome.map Except.toBool = some true) : outcome = some (.ok ()) := by
  rcases outcome with _ | _ | _
  · cases finished
  · cases finished
  · rfl

/-- Whatever the device, the settings and the monitor are: if no interface can be opened, nothing is
asked of one. Else the interface is closed once. If the handshake fails, it is all that was exchanged.
If it succeeds, then after the exchange there is one reset and then the disposal that closes the
interface, and the command ends with its verdict on the exchange, whatever became of the reset. -/
theorem device_released (system : Hid.System σ) (context : Context) (command : DeviceCommand)
    (rounds : Nat) (world : World σ) :
    let opening := system.openFirst context.config.vid context.config.pid world.device
    let ended := run system context command.hostCommand rounds world
    (∀ reason, opening.result = .error reason →
      ended.result =
        some (.error (.opening context.config.vid context.config.pid reason)) ∧
      ∃ events, ended.world.trace = world.trace ++ events ∧ Trace.calls events = []) ∧
    ∀ interface, opening.result = .ok interface →
      let link := (system.link interface).monitoredBy context.monitor
      (∀ closings : Hid.Closings system,
        closings.count ended.world.device = closings.count world.device + 1) ∧
      ∃ connected greeted,
        (Session.connect context.config.toSessionConfig context.token (command.probe context) rounds).on
          link (ready world opening) = (connected, greeted) ∧
        (connected = none → ended.result = none ∧ ended.world.trace = greeted.trace) ∧
        (∀ reason, connected = some (.error reason) →
          ended.result = some (.error (.handshake reason)) ∧ ended.world.trace = greeted.trace) ∧
        ∀ session, connected = some (.ok session) →
          (∃ events, greeted.trace = (ready world opening).trace ++ events ∧
            ∀ event ∈ Trace.calls events, event.exchanges = true) ∧
          ∃ returned between,
            Exchanged link context rounds command session greeted returned between ∧
            (returned = none → ended.result = none ∧ ended.world.trace = between.trace) ∧
            ∀ outcome following, returned = some (outcome, following) →
              ended.result = some (command.verdict context outcome) ∧
              ∃ parted, Parted system between parted ∧
                ended.world = parted.mapDevice (Hid.Handle.release system) := by
  intro opening ended
  constructor
  · intro reason refused
    have ran : ended = _ :=
      (command.run_eq system context rounds world).trans (withInterface_refused rfl refused)
    rw [ran]
    exact ⟨rfl, World.logAll_trace _ _⟩
  · intro interface found link
    obtain ⟨rest, shape, goes⟩ := @DeviceCommand.goes_on _ context rounds link command interface.path
    have ran : ended = _ :=
      (command.run_eq system context rounds world).trans (withInterface_opened rfl found)
    constructor
    · intro closings
      rw [ran]
      exact closed_once closings _
    obtain ⟨connected, greeted, greeting⟩ : ∃ connected greeted,
        (Session.connect context.config.toSessionConfig context.token (command.probe context) rounds).on
          link (ready world opening) = (connected, greeted) := ⟨_, _, rfl⟩
    rw [shape, Attempt.on_bind, connect_on, greeting] at ran
    refine ⟨connected, greeted, greeting, ?_, ?_, ?_⟩
    · rintro rfl
      rw [ran]
      exact ⟨rfl, rfl⟩
    · rintro reason rfl
      rw [ran]
      exact ⟨rfl, rfl⟩
    · rintro session rfl
      obtain ⟨trace, connected, isOpen⟩ := greeted_parts greeting
      obtain ⟨prepared, goesOn⟩ := goes session greeted
      obtain ⟨returned, between, exchanged, stuck, parts⟩ := goesOn_parts goesOn connected isOpen
      refine ⟨trace, returned, between, exchanged, ?_, ?_⟩
      · intro unfinished
        rw [ran.trans (congrArg (concluded system) (stuck unfinished))]
        exact ⟨rfl, rfl⟩
      · intro outcome following finished
        obtain ⟨parted, went, gone⟩ := parts outcome following finished
        rw [ran.trans (congrArg (concluded system) went)]
        exact ⟨rfl, parted, gone, rfl⟩

/-- The device answers the ping and fails when it is reset. -/
theorem device_released_though_reset_fails :
    let interface : Hid.Interface := { vid := 0x1209, pid := 0x4321, path := "p" }
    let answers : List Hid.Answering := [.echo, .echoWithoutAck, .echo, .error "gone"]
    let world : World Hid.Simulation :=
      { device := { interfaces := [(interface, none)], answers, otherwise := .error "gone" } }
    let ended := run .simulated { probe := [1, 2, 3, 4] } (DeviceCommand.ping none).hostCommand 20 world
    ended.result = some (.ok ()) ∧ ended.world.device.closed = 1 ∧
      (Trace.resets (Trace.calls ended.world.trace)).map Except.toBool = [false] ∧
      ∃ between parted, Parted .simulated between parted ∧
        ended.world = parted.mapDevice (Hid.Handle.release .simulated) := by
  intro interface answers world ended
  have succeeds : ended.result = some (.ok ()) := ok_of_toBool (by decide +kernel)
  have opens : (Hid.System.simulated.openFirst 0x1209 0x4321 world.device).result.toBool = true := by
    decide +kernel
  obtain ⟨-, released⟩ :=
    device_released .simulated { probe := [1, 2, 3, 4] } (.ping none) 20 world
  cases tried : (Hid.System.simulated.openFirst 0x1209 0x4321 world.device).result with
  | error reason =>
      rw [tried] at opens
      cases opens
  | ok found =>
      obtain ⟨closed, connected, greeted, -, stuck, failed, served⟩ := released found tried
      refine ⟨succeeds, closed .simulated, by decide +kernel, ?_⟩
      rcases connected with _ | reason | session
      · cases succeeds.symm.trans (stuck rfl).1
      · cases succeeds.symm.trans (failed reason rfl).1
      · obtain ⟨-, returned, between, -, unfinished, parts⟩ := served session rfl
        rcases returned with _ | ⟨outcome, following⟩
        · cases succeeds.symm.trans (unfinished rfl).1
        · obtain ⟨-, parted, gone, same⟩ := parts outcome following rfl
          exact ⟨between, parted, gone, same⟩

end Host

end PacketLink
