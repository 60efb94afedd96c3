import PacketLink.Proofs.Checked.Attempts
import PacketLink.Proofs.Checked.Framing
import PacketLink.Session.Exchange

namespace PacketLink

/-! The operations of a session, with buffers for packets and all data operations checked.

Each of them is the operation itself: no answer of the link and no configuration leads to a fault. A
receive goes through the states of a reassembler, and of these it is known what they hold. -/

namespace Checked

section Receiving

def pairs : Bytes → List Bytes
  | low :: high :: rest => [low, high] :: pairs rest
  | _ => []

def debugText (payload : Bytes) : Checked String := do
  let units ← (pairs payload).mapM fun pair => do return Bytes.word (← index pair 0) (← index pair 1)
  return String.ofList (Utf16.decode (units.takeWhile (· ≠ 0)))

theorem debugText_eq (payload : Bytes) : debugText payload = .ok (DebugText.decode payload) := by
  have units : (pairs payload).mapM (fun pair => do
      return Bytes.word (← index pair 0) (← index pair 1)) = .ok (DebugText.units payload) := by
    fun_induction pairs payload with
    | case1 low high rest ih =>
        rw [List.mapM_cons, ih]
        rfl
    | case2 short unpaired =>
        match short, unpaired with
        | [], _ | [_], _ => rfl
        | low :: high :: rest, unpaired => exact absurd rfl (unpaired low high rest)
  rw [debugText, units]
  rfl

def absorb (state : Reassembler) (received : Bytes) :
    Guarded ExchangeError (Option Message × Reassembler) := do
  match ← Guarded.check (Buffer.ofBytes received) with
  | .error reason =>
      Guarded.of (Action.log (.badPacket reason))
      throw (.framing reason)
  | .ok buffer =>
      Guarded.of (Action.log (.receivedPacket (← Guarded.check buffer.packet)))
      match ← Guarded.check (push state buffer) with
      | (.error reason, _) =>
          Guarded.of (Action.log (.receiveFailed reason))
          throw (.framing reason)
      | (.ok none, next) => return (none, next)
      | (.ok (some message), next) =>
          Guarded.of (Action.log (.receivedMessage message.command message.length))
          return (some message, next)

def packets (config : SessionConfig) (token : CancelToken) (policy : TimeoutPolicy) :
    (rounds : Nat) → Reassembler → Guarded ExchangeError (Option ReceiveOutcome)
  | 0, _ => Guarded.of Attempt.unfinished
  | rounds + 1, state => do
      Guarded.of (Attempt.stopIfCancelled token .cancelled)
      match ← Guarded.of (Action.read config.readTimeout) with
      | .error reason => Guarded.of (Receive.afterFailedRead policy state reason)
      | .ok received =>
          match ← absorb state received with
          | (none, next) => packets config token policy rounds next
          | (some message, next) =>
              match Receive.classify config.reserved message with
              | some outcome => return some outcome
              | none =>
                  let text ← Guarded.check (debugText message.payload)
                  Guarded.of (Receive.deliver config.debugSink text)
                  packets config token policy rounds next

/-- What follows a packet need only be known for what the reassembler holds then. -/
theorem absorb_bind {state : Reassembler} {pending : List Packet} (holds : state.Holds pending)
    (received : Bytes) {β : Type} {next : Option Message × Reassembler → Guarded ExchangeError β}
    {following : Option Message × Reassembler → Attempt ExchangeError β}
    (same : ∀ complete after, (∃ held, after.Holds held) →
      next (complete, after) = Guarded.of (following (complete, after))) :
    absorb state received >>= next = Guarded.of (Receive.absorb state received >>= following) := by
  rw [absorb, Buffer.ofBytes_eq, Guarded.check_ok, pure_bind, Receive.absorb]
  cases Packet.ofBytes received with
  | error reason =>
      simp only [Except.map, bind_assoc, Guarded.of_bind, Guarded.throw_bind, Guarded.of_throw]
  | ok packet =>
      simp only [Except.map, Buffer.packet_buffer, push_eq holds, Guarded.check_ok, pure_bind,
        bind_assoc, Guarded.of_bind]
      cases pushed : state.push packet with
      | mk answer after =>
          cases answer with
          | error reason =>
              simp only [bind_assoc, Guarded.of_bind, Guarded.throw_bind, Guarded.of_throw]
          | ok complete =>
              cases complete with
              | none =>
                  have held := Reassembler.push_eq_none holds pushed
                  simp only [pure_bind, Guarded.of_pure, same none after ⟨_, held⟩]
              | some message =>
                  obtain ⟨-, rfl⟩ := Reassembler.push_eq_some holds pushed
                  simp only [bind_assoc, pure_bind, Guarded.of_bind, Guarded.of_pure,
                    same (some message) .new ⟨_, .idle⟩]

theorem packets_eq (config : SessionConfig) (token : CancelToken) (policy : TimeoutPolicy)
    (rounds : Nat) {state : Reassembler} {pending : List Packet} (holds : state.Holds pending) :
    packets config token policy rounds state =
      Guarded.of (Receive.packets config token policy rounds state) := by
  induction rounds generalizing state pending with
  | zero => rfl
  | succ rounds ih =>
      rw [packets, Receive.packets, Guarded.of_bind]
      refine bind_congr fun _ => ?_
      rw [Guarded.of_bind]
      refine bind_congr fun answer => ?_
      cases answer with
      | error reason => rfl
      | ok received =>
          refine absorb_bind holds received fun complete after holding => ?_
          obtain ⟨held, holding⟩ := holding
          cases complete with
          | none => exact ih holding
          | some message =>
              dsimp only
              cases Receive.classify config.reserved message with
              | some outcome => rfl
              | none =>
                  simp only [debugText_eq, Guarded.check_ok, pure_bind, Guarded.of_bind, ih holding]

end Receiving

section Sending

def sendPackets (config : SessionConfig) (token : CancelToken) :
    List Buffer → Guarded ExchangeError Unit
  | [] => pure ()
  | buffer :: rest => do
      Guarded.of (Attempt.stopIfCancelled token .cancelled)
      Guarded.of (Attempt.of .link (Action.send buffer.bytes))
      Guarded.of (Action.log (.sent (← Guarded.check buffer.packet)))
      Guarded.of (Action.wait config.packetSettle)
      sendPackets config token rest

def transmit (config : SessionConfig) (token : CancelToken) (stream : BufferStream) :
    Guarded ExchangeError Unit := do
  Guarded.of (Action.log (.sending stream.packets.length stream.flip))
  sendPackets config token stream.packets

theorem sendPackets_eq (config : SessionConfig) (token : CancelToken) (packets : List Packet) :
    sendPackets config token (packets.map Packet.buffer) =
      Guarded.of (Exchange.sendPackets config token packets) := by
  induction packets with
  | nil => rfl
  | cons packet rest ih =>
      rw [List.map_cons, sendPackets, Exchange.sendPackets]
      simp only [Buffer.packet_buffer, Guarded.check_ok, pure_bind, Guarded.of_bind, ih]
      rfl

theorem transmit_eq (config : SessionConfig) (token : CancelToken) (stream : PacketStream) :
    transmit config token stream.buffers = Guarded.of (Exchange.transmit config token stream) := by
  rw [transmit, Exchange.transmit, Guarded.of_bind, PacketStream.buffers, List.length_map,
    sendPackets_eq]
  rfl

end Sending

section Conversing

def awaitAcknowledgment (config : SessionConfig) : Guarded ExchangeError Unit := do
  if config.ackEnabled then
    let received ← Guarded.of (Attempt.of .link (Action.read config.readTimeout))
    let shown ← Guarded.check (slice received 0 (min received.length 2))
    Guarded.of (Action.log (.acknowledged shown))

/-- The count of retries goes round; the number of them in the error is one less than a count that
has passed the limit. -/
def converse (config : SessionConfig) (token : CancelToken) (stream : BufferStream)
    (command : Command) (retryOnSignal : Bool) :
    (rounds : Nat) → (retries : UInt32) → Guarded ExchangeError Message
  | 0, _ => Guarded.of Attempt.unfinished
  | rounds + 1, retries => do
      transmit config token stream
      awaitAcknowledgment config
      match ← packets config token .fatal (rounds + 1) Reassembler.new with
      | none => throw (.link .timeout)
      | some reply =>
          if Exchange.isTransientBusy reply command retryOnSignal config.reserved then
            let retries := retries + 1
            if config.busyRetry.exceeded retries then
              Guarded.of (Action.log (.stillBusy command))
              throw (.retryLimitExceeded (UInt32.ofNat (← Guarded.check (sub retries.toNat 1))))
            else
              Guarded.of (Action.log (.busy command retries))
              Guarded.of (Exchange.pause token config.busyBackoff)
              converse config token stream command retryOnSignal rounds retries
          else return Exchange.messageOf config.reserved reply

theorem awaitAcknowledgment_eq (config : SessionConfig) :
    awaitAcknowledgment config = Guarded.of (Exchange.awaitAcknowledgment config) := by
  unfold awaitAcknowledgment Exchange.awaitAcknowledgment
  split
  · simp only [slice_min, Guarded.check_ok, pure_bind, Guarded.of_bind]
  · rfl

/-- A count that passes a limit is not zero. -/
theorem sub_of_exceeded {limit : RetryLimit} {retries : UInt32} (exceeded : limit.exceeded retries = true) :
    sub retries.toNat 1 = .ok (retries - 1).toNat := by
  cases limit with
  | unbounded => cases exceeded
  | attempts most =>
      have passed : most < retries := of_decide_eq_true exceeded
      have positive : 1 ≤ retries.toNat := Nat.one_le_of_lt (UInt32.lt_iff_toNat_lt.mp passed)
      rw [sub_of_le positive, UInt32.toNat_sub_of_le retries 1 (UInt32.le_iff_toNat_le.mpr positive)]
      rfl

theorem converse_eq (config : SessionConfig) (token : CancelToken) (stream : PacketStream)
    (command : Command) (retryOnSignal : Bool) (rounds : Nat) (retries : UInt32) :
    converse config token stream.buffers command retryOnSignal rounds retries =
      Guarded.of (Exchange.converse config token stream command retryOnSignal rounds retries) := by
  induction rounds generalizing retries with
  | zero => rfl
  | succ rounds ih =>
      rw [converse, Exchange.converse, transmit_eq, awaitAcknowledgment_eq, packets_eq _ _ _ _ .idle]
      simp only [Guarded.of_bind]
      refine bind_congr fun _ => bind_congr fun _ => bind_congr fun outcome => ?_
      cases outcome with
      | none => rfl
      | some reply =>
          dsimp only
          split
          · split
            · rename_i exceeded
              simp only [sub_of_exceeded exceeded, Guarded.check_ok, pure_bind, Guarded.of_bind,
                UInt32.ofNat_toNat]
              rfl
            · simp only [Guarded.of_bind, ih]
          · rfl

end Conversing

section Sessions

variable (session : Session)

def prepare (message : Message) : Checked (Except ExchangeError BufferStream × Session) :=
  if session.connected then do
    match ← encode message session.nextFlip session.config.ackEnabled with
    | .error size => return (.error (.oversize size), session)
    | .ok stream => return (.ok stream, { session with nextFlip := session.nextFlip.toggled })
  else return (.error .notConnected, session)

def request (message : Message) (retryOnSignal : Bool) (rounds : Nat) :
    ExceptT Fault Action (Except ExchangeError Message × Session) := do
  match ← ExceptT.mk (.done (prepare session message)) with
  | (.error reason, following) => return (.error reason, following)
  | (.ok stream, following) => do
      let outcome ← (converse session.config session.token stream message.command retryOnSignal
        rounds 0).run
      return (outcome, following)

def receive (policy : TimeoutPolicy) (rounds : Nat) :
    ExceptT Fault Action (Except ExchangeError (Option ReceiveOutcome) × Session) :=
  if session.connected then do
    let outcome ← (packets session.config session.token policy rounds Reassembler.new).run
    return (outcome, session)
  else return (.error .notConnected, session)

def roundTrip (config : SessionConfig) (token : CancelToken) (stream : BufferStream) :
    Guarded ExchangeError Nat := do
  transmit config token stream
  if config.ackEnabled then
    let _ ← Guarded.of (Attempt.of .link (Action.read config.readTimeout))
    let _ ← Guarded.of (Attempt.of .link (Action.read config.readTimeout))
    return 2
  else
    let _ ← Guarded.of (Attempt.of .link (Action.read config.readTimeout))
    return 1

def pingPong (stream : BufferStream) : ExceptT Fault Action (Except ExchangeError Nat × Session) :=
  if session.connected then do
    let outcome ← (roundTrip session.config session.token stream).run
    return (outcome, session)
  else return (.error .notConnected, session)

theorem prepare_eq {message : Message} (held : message.length < 2 ^ 63) :
    prepare session message = .ok ((session.prepare message).1.map PacketStream.buffers,
      (session.prepare message).2) := by
  unfold prepare Session.prepare
  split
  · rw [encode_eq held, ok_bind]
    cases message.encode session.nextFlip session.config.ackEnabled <;> rfl
  · rfl

theorem run_of_beside {ε α : Type} (attempt : Attempt ε α) (following : Session) :
    (do let outcome ← (Guarded.of attempt).run; return (outcome, following) :
        ExceptT Fault Action (Except ε α × Session)) =
      ExceptT.lift (do let outcome ← attempt.run; return (outcome, following)) := by
  apply ExceptT.ext
  simp only [Guarded.of, ExceptT.run_mk, ExceptT.run_lift, bind_pure_comp, ExceptT.run_map,
    Functor.map_map]
  rfl

theorem request_eq {message : Message} (held : message.length < 2 ^ 63) (retryOnSignal : Bool)
    (rounds : Nat) :
    request session message retryOnSignal rounds =
      ExceptT.lift (session.request message retryOnSignal rounds) := by
  have prepared : (ExceptT.mk (.done (prepare session message)) :
      ExceptT Fault Action (Except ExchangeError BufferStream × Session)) =
      pure ((session.prepare message).1.map PacketStream.buffers, (session.prepare message).2) := by
    rw [prepare_eq session held]
    rfl
  rw [request, prepared, pure_bind, Session.request]
  cases session.prepare message with
  | mk result following =>
      cases result with
      | error reason => rfl
      | ok stream =>
          simp only [Except.map, converse_eq]
          exact run_of_beside _ following

theorem receive_eq (policy : TimeoutPolicy) (rounds : Nat) :
    receive session policy rounds = ExceptT.lift (session.receive policy rounds) := by
  unfold receive Session.receive Receive.run
  split
  · rw [packets_eq _ _ _ _ .idle]
    exact run_of_beside _ session
  · rfl

theorem roundTrip_eq (config : SessionConfig) (token : CancelToken) (stream : PacketStream) :
    roundTrip config token stream.buffers = Guarded.of (Exchange.roundTrip config token stream) := by
  rw [roundTrip, Exchange.roundTrip, transmit_eq, Guarded.of_bind]
  split
  · simp only [Guarded.of_bind]
    rfl
  · simp only [Guarded.of_bind]
    rfl

theorem pingPong_eq (stream : PacketStream) :
    pingPong session stream.buffers = ExceptT.lift (session.pingPong stream) := by
  unfold pingPong Session.pingPong
  split
  · rw [roundTrip_eq]
    exact run_of_beside _ session
  · rfl

end Sessions

section Connecting

def probePacket (probe : Message) (flip : FlipBit) :
    Checked (Except HandshakeError (Buffer × FlipBit)) := do
  match ← encode probe flip false with
  | .error size => return .error (.probeTooLarge size.packets)
  | .ok stream =>
      if stream.packets.length ≠ 1 then return .error (.probeTooLarge stream.packets.length)
      else return .ok (← (← index stream.packets 0).withAck true, flip.toggled)

def awaitEcho (timing : HandshakeTiming) (token : CancelToken) (reference : Buffer)
    (controller : Log.Controller) : (rounds : Nat) → Guarded HandshakeError Unit
  | 0 => Guarded.of Attempt.unfinished
  | rounds + 1 => do
      Guarded.of (Attempt.stopIfCancelled token .cancelled)
      let received ← Guarded.of (Attempt.of .aborted (Action.read timing.echoTimeout))
      let framed ← Guarded.check reference.framed
      if received.startsWith framed then
        Guarded.of (Action.log (.echoReceived controller))
      else
        let shown ← Guarded.check (slice received 0 (min received.length framed.length))
        Guarded.of (Action.log (.echoMismatch controller shown))
        awaitEcho timing token reference controller rounds

def awaitEchoes (timing : HandshakeTiming) (token : CancelToken) (reference : Buffer)
    (rounds : Nat) : Guarded HandshakeError Unit := do
  Guarded.of (Action.log (.handshakeStage .auxAckAwaited))
  awaitEcho timing token reference .aux rounds
  Guarded.of (Action.log (.handshakeStage .mainAckAwaited))
  awaitEcho timing token (← Guarded.check (reference.withAck false)) .main rounds

def handshake (timing : HandshakeTiming) (token : CancelToken) (probe : Message) (rounds : Nat) :
    Guarded HandshakeError FlipBit := do
  Guarded.of (Action.log (.handshakeStage .disconnected))
  match ← Guarded.check (probePacket probe .clear) with
  | .error reason => throw reason
  | .ok (reference, next) =>
      Guarded.of (Action.log (.handshakeStage .flipBitReset))
      Guarded.of (Handshake.sendResetMarker timing token timing.resetAttempts 1)
      Guarded.of (Attempt.of .aborted (Action.send reference.bytes))
      Guarded.of (Action.log (.handshakeStage .probeSent))
      match ← (awaitEchoes timing token reference rounds).outcome with
      | .ok () =>
          Guarded.of (Action.wait timing.postConnectSettle)
          Guarded.of (Action.log (.handshakeStage .connected))
          return next
      | .error reason =>
          Guarded.of (Action.log (.handshakeFailed reason))
          match ← Guarded.of (Action.reset) with
          | .ok () => throw reason
          | .error secondary =>
              Guarded.of (Action.log (.cleanUpFailed secondary))
              throw reason

def connect (config : SessionConfig) (token : CancelToken) (probe : Message) (rounds : Nat) :
    Guarded HandshakeError Session := do
  let next ← handshake config.handshake token probe rounds
  Guarded.of (Action.log (.connected next))
  return Session.resume config token next

theorem probePacket_eq {probe : Message} (held : probe.length < 2 ^ 63) (flip : FlipBit) :
    probePacket probe flip =
      .ok ((Handshake.probePacket probe flip).map fun (packet, next) => (packet.buffer, next)) := by
  rw [probePacket, encode_eq held, ok_bind, Handshake.probePacket]
  cases probe.encode flip false with
  | error size => rfl
  | ok stream =>
      match stream with
      | ⟨_, []⟩ => rfl
      | ⟨_, [packet]⟩ =>
          have found : index [packet.buffer] 0 = .ok packet.buffer := rfl
          simp [Except.map, PacketStream.buffers, found]
      | ⟨_, _ :: _ :: _⟩ => simp [Except.map, PacketStream.buffers]

theorem awaitEcho_eq (timing : HandshakeTiming) (token : CancelToken) (reference : Packet)
    (controller : Log.Controller) (rounds : Nat) :
    awaitEcho timing token reference.buffer controller rounds =
      Guarded.of (Handshake.awaitEcho timing token reference controller rounds) := by
  induction rounds with
  | zero => rfl
  | succ rounds ih =>
      rw [awaitEcho, Handshake.awaitEcho]
      simp only [Buffer.framed_buffer, Guarded.check_ok, pure_bind, slice_min, Guarded.of_bind]
      refine bind_congr fun _ => bind_congr fun received => ?_
      rw [Packet.isEcho]
      split
      · rfl
      · rw [Guarded.of_bind, ih]

theorem awaitEchoes_eq (timing : HandshakeTiming) (token : CancelToken) (reference : Packet)
    (rounds : Nat) :
    awaitEchoes timing token reference.buffer rounds =
      Guarded.of (Handshake.awaitEchoes timing token reference rounds) := by
  simp only [awaitEchoes, Handshake.awaitEchoes, awaitEcho_eq, Buffer.withAck_buffer, Guarded.check_ok,
    pure_bind, Guarded.of_bind]

theorem handshake_eq (timing : HandshakeTiming) (token : CancelToken) {probe : Message}
    (held : probe.length < 2 ^ 63) (rounds : Nat) :
    handshake timing token probe rounds = Guarded.of (Handshake.run timing token probe rounds) := by
  rw [handshake, probePacket_eq held, Guarded.check_ok, pure_bind, Handshake.run, Guarded.of_bind]
  cases Handshake.probePacket probe .clear with
  | error reason => rfl
  | ok prepared =>
      have given : Guarded.of (Attempt.ofExcept (.ok prepared) :
          Attempt HandshakeError (Packet × FlipBit)) = pure prepared := rfl
      simp only [Except.map, awaitEchoes_eq, Guarded.outcome_of, Guarded.of_bind, given, pure_bind]
      refine bind_congr fun _ => bind_congr fun _ => bind_congr fun _ => bind_congr fun _ =>
        bind_congr fun _ => bind_congr fun outcome => ?_
      cases outcome with
      | ok _ =>
          simp only [Guarded.of_bind]
          rfl
      | error reason =>
          simp only [Guarded.of_bind]
          refine bind_congr fun _ => bind_congr fun cleaned => ?_
          cases cleaned with
          | ok _ => rfl
          | error secondary => rw [Guarded.of_bind, Guarded.of_throw]

theorem connect_eq (config : SessionConfig) (token : CancelToken) {probe : Message}
    (held : probe.length < 2 ^ 63) (rounds : Nat) :
    connect config token probe rounds = Guarded.of (Session.connect config token probe rounds) := by
  rw [connect, Session.connect, handshake_eq _ _ held]
  simp only [Guarded.of_bind]
  rfl

end Connecting

end Checked

end PacketLink
