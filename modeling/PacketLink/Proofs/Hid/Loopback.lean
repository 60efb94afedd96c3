import PacketLink.Proofs.Hid.Ledger
import PacketLink.Proofs.Session.Requests

namespace PacketLink.Hid

/-! Requests to a device that sends every report back.

What it has waiting is known from what was written, and that from the packets that were sent. -/

@[simp] theorem length_report (packet : Bytes) : (report packet).length = 65 := by
  simp [report, Limits.packet]

theorem padTo_of_length {packet : Bytes} (size : packet.length = 64) :
    packet.padTo Limits.packet = packet := by
  rw [Limits.packet, Bytes.padTo, List.take_left' size]

theorem report_eq_cons {packet : Bytes} (size : packet.length = 64) : report packet = 0 :: packet := by
  rw [report, padTo_of_length size]

/-- A device that sends back each report without its number, in the order in which they came, and
leaves the token alone. -/
structure Loopback {σ : Type} (system : System σ) (token : CancelToken) extends Ledger system where
  /-- The input reports that were not read yet. -/
  waiting : σ → List Bytes
  echoes : ∀ report state, report.length = 65 →
    (system.write report state).result = .ok () ∧
      waiting (system.write report state).system = waiting state ++ [report.drop 1] ∧
      (system.write report state).raises ≠ some token
  delivers : ∀ timeout state first rest, waiting state = first :: rest →
    (system.read timeout state).result = .ok first ∧
      waiting (system.read timeout state).system = rest ∧
      (system.read timeout state).raises ≠ some token

namespace Loopback

variable {σ : Type} {system : System σ} {token : CancelToken} (loopback : Loopback system token)

/-- Since `base` was written, packets were sent of which none was read yet; ahead of them `queue` is
waiting. -/
structure Ahead (base : List Bytes) (handle : Handle σ) (queue : List Bytes) : Prop where
  isOpen : handle.isOpen = true
  sizes : ∀ packet ∈ queue, packet.length = 64
  sent : ∃ packets : List Bytes, loopback.written handle.system = base ++ packets.map report ∧
    loopback.waiting handle.system = queue ++ packets.map (Bytes.padTo Limits.packet)

theorem cooperates (interface : Interface) (sink : DebugSink) (base : List Bytes) :
    (system.link interface).Cooperates token sink (loopback.Ahead base) := by
  constructor
  · intro handle queue packet ahead
    obtain ⟨packets, written, waiting⟩ := ahead.sent
    obtain ⟨accepted, echoed, quiet⟩ := loopback.echoes (report packet) handle.system (length_report packet)
    have sent : (system.link interface).send packet handle =
        ⟨(system.write (report packet) handle.system).result.mapError Error.toLinkError,
          ⟨(system.write (report packet) handle.system).system, true⟩,
          (system.write (report packet) handle.system).raises, []⟩ := by
      simp only [System.link, Handle.send, ahead.isOpen, ↓reduceIte]
    rw [sent]
    refine ⟨by rw [accepted]; rfl, ⟨rfl, ahead.sizes, packets ++ [packet], ?_, ?_⟩, quiet, rfl⟩
    · rw [loopback.write, written, List.map_append, List.append_assoc]
      rfl
    · rw [echoed, waiting, List.map_append, List.append_assoc]
      rfl
  · intro handle packet queue timeout ahead
    obtain ⟨packets, written, waiting⟩ := ahead.sent
    obtain ⟨size, sizes⟩ := List.forall_mem_cons.mp ahead.sizes
    obtain ⟨delivered, remaining, quiet⟩ := loopback.delivers (min timeout.toMillis mostMillis)
      handle.system packet (queue ++ packets.map (Bytes.padTo Limits.packet)) waiting
    have whole : packet.take Limits.packet = packet := List.take_of_length_le (Nat.le_of_eq size)
    have nonempty : packet.isEmpty = false := by
      cases packet with
      | nil => cases size
      | cons first rest => rfl
    have read : (system.link interface).read timeout handle =
        ⟨.ok packet, ⟨(system.read (min timeout.toMillis mostMillis) handle.system).system, true⟩,
          (system.read (min timeout.toMillis mostMillis) handle.system).raises, []⟩ := by
      simp only [System.link, Handle.read, ahead.isOpen, ↓reduceIte, delivered, whole, nonempty,
        Bool.false_eq_true]
    rw [read]
    refine ⟨rfl, ⟨rfl, sizes, packets, ?_, remaining⟩, quiet, rfl⟩
    rw [loopback.read, written]

variable {loopback}

theorem Ahead.waiting_eq {base queue sent : List Bytes} {handle : Handle σ}
    (ahead : loopback.Ahead base handle queue)
    (written : loopback.written handle.system = base ++ sent.map report) :
    loopback.waiting handle.system = queue ++ sent.map (Bytes.padTo Limits.packet) := by
  obtain ⟨packets, again, waiting⟩ := ahead.sent
  have reports : packets.map report = sent.map report :=
    List.append_cancel_left (again.symm.trans written)
  have contents := congrArg (List.map (List.drop 1)) reports
  simp only [List.map_map, Function.comp_def, report, List.drop_succ_cons, List.drop_zero] at contents
  rw [waiting]
  exact congrArg (queue ++ ·) contents

/-- The interface is open, the token is not raised, and `queue` is waiting. -/
structure Stands (loopback : Loopback system token) (world : World (Handle σ)) (queue : List Bytes) :
    Prop where
  active : token ∉ world.raised
  isOpen : world.device.isOpen = true
  waiting : loopback.waiting world.device.system = queue

/-- What an attempt sends is written, and waits behind what it leaves in the queue. -/
theorem Stands.performs {ε α : Type} {attempt : Attempt ε α} {interface : Interface}
    {sink : DebugSink} {queue left sent received : List Bytes} {outcome : Except ε α}
    {lines : List String} {before : World (Handle σ)} (stands : loopback.Stands before queue)
    (sizes : ∀ packet ∈ queue, packet.length = 64)
    (performs : ∀ base, (loopback.cooperates interface sink base).Performs attempt queue outcome sent
      received lines left) :
    ∃ after, attempt.on (system.link interface) before = (some outcome, after) ∧
      loopback.Stands after (left ++ sent.map (Bytes.padTo Limits.packet)) ∧
      loopback.written after.device.system =
        loopback.written before.device.system ++ sent.map report := by
  have ahead : loopback.Ahead (loopback.written before.device.system) before.device queue :=
    ⟨stands.isOpen, sizes, [], by simp, by simp [stands.waiting]⟩
  obtain ⟨after, ran, exchanged, ready⟩ := performs _ before ⟨ahead, stands.active⟩
  have written := loopback.written_of_exchanged ran exchanged ready.queue.isOpen
  exact ⟨after, ran, ⟨ready.active, ready.queue.isOpen, ready.queue.waiting_eq written⟩, written⟩

end Loopback

section Requests

variable {σ : Type} {system : System σ} {session : Session} {message : Message}
  {loopback : Loopback system session.token} {before : World (Handle σ)}

/-- The packets of a stream come back as they were sent. -/
theorem Loopback.Stands.transmit (stands : loopback.Stands before []) (interface : Interface)
    (stream : PacketStream) :
    ∃ after, (Exchange.transmit session.config session.token stream).on (system.link interface) before =
        (some (.ok ()), after) ∧
      loopback.Stands after (stream.packets.map Packet.bytes) ∧
      loopback.written after.device.system = loopback.written before.device.system ++
        stream.packets.map fun packet => 0 :: packet.bytes := by
  have echoes : (stream.packets.map Packet.bytes).map (Bytes.padTo Limits.packet) =
      stream.packets.map Packet.bytes := by
    rw [List.map_map]
    exact List.map_congr_left fun packet _ => padTo_of_length packet.length_bytes
  have reports : (stream.packets.map Packet.bytes).map report =
      stream.packets.map fun packet => 0 :: packet.bytes := by
    rw [List.map_map]
    exact List.map_congr_left fun packet _ => report_eq_cons packet.length_bytes
  have performs (base : List Bytes) := Exchange.performs_transmit
    (loopback.cooperates interface session.config.debugSink base) [] stream
  obtain ⟨after, ran, echoed, written⟩ := stands.performs (by simp) performs
  rw [List.nil_append, echoes] at echoed
  rw [reports] at written
  exact ⟨after, ran, echoed, written⟩

/-- A receive of the one stream that is waiting writes nothing. -/
theorem Loopback.Stands.receive {reply : Delivery} {outcome : ReceiveOutcome} {rounds : Nat}
    (stands : loopback.Stands before reply.received) (interface : Interface)
    (sizes : ∀ packet ∈ reply.received, packet.length = 64)
    (classified : Receive.classify session.config.reserved reply.message = some outcome)
    (enough : reply.received.length ≤ rounds) :
    ∃ after, (Receive.run session.config session.token .fatal rounds).on (system.link interface)
          before = (some (.ok (some outcome)), after) ∧
      loopback.Stands after [] ∧
      loopback.written after.device.system = loopback.written before.device.system := by
  have performs (base : List Bytes) := @Receive.performs_run (Handle σ) (system.link interface)
    session.config session.token _ (loopback.cooperates interface session.config.debugSink base) .fatal []
    [] reply outcome (by simp) classified rounds enough
  rw [List.append_nil] at performs
  obtain ⟨after, ran, emptied, written⟩ := stands.performs sizes performs
  exact ⟨after, ran, emptied, by rw [written]; exact List.append_nil _⟩

variable (loopback) (interface : Interface)

theorem Loopback.converse (unacknowledged : session.config.ackEnabled = false)
    (fits : message.length ≤ 988) (noText : message.command ≠ session.config.reserved.debugMessage)
    (noRetry : message.command ≠ session.config.reserved.retry) (retryOnSignal : Bool) {rounds : Nat}
    (enough : Message.packetsNeeded message.length ≤ rounds) (flip : FlipBit)
    (stands : loopback.Stands before []) :
    ∃ after, (Exchange.converse session.config session.token ⟨flip, message.packets flip false⟩
          message.command retryOnSignal rounds 0).on (system.link interface) before =
        (some (.ok message), after) ∧
      loopback.Stands after [] ∧
      loopback.written after.device.system = loopback.written before.device.system ++
        (message.packets flip false).map fun packet => 0 :: packet.bytes := by
  have positive := (Message.packetsNeeded_bounds fits).1
  obtain ⟨fewer, rfl⟩ : ∃ fewer, rounds = fewer + 1 := Nat.exists_eq_add_of_le' (by omega)
  obtain ⟨middle, transmitted, echoed, written⟩ :=
    stands.transmit interface ⟨flip, message.packets flip false⟩
  have unasked : (Exchange.awaitAcknowledgment session.config).on (system.link interface) middle =
      (some (.ok ()), middle) := by
    rw [Exchange.awaitAcknowledgment, unacknowledged]
    rfl
  have classified : Receive.classify session.config.reserved message = some (.message message) := by
    rw [Receive.classify, if_neg noText, if_neg noRetry]
  have returning : loopback.Stands middle (Delivery.encoded message flip false fits).received := echoed
  have room : (Delivery.encoded message flip false fits).received.length ≤ fewer + 1 := by
    simpa [Delivery.encoded] using enough
  obtain ⟨after, received, emptied, kept⟩ :=
    returning.receive interface (by simp [Delivery.encoded]) classified room
  -- A reply with the command that was sent is no sign of a busy device, the status included.
  have settled : Exchange.isTransientBusy (.message message) message.command retryOnSignal
      session.config.reserved = false := by
    simp [Exchange.isTransientBusy]
  refine ⟨after, ?_, emptied, by rw [kept, written]⟩
  rw [Exchange.converse_succ, Attempt.on_bind_of_ok transmitted, Attempt.on_bind_of_ok unasked,
    Attempt.on_bind_of_ok received]
  simp only [Exchange.react, settled, Bool.false_eq_true, ↓reduceIte]
  rfl

/-- A request to a device that sends its reports back is answered by the message itself: as many reports
as it needs are written, 65 bytes each, and none of them is left to be read. -/
theorem Loopback.request_returns (connected : session.connected = true)
    (unacknowledged : session.config.ackEnabled = false) (fits : message.length ≤ 988)
    (noText : message.command ≠ session.config.reserved.debugMessage)
    (noRetry : message.command ≠ session.config.reserved.retry) (retryOnSignal : Bool) {rounds : Nat}
    (enough : Message.packetsNeeded message.length ≤ rounds)
    (active : session.token ∉ before.raised) (isOpen : before.device.isOpen = true)
    (empty : loopback.waiting before.device.system = []) :
    ∃ stream after, message.encode session.nextFlip false = .ok stream ∧
      (session.request message retryOnSignal rounds).run (system.link interface) before =
        (some (.ok message, session.advanced), after) ∧
      (∃ reports, loopback.written after.device.system =
          loopback.written before.device.system ++ reports ∧
        reports.length = Message.packetsNeeded message.length ∧
        (∀ report ∈ reports, report.length = 65) ∧
        reports = stream.packets.map fun packet => 0 :: packet.bytes) ∧
      loopback.waiting after.device.system = [] ∧ after.device.isOpen = true := by
  obtain ⟨stream, encoded, prepared⟩ := Session.prepare_of_fits connected fits
  rw [unacknowledged] at encoded
  obtain ⟨-, rfl⟩ := message.eq_of_encode _ _ encoded
  obtain ⟨after, ran, stands, written⟩ := loopback.converse interface unacknowledged fits noText noRetry
    retryOnSignal enough session.nextFlip ⟨active, isOpen, empty⟩
  refine ⟨_, after, encoded, ?_, ⟨_, written, by simp, by simp, rfl⟩, stands.waiting, stands.isOpen⟩
  rw [Session.request_run _ before retryOnSignal rounds prepared, ran]
  rfl

end Requests

/-- What a device has that does nothing but send reports back. -/
structure Mirror where
  waiting : List Bytes := []
  written : List Bytes := []

namespace Mirror

def system : System Mirror where
  interfaces _ := .ok []
  openPath _ mirror := ⟨.ok (), mirror, none⟩
  write report mirror :=
    ⟨.ok (), ⟨mirror.waiting ++ [report.drop 1], mirror.written ++ [report]⟩, none⟩
  read _ mirror :=
    match mirror.waiting with
    | [] => ⟨.ok [], mirror, none⟩
    | first :: rest => ⟨.ok first, { mirror with waiting := rest }, none⟩
  close mirror := mirror

def loopback (token : CancelToken) : Loopback system token where
  written := Mirror.written
  write _ _ := rfl
  read _ mirror := by
    simp only [system]
    split <;> rfl
  waiting := Mirror.waiting
  echoes _ _ _ := ⟨rfl, rfl, nofun⟩
  delivers _ mirror first rest waiting := by
    simp only [system, waiting]
    exact ⟨trivial, trivial, nofun⟩

/-- A device status of two packets. -/
theorem request_returns_status :
    ∃ stream after, (⟨.deviceStatus, List.replicate 100 7⟩ : Message).encode .set false = .ok stream ∧
      ((Session.resume {} ⟨0⟩ .set).request ⟨.deviceStatus, List.replicate 100 7⟩ false 2).run
          (system.link ⟨0x1234, 0x5678, "mirror", 0, none, none⟩) { device := ⟨{}, true⟩ } =
        (some (.ok ⟨.deviceStatus, List.replicate 100 7⟩, .resume {} ⟨0⟩ .clear), after) ∧
      after.device.system = ⟨[], stream.packets.map fun packet => 0 :: packet.bytes⟩ ∧
      after.device.system.written.length = 2 := by
  obtain ⟨stream, after, encoded, ran, ⟨reports, written, count, -, spelled⟩, empty, -⟩ :=
    @Loopback.request_returns Mirror system (.resume {} ⟨0⟩ .set)
      ⟨.deviceStatus, List.replicate 100 7⟩ (loopback ⟨0⟩) { device := ⟨{}, true⟩ }
      ⟨0x1234, 0x5678, "mirror", 0, none, none⟩ rfl rfl (by decide) (by decide) (by decide) false 2
      (by decide) (by simp) rfl rfl
  have whole : after.device.system.written = reports := written
  refine ⟨stream, after, encoded, ran, ?_, by rw [whole, count]; decide⟩
  rw [← spelled, ← whole]
  exact congrArg (Mirror.mk · _) empty

end Mirror

end PacketLink.Hid
