import PacketLink.Proofs.Link.Outcomes
import PacketLink.Proofs.Session.Backoffs

namespace PacketLink

/-! What an exchange gives to the link: a stream is sent whole, or it breaks off where the link
refuses a packet or the token is seen raised. The other parts of an exchange send nothing. -/

/-- Fails a call that did not come to use the link. -/
def ExchangeError.refuses : ExchangeError → Bool
  | .notConnected | .oversize _ => true
  | _ => false

/-- What of these packets was sent. -/
inductive Sent (packets : List Bytes) : Option (Except ExchangeError Unit) → Array Event → Prop
  | whole {events : Array Event} (sends : Trace.sends events = packets.map (·, .ok ()))
      (unheard : Trace.delivered events = []) : Sent packets (some (.ok ())) events
  /-- The packet after the accepted ones was refused, or was not sent any more. -/
  | cut {events : Array Event} {reason : ExchangeError} (accepted : List Bytes) {left : List Bytes}
      {next : Bytes} {last : List (Bytes × Except LinkError Unit)}
      (parts : packets = accepted ++ next :: left)
      (sends : Trace.sends events = accepted.map (·, .ok ()) ++ last)
      (refused : last = [] ∨ ∃ answer, last = [(next, .error answer)])
      (late : reason.refuses = false) : Sent packets (some (.error reason)) events

namespace Sent

variable {packet : Bytes} {rest : List Bytes} {outcome : Option (Except ExchangeError Unit)}
  {events more : Array Event}

theorem cons (first : Trace.sends events = [(packet, .ok ())]) (unheard : Trace.delivered events = [])
    (later : Sent rest outcome more) : Sent (packet :: rest) outcome (events ++ more) := by
  cases later with
  | whole sends unheardLater =>
      refine .whole ?_ ?_
      · rw [Trace.sends_append, first, sends]
        rfl
      · rw [Trace.delivered_append, unheard, unheardLater]
        rfl
  | cut accepted parts sends refused late =>
      refine .cut (packet :: accepted) (by rw [parts]; rfl) ?_ refused late
      rw [Trace.sends_append, first, sends]
      rfl

theorem silent (nothing : Trace.sends events = []) (unheard : Trace.delivered events = [])
    (later : Sent rest outcome more) : Sent rest outcome (events ++ more) := by
  cases later with
  | whole sends unheardLater =>
      refine .whole ?_ ?_
      · rw [Trace.sends_append, nothing, sends, List.nil_append]
      · rw [Trace.delivered_append, unheard, unheardLater, List.nil_append]
  | cut accepted parts sends refused late =>
      refine .cut accepted parts ?_ refused late
      rw [Trace.sends_append, nothing, sends, List.nil_append]

theorem cancelled : Sent (packet :: rest) (some (.error .cancelled)) #[] :=
  .cut [] rfl rfl (.inl rfl) rfl

theorem refusal {reason : LinkError} (sends : Trace.sends events = [(packet, .error reason)]) :
    Sent (packet :: rest) (some (.error (.link reason))) events :=
  .cut [] rfl sends (.inr ⟨reason, rfl⟩) rfl

theorem only {packets : List Bytes} (sent : Sent packets outcome events) :
    ∀ packet ∈ Trace.attempted events, packet ∈ packets := by
  intro packet member
  rw [Trace.attempted_eq] at member
  cases sent with
  | whole sends unheard =>
      rw [sends] at member
      simpa using member
  | @cut _ _ accepted left next last parts sends refused late =>
      have within : packet ∈ accepted ∨ packet = next := by
        rcases refused with rfl | ⟨answer, rfl⟩
        · exact .inl (by simpa [sends] using member)
        · simpa [sends] using member
      rw [parts]
      rcases within with begun | rfl
      · exact List.mem_append_left _ begun
      · simp

theorem late {packets : List Bytes} {reason : ExchangeError}
    (sent : Sent packets (some (.error reason)) events) : reason.refuses = false := by
  cases sent with
  | cut accepted parts sends refused late => exact late

end Sent

variable {σ : Type} {link : Link σ} {config : SessionConfig} {token : CancelToken}

namespace Exchange

theorem wait_bind_sent {packets : List Bytes} {span : Duration}
    {next : Unit → Attempt ExchangeError Unit} (rest : (next ()).Leaves link (Sent packets)) :
    (liftM (Action.wait span) >>= next).Leaves link (Sent packets) := by
  unfold Action.wait
  split
  · exact rest
  · exact Attempt.Leaves.sleep_bind (rest.mono fun _ _ later => later.silent rfl rfl)

theorem sendPackets_leaves (packets : List Packet) :
    (sendPackets config token packets).Leaves link (Sent (packets.map Packet.bytes)) := by
  induction packets with
  | nil => exact Attempt.Leaves.pure (.whole rfl rfl)
  | cons packet rest ih =>
      refine Attempt.Leaves.stop_bind .cancelled (Attempt.Leaves.send_bind ?_ ?_)
      · intro notes reason
        exact .refusal (Trace.sends_send _ _ _)
      · intro notes
        have following : (do
            Action.log (.sent packet)
            Action.wait config.packetSettle
            sendPackets config token rest : Attempt ExchangeError Unit).Leaves link
              (Sent (rest.map Packet.bytes)) :=
          Attempt.Leaves.note_bind
            ((wait_bind_sent ih).mono fun _ _ later => later.silent rfl rfl)
        exact following.mono fun _ _ later =>
          later.cons (Trace.sends_send _ _ _) (Trace.delivered_send _ _ _)

theorem transmit_leaves (stream : PacketStream) :
    (transmit config token stream).Leaves link (Sent (stream.packets.map Packet.bytes)) :=
  Attempt.Leaves.note_bind
    ((sendPackets_leaves stream.packets).mono fun _ _ later => later.silent rfl rfl)

end Exchange

/-! The parts that send nothing. None of their failures is one of a call that did not come to use
the link. -/

section Listening

open Attempt

abbrev Late (reason : ExchangeError) : Prop := reason.refuses = false

theorem Receive.absorb_listens {allowed : ExchangeError → Prop}
    (framing : ∀ reason, allowed (.framing reason)) (state : Reassembler) (received : Bytes) :
    (Receive.absorb state received).Listens link allowed := by
  unfold Receive.absorb
  split
  · exact Listens.bind (Listens.note _) fun _ => Listens.throw (framing _)
  · refine Listens.bind (Listens.note _) fun _ => ?_
    split
    · exact Listens.bind (Listens.note _) fun _ => Listens.throw (framing _)
    · exact Listens.pure _
    · exact Listens.bind (Listens.note _) fun _ => Listens.pure _

theorem Receive.afterFailedRead_listens (policy : TimeoutPolicy) (state : Reassembler)
    (reason : LinkError) : (Receive.afterFailedRead policy state reason).Listens link Late := by
  unfold Receive.afterFailedRead
  split
  · dsimp only
    split
    · exact Listens.bind (Listens.note _) fun _ => Listens.pure _
    · exact Listens.pure _
  · exact Listens.throw rfl

theorem Receive.packets_listens (policy : TimeoutPolicy) (rounds : Nat) (state : Reassembler) :
    (Receive.packets config token policy rounds state).Listens link Late := by
  induction rounds generalizing state with
  | zero => exact Listens.unfinished
  | succ rounds ih =>
      refine Listens.bind (Listens.stop rfl) fun _ => ?_
      refine Listens.bind (Listens.readOutcome _) fun answer => ?_
      cases answer with
      | error reason => exact afterFailedRead_listens policy state reason
      | ok received =>
          refine Listens.bind (absorb_listens (fun _ => rfl) state received) fun ⟨message, next⟩ => ?_
          cases message with
          | none => exact ih next
          | some message =>
              dsimp only
              split
              · exact Listens.pure _
              · refine Listens.bind ?_ fun _ => ih next
                cases config.debugSink <;> exact Listens.note _

theorem Receive.run_listens (policy : TimeoutPolicy) (rounds : Nat) :
    (Receive.run config token policy rounds).Listens link Late :=
  packets_listens policy rounds _

theorem Exchange.awaitAcknowledgment_listens :
    (Exchange.awaitAcknowledgment config).Listens link Late := by
  unfold Exchange.awaitAcknowledgment
  split
  · have late : ∀ reason : LinkError, Late (.link reason) := fun _ => rfl
    exact Listens.bind (Listens.read late _) fun _ => Listens.note _
  · exact Listens.pure ()

theorem Exchange.sleepAll_listens (spans : List Duration) :
    (Exchange.sleepAll spans).Listens link Late := by
  induction spans with
  | nil => exact Listens.pure ()
  | cons span spans ih => exact Listens.bind (Listens.sleep span) fun _ => ih

theorem Exchange.pause_listens (total : Duration) :
    (Exchange.pause token total).Listens link Late := by
  have late : Late .cancelled := rfl
  intro before
  rw [Exchange.pause_on]
  exact Listens.bind (Listens.stop late) (fun _ => Exchange.sleepAll_listens _) before

/-- A round trip sends packets of its stream only. -/
theorem Exchange.roundTrip_leaves (stream : PacketStream) :
    (Exchange.roundTrip config token stream).Leaves link fun _ events =>
      ∀ packet ∈ Trace.attempted events, packet ∈ stream.packets.map Packet.bytes := by
  have fails : ∀ reason : LinkError, Late (.link reason) := fun _ => rfl
  have answers : (if config.ackEnabled then do
        let _ ← Attempt.of .link (Action.read config.readTimeout)
        let _ ← Attempt.of .link (Action.read config.readTimeout)
        return 2
      else do
        let _ ← Attempt.of .link (Action.read config.readTimeout)
        return 1 : Attempt ExchangeError Nat).Listens link Late := by
    split
    · exact Listens.bind (Listens.read fails _) fun _ =>
        Listens.bind (Listens.read fails _) fun _ => Listens.pure 2
    · exact Listens.bind (Listens.read fails _) fun _ => Listens.pure 1
  refine Leaves.bind (transmit_leaves stream) (fun _ sent => sent.only) (fun _ _ sent => sent.only) ?_
  rintro _ events sent
  refine answers.mono ?_
  rintro outcome more ⟨silent, -⟩
  rw [Trace.attempted_append, Trace.attempted_eq more, silent, List.map_nil, List.append_nil]
  exact sent.only

end Listening

end PacketLink
