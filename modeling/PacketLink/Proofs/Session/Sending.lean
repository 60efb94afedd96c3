import PacketLink.Proofs.Link.Cooperation
import PacketLink.Proofs.Session.Backoffs

namespace PacketLink

/-! Sending a stream, waiting for its acknowledgment, and waiting before it is sent again. -/

namespace Exchange

section Cooperating

variable {σ : Type} {link : Link σ} {config : SessionConfig} {token : CancelToken}
  {queued : σ → List Bytes → Prop} (cooperates : link.Cooperates token config.debugSink queued)
  (queue : List Bytes)

include cooperates

theorem performs_sendPackets (packets : List Packet) :
    cooperates.Performs (sendPackets config token packets) queue (.ok ())
      (packets.map Packet.bytes) [] [] queue := by
  induction packets with
  | nil => exact cooperates.done _ _ rfl
  | cons packet rest ih =>
      refine cooperates.stop_bind (cooperates.send_bind ExchangeError.link packet.bytes ?_)
      refine cooperates.log_bind (by cases config.debugSink <;> rfl) ?_
      exact cooperates.wait_bind config.packetSettle ih

theorem performs_transmit (stream : PacketStream) :
    cooperates.Performs (transmit config token stream) queue (.ok ())
      (stream.packets.map Packet.bytes) [] [] queue := by
  refine cooperates.log_bind (by cases config.debugSink <;> rfl) ?_
  exact performs_sendPackets cooperates queue stream.packets

/-- The packets that an acknowledgment takes from the link. -/
def acknowledgments (config : SessionConfig) (acknowledgment : Bytes) : List Bytes :=
  if config.ackEnabled then [acknowledgment] else []

theorem performs_awaitAcknowledgment (acknowledgment : Bytes) :
    cooperates.Performs (awaitAcknowledgment config)
      (acknowledgments config acknowledgment ++ queue) (.ok ()) []
      (acknowledgments config acknowledgment) [] queue := by
  unfold awaitAcknowledgment acknowledgments
  split
  · refine cooperates.read_bind ExchangeError.link config.readTimeout acknowledgment ?_
    exact cooperates.log (by cases config.debugSink <;> rfl)
  · exact cooperates.done _ _ rfl

theorem performs_sleepAll (spans : List Duration) :
    cooperates.Performs (sleepAll spans) queue (.ok ()) [] [] [] queue := by
  induction spans with
  | nil => exact cooperates.done _ _ rfl
  | cons span spans ih => exact cooperates.sleep_bind span ih

theorem performs_pause (total : Duration) :
    cooperates.Performs (pause token total) queue (.ok ()) [] [] [] queue := by
  intro before ready
  rw [pause_on]
  exact cooperates.stop_bind (performs_sleepAll cooperates queue (slices total)) before ready

end Cooperating

section Arbitrary

/-! What was sent and received on any link, where a part of an exchange ended well. -/

variable {σ : Type} {link : Link σ} {config : SessionConfig} {token : CancelToken}
  {before after : World σ}

theorem sendPackets_sends {packets : List Packet}
    (ran : (sendPackets config token packets).on link before = (some (.ok ()), after)) :
    ∃ events, Stretch before after events (packets.map Packet.bytes) [] := by
  induction packets generalizing before with
  | nil =>
      obtain ⟨-, rfl⟩ := Prod.mk.inj ran
      exact ⟨_, .refl before⟩
  | cons packet rest ih =>
      obtain ⟨_, sent, accepted, ran⟩ := Attempt.ok_of_bind (Attempt.ok_of_stop_bind ran)
      obtain ⟨_, logged, noted, ran⟩ := Attempt.ok_of_bind ran
      obtain ⟨_, settled, waited, ran⟩ := Attempt.ok_of_bind ran
      obtain ⟨_, sending⟩ := Stretch.of_send accepted
      obtain ⟨_, logging⟩ := Stretch.of_note noted
      obtain ⟨_, waiting⟩ := Stretch.of_wait waited
      obtain ⟨_, following⟩ := ih ran
      exact ⟨_, sending.trans (logging.trans (waiting.trans following))⟩

theorem transmit_sends {stream : PacketStream}
    (ran : (transmit config token stream).on link before = (some (.ok ()), after)) :
    ∃ events, Stretch before after events (stream.packets.map Packet.bytes) [] := by
  obtain ⟨_, logged, noted, ran⟩ := Attempt.ok_of_bind ran
  obtain ⟨_, logging⟩ := Stretch.of_note noted
  obtain ⟨_, sending⟩ := sendPackets_sends ran
  exact ⟨_, logging.trans sending⟩

theorem awaitAcknowledgment_reads
    (ran : (awaitAcknowledgment config).on link before = (some (.ok ()), after)) :
    ∃ events acknowledgment,
      Stretch before after events [] (acknowledgments config acknowledgment) := by
  unfold awaitAcknowledgment at ran
  unfold acknowledgments
  cases enabled : config.ackEnabled with
  | true =>
      rw [enabled] at ran
      obtain ⟨packet, received, delivered, ran⟩ := Attempt.ok_of_bind ran
      obtain ⟨_, reading⟩ := Stretch.of_read delivered
      obtain ⟨_, logging⟩ := Stretch.of_note ran
      exact ⟨_, packet, reading.trans logging⟩
  | false =>
      rw [enabled] at ran
      obtain ⟨-, rfl⟩ := Prod.mk.inj ran
      exact ⟨_, [], .refl before⟩

theorem sleepAll_silent {spans : List Duration}
    (ran : (sleepAll spans).on link before = (some (.ok ()), after)) :
    ∃ events, Stretch before after events [] [] := by
  induction spans generalizing before with
  | nil =>
      obtain ⟨-, rfl⟩ := Prod.mk.inj ran
      exact ⟨_, .refl before⟩
  | cons span spans ih =>
      obtain ⟨_, rested, slept, ran⟩ := Attempt.ok_of_bind ran
      obtain ⟨_, sleeping⟩ := Stretch.of_sleep slept
      obtain ⟨_, following⟩ := ih ran
      exact ⟨_, sleeping.trans following⟩

theorem pause_silent {total : Duration}
    (ran : (pause token total).on link before = (some (.ok ()), after)) :
    ∃ events, Stretch before after events [] [] := by
  rw [pause_on] at ran
  exact sleepAll_silent (Attempt.ok_of_stop_bind ran)

end Arbitrary

end Exchange

end PacketLink
