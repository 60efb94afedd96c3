import PacketLink.Session.Basic
import PacketLink.Proofs.Framing.Echoes
import PacketLink.Proofs.Framing.Streams
import PacketLink.Proofs.Link.Replays

namespace PacketLink

/-! Handshakes on links that accept every packet and answer the reads from a script: they succeed
exactly if the two echoes are ahead, in their order and with no failed read before the second. -/

namespace Packet

variable {reference : Packet}

/-- The answer at `i` is the first one from `start` on that echoes the packet, and no answer between
them is a failure. -/
structure EchoAt (reference : Packet) (script : List ReadResult) (start i : Nat) : Prop where
  late : start ≤ i
  echo : ∃ received, script[i]? = some (.ok received) ∧ reference.framed <+: received
  others : ∀ k, start ≤ k → k < i →
    ∃ received, script[k]? = some (.ok received) ∧ ¬ reference.framed <+: received

namespace EchoAt

variable {script rest : List ReadResult} {answer : ReadResult} {start i : Nat}

theorem lt_length (echoed : reference.EchoAt script start i) : i < script.length := by
  obtain ⟨received, found, -⟩ := echoed.echo
  exact (List.getElem?_eq_some_iff.mp found).1

theorem iff_drop :
    reference.EchoAt script start (start + i) ↔ reference.EchoAt (script.drop start) 0 i := by
  constructor
  · rintro ⟨-, echo, others⟩
    refine ⟨Nat.zero_le i, ?_, fun k _ before => ?_⟩
    · rwa [List.getElem?_drop]
    · rw [List.getElem?_drop]
      exact others (start + k) (by omega) (by omega)
  · rintro ⟨-, echo, others⟩
    refine ⟨by omega, ?_, fun k late before => ?_⟩
    · rwa [List.getElem?_drop] at echo
    · obtain ⟨k, rfl⟩ := Nat.exists_eq_add_of_le late
      have other := others k (Nat.zero_le k) (by omega)
      rwa [List.getElem?_drop] at other

theorem zero_iff :
    reference.EchoAt (answer :: rest) 0 0 ↔
      ∃ received, answer = .ok received ∧ reference.framed <+: received := by
  constructor
  · rintro ⟨-, ⟨received, found, echo⟩, -⟩
    exact ⟨received, Option.some.inj found, echo⟩
  · rintro ⟨received, rfl, echo⟩
    exact ⟨Nat.le_refl 0, ⟨received, rfl, echo⟩, by omega⟩

theorem succ_iff :
    reference.EchoAt (answer :: rest) 0 (i + 1) ↔
      (∃ received, answer = .ok received ∧ ¬ reference.framed <+: received) ∧
        reference.EchoAt rest 0 i := by
  constructor
  · rintro ⟨-, echo, others⟩
    obtain ⟨received, found, other⟩ := others 0 (Nat.le_refl 0) (Nat.succ_pos i)
    refine ⟨⟨received, Option.some.inj found, other⟩, Nat.zero_le i, echo, fun k _ before => ?_⟩
    exact others (k + 1) (Nat.zero_le _) (Nat.succ_lt_succ before)
  · rintro ⟨⟨received, rfl, other⟩, -, echo, others⟩
    refine ⟨Nat.zero_le _, echo, fun k _ before => ?_⟩
    cases k with
    | zero => exact ⟨received, rfl, other⟩
    | succ k => exact others k (Nat.zero_le k) (Nat.lt_of_succ_lt_succ before)

end EchoAt

end Packet

namespace Handshake

/-- The probe's packet is echoed at `i`, and without the acknowledgment request at `j`. -/
structure Echoed (probe : Message) (script : List ReadResult) (packet : Packet) (i j : Nat) :
    Prop where
  encoded : probe.encode .clear true = .ok ⟨.clear, [packet]⟩
  aux : packet.EchoAt script 0 i
  main : (packet.withAck false).EchoAt script (i + 1) j

theorem probePacket_eq (probe : Message) (flip : FlipBit) (short : 4 + probe.length ≤ 62) :
    probePacket probe flip = .ok (probe.single flip true, flip.toggled) := by
  rw [probePacket, probe.encode_single flip false short]
  rfl

theorem probePacket_long (probe : Message) (flip : FlipBit) (long : 62 < 4 + probe.length) :
    probePacket probe flip = .error (.probeTooLarge (Message.packetsNeeded probe.length)) := by
  cases fits : probe.fits with
  | false => simp [probePacket, Message.encode, fits]
  | true =>
      have several : (probe.packets flip false).length ≠ 1 := by
        rw [Message.length_packets, Message.packetsNeeded_eq]
        omega
      rw [probePacket, probe.encode_eq_ok flip false (probe.fits_iff.mp fits)]
      dsimp only
      split
      · rename_i packet alone
        rw [alone] at several
        exact absurd rfl several
      · rw [Message.length_packets]

variable {σ : Type} {link : Link σ} {token : CancelToken} {ahead : σ → List ReadResult → Prop}
  (replays : link.Replays token ahead) {timing : HandshakeTiming} {reference : Packet}
  {controller : Log.Controller} {script : List ReadResult} {rounds i j : Nat}

include replays

theorem awaitEcho_yields (echoed : reference.EchoAt script 0 i) (enough : i < rounds) :
    replays.Yields (awaitEcho timing token reference controller rounds) script ()
      ((script.take (i + 1)).map (.read timing.echoTimeout)) (script.drop (i + 1)) := by
  -- Each read takes the first answer, so the echo comes one place nearer.
  induction i generalizing script rounds with
  | zero =>
      cases script with
      | nil => exact absurd echoed.lt_length (Nat.not_lt_zero 0)
      | cons answer rest =>
          obtain ⟨rounds, rfl⟩ := Nat.exists_eq_add_of_le' enough
          obtain ⟨received, rfl, echo⟩ := Packet.EchoAt.zero_iff.mp echoed
          refine replays.silent_bind (replays.stop _) (replays.bind (replays.read _ _ received) ?_)
          rw [if_pos (Packet.isEcho_iff.mpr echo)]
          exact replays.note _
  | succ i ih =>
      cases script with
      | nil => exact absurd echoed.lt_length (Nat.not_lt_zero _)
      | cons answer rest =>
          obtain ⟨rounds, rfl⟩ := Nat.exists_eq_add_of_le' (Nat.zero_lt_of_lt enough)
          obtain ⟨⟨received, rfl, other⟩, later⟩ := Packet.EchoAt.succ_iff.mp echoed
          refine replays.silent_bind (replays.stop _) (replays.bind (replays.read _ _ received) ?_)
          rw [if_neg (mt Packet.isEcho_iff.mp other)]
          exact replays.silent_bind (replays.note _) (ih later (by omega))

theorem awaitEcho_fails (silent : ∀ i, ¬ reference.EchoAt script 0 i)
    (enough : script.length < rounds) :
    replays.Fails (awaitEcho timing token reference controller rounds) script := by
  induction script generalizing rounds with
  | nil =>
      obtain ⟨rounds, rfl⟩ := Nat.exists_eq_add_of_le' enough
      exact replays.bind_fails (replays.stop _) (replays.fails_bind (replays.read_fails _ _ rfl))
  | cons answer rest ih =>
      obtain ⟨rounds, rfl⟩ := Nat.exists_eq_add_of_le' (Nat.zero_lt_of_lt enough)
      refine replays.bind_fails (replays.stop _) ?_
      cases answer with
      | error reason => exact replays.fails_bind (replays.read_fails _ _ rfl)
      | ok received =>
          have other : ¬ reference.framed <+: received :=
            fun echo => silent 0 (Packet.EchoAt.zero_iff.mpr ⟨received, rfl, echo⟩)
          refine replays.bind_fails (replays.read _ _ received) ?_
          rw [if_neg (mt Packet.isEcho_iff.mp other)]
          refine replays.bind_fails (replays.note _) (ih (fun i later => ?_) ?_)
          · exact silent (i + 1) (Packet.EchoAt.succ_iff.mpr ⟨⟨received, rfl, other⟩, later⟩)
          · simpa using enough

theorem awaitEchoes_yields (aux : reference.EchoAt script 0 i)
    (main : (reference.withAck false).EchoAt script (i + 1) j) (enough : script.length < rounds) :
    replays.Yields (awaitEchoes timing token reference rounds) script ()
      ((script.take (j + 1)).map (.read timing.echoTimeout)) (script.drop (j + 1)) := by
  obtain ⟨gap, rfl⟩ := Nat.exists_eq_add_of_le main.late
  have second := Packet.EchoAt.iff_drop.mp main
  have within := aux.lt_length
  have beyond := main.lt_length
  have whole : (script.take (i + 1)).map (Event.read timing.echoTimeout) ++
      ((script.drop (i + 1)).take (gap + 1)).map (.read timing.echoTimeout) =
        (script.take (i + 1 + gap + 1)).map (.read timing.echoTimeout) := by
    rw [← List.map_append, ← List.take_add]
    rfl
  have left : (script.drop (i + 1)).drop (gap + 1) = script.drop (i + 1 + gap + 1) :=
    List.drop_drop
  rw [← whole, ← left]
  refine replays.silent_bind (replays.note _) (replays.bind (awaitEcho_yields replays aux (by omega)) ?_)
  exact replays.silent_bind (replays.note _) (awaitEcho_yields replays second (by omega))

theorem awaitEchoes_fails
    (silent : ∀ i j, reference.EchoAt script 0 i →
      ¬ (reference.withAck false).EchoAt script (i + 1) j)
    (enough : script.length < rounds) :
    replays.Fails (awaitEchoes timing token reference rounds) script := by
  refine replays.bind_fails (replays.note _) ?_
  by_cases aux : ∃ i, reference.EchoAt script 0 i
  · obtain ⟨i, echoed⟩ := aux
    have within := echoed.lt_length
    refine replays.bind_fails (awaitEcho_yields replays echoed (by omega)) ?_
    refine replays.bind_fails (replays.note _) (awaitEcho_fails replays (fun gap main => ?_) ?_)
    · exact silent i _ echoed (Packet.EchoAt.iff_drop.mpr main)
    · rw [List.length_drop]
      omega
  · exact replays.fails_bind (awaitEcho_fails replays (not_exists.mp aux) enough)

theorem sendResetMarker_yields {left : Nat} (some : 1 ≤ left) (attempt : Nat) :
    replays.Yields (sendResetMarker timing token left attempt) script ()
      [.send resetMarker (.ok ())] script := by
  obtain ⟨left, rfl⟩ := Nat.exists_eq_add_of_le' some
  exact replays.silent_bind (replays.stop _)
    (replays.bind (replays.sendOutcome resetMarker) (replays.pure ()))

theorem run_yields {probe : Message} (short : 4 + probe.length ≤ 62)
    (attempts : 1 ≤ timing.resetAttempts) (aux : (probe.single .clear true).EchoAt script 0 i)
    (main : ((probe.single .clear true).withAck false).EchoAt script (i + 1) j)
    (enough : script.length < rounds) :
    replays.Yields (run timing token probe rounds) script .set
      (.send resetMarker (.ok ()) :: .send (probe.single .clear true).bytes (.ok ()) ::
        (script.take (j + 1)).map (.read timing.echoTimeout)) (script.drop (j + 1)) := by
  refine replays.silent_bind (replays.note _) ?_
  rw [probePacket_eq probe .clear short]
  refine replays.silent_bind (replays.ofExcept _) (replays.silent_bind (replays.note _) ?_)
  refine replays.bind (sendResetMarker_yields replays attempts 1) ?_
  refine replays.bind (replays.send _ _) (replays.silent_bind (replays.note _) ?_)
  refine replays.bind_silent (replays.outcome (awaitEchoes_yields replays aux main enough)) ?_
  exact replays.silent_bind (replays.wait _) (replays.silent_bind (replays.note _) (replays.pure _))

/-- The handshake fails if the probe is too long, or one of the echoes does not come. -/
theorem run_fails {probe : Message} (attempts : 1 ≤ timing.resetAttempts)
    (silent : 4 + probe.length ≤ 62 → ∀ i j, (probe.single .clear true).EchoAt script 0 i →
      ¬ ((probe.single .clear true).withAck false).EchoAt script (i + 1) j)
    (enough : script.length < rounds) :
    replays.Fails (run timing token probe rounds) script := by
  refine replays.bind_fails (replays.note _) ?_
  by_cases short : 4 + probe.length ≤ 62
  · rw [probePacket_eq probe .clear short]
    refine replays.bind_fails (replays.ofExcept _) (replays.bind_fails (replays.note _) ?_)
    refine replays.bind_fails (sendResetMarker_yields replays attempts 1) ?_
    refine replays.bind_fails (replays.send _ _) (replays.bind_fails (replays.note _) ?_)
    refine replays.outcome_bind_fails (awaitEchoes_fails replays (silent short) enough) ?_
    intro reason
    refine Attempt.Leaves.note_bind (Attempt.Leaves.reset_bind fun _ result => ?_)
    cases result with
    | ok _ => exact Attempt.Leaves.throw ⟨reason, rfl⟩
    | error secondary =>
        exact Attempt.Leaves.note_bind (Attempt.Leaves.throw ⟨reason, rfl⟩)
  · rw [probePacket_long probe .clear (Nat.lt_of_not_le short)]
    refine replays.fails_bind fun before _ => ?_
    exact ⟨_, before, Attempt.on_ofExcept link before _⟩

end Handshake

namespace Session

open Handshake

variable {σ : Type} {link : Link σ} {token : CancelToken} {ahead : σ → List ReadResult → Prop}

theorem connect_yields (replays : link.Replays token ahead) {config : SessionConfig}
    {probe : Message} {packet : Packet} {script : List ReadResult} {rounds i j : Nat}
    (attempts : 1 ≤ config.handshake.resetAttempts) (short : 4 + probe.length ≤ 62)
    (echoed : Echoed probe script packet i j) (enough : script.length < rounds) :
    replays.Yields (connect config token probe rounds) script ⟨config, token, .set, true, config.readTimeout⟩
      (.send resetMarker (.ok ()) :: .send packet.bytes (.ok ()) ::
        (script.take (j + 1)).map (.read config.handshake.echoTimeout)) (script.drop (j + 1)) := by
  have encoded := echoed.encoded
  rw [probe.encode_single .clear true short] at encoded
  obtain rfl : probe.single .clear true = packet := by simpa using encoded
  refine replays.bind_silent (run_yields replays short attempts echoed.aux echoed.main enough) ?_
  exact replays.silent_bind (replays.note _) (replays.pure _)

theorem connect_fails (replays : link.Replays token ahead) {config : SessionConfig}
    {probe : Message} {script : List ReadResult} {rounds : Nat}
    (attempts : 1 ≤ config.handshake.resetAttempts)
    (silent : ¬ (4 + probe.length ≤ 62 ∧ ∃ packet i j, Echoed probe script packet i j))
    (enough : script.length < rounds) :
    replays.Fails (connect config token probe rounds) script := by
  refine replays.fails_bind (run_fails replays attempts (fun short i j aux main => ?_) enough)
  exact silent ⟨short, _, i, j, probe.encode_single .clear true short, aux, main⟩

/-- On a link that accepts every packet and answers the reads from a script, with the token never
raised: the session opens exactly if the probe fits one packet and both echoes arrive in their order,
with nothing but packets before the second. Then the link was asked for the reset marker, the probe,
and the reads up to the second echo, and for nothing else. No packet is an echo of both kinds. -/
theorem connect_ok_iff (replays : link.Replays token ahead) {before : World σ}
    {script : List ReadResult} (awaits : before.Awaits ahead token script) (config : SessionConfig)
    (attempts : 1 ≤ config.handshake.resetAttempts) (probe : Message) {rounds : Nat}
    (enough : script.length < rounds) :
    ∃ outcome after, (connect config token probe rounds).on link before = (some outcome, after) ∧
      ((∃ session, outcome = .ok session) ↔
        4 + probe.length ≤ 62 ∧ ∃ packet i j, Echoed probe script packet i j) ∧
      (∀ session, outcome = .ok session → session = ⟨config, token, .set, true, config.readTimeout⟩ ∧
        ∃ packet i j events, Echoed probe script packet i j ∧
          after.trace = before.trace ++ events ∧
          Trace.calls events =
            .send [0xFF, 0xFF] (.ok ()) :: .send packet.bytes (.ok ()) ::
              (script.take (j + 1)).map (.read config.handshake.echoTimeout) ∧
          ahead after.device (script.drop (j + 1))) ∧
      ∀ packet received, probe.encode .clear true = .ok ⟨.clear, [packet]⟩ →
        ¬ (packet.framed <+: received ∧ (packet.withAck false).framed <+: received) := by
  have unlike : ∀ packet received, probe.encode .clear true = .ok ⟨.clear, [packet]⟩ →
      ¬ (packet.framed <+: received ∧ (packet.withAck false).framed <+: received) := by
    intro packet received encoded
    have packets : [packet] = probe.packets .clear true :=
      congrArg PacketStream.packets (probe.eq_of_encode .clear true encoded).2
    have member : packet ∈ probe.packets .clear true := packets ▸ List.mem_singleton_self packet
    exact packet.not_both_echoes (probe.bits_of_mem_packets .clear true member).2
  by_cases heard : 4 + probe.length ≤ 62 ∧ ∃ packet i j, Echoed probe script packet i j
  · obtain ⟨short, packet, i, j, echoed⟩ := heard
    obtain ⟨after, ran, ⟨events, trace, calls⟩, left⟩ :=
      connect_yields replays attempts short echoed enough before awaits
    refine ⟨_, after, ran, ⟨fun _ => ⟨short, packet, i, j, echoed⟩, fun _ => ⟨_, rfl⟩⟩, ?_, unlike⟩
    intro session opened
    exact ⟨(Except.ok.inj opened).symm, packet, i, j, events, echoed, trace, calls, left.script⟩
  · obtain ⟨reason, after, failed⟩ := connect_fails replays attempts heard enough before awaits
    refine ⟨_, after, failed, ⟨?_, fun echoed => absurd echoed heard⟩, ?_, unlike⟩
    · rintro ⟨session, opened⟩
      contradiction
    · intro session opened
      contradiction

theorem connect_past_noise :
    let script : List ReadResult := [.ok [0x00], .ok [0x44, 0x00, 0x01, 0x00, 0x00, 0x00],
      .ok [0x44, 0x00, 0x01, 0x00, 0x00, 0x00], .ok [0x04, 0x00, 0x01, 0x00, 0x00, 0x00, 0xFF]]
    let device : Script := { reads := [.packet [0x00], .packet [0x44, 0x00, 0x01, 0x00, 0x00, 0x00],
      .packet [0x44, 0x00, 0x01, 0x00, 0x00, 0x00],
      .packet [0x04, 0x00, 0x01, 0x00, 0x00, 0x00, 0xFF]] }
    device.Answers script ∧
      ∃ outcome after, (connect {} ⟨0⟩ ⟨0x0001, []⟩ 5).on Link.scripted { device } =
          (some outcome, after) ∧
        ∃ session packet i j, outcome = .ok session ∧ Echoed ⟨0x0001, []⟩ script packet i j := by
  intro script device
  have answers : device.Answers script := ⟨rfl, rfl, rfl, rfl, rfl⟩
  have awaits : World.Awaits Script.Answers ⟨0⟩ { device } script := ⟨answers, by simp⟩
  obtain ⟨outcome, after, ran, opens, -⟩ := connect_ok_iff (Link.scripted_replays ⟨0⟩) awaits {}
    (by decide) ⟨0x0001, []⟩ (show script.length < 5 by decide)
  have echoed : Echoed ⟨0x0001, []⟩ script (Message.single ⟨0x0001, []⟩ .clear true) 1 3 := by
    refine ⟨rfl, Packet.EchoAt.succ_iff.mpr ⟨⟨_, rfl, by decide⟩, ?_⟩, ?_⟩
    · exact Packet.EchoAt.zero_iff.mpr ⟨_, rfl, by decide⟩
    · refine (@Packet.EchoAt.iff_drop _ _ 2 1).mpr (Packet.EchoAt.succ_iff.mpr ⟨⟨_, rfl, by decide⟩, ?_⟩)
      exact Packet.EchoAt.zero_iff.mpr ⟨_, rfl, by decide⟩
  obtain ⟨session, opened⟩ := opens.mpr ⟨by decide, _, 1, 3, echoed⟩
  exact ⟨answers, outcome, after, ran, session, _, 1, 3, opened, echoed⟩

end Session

end PacketLink
