import Mathlib.Data.List.Basic
import PacketLink.Proofs.Checked.Exchanges
import PacketLink.Proofs.Checked.Printing
import PacketLink.Proofs.Link.Runs
import PacketLink.Proofs.Session.Malformed

namespace PacketLink

/-! Nothing that the device sends stops the host.

With all data operations checked, each operation is still what it was, on any link. -/

namespace Monitor

/-- What is printed of received bytes that hold no packet. -/
def badLines (config : Config) (bytes : Bytes) (reason : FramingError) : List String :=
  if config.filter.shows .rx then
    match config.format with
    | .json => [Monitor.Decoded.json { direction := .rx, error := some reason }]
    | .text =>
        (arrow .rx ++ " " ++ Ansi.boldRed "BAD" ++ "  " ++ reason.message) ::
          if config.showHex then ["    " ++ Ansi.dim "HEX" ++ "  " ++ Hex.lowerList (bytes.take 2)]
          else []
  else []

theorem lines_malformed (config : Config) {bytes : Bytes} {reason : FramingError}
    (malformed : Packet.ofBytes bytes = .error reason) :
    lines config .rx bytes = badLines config bytes reason := by
  have decoded : Decoded.ofBytes .rx bytes = { direction := .rx, error := some reason } := by
    unfold Decoded.ofBytes
    rw [if_neg (by simp), malformed]
  unfold lines badLines
  rw [decoded]
  rfl

end Monitor

namespace Session

variable (session : Session)

theorem connect_drains (config : SessionConfig) (token : CancelToken) (probe : Message) (rounds : Nat) :
    (connect config token probe rounds).run.Reads Malformed.Drains := by
  refine Attempt.reads_bind (Malformed.handshake_drains _ probe rounds) (fun _ drains => drains.bind)
    fun _ => ?_
  exact Attempt.unread_bind (Attempt.unread_log _) fun _ => .done _

theorem request_reads (message : Message) (retryOnSignal : Bool) (rounds : Nat) :
    (session.request message retryOnSignal rounds).Reads (Malformed.DiscardsOrRejects fun reason =>
      (.error (.framing reason), (session.prepare message).2)) := by
  unfold request
  split
  · exact .done _
  · rename_i stream following prepared
    rw [prepared]
    refine Action.Reads.bind (Malformed.converse_reads stream _ retryOnSignal rounds 0) ?_
      fun _ => .done _
    rintro answered (discards | rejects)
    · exact .inl discards.bind
    · exact .inr (rejects.bind fun _ => rfl)

theorem receive_rejects (policy : TimeoutPolicy) (rounds : Nat) :
    (session.receive policy rounds).Reads
      (Malformed.Rejects fun reason => (.error (.framing reason), session)) := by
  unfold receive
  split
  · exact Action.Reads.bind (Malformed.packets_reject policy rounds .new)
      (fun _ rejects => rejects.bind fun _ => rfl) fun _ => .done _
  · exact .done _

theorem pingPong_ignores (stream : PacketStream) :
    (session.pingPong stream).Reads Malformed.Ignores := by
  unfold pingPong
  split
  · exact Action.Reads.bind (Malformed.roundTrip_ignores stream) (fun _ ignores => ignores.bind)
      fun _ => .done _
  · exact .done _

/-- Whatever the answers of the link are, checked operations come to no fault, and so do decoding and
printing. Bytes that hold no packet are dropped by the handshake, discarded where an acknowledgment
or the reply of a round trip is read, end a receive in a framing error, and are printed as such. -/
theorem withstands_device (printing : Monitor.Config) :
    (∀ probe rounds, probe.length < 2 ^ 63 →
      Checked.connect session.config session.token probe rounds =
          Guarded.of (connect session.config session.token probe rounds) ∧
        (connect session.config session.token probe rounds).run.Reads Malformed.Drains) ∧
    (∀ message retryOnSignal rounds, message.length < 2 ^ 63 →
      Checked.request session message retryOnSignal rounds =
          ExceptT.lift (session.request message retryOnSignal rounds) ∧
        (session.request message retryOnSignal rounds).Reads
          (Malformed.DiscardsOrRejects fun reason =>
            (.error (.framing reason), (session.prepare message).2))) ∧
    (∀ stream, Checked.pingPong session stream.buffers = ExceptT.lift (session.pingPong stream) ∧
      (session.pingPong stream).Reads Malformed.Ignores) ∧
    (∀ policy rounds, Checked.receive session policy rounds =
        ExceptT.lift (session.receive policy rounds) ∧
      (session.receive policy rounds).Reads
        (Malformed.Rejects fun reason => (.error (.framing reason), session))) ∧
    (∀ packets, Checked.decodeStream (packets.map Packet.buffer) = .ok (decodeStream packets)) ∧
    (∀ direction bytes, Checked.lines printing direction bytes =
      .ok (Monitor.lines printing direction bytes)) ∧
    ∀ bytes reason, Packet.ofBytes bytes = .error reason →
      Monitor.lines printing .rx bytes = Monitor.badLines printing bytes reason := by
  refine ⟨?_, ?_, ?_, ?_, Checked.decodeStream_eq, Checked.lines_eq printing, ?_⟩
  · intro probe rounds held
    exact ⟨Checked.connect_eq _ _ held rounds, connect_drains _ _ probe rounds⟩
  · intro message retryOnSignal rounds held
    exact ⟨Checked.request_eq session held retryOnSignal rounds,
      session.request_reads message retryOnSignal rounds⟩
  · intro stream
    exact ⟨Checked.pingPong_eq session stream, session.pingPong_ignores stream⟩
  · intro policy rounds
    exact ⟨Checked.receive_eq session policy rounds, session.receive_rejects policy rounds⟩
  · intro bytes reason malformed
    exact Monitor.lines_malformed printing malformed

/-- One byte alone, ahead of both echoes and in place of a reply, read by checked operations. -/
theorem withstands_device_on_short_packets :
    let short : List ScriptedRead := [.packet [0xFF]]
    let echoes : List ScriptedRead := [.packet [0x44, 0x00, 0x01, 0x00, 0x00, 0x00],
      .packet [0x04, 0x00, 0x01, 0x00, 0x00, 0x00]]
    let probe : Message := ⟨0x0001, []⟩
    (Attempt.on (Checked.connect {} ⟨0⟩ probe 5).run Link.scripted
        { device := { reads := short ++ echoes } }).1 =
      some (.ok (.ok (resume {} ⟨0⟩ .set))) ∧
    (Attempt.on (Checked.request (resume {} ⟨0⟩ .set) probe false 5) Link.scripted
        { device := { reads := short } }).1 =
      some (.ok (.error (.framing (.truncated 1 2)), resume {} ⟨0⟩ .clear)) ∧
    Monitor.lines { format := .json } .rx [0xFF] =
      [Monitor.Decoded.json { direction := .rx, error := some (.truncated 1 2) }] := by
  intro short echoes probe
  obtain ⟨connects, requests, -, -, -, -, prints⟩ :=
    withstands_device (resume {} ⟨0⟩ .set) { format := .json }
  have small : probe.length < 2 ^ 63 := by decide
  refine ⟨?_, ?_, prints [0xFF] (.truncated 1 2) rfl⟩
  · have same : Checked.connect {} ⟨0⟩ probe 5 = Guarded.of (connect {} ⟨0⟩ probe 5) :=
      (connects probe 5 small).1
    rw [same, Guarded.of, ExceptT.run_mk]
    exact (congrArg Prod.fst (Attempt.on_lift _ _ _)).trans (by decide +kernel)
  · rw [(requests probe false 5 small).1]
    exact (congrArg Prod.fst (Attempt.on_lift _ _ _)).trans (by decide +kernel)

end Session

end PacketLink
