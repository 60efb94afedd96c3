import PacketLink.Proofs.Link.Approximations
import PacketLink.Proofs.Session.HandshakeFailures
import PacketLink.Proofs.Session.Rounds

namespace PacketLink

/-! The number of rounds does not matter where it is large enough: an operation that finishes within
some rounds does the same within more. -/

open Attempt (Approximates)

variable {config : SessionConfig} {token : CancelToken} {policy : TimeoutPolicy} {rounds more : Nat}

theorem Receive.packets_approximates (fewer : rounds ≤ more) (state : Reassembler) :
    (packets config token policy rounds state).Approximates
      (packets config token policy more state) := by
  induction rounds generalizing more state with
  | zero => exact .unfinished _
  | succ rounds ih =>
      cases more with
      | zero => exact absurd fewer (Nat.not_succ_le_zero rounds)
      | succ more =>
          have later := fun state => ih (Nat.le_of_succ_le_succ fewer) state
          rw [packets_succ, packets_succ]
          apply Approximates.after
          intro _
          apply Approximates.after
          intro answer
          cases answer with
          | error reason => exact .refl _
          | ok received =>
              apply Approximates.after
              intro absorbed
              obtain ⟨complete, next⟩ := absorbed
              cases complete with
              | none => exact later next
              | some message =>
                  change (proceed config token policy rounds message next).Approximates
                    (proceed config token policy more message next)
                  unfold proceed
                  split
                  · exact .refl _
                  · exact .after _ fun _ => later next

theorem Exchange.converse_approximates (fewer : rounds ≤ more) (stream : PacketStream)
    (command : Command) (retryOnSignal : Bool) (retries : UInt32) :
    (converse config token stream command retryOnSignal rounds retries).Approximates
      (converse config token stream command retryOnSignal more retries) := by
  induction rounds generalizing more retries with
  | zero => exact .unfinished _
  | succ rounds ih =>
      cases more with
      | zero => exact absurd fewer (Nat.not_succ_le_zero rounds)
      | succ more =>
          rw [converse_succ_conclude, converse_succ_conclude]
          apply Approximates.after
          intro _
          apply Approximates.after
          intro _
          apply Approximates.bind (Receive.packets_approximates fewer Reassembler.new)
          intro received
          cases received with
          | none => exact .refl _
          | some reply =>
              simp only [conclude, react]
              split
              · split
                · exact .refl _
                · apply Approximates.after
                  intro _
                  apply Approximates.after
                  intro _
                  exact ih (Nat.le_of_succ_le_succ fewer) (retries + 1)
              · exact .refl _

namespace Handshake

variable {timing : HandshakeTiming} {reference : Packet} {controller : Log.Controller}

theorem awaitEcho_approximates (fewer : rounds ≤ more) :
    (awaitEcho timing token reference controller rounds).Approximates
      (awaitEcho timing token reference controller more) := by
  induction rounds generalizing more with
  | zero => exact .unfinished _
  | succ rounds ih =>
      cases more with
      | zero => exact absurd fewer (Nat.not_succ_le_zero rounds)
      | succ more =>
          apply Approximates.after
          intro _
          apply Approximates.after
          intro received
          split
          · exact .refl _
          · exact .after _ fun _ => ih (Nat.le_of_succ_le_succ fewer)

theorem run_approximates (fewer : rounds ≤ more) (probe : Message) :
    (run timing token probe rounds).Approximates (run timing token probe more) := by
  apply Approximates.after
  intro _
  apply Approximates.after
  intro reference
  apply Approximates.after
  intro _
  apply Approximates.after
  intro _
  apply Approximates.after
  intro _
  apply Approximates.after
  intro _
  apply Approximates.bind
  · apply Approximates.outcome
    apply Approximates.after
    intro _
    apply Approximates.bind (awaitEcho_approximates fewer)
    intro _
    exact .after _ fun _ => awaitEcho_approximates fewer
  · intro ended
    exact .refl _

end Handshake

namespace Session

theorem receive_approximates (session : Session) (policy : TimeoutPolicy) (fewer : rounds ≤ more) :
    (session.receive policy rounds).Approximates (session.receive policy more) := by
  unfold receive
  split
  · exact .bind (Receive.packets_approximates fewer Reassembler.new) fun _ => .refl _
  · exact .refl _

theorem request_approximates (session : Session) (message : Message) (retryOnSignal : Bool)
    (fewer : rounds ≤ more) :
    (session.request message retryOnSignal rounds).Approximates
      (session.request message retryOnSignal more) := by
  unfold request
  split
  · exact .refl _
  · exact .bind (Exchange.converse_approximates fewer _ _ _ 0) fun _ => .refl _

theorem connect_approximates (probe : Message) (fewer : rounds ≤ more) :
    (connect config token probe rounds).Approximates (connect config token probe more) :=
  .bind (Handshake.run_approximates fewer probe) fun _ => .refl _

end Session

end PacketLink
