import PacketLink.Proofs.Link.Budgets
import PacketLink.Proofs.Session.Calls
import PacketLink.Proofs.Session.RoundLimits

namespace PacketLink

/-! Traffic on a link that has a finite number of read results left.

Every round of a receive, of a wait for an echo and of a conversation uses up one of them. So each
operation returns, after one read more at most, and a stream is sent at most once for each of them
and once more. -/

section Spending

variable {σ : Type} {link : Link σ} {left : σ → Nat → Prop} {expires : link.Expires left}
  {config : SessionConfig} {token : CancelToken} {policy : TimeoutPolicy} {count rounds : Nat}

namespace Receive

def Served (ended : Except ExchangeError (Option ReceiveOutcome)) : Prop :=
  ∃ outcome, ended = .ok (some outcome)

theorem absorb_idles (state : Reassembler) (received : Bytes) :
    expires.Idles (absorb state received) := by
  unfold absorb
  split
  · exact .bind (.note _) fun _ => .done rfl
  · apply Link.Expires.Idles.bind (.note _)
    intro _
    split
    · exact .bind (.note _) fun _ => .done rfl
    · exact .done rfl
    · exact .bind (.note _) fun _ => .done rfl

theorem afterFailedRead_spends (state : Reassembler) (reason : LinkError) :
    expires.Spends (afterFailedRead policy state reason) count fun ended reads sends =>
      reads = 0 ∧ sends = 0 ∧ ¬ Served ended := by
  unfold afterFailedRead
  split
  · dsimp only
    split
    · apply Link.Expires.Idles.bind_spends (.note _) (fun _ => ⟨rfl, rfl, nofun⟩)
      intro _
      exact .done rfl ⟨rfl, rfl, nofun⟩
    · exact .done rfl ⟨rfl, rfl, nofun⟩
  · exact .done rfl ⟨rfl, rfl, nofun⟩

theorem packets_spends (enough : count < rounds) (state : Reassembler) :
    expires.Spends (packets config token policy rounds state) count
      (Link.Expires.Takes Served count) := by
  induction rounds generalizing count state with
  | zero => exact absurd enough (Nat.not_lt_zero count)
  | succ rounds ih =>
      rw [packets_succ]
      apply Link.Expires.Idles.bind_spends (.stop _ _) (fun _ => .nothing nofun)
      intro _
      apply Link.Expires.Spends.bind .readOutcome
      · intro reason reads sends read
        obtain ⟨rfl, rfl, -⟩ := read
        exact ⟨rfl, Nat.le_add_left 1 count, nofun⟩
      · intro answer reads sends read
        obtain ⟨rfl, rfl, delivered⟩ := read
        cases answer with
        | error reason =>
            apply (afterFailedRead_spends state reason).mono
            intro ended more sends nothing
            obtain ⟨rfl, rfl, unserved⟩ := nothing
            exact ⟨rfl, Nat.le_add_left 1 count, fun served => absurd served unserved⟩
        | ok received =>
            have available : 0 < count := delivered received rfl
            have later (state : Reassembler) := (@ih (count - 1) (by omega) state).mono
              fun _ _ _ takes => takes.after_read available
            apply (absorb_idles state received).bind_spends
            · intro reason
              exact ⟨rfl, Nat.le_add_left 1 count, nofun⟩
            · intro absorbed
              obtain ⟨complete, next⟩ := absorbed
              cases complete with
              | none => exact later next
              | some message =>
                  change expires.Spends (proceed config token policy rounds message next) _ _
                  unfold proceed
                  split
                  · exact .done rfl ⟨rfl, Nat.le_add_left 1 count, fun _ => ⟨Nat.one_pos, available⟩⟩
                  · rw [deliver_eq]
                    apply Link.Expires.Idles.bind_spends (.note _)
                    · intro reason
                      exact ⟨rfl, Nat.le_add_left 1 count, nofun⟩
                    · intro _
                      exact later next

end Receive

namespace Exchange

theorem sendPackets_spends (packets : List Packet) :
    expires.Spends (sendPackets config token packets) count fun _ reads sends =>
      reads = 0 ∧ sends ≤ packets.length := by
  induction packets with
  | nil => exact .done rfl ⟨rfl, Nat.le_refl 0⟩
  | cons packet rest ih =>
      apply Link.Expires.Idles.bind_spends (.stop _ _) (fun _ => ⟨rfl, Nat.zero_le _⟩)
      intro _
      apply Link.Expires.Spends.bind .send
      · intro reason reads sends sent
        obtain ⟨rfl, rfl⟩ := sent
        exact ⟨rfl, Nat.le_add_left 1 rest.length⟩
      · intro _ reads sends sent
        obtain ⟨rfl, rfl⟩ := sent
        apply Link.Expires.Idles.bind_spends (.note _)
        · intro reason
          exact ⟨rfl, Nat.le_add_left 1 rest.length⟩
        · intro _
          apply Link.Expires.Idles.bind_spends (.wait _)
          · intro reason
            exact ⟨rfl, Nat.le_add_left 1 rest.length⟩
          · intro _
            apply ih.mono
            intro ended reads sends sent
            obtain ⟨rfl, few⟩ := sent
            rw [List.length_cons]
            omega

theorem transmit_spends (stream : PacketStream) :
    expires.Spends (transmit config token stream) count fun _ reads sends =>
      reads = 0 ∧ sends ≤ stream.length := by
  apply Link.Expires.Idles.bind_spends (.note _) (fun _ => ⟨rfl, Nat.zero_le _⟩)
  intro _
  exact sendPackets_spends stream.packets

theorem awaitAcknowledgment_spends :
    expires.Spends (awaitAcknowledgment config) count fun ended reads sends =>
      sends = 0 ∧ reads ≤ 1 ∧ (ended = .ok () → reads ≤ count) := by
  unfold awaitAcknowledgment
  split
  · rw [Attempt.of_bind]
    apply Link.Expires.Spends.bind .readOutcome
    · intro reason reads sends read
      obtain ⟨rfl, rfl, -⟩ := read
      exact ⟨rfl, Nat.le_refl 1, nofun⟩
    · intro answer reads sends read
      obtain ⟨rfl, rfl, delivered⟩ := read
      cases answer with
      | error reason => exact .done rfl ⟨rfl, Nat.le_refl 1, nofun⟩
      | ok received =>
          apply (Link.Expires.Idles.note _ _).mono
          intro ended reads sends none
          obtain ⟨rfl, rfl⟩ := none
          exact ⟨rfl, Nat.le_refl 1, fun _ => delivered received rfl⟩
  · exact .done rfl ⟨rfl, Nat.zero_le 1, fun _ => Nat.zero_le count⟩

theorem sleepAll_idles (spans : List Duration) : expires.Idles (sleepAll spans) := by
  induction spans with
  | nil => exact .done rfl
  | cons span spans ih => exact .bind (.sleep span) fun _ => ih

theorem pause_idles (total : Duration) : expires.Idles (pause token total) := by
  have stopped : expires.Idles
      (Attempt.stopIfCancelled token .cancelled >>= fun _ => sleepAll (slices total)) :=
    .bind (.stop _ _) fun _ => sleepAll_idles (slices total)
  intro count before bounded
  rw [pause_on]
  exact stopped count before bounded

/-- The stream goes out again only after a reply, which used up a read result. -/
theorem converse_spends (enough : count < rounds) (stream : PacketStream) (command : Command)
    (retryOnSignal : Bool) (retries : UInt32) :
    expires.Spends (converse config token stream command retryOnSignal rounds retries) count
      fun _ reads sends => reads ≤ count + 1 ∧ sends ≤ (count + 1) * stream.length := by
  induction rounds generalizing count retries with
  | zero => exact absurd enough (Nat.not_lt_zero count)
  | succ rounds ih =>
      have once : stream.length ≤ (count + 1) * stream.length :=
        Nat.le_mul_of_pos_left _ (Nat.succ_pos count)
      rw [converse_succ_conclude]
      apply Link.Expires.Spends.bind (transmit_spends stream)
      · intro reason reads sends sent
        omega
      · intro _ none sends sent
        obtain ⟨rfl, few⟩ := sent
        apply Link.Expires.Spends.bind awaitAcknowledgment_spends
        · intro reason acked unsent acknowledged
          omega
        · intro _ acked unsent acknowledged
          obtain ⟨rfl, -, within⟩ := acknowledged
          have left := within rfl
          have enoughLeft : count - 0 - acked < rounds + 1 := by omega
          apply Link.Expires.Spends.bind (Receive.packets_spends enoughLeft Reassembler.new)
          · intro reason heard unsent takes
            have most := takes.bounded
            have silent := takes.unsent
            omega
          · intro received heard unsent takes
            have most := takes.bounded
            obtain rfl := takes.unsent
            have silent : 0 + (acked + (heard + 0)) ≤ count + 1 ∧
                sends + (0 + (0 + 0)) ≤ (count + 1) * stream.length := by omega
            cases received with
            | none => exact .done rfl silent
            | some reply =>
                obtain ⟨used, fewer⟩ := takes.used ⟨reply, rfl⟩
                simp only [conclude, react]
                split
                · split
                  · exact Link.Expires.Idles.bind_spends (.note _) (fun _ => silent)
                      fun _ => .done rfl silent
                  · apply Link.Expires.Idles.bind_spends (.note _) (fun _ => silent)
                    intro _
                    apply (pause_idles config.busyBackoff).bind_spends (fun _ => silent)
                    intro _
                    have later : (count - 0 - acked - heard + 1) * stream.length ≤
                        count * stream.length := Nat.mul_le_mul_right _ (by omega)
                    apply (ih (by omega) (retries + 1)).mono
                    intro ended reads sendsLater again
                    rw [Nat.succ_mul]
                    omega
                · exact .done rfl silent

end Exchange

namespace Handshake

variable {timing : HandshakeTiming} {reference : Packet} {controller : Log.Controller}

theorem sendResetMarker_spends (remaining attempt : Nat) :
    expires.Spends (sendResetMarker timing token remaining attempt) count fun _ reads _ => reads = 0 := by
  induction remaining generalizing attempt with
  | zero => exact .done rfl rfl
  | succ fewer ih =>
      apply Link.Expires.Idles.bind_spends (.stop _ _) (fun _ => rfl)
      intro _
      apply Link.Expires.Spends.bind .sendOutcome
      · intro reason reads sends sent
        exact sent.1
      · intro result reads sends sent
        obtain ⟨rfl, rfl⟩ := sent
        cases result with
        | ok _ => exact .done rfl rfl
        | error reason =>
            have again := (ih (attempt + 1)).mono fun _ reads _ none =>
              (Nat.zero_add reads).trans none
            apply Link.Expires.Idles.bind_spends (.note _) (fun _ => rfl)
            intro _
            split
            · apply Link.Expires.Idles.bind_spends (.wait _) (fun _ => rfl)
              intro _
              exact again
            · exact again

theorem awaitEcho_spends (enough : count < rounds) :
    expires.Spends (awaitEcho timing token reference controller rounds) count
      (Link.Expires.Takes (· = .ok ()) count) := by
  induction rounds generalizing count with
  | zero => exact absurd enough (Nat.not_lt_zero count)
  | succ rounds ih =>
      apply Link.Expires.Idles.bind_spends (.stop _ _) (fun _ => .nothing nofun)
      intro _
      rw [Attempt.of_bind]
      apply Link.Expires.Spends.bind .readOutcome
      · intro reason reads sends read
        obtain ⟨rfl, rfl, -⟩ := read
        exact ⟨rfl, Nat.le_add_left 1 count, nofun⟩
      · intro answer reads sends read
        obtain ⟨rfl, rfl, delivered⟩ := read
        cases answer with
        | error reason => exact .done rfl ⟨rfl, Nat.le_add_left 1 count, nofun⟩
        | ok received =>
            have available : 0 < count := delivered received rfl
            dsimp only
            split
            · apply (Link.Expires.Idles.note _ _).mono
              intro ended reads sends none
              obtain ⟨rfl, rfl⟩ := none
              exact ⟨rfl, Nat.le_add_left 1 count, fun _ => ⟨Nat.one_pos, available⟩⟩
            · apply Link.Expires.Idles.bind_spends (.note _)
              · intro reason
                exact ⟨rfl, Nat.le_add_left 1 count, nofun⟩
              · intro _
                exact (@ih (count - 1) (by omega)).mono fun _ _ _ takes => takes.after_read available

theorem awaitEchoes_spends (enough : count < rounds) :
    expires.Spends (awaitEchoes timing token reference rounds) count fun _ reads _ =>
      reads ≤ count + 1 := by
  apply Link.Expires.Idles.bind_spends (.note _) (fun _ => Nat.zero_le _)
  intro _
  apply Link.Expires.Spends.bind (awaitEcho_spends enough)
  · intro reason reads sends takes
    exact takes.bounded
  · intro _ reads sends takes
    obtain ⟨used, within⟩ := takes.used rfl
    apply Link.Expires.Idles.bind_spends (.note _) (fun _ => takes.bounded)
    intro _
    have enoughLeft : count - reads < rounds := by omega
    apply (awaitEcho_spends enoughLeft).mono
    intro ended more sendsMore takesMore
    have bounded := takesMore.bounded
    omega

theorem cleanUp_idles (reason : HandshakeError) : expires.Idles (cleanUp reason) := by
  apply Link.Expires.Idles.bind (.note _)
  intro _
  apply Link.Expires.Idles.bind .reset
  intro result
  cases result with
  | ok _ => exact .done rfl
  | error secondary => exact .bind (.note _) fun _ => .done rfl

theorem run_spends (enough : count < rounds) (probe : Message) :
    expires.Spends (run timing token probe rounds) count fun _ reads _ => reads ≤ count + 1 := by
  have none : 0 ≤ count + 1 := Nat.zero_le _
  apply Link.Expires.Idles.bind_spends (.note _) (fun _ => none)
  intro _
  apply Link.Expires.Idles.bind_spends (.done rfl) (fun _ => none)
  intro (reference, next)
  apply Link.Expires.Idles.bind_spends (.note _) (fun _ => none)
  intro _
  apply Link.Expires.Spends.bind (sendResetMarker_spends _ _)
  · intro reason reads sends unread
    omega
  · intro _ reads sends unread
    obtain rfl := unread
    apply Link.Expires.Spends.bind .send
    · intro reason reads sends sent
      omega
    · intro _ reads sends sent
      obtain ⟨rfl, rfl⟩ := sent
      apply Link.Expires.Idles.bind_spends (.note _) (fun _ => none)
      intro _
      change expires.Spends (conclude timing token reference next rounds) _ _
      apply Link.Expires.Spends.bind (Link.Expires.Spends.outcome (awaitEchoes_spends enough))
      · intro reason reads sends looked
        obtain ⟨_, looked, -⟩ := looked
        cases looked
      · intro ended reads sends looked
        obtain ⟨_, looked, bounded⟩ := looked
        have total : 0 + (0 + (reads + 0)) ≤ count + 1 := by omega
        cases ended with
        | ok _ =>
            apply Link.Expires.Idles.bind_spends (.wait _) (fun _ => total)
            intro _
            exact Link.Expires.Idles.bind_spends (.note _) (fun _ => total) fun _ => .done rfl total
        | error reason =>
            apply (cleanUp_idles reason _).mono
            intro ended more sends nothing
            omega

end Handshake

end Spending

/-- Any number of rounds above `count` brings the operation to the same end, and `post` holds of the
numbers of its reads and sends. -/
def Link.Finishes {σ α : Type} (link : Link σ) (before : World σ) (count : Nat)
    (operation : (rounds : Nat) → Action α) (post : (reads sends : Nat) → Prop) : Prop :=
  ∃ returned after events,
    (∀ rounds, count < rounds → (operation rounds).run link before = (some returned, after)) ∧
    after.trace = before.trace ++ events ∧ post (Trace.reads events) (Trace.tries events)

namespace Session

section Expiring

variable {σ : Type} {link : Link σ} {left : σ → Nat → Prop} (expires : link.Expires left)
  {before : World σ} {count : Nat} (bounded : left before.device count)

include expires bounded

omit expires bounded in
theorem finishes_at_once {α : Type} {operation : Nat → Action α} {returned : α}
    (immediate : ∀ rounds, operation rounds = .done returned) {post : Nat → Nat → Prop}
    (holds : post 0 0) : link.Finishes before count operation post := by
  refine ⟨returned, before, #[], ?_, Array.append_empty.symm, holds⟩
  intro rounds _
  rw [immediate, Action.run_done]

theorem receive_finishes (session : Session) (policy : TimeoutPolicy) :
    link.Finishes before count (session.receive policy) fun reads sends =>
      reads ≤ count + 1 ∧ sends = 0 := by
  cases connected : session.connected with
  | false =>
      have immediate (rounds : Nat) :
          session.receive policy rounds = .done (.error .notConnected, session) := by
        simp [receive, connected]
      exact finishes_at_once immediate ⟨Nat.zero_le _, rfl⟩
  | true =>
      have spends : expires.Spends (Receive.run session.config session.token policy (count + 1)) count _ :=
        Receive.packets_spends (Nat.lt_succ_self count) Reassembler.new
      obtain ⟨ended, after, events, ran, trace, -, takes⟩ := spends before bounded
      refine ⟨(ended, session), after, events, ?_, trace, takes.bounded, takes.unsent⟩
      intro rounds enough
      apply (session.receive_approximates policy enough).run_eq
      rw [receive, if_pos connected]
      change (_ >>= fun outcome => .done (outcome, session) : Action _).run link before = _
      rw [run_beside, ran]
      rfl

theorem request_finishes (session : Session) (message : Message) (retryOnSignal : Bool) :
    link.Finishes before count (session.request message retryOnSignal) fun reads sends =>
      reads ≤ count + 1 ∧
      (∀ stream, message.encode session.nextFlip session.config.ackEnabled = .ok stream →
        sends ≤ (count + 1) * stream.length) ∧
      ∀ size, message.encode session.nextFlip session.config.ackEnabled = .error size → sends = 0 := by
  cases session.prepare_cases message with
  | inl refused =>
      obtain ⟨reason, prepared, -, -⟩ := refused
      exact finishes_at_once (fun _ => by rw [request, prepared]; rfl)
        ⟨Nat.zero_le _, fun _ _ => Nat.zero_le _, fun _ _ => rfl⟩
  | inr made =>
      obtain ⟨stream, prepared, encoded, -⟩ := made
      have spends : expires.Spends (Exchange.converse session.config session.token stream
          message.command retryOnSignal (count + 1) 0) count _ :=
        Exchange.converse_spends (Nat.lt_succ_self count) stream message.command retryOnSignal 0
      obtain ⟨ended, after, events, ran, trace, -, reads, sends⟩ := spends before bounded
      refine ⟨(ended, session.advanced), after, events, ?_, trace, reads, ?_, ?_⟩
      · intro rounds enough
        apply (session.request_approximates message retryOnSignal enough).run_eq
        rw [request, prepared]
        change (_ >>= fun outcome => .done (outcome, session.advanced) : Action _).run link before = _
        rw [run_beside, ran]
        rfl
      · intro other same
        rw [encoded] at same
        cases same
        exact sends
      · intro size oversize
        rw [encoded] at oversize
        cases oversize

theorem connect_finishes (config : SessionConfig) (token : CancelToken) (probe : Message) :
    link.Finishes before count (fun rounds => (connect config token probe rounds).run) fun reads _ =>
      reads ≤ count + 1 := by
  have opens : expires.Spends (connect config token probe (count + 1)) count fun _ reads _ =>
      reads ≤ count + 1 := by
    apply Link.Expires.Spends.bind (Handshake.run_spends (Nat.lt_succ_self count) probe)
    · intro reason reads sends most
      exact most
    · intro _ reads sends most
      apply Link.Expires.Idles.bind_spends (.note _) (fun _ => most)
      intro _
      exact .done rfl most
  obtain ⟨ended, after, events, ran, trace, -, most⟩ := opens before bounded
  refine ⟨ended, after, events, ?_, trace, most⟩
  intro rounds enough
  exact (connect_approximates probe enough).run_eq ran

/-- On a link that has `count` read results left and times out from then on, requests, receives and
handshakes return, whatever sends come to. -/
theorem traffic_bounded (session : Session) (message : Message) (retryOnSignal : Bool)
    (policy : TimeoutPolicy) (config : SessionConfig) (token : CancelToken) (probe : Message) :
    link.Finishes before count (session.request message retryOnSignal) (fun reads sends =>
      reads ≤ count + 1 ∧
      (∀ stream, message.encode session.nextFlip session.config.ackEnabled = .ok stream →
        sends ≤ (count + 1) * stream.length) ∧
      ∀ size, message.encode session.nextFlip session.config.ackEnabled = .error size → sends = 0) ∧
    link.Finishes before count (session.receive policy) (fun reads sends =>
      reads ≤ count + 1 ∧ sends = 0) ∧
    link.Finishes before count (fun rounds => (connect config token probe rounds).run) fun reads _ =>
      reads ≤ count + 1 :=
  ⟨request_finishes expires bounded session message retryOnSignal,
    receive_finishes expires bounded session policy,
    connect_finishes expires bounded config token probe⟩

end Expiring

/-- The device is busy twice and then silent, and there is no retry limit. -/
theorem traffic_bounded_while_busy :
    let busy : Answer := ⟨[0xAC], [], .encoded ⟨.deviceStatus, [1]⟩ .clear false (by decide)⟩
    let device : Script := .playing (script { ackEnabled := true } [busy, busy])
    let session := Session.resume { ackEnabled := true } ⟨0⟩ .set
    device.Holds 4 ∧
      Link.scripted.Finishes { device } 4 (session.request (.empty .ping) false) (fun reads sends =>
        reads ≤ 5 ∧ sends ≤ 5) ∧
      Link.scripted.Finishes { device } 4 (session.receive .fatal) (fun reads sends =>
        reads ≤ 5 ∧ sends = 0) ∧
      Link.scripted.Finishes { device } 4 (fun rounds => (connect {} ⟨0⟩ ⟨0x0001, []⟩ rounds).run)
        fun reads _ => reads ≤ 5 := by
  intro busy device session
  have holds : device.Holds 4 := ⟨rfl, by decide⟩
  have bounded : (⟨device, .zero, [], #[]⟩ : World Script).device.Holds 4 := holds
  obtain ⟨requested, received, connected⟩ := traffic_bounded Link.scripted_expires bounded session
    (.empty .ping) false .fatal {} ⟨0⟩ ⟨0x0001, []⟩
  obtain ⟨returned, after, events, ran, trace, reads, sends, -⟩ := requested
  have single := sends ⟨.set, [Message.single (.empty .ping) .set true]⟩ (by decide)
  exact ⟨holds, ⟨returned, after, events, ran, trace, reads, single⟩, received, connected⟩

end Session

end PacketLink
