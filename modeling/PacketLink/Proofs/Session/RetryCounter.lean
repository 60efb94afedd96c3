import PacketLink.Proofs.Session.Requests
import PacketLink.Proofs.Session.Variants

namespace PacketLink

/-! The counter of busy replies.

It has 32 bits and wraps. Every limit below the largest stops the request before that, and without a
limit nothing depends on the count; but the largest limit is one that the counter never exceeds. -/

namespace RetryLimit

theorem succ_toNat_lt {most : UInt32} (below : most ≠ 4294967295) : most.toNat + 1 < 2 ^ 32 := by
  have bound := most.toNat_lt
  have largest : (4294967295 : UInt32).toNat = 2 ^ 32 - 1 := rfl
  rw [ne_eq, ← UInt32.toNat_inj, largest] at below
  omega

/-- Below the largest limit the counter is right about each busy reply, up to the first that is too
many. -/
theorem exceededWrapping_of_permitted {limit : RetryLimit} (below : limit ≠ .attempts 4294967295)
    {count : Nat}
    (permitted : ∀ earlier, 0 < earlier → earlier < count →
      limit.exceededWrapping earlier = false) :
    limit.exceededWrapping count = limit.exceededBy count := by
  unfold exceededWrapping at permitted ⊢
  cases limit with
  | unbounded => rfl
  | attempts most =>
      have small := succ_toNat_lt fun largest => below (congrArg attempts largest)
      -- A larger count would come after the one that exceeds the limit.
      have reached : count ≤ most.toNat + 1 := by
        by_contra beyond
        have within := permitted (most.toNat + 1) (Nat.succ_pos _) (by omega)
        rw [exceeded_ofNat, Nat.mod_eq_of_lt small, decide_eq_false_iff_not] at within
        omega
      rw [exceeded_ofNat, Nat.mod_eq_of_lt (by omega)]
      rfl

theorem exceeded_largest (count : UInt32) : (attempts 4294967295).exceeded count = false := by
  have bound := count.toNat_lt
  have largest : (4294967295 : UInt32).toNat = 2 ^ 32 - 1 := rfl
  simp only [exceeded, UInt32.lt_iff_toNat_lt, largest, decide_eq_false_iff_not]
  omega

/-- Busy replies that are no more than the limit permits. The largest limit permits any number. -/
theorem not_exceeded_of_le {limit : RetryLimit} {busy : Nat}
    (permitted : limit = .unbounded ∨ limit = .attempts 4294967295 ∨
      ∃ most, limit = .attempts most ∧ busy ≤ most.toNat) :
    ∀ i < busy, limit.exceeded (UInt32.ofNat (i + 1)) = false := by
  intro i within
  rcases permitted with rfl | rfl | ⟨most, rfl, attempts⟩
  · rfl
  · exact exceeded_largest _
  · rw [exceeded_ofNat, decide_eq_false_iff_not]
    have bound := Nat.mod_le (i + 1) (2 ^ 32)
    omega

end RetryLimit

namespace Session

/-- Only the largest limit shows that the counter has 32 bits. There the request goes on however many
busy replies come; under any other limit, and without one, it does what it would with a counter that
has no bound. -/
theorem request_counts_busy_replies (session : Session) (message : Message) (retryOnSignal : Bool)
    (rounds : Nat) :
    session.request message retryOnSignal rounds =
      session.requestWith (throw (.link .timeout)) session.config.busyRetry.exceededWrapping message
        retryOnSignal rounds ∧
    (session.config.busyRetry ≠ .attempts 4294967295 →
      session.request message retryOnSignal rounds =
        session.requestWith (throw (.link .timeout)) session.config.busyRetry.exceededBy message
          retryOnSignal rounds) ∧
    (session.config.busyRetry = .attempts 4294967295 →
      session.request message retryOnSignal rounds =
        session.requestWith (throw (.link .timeout)) (fun _ => false) message retryOnSignal rounds) ∧
    ∀ {σ : Type} {link : Link σ} {queued : σ → List Bytes → Prop}
      (cooperates : link.Cooperates session.token session.config.debugSink queued),
      session.connected = true → message.length ≤ 988 → ∀ busy : List Answer,
      (∀ answer ∈ busy, answer.Obeys session.config) →
      (∀ answer ∈ busy, Exchange.isTransientBusy (answer.outcome session.config) message.command
        retryOnSignal session.config.reserved = true) →
      ∃ stream, message.encode session.nextFlip session.config.ackEnabled = .ok stream ∧
        (∀ most, session.config.busyRetry = .attempts most → most ≠ 4294967295 →
          most.toNat < busy.length → (script session.config busy).length ≤ rounds → ∀ later,
          cooperates.Requests message retryOnSignal rounds (script session.config busy ++ later)
            (.error (.retryLimitExceeded most)) (stream.repeated (most.toNat + 1))
            (script session.config (busy.take (most.toNat + 1)))
            ((busy.take (most.toNat + 1)).flatMap Answer.lines)
            (script session.config (busy.drop (most.toNat + 1)) ++ later)) ∧
        (session.config.busyRetry = .unbounded ∨ session.config.busyRetry = .attempts 4294967295 ∨
            (∃ most, session.config.busyRetry = .attempts most ∧ busy.length ≤ most.toNat) →
          ∀ final : Answer, final.Obeys session.config →
          Exchange.isTransientBusy (final.outcome session.config) message.command retryOnSignal
            session.config.reserved = false →
          (script session.config (busy ++ [final])).length ≤ rounds → ∀ later,
          cooperates.Requests message retryOnSignal rounds
            (script session.config (busy ++ [final]) ++ later)
            (.ok (Exchange.messageOf session.config.reserved (final.outcome session.config)))
            (stream.repeated (busy.length + 1)) (script session.config (busy ++ [final]))
            ((busy ++ [final]).flatMap Answer.lines) later) := by
  refine ⟨session.request_eq_with _ _ _, ?_, ?_, ?_⟩
  · intro below
    rw [request_eq_with]
    apply requestWith_congr
    intro count _ permitted
    exact RetryLimit.exceededWrapping_of_permitted below permitted
  · intro largest
    rw [request_eq_with]
    apply requestWith_congr
    intro count _ _
    rw [RetryLimit.exceededWrapping, largest, RetryLimit.exceeded_largest]
  intro σ link queued cooperates connected fits busy obey areBusy
  obtain ⟨stream, encoded, prepared⟩ := prepare_of_fits connected fits
  refine ⟨stream, encoded, ?_, ?_⟩
  · intro most limit below more enough later
    have small : most.toNat + 1 < 2 ^ 32 := RetryLimit.succ_toNat_lt below
    exact requests_giveUp cooperates prepared obey areBusy limit small more enough later
  · intro permitted final finalObeys settled enough later
    have within := RetryLimit.not_exceeded_of_le permitted
    exact requests_reply cooperates prepared obey areBusy finalObeys settled within enough later

/-- A device status in answer to anything, without an acknowledgment. -/
def statusAnswer : Answer :=
  ⟨[], [], .encoded ⟨.deviceStatus, [1]⟩ .clear false (by decide)⟩

def pingAnswer : Answer :=
  ⟨[], [], .encoded ⟨.ping, [7]⟩ .clear false (by decide)⟩

theorem request_counts_two_busy_replies :
    ∃ stream after, (Message.empty .ping).encode .set false = .ok stream ∧
      ((Session.resume { busyRetry := .attempts 1 } ⟨0⟩ .set).request (.empty .ping) false 2).run
          Link.scripted
          { device := .playing (script { busyRetry := .attempts 1 } [statusAnswer, statusAnswer]) } =
        (some (.error (.retryLimitExceeded 1),
          .resume { busyRetry := .attempts 1 } ⟨0⟩ .clear), after) ∧
      Trace.accepted after.trace = stream.repeated 2 ∧ after.device.Queues [] := by
  obtain ⟨-, -, -, busy⟩ := request_counts_busy_replies (.resume { busyRetry := .attempts 1 } ⟨0⟩ .set)
    (.empty .ping) false 2
  obtain ⟨stream, encoded, givesUp, -⟩ := busy (Link.scripted_cooperates ⟨0⟩ .log) rfl (by decide)
    [statusAnswer, statusAnswer] (by simpa using ⟨by simp [statusAnswer], by decide⟩)
    (by simpa using by decide)
  obtain ⟨after, ran, ⟨events, stretch, -⟩, remains⟩ :=
    givesUp 1 rfl (by decide) (by decide) (by decide) [] { device := .playing _ }
      ⟨by rw [List.append_nil]; exact Script.playing_queues _, by simp⟩
  have trace : after.trace = events := by simpa using stretch.trace
  refine ⟨stream, after, encoded, ran, ?_, ?_⟩
  · rw [trace, stretch.accepted]
    rfl
  · simpa [script] using remains.queue

/-- The device is busy once more often than the largest limit permits, and the request still goes on
and returns the reply after that. -/
theorem request_outlasts_largest_limit :
    ∃ stream after, (Message.empty .ping).encode .set false = .ok stream ∧
      ((Session.resume { busyRetry := .attempts 4294967295 } ⟨0⟩ .set).request (.empty .ping) false
          (script { busyRetry := .attempts 4294967295 }
            (List.replicate (4294967295 + 1) statusAnswer ++ [pingAnswer])).length).run Link.scripted
          { device := .playing (script { busyRetry := .attempts 4294967295 }
            (List.replicate (4294967295 + 1) statusAnswer ++ [pingAnswer])) } =
        (some (.ok ⟨.ping, [7]⟩,
          .resume { busyRetry := .attempts 4294967295 } ⟨0⟩ .clear), after) ∧
      Trace.accepted after.trace = stream.repeated (4294967295 + 1 + 1) := by
  obtain ⟨stream, encoded, prepared⟩ := @prepare_of_fits
    (.resume { busyRetry := .attempts 4294967295 } ⟨0⟩ .set) (.empty .ping) rfl (by decide)
  have busy : ∀ answer ∈ List.replicate (4294967295 + 1) statusAnswer,
      answer.Obeys { busyRetry := .attempts 4294967295 } ∧ Exchange.isTransientBusy
        (answer.outcome { busyRetry := .attempts 4294967295 }) .ping false {} = true := by
    intro answer member
    obtain rfl := List.eq_of_mem_replicate member
    exact ⟨⟨by simp [statusAnswer], by decide⟩, by decide⟩
  obtain ⟨after, ran, ⟨events, stretch, -⟩, -⟩ := @requests_reply Script Link.scripted
    (.resume { busyRetry := .attempts 4294967295 } ⟨0⟩ .set) Script.Queues
    (Link.scripted_cooperates ⟨0⟩ .log) (.empty .ping) false _ stream
    (List.replicate (4294967295 + 1) statusAnswer) prepared (fun answer member => (busy answer member).1)
    (fun answer member => (busy answer member).2) pingAnswer ⟨by simp [pingAnswer], by decide⟩
    (by decide) (fun i _ => RetryLimit.exceeded_largest _) (Nat.le_refl _) []
    { device := .playing _ } ⟨by rw [List.append_nil]; exact Script.playing_queues _, by simp⟩
  have trace : after.trace = events := by simpa using stretch.trace
  refine ⟨stream, after, encoded, ran, ?_⟩
  rw [trace, stretch.accepted, List.length_replicate]

end Session

end PacketLink
