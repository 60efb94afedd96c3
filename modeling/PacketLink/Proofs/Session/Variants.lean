import PacketLink.Session.Exchange

namespace PacketLink

/-! Requests with two of their decisions left open.

The variant counts busy replies without bound, and is told which numbers of them are too many and what to
do where a receive ends without an outcome. The request itself is one case of it. -/

namespace RetryLimit

/-- Whether so many retransmissions exceed the limit, however many they are. -/
def exceededBy (limit : RetryLimit) (retries : Nat) : Bool :=
  match limit with
  | .unbounded => false
  | .attempts most => most.toNat < retries

/-- The same as it looks to a counter of 32 bits. -/
def exceededWrapping (limit : RetryLimit) (retries : Nat) : Bool :=
  limit.exceeded (UInt32.ofNat retries)

end RetryLimit

namespace Exchange

def converseWith (fallback : Attempt ExchangeError Message) (exceeded : Nat → Bool)
    (config : SessionConfig) (token : CancelToken) (stream : PacketStream) (command : Command)
    (retryOnSignal : Bool) : (rounds : Nat) → (busy : Nat) → Attempt ExchangeError Message
  | 0, _ => Attempt.unfinished
  | rounds + 1, busy => do
      transmit config token stream
      awaitAcknowledgment config
      match ← Receive.run config token .fatal (rounds + 1) with
      | none => fallback
      | some reply =>
          if isTransientBusy reply command retryOnSignal config.reserved then
            if exceeded (busy + 1) then
              Action.log (.stillBusy command)
              throw (.retryLimitExceeded (UInt32.ofNat busy))
            else
              Action.log (.busy command (UInt32.ofNat (busy + 1)))
              pause token config.busyBackoff
              converseWith fallback exceeded config token stream command retryOnSignal rounds (busy + 1)
          else return messageOf config.reserved reply

variable {config : SessionConfig} {token : CancelToken} {stream : PacketStream} {command : Command}
  {retryOnSignal : Bool}

/-- The counter holds the number of busy replies, up to multiples of 2 ^ 32. -/
theorem converse_eq_with (rounds busy : Nat) :
    converse config token stream command retryOnSignal rounds (UInt32.ofNat busy) =
      converseWith (throw (.link .timeout)) config.busyRetry.exceededWrapping config token stream command
        retryOnSignal rounds busy := by
  induction rounds generalizing busy with
  | zero => rfl
  | succ rounds ih =>
      have next : UInt32.ofNat busy + 1 = UInt32.ofNat (busy + 1) := (UInt32.ofNat_add busy 1).symm
      have before : UInt32.ofNat (busy + 1) - 1 = UInt32.ofNat busy := by
        rw [← next, UInt32.add_sub_cancel]
      rw [converse, converseWith]
      refine bind_congr fun _ => bind_congr fun _ => bind_congr fun received => ?_
      cases received with
      | none => rfl
      | some reply =>
          simp only [next, before, ih]
          rfl

/-- Only counts up to the first one that is too many make a difference. -/
theorem converseWith_congr {fallback : Attempt ExchangeError Message} {exceeded other : Nat → Bool}
    (rounds busy : Nat)
    (agree : ∀ count, busy < count →
      (∀ earlier, busy < earlier → earlier < count → exceeded earlier = false) →
        exceeded count = other count) :
    converseWith fallback exceeded config token stream command retryOnSignal rounds busy =
      converseWith fallback other config token stream command retryOnSignal rounds busy := by
  induction rounds generalizing busy with
  | zero => rfl
  | succ rounds ih =>
      have first : exceeded (busy + 1) = other (busy + 1) :=
        agree (busy + 1) (Nat.lt_succ_self busy) (by omega)
      rw [converseWith, converseWith, ← first]
      cases spent : exceeded (busy + 1) with
      | true => simp only [↓reduceIte]
      | false =>
          have later := ih (busy + 1) (by
            intro count beyond permitted
            apply agree count (by omega)
            intro earlier above below
            by_cases same : earlier = busy + 1
            · rw [same, spent]
            · exact permitted earlier (by omega) below)
          rw [later]

end Exchange

namespace Session

def requestWith (fallback : Attempt ExchangeError Message) (exceeded : Nat → Bool)
    (session : Session) (message : Message) (retryOnSignal : Bool) (rounds : Nat) :
    Action (Except ExchangeError Message × Session) :=
  match session.prepare message with
  | (.error reason, following) => return (.error reason, following)
  | (.ok stream, following) => do
      let outcome ← (Exchange.converseWith fallback exceeded session.config session.token stream
        message.command retryOnSignal rounds 0).run
      return (outcome, following)

theorem request_eq_with (session : Session) (message : Message) (retryOnSignal : Bool)
    (rounds : Nat) : session.request message retryOnSignal rounds =
      session.requestWith (throw (.link .timeout)) session.config.busyRetry.exceededWrapping message
        retryOnSignal rounds := by
  unfold request requestWith
  rcases session.prepare message with ⟨prepared, following⟩
  cases prepared with
  | error reason => rfl
  | ok stream =>
      dsimp only
      rw [← Exchange.converse_eq_with]
      rfl

theorem requestWith_congr {fallback : Attempt ExchangeError Message} {exceeded other : Nat → Bool}
    (session : Session) (message : Message) (retryOnSignal : Bool) (rounds : Nat)
    (agree : ∀ count, 0 < count →
      (∀ earlier, 0 < earlier → earlier < count → exceeded earlier = false) →
        exceeded count = other count) :
    session.requestWith fallback exceeded message retryOnSignal rounds =
      session.requestWith fallback other message retryOnSignal rounds := by
  simp only [requestWith, Exchange.converseWith_congr rounds 0 agree]

end Session

end PacketLink
