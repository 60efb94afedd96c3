import PacketLink.Proofs.Link.Delays
import PacketLink.Session.Exchange

namespace PacketLink.Exchange

/-! The wait before a stream is sent again.

The clock of a link moves only by what is slept, and the token is raised only by calls. There the loop of
a pause comes to its deadline after whole slices and a rest, all in one go. -/

/-- The sleeps of a wait that looks at the token in between: whole slices, and then what is left. -/
def slices (total : Duration) : List Duration :=
  List.replicate (total.nanos / cancelPoll.nanos) cancelPoll ++
    Duration.slept ⟨total.nanos % cancelPoll.nanos⟩

@[simp] theorem total_slices (total : Duration) : Duration.total (slices total) = total.nanos := by
  rw [slices, Duration.total_append, Duration.total_replicate, Duration.total_slept]
  exact Nat.div_add_mod' total.nanos cancelPoll.nanos

theorem slice_le {total slice : Duration} (member : slice ∈ slices total) : slice ≤ cancelPoll := by
  rcases List.mem_append.mp member with full | last
  · rw [List.eq_of_mem_replicate full]
    exact Nat.le_refl cancelPoll.nanos
  · unfold Duration.slept at last
    split at last
    · contradiction
    · rw [List.mem_singleton.mp last]
      exact Nat.le_of_lt (Nat.mod_lt _ (by decide))

/-- Sleeps for each span, and looks at nothing. -/
def sleepAll : List Duration → Attempt ExchangeError Unit
  | [] => pure ()
  | span :: spans => do
      Action.sleep span
      sleepAll spans

variable {σ : Type} {link : Link σ} {token : CancelToken} {deadline : Duration} {rounds : Nat}
  {before : World σ}

theorem on_sleep_bind {span : Duration} {next : Unit → Attempt ExchangeError Unit} :
    (liftM (Action.sleep span) >>= next).on link before =
      (next ()).on link { before.record (.sleep span) with clock := before.clock + span } := rfl

theorem pauseUntil_cancelled (raised : token ∈ before.raised) :
    (pauseUntil token deadline (rounds + 1)).on link before = (some (.error .cancelled), before) := by
  rw [pauseUntil, Attempt.on_bind, Attempt.on_stopIfCancelled, if_pos raised]

/-- One round, while the token is not raised. -/
theorem pauseUntil_on_succ (active : token ∉ before.raised) :
    (pauseUntil token deadline (rounds + 1)).on link before =
      (if before.clock < deadline then do
        Action.sleep (min (deadline - before.clock) cancelPoll)
        pauseUntil token deadline rounds
      else pure () : Attempt ExchangeError Unit).on link before := by
  rw [pauseUntil, Attempt.on_bind, Attempt.on_stopIfCancelled, if_neg active]
  rfl

theorem pauseUntil_on_deadline (active : token ∉ before.raised)
    (reached : before.clock = deadline) :
    (pauseUntil token deadline (rounds + 1)).on link before = (some (.ok ()), before) := by
  have late : ¬ before.clock < deadline := reached ▸ Nat.lt_irrefl _
  rw [pauseUntil_on_succ active, if_neg late, Attempt.on_pure]

theorem pauseUntil_on_sleep (active : token ∉ before.raised) {span : Duration}
    (early : before.clock < deadline) (due : min (deadline - before.clock) cancelPoll = span) :
    (pauseUntil token deadline (rounds + 1)).on link before =
      (pauseUntil token deadline rounds).on link
        { before.record (.sleep span) with clock := before.clock + span } := by
  rw [pauseUntil_on_succ active, if_pos early, due, on_sleep_bind]

/-- What is left below a slice is slept for in one round, and in the next the deadline is there. -/
theorem pauseUntil_on_rest {left : Duration} (active : token ∉ before.raised)
    (short : left < cancelPoll) (remaining : deadline.nanos = before.clock.nanos + left.nanos) :
    (pauseUntil token deadline (rounds + 2)).on link before = (sleepAll left.slept).on link before := by
  have reached : before.clock + left = deadline := congrArg Duration.mk remaining.symm
  unfold Duration.slept
  split
  · rename_i nothing
    have none : left.nanos = 0 := eq_of_beq nothing
    rw [none] at remaining
    exact pauseUntil_on_deadline active (congrArg Duration.mk remaining.symm)
  · rename_i something
    have some : left.nanos ≠ 0 := fun none => something (beq_iff_eq.mpr none)
    have early : before.clock < deadline := by
      change before.clock.nanos < deadline.nanos
      omega
    have rest : deadline - before.clock = left := by
      change Duration.mk (deadline.nanos - before.clock.nanos) = left
      rw [remaining, Nat.add_sub_cancel_left]
    have due : min (deadline - before.clock) cancelPoll = left := by
      rw [rest, Duration.min_of_le (Nat.le_of_lt short)]
    rw [pauseUntil_on_sleep active early due]
    exact pauseUntil_on_deadline active reached

/-- Each full slice is a round of its own. -/
theorem pauseUntil_on (full : Nat) {left : Duration} (active : token ∉ before.raised)
    (short : left < cancelPoll)
    (remaining : deadline.nanos = before.clock.nanos + (full * cancelPoll.nanos + left.nanos))
    (enough : full + 2 ≤ rounds) :
    (pauseUntil token deadline rounds).on link before =
      (sleepAll (List.replicate full cancelPoll ++ left.slept)).on link before := by
  induction full generalizing before rounds with
  | zero =>
      obtain ⟨more, rfl⟩ := Nat.exists_eq_add_of_le' enough
      rw [Nat.zero_mul, Nat.zero_add] at remaining
      exact pauseUntil_on_rest active short remaining
  | succ full ih =>
      cases rounds with
      | zero => omega
      | succ rounds =>
          rw [Nat.succ_mul] at remaining
          have early : before.clock < deadline := by
            change before.clock.nanos < deadline.nanos
            have positive : 0 < cancelPoll.nanos := by decide
            omega
          have due : min (deadline - before.clock) cancelPoll = cancelPoll := by
            apply Duration.min_of_ge
            change cancelPoll.nanos ≤ deadline.nanos - before.clock.nanos
            omega
          rw [pauseUntil_on_sleep active early due, List.replicate_succ, List.cons_append, sleepAll,
            on_sleep_bind]
          apply ih
          · exact active
          · change deadline.nanos = before.clock.nanos + cancelPoll.nanos + _
            omega
          · omega

/-- A pause stops at the raised token, or sleeps for its slices. -/
theorem pause_on (total : Duration) :
    (pause token total).on link before =
      (Attempt.stopIfCancelled token .cancelled >>= fun _ => sleepAll (slices total)).on link
        before := by
  have started : (pause token total).on link before =
      (pauseUntil token (before.clock + total) (pauseRounds total)).on link before := rfl
  rw [started, Attempt.on_bind, Attempt.on_stopIfCancelled]
  by_cases raised : token ∈ before.raised
  · rw [if_pos raised]
    exact pauseUntil_cancelled raised
  · rw [if_neg raised]
    apply pauseUntil_on _ raised (Nat.mod_lt _ (by decide)) _ (Nat.le_refl _)
    change before.clock.nanos + total.nanos = _
    rw [Nat.div_add_mod']

end PacketLink.Exchange
