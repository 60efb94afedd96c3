import PacketLink.Proofs.Link.Stretch

namespace PacketLink

/-! What attempts leave behind on any link, however they end.

`Leaves` bounds the outcome and the events of an attempt from any world on, and its rules follow the
steps of an attempt. An attempt that `Listens` sends nothing. -/

namespace Attempt

variable {σ ε ε' α β : Type} {link : Link σ}

/-- Wherever the attempt starts, it adds events of which `post` holds, together with the outcome if
there is one. -/
def Leaves (link : Link σ) (attempt : Attempt ε α)
    (post : Option (Except ε α) → Array Event → Prop) : Prop :=
  ∀ before, ∃ events, (attempt.on link before).2.trace = before.trace ++ events ∧
    post (attempt.on link before).1 events

namespace Leaves

variable {attempt : Attempt ε α} {next : α → Attempt ε β}
  {middle : Option (Except ε α) → Array Event → Prop}
  {post : Option (Except ε β) → Array Event → Prop}

theorem mono {weaker : Option (Except ε α) → Array Event → Prop}
    (leaves : attempt.Leaves link middle)
    (implies : ∀ outcome events, middle outcome events → weaker outcome events) :
    attempt.Leaves link weaker := by
  intro before
  obtain ⟨events, trace, holds⟩ := leaves before
  exact ⟨events, trace, implies _ _ holds⟩

/-- What is known of runs that ended well holds beside the rest. -/
theorem and_of_ok {extra : α → Array Event → Prop} (leaves : attempt.Leaves link middle)
    (known : ∀ before after value, attempt.on link before = (some (.ok value), after) →
      ∃ events, after.trace = before.trace ++ events ∧ extra value events) :
    attempt.Leaves link fun outcome events =>
      middle outcome events ∧ ∀ value, outcome = some (.ok value) → extra value events := by
  intro before
  obtain ⟨events, trace, holds⟩ := leaves before
  refine ⟨events, trace, holds, fun value ended => ?_⟩
  obtain ⟨others, traceAgain, knows⟩ := known before _ value (Prod.ext ended rfl)
  have same : others = events := (Array.append_right_inj _).mp (traceAgain.symm.trans trace)
  exact same ▸ knows

theorem bind (first : attempt.Leaves link middle)
    (stuck : ∀ events, middle none events → post none events)
    (failed : ∀ reason events, middle (some (.error reason)) events →
      post (some (.error reason)) events)
    (finished : ∀ value events, middle (some (.ok value)) events →
      (next value).Leaves link fun outcome more => post outcome (events ++ more)) :
    (attempt >>= next).Leaves link post := by
  intro before
  obtain ⟨events, trace, holds⟩ := first before
  rw [Attempt.on_bind]
  cases ran : attempt.on link before with
  | mk outcome between =>
      rw [ran] at trace holds
      cases outcome with
      | none => exact ⟨events, trace, stuck events holds⟩
      | some ended =>
          cases ended with
          | error reason => exact ⟨events, trace, failed reason events holds⟩
          | ok value =>
              obtain ⟨more, later, holdsLater⟩ := finished value events holds between
              exact ⟨events ++ more, by rw [later, trace, Array.append_assoc], holdsLater⟩

theorem pure {value : β} (holds : post (some (.ok value)) #[]) :
    (Pure.pure value : Attempt ε β).Leaves link post :=
  fun before => ⟨#[], by simp, holds⟩

theorem throw {reason : ε} (holds : post (some (.error reason)) #[]) :
    (MonadExcept.throw reason : Attempt ε β).Leaves link post :=
  fun before => ⟨#[], by simp, holds⟩

theorem unfinished (holds : post none #[]) : (Attempt.unfinished : Attempt ε β).Leaves link post :=
  fun before => ⟨#[], by simp, holds⟩

theorem stop_bind {token : CancelToken} {reason : ε} {next : Unit → Attempt ε β}
    (cancelled : post (some (.error reason)) #[]) (rest : (next ()).Leaves link post) :
    (stopIfCancelled token reason >>= next).Leaves link post := by
  intro before
  rw [Attempt.on_bind, Attempt.on_stopIfCancelled]
  split <;> rename_i ran
  · obtain ⟨-, rfl⟩ := Prod.mk.inj ran
    exact rest before
  · obtain ⟨outcome, rfl⟩ := Prod.mk.inj ran
    split at outcome
    · obtain rfl : reason = _ := by simpa using outcome
      exact ⟨#[], by simp, cancelled⟩
    · simp at outcome
  · simp at ran

theorem note_bind {note : Note} {next : Unit → Attempt ε β}
    (rest : (next ()).Leaves link fun outcome more => post outcome (#[.note note] ++ more)) :
    (liftM (Action.note note) >>= next).Leaves link post := by
  intro before
  obtain ⟨more, trace, holds⟩ := rest (before.record (.note note))
  rw [World.record_trace, Array.append_assoc] at trace
  rw [Attempt.on_bind, Attempt.on_lift, Action.run_note]
  exact ⟨_, trace, holds⟩

theorem sleep_bind {span : Duration} {next : Unit → Attempt ε β}
    (rest : (next ()).Leaves link fun outcome more => post outcome (#[.sleep span] ++ more)) :
    (liftM (Action.sleep span) >>= next).Leaves link post := by
  intro before
  obtain ⟨more, trace, holds⟩ :=
    rest { before.record (.sleep span) with clock := before.clock + span }
  rw [World.record_trace, Array.append_assoc] at trace
  rw [Attempt.on_bind, Attempt.on_lift, Action.run_sleep]
  exact ⟨_, trace, holds⟩

theorem send_bind {wrap : LinkError → ε} {packet : Bytes} {next : Unit → Attempt ε β}
    (refused : ∀ notes reason,
      post (some (.error (wrap reason))) (Trace.called notes (.send packet (.error reason))))
    (accepted : ∀ notes, (next ()).Leaves link fun outcome more =>
      post outcome (Trace.called notes (.send packet (.ok ())) ++ more)) :
    (Attempt.of wrap (Action.send packet) >>= next).Leaves link post := by
  intro before
  have trace := before.afterCall_trace (.send packet) (link.send packet before.device)
  rw [Attempt.on_bind, Attempt.on_of, Action.run_send]
  cases answered : (link.send packet before.device).result with
  | error reason =>
      rw [answered] at trace
      exact ⟨_, trace, refused _ reason⟩
  | ok _ =>
      rw [answered] at trace
      obtain ⟨more, later, holds⟩ :=
        accepted _ (before.afterCall (.send packet) (link.send packet before.device))
      rw [trace, Array.append_assoc] at later
      exact ⟨_, later, holds⟩

theorem reset_bind {next : Except LinkError Unit → Attempt ε β}
    (answered : ∀ notes result, (next result).Leaves link fun outcome more =>
      post outcome (Trace.called notes (.reset result) ++ more)) :
    (liftM Action.reset >>= next).Leaves link post := by
  intro before
  have trace := before.afterCall_trace .reset (link.reset before.device)
  rw [Attempt.on_bind, Attempt.on_lift, Action.run_reset]
  obtain ⟨more, later, holds⟩ := answered _ (link.reset before.device).result
    (before.afterCall .reset (link.reset before.device))
  rw [trace, Array.append_assoc] at later
  exact ⟨_, later, holds⟩

end Leaves

/-- The attempt sends nothing, and fails only with what is `allowed`. -/
def Listens (link : Link σ) (allowed : ε → Prop) (attempt : Attempt ε α) : Prop :=
  attempt.Leaves link fun outcome events =>
    Trace.sends events = [] ∧ ∀ reason, outcome = some (.error reason) → allowed reason

namespace Listens

variable {allowed : ε → Prop} {attempt : Attempt ε α} {next : α → Attempt ε β}

theorem bind (first : attempt.Listens link allowed)
    (later : ∀ value, (next value).Listens link allowed) :
    (attempt >>= next).Listens link allowed := by
  refine Leaves.bind first ?_ ?_ ?_
  · rintro events ⟨silent, -⟩
    exact ⟨silent, by simp⟩
  · rintro reason events ⟨silent, fails⟩
    refine ⟨silent, fun other same => ?_⟩
    obtain rfl : reason = other := by simpa using same
    exact fails reason rfl
  · rintro value events ⟨silent, -⟩
    refine (later value).mono ?_
    rintro outcome more ⟨silentLater, fails⟩
    exact ⟨by rw [Trace.sends_append, silent, silentLater]; rfl, fails⟩

theorem pure (value : α) : (Pure.pure value : Attempt ε α).Listens link allowed :=
  Leaves.pure ⟨rfl, by simp⟩

theorem throw {reason : ε} (fails : allowed reason) :
    (MonadExcept.throw reason : Attempt ε α).Listens link allowed :=
  Leaves.throw ⟨rfl, by simpa using fails⟩

theorem unfinished : (Attempt.unfinished : Attempt ε α).Listens link allowed :=
  Leaves.unfinished ⟨rfl, by simp⟩

theorem stop {token : CancelToken} {reason : ε} (fails : allowed reason) :
    (stopIfCancelled token reason).Listens link allowed := by
  intro before
  rw [Attempt.on_stopIfCancelled]
  refine ⟨#[], by simp, rfl, ?_⟩
  split
  · simpa using fails
  · simp

theorem note (note : Note) : (liftM (Action.note note) : Attempt ε Unit).Listens link allowed := by
  intro before
  exact ⟨#[.note note], by rw [Attempt.on_lift, Action.run_note]; exact before.record_trace _, rfl,
    by rw [Attempt.on_lift, Action.run_note]; simp⟩

theorem sleep (span : Duration) :
    (liftM (Action.sleep span) : Attempt ε Unit).Listens link allowed := by
  intro before
  exact ⟨#[.sleep span], by rw [Attempt.on_lift, Action.run_sleep]; exact before.record_trace _, rfl,
    by rw [Attempt.on_lift, Action.run_sleep]; simp⟩

theorem wait (span : Duration) :
    (liftM (Action.wait span) : Attempt ε Unit).Listens link allowed := by
  unfold Action.wait
  split
  · exact pure ()
  · exact sleep span

theorem readOutcome (timeout : Duration) :
    (liftM (Action.read timeout) : Attempt ε (Except LinkError Bytes)).Listens link allowed := by
  intro before
  refine ⟨_, by rw [Attempt.on_lift, Action.run_read]; exact before.afterCall_trace _ _,
    Trace.sends_read _ _ _, ?_⟩
  rw [Attempt.on_lift, Action.run_read]
  simp

theorem read {wrap : LinkError → ε} (fails : ∀ reason, allowed (wrap reason)) (timeout : Duration) :
    (Attempt.of wrap (Action.read timeout)).Listens link allowed := by
  intro before
  refine ⟨_, by rw [Attempt.on_of, Action.run_read]; exact before.afterCall_trace _ _,
    Trace.sends_read _ _ _, ?_⟩
  rw [Attempt.on_of, Action.run_read]
  intro final failed
  cases answered : (link.read timeout before.device).result with
  | error reason =>
      rw [answered] at failed
      have same : Except.error (wrap reason) = Except.error final := Option.some.inj failed
      obtain rfl := Except.error.inj same
      exact fails reason
  | ok packet =>
      rw [answered] at failed
      have same : Except.ok packet = Except.error final := Option.some.inj failed
      contradiction

end Listens

end Attempt

end PacketLink
