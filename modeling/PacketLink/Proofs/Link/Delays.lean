import PacketLink.Proofs.Link.CallSequences
import PacketLink.Proofs.Link.Outcomes

namespace PacketLink

/-! How long attempts sleep.

The clock moves by what was slept. `Paces` bounds the outcome, the sends and the sleeps of an attempt
on any link; an attempt that `Rests` neither sends nor sleeps. -/

namespace Duration

/-- The sum of spans, in nanoseconds. -/
def total : List Duration → Nat
  | [] => 0
  | span :: spans => span.nanos + total spans

/-- The sleeps of a wait: nothing is not slept. -/
def slept (span : Duration) : List Duration := if span.isZero then [] else [span]

@[simp] theorem total_append (spans more : List Duration) :
    total (spans ++ more) = total spans + total more := by
  induction spans with
  | nil => simp [total]
  | cons span spans ih => rw [List.cons_append, total, total, ih, Nat.add_assoc]

@[simp] theorem total_slept (span : Duration) : total span.slept = span.nanos := by
  unfold slept
  split
  · rename_i zero
    exact (eq_of_beq zero).symm
  · rfl

@[simp] theorem total_replicate (times : Nat) (span : Duration) :
    total (List.replicate times span) = times * span.nanos := by
  induction times with
  | zero => simp [total]
  | succ times ih => rw [List.replicate_succ, total, ih, Nat.succ_mul, Nat.add_comm]

@[simp] theorem total_repeated (times : Nat) (spans : List Duration) :
    total (List.replicate times spans).flatten = times * total spans := by
  induction times with
  | zero => simp [total]
  | succ times ih =>
      rw [List.replicate_succ, List.flatten_cons, total_append, ih, Nat.succ_mul, Nat.add_comm]

end Duration

namespace Trace

variable (trace events : Array Event) (notes : List Note) (event : Event)

@[simp] theorem sleeps_append : sleeps (trace ++ events) = sleeps trace ++ sleeps events := by
  simp [sleeps]

theorem sleeps_called : sleeps (called notes event) = sleeps #[event] := by
  rw [called, sleeps_append]
  simp [sleeps]

theorem sends_called : sends (called notes event) = sends #[event] := by
  rw [called, sends_append, sends_notes, List.nil_append]

end Trace

section Clocks

variable {σ α : Type} (link : Link σ)

theorem Link.perform_clock (effect : Effect) (world : World σ) :
    ∃ events, (link.perform effect world).2.trace = world.trace ++ events ∧
      (link.perform effect world).2.clock.nanos =
        world.clock.nanos + Duration.total (Trace.sleeps events) := by
  have called {β : Type} (call : Except LinkError β → Event) (reply : Reply σ β)
      (awake : Trace.sleeps #[call reply.result] = []) :
      ∃ events, (world.afterCall call reply).trace = world.trace ++ events ∧
        (world.afterCall call reply).clock.nanos =
          world.clock.nanos + Duration.total (Trace.sleeps events) := by
    have none := (Trace.sleeps_called reply.notes (call reply.result)).trans awake
    exact ⟨_, world.afterCall_trace call reply, by rw [← Trace.called, none]; rfl⟩
  cases effect with
  | send packet => exact called (.send packet) (link.send packet world.device) rfl
  | read timeout => exact called (.read timeout) (link.read timeout world.device) rfl
  | reset => exact called .reset (link.reset world.device) rfl
  | dispose => exact called .dispose (link.dispose world.device) rfl
  | sleep span => exact ⟨#[.sleep span], Array.push_eq_append, rfl⟩
  | note note => exact ⟨#[.note note], Array.push_eq_append, rfl⟩
  | isCancelled token => exact ⟨#[], Array.append_empty.symm, rfl⟩
  | now => exact ⟨#[], Array.append_empty.symm, rfl⟩

theorem Action.exists_clock (action : Action α) (world : World σ) :
    ∃ events, (action.run link world).2.trace = world.trace ++ events ∧
      (action.run link world).2.clock.nanos =
        world.clock.nanos + Duration.total (Trace.sleeps events) := by
  induction action generalizing world with
  | done value => exact ⟨#[], Array.append_empty.symm, rfl⟩
  | unfinished => exact ⟨#[], Array.append_empty.symm, rfl⟩
  | step effect next ih =>
      obtain ⟨first, trace, clock⟩ := link.perform_clock effect world
      obtain ⟨rest, later, clockLater⟩ :=
        ih (link.perform effect world).1 (link.perform effect world).2
      refine ⟨first ++ rest, ?_, ?_⟩
      · rw [run_step, later, trace, Array.append_assoc]
      · rw [run_step, clockLater, clock, Trace.sleeps_append, Duration.total_append, Nat.add_assoc]

/-- The clock moves only by sleeping, and by the time that was asked for. -/
theorem Action.run_clock {action : Action α} {before after : World σ} {ended : Option α}
    {events : Array Event} (ran : action.run link before = (ended, after))
    (trace : after.trace = before.trace ++ events) :
    after.clock.nanos = before.clock.nanos + Duration.total (Trace.sleeps events) := by
  obtain ⟨others, traceAgain, clock⟩ := action.exists_clock link before
  rw [ran] at traceAgain clock
  obtain rfl : others = events := (Array.append_right_inj _).mp (traceAgain.symm.trans trace)
  exact clock

end Clocks

namespace Attempt

variable {σ ε ε' α β γ : Type} {link : Link σ}

/-- Wherever the attempt starts, `post` holds of its outcome, its sends and its sleeps. -/
def Paces (link : Link σ) (attempt : Attempt ε α)
    (post : Option (Except ε α) → List (Bytes × Except LinkError Unit) → List Duration → Prop) :
    Prop :=
  attempt.Leaves link fun outcome events => post outcome (Trace.sends events) (Trace.sleeps events)

/-- However the attempt ends, it neither sends nor sleeps. -/
def Rests (link : Link σ) (attempt : Attempt ε α) : Prop :=
  attempt.Paces link fun _ sent slept => sent = [] ∧ slept = []

namespace Paces

variable {attempt : Attempt ε α} {next : α → Attempt ε β}
  {middle : Option (Except ε α) → List (Bytes × Except LinkError Unit) → List Duration → Prop}
  {post : Option (Except ε β) → List (Bytes × Except LinkError Unit) → List Duration → Prop}

theorem mono
    {weaker : Option (Except ε α) → List (Bytes × Except LinkError Unit) → List Duration → Prop}
    (paces : attempt.Paces link middle)
    (implies : ∀ outcome sent slept, middle outcome sent slept → weaker outcome sent slept) :
    attempt.Paces link weaker :=
  Leaves.mono paces fun _ _ holds => implies _ _ _ holds

theorem bind (first : attempt.Paces link middle)
    (stuck : ∀ sent slept, middle none sent slept → post none sent slept)
    (failed : ∀ reason sent slept, middle (some (.error reason)) sent slept →
      post (some (.error reason)) sent slept)
    (finished : ∀ value sent slept, middle (some (.ok value)) sent slept →
      (next value).Paces link fun outcome more sleptMore =>
        post outcome (sent ++ more) (slept ++ sleptMore)) :
    (attempt >>= next).Paces link post := by
  apply Leaves.bind first
  · intro events holds
    exact stuck _ _ holds
  · intro reason events holds
    exact failed reason _ _ holds
  · intro value events holds
    apply Leaves.mono (finished value _ _ holds)
    intro outcome more later
    rw [Trace.sends_append, Trace.sleeps_append]
    exact later

theorem pure {value : β} (holds : post (some (.ok value)) [] []) :
    (Pure.pure value : Attempt ε β).Paces link post :=
  Leaves.pure holds

theorem throw {reason : ε} (holds : post (some (.error reason)) [] []) :
    (MonadExcept.throw reason : Attempt ε β).Paces link post :=
  Leaves.throw holds

theorem unfinished (holds : post none [] []) : (Attempt.unfinished : Attempt ε β).Paces link post :=
  Leaves.unfinished holds

theorem outcome (paces : attempt.Paces link middle) :
    (attempt.outcome : Attempt ε' (Except ε α)).Paces link fun looked sent slept =>
      ∃ ended, looked = ended.map .ok ∧ middle ended sent slept := by
  intro before
  obtain ⟨events, trace, holds⟩ := paces before
  rw [Attempt.on_outcome]
  exact ⟨events, trace, _, rfl, holds⟩

theorem stop_bind {token : CancelToken} {reason : ε} {next : Unit → Attempt ε β}
    (cancelled : post (some (.error reason)) [] []) (rest : (next ()).Paces link post) :
    (stopIfCancelled token reason >>= next).Paces link post :=
  Leaves.stop_bind cancelled rest

theorem note_bind {note : Note} {next : Unit → Attempt ε β} (rest : (next ()).Paces link post) :
    (liftM (Action.note note) >>= next).Paces link post := by
  apply Leaves.note_bind
  apply Leaves.mono rest
  intro outcome more holds
  rw [Trace.sends_append, Trace.sleeps_append]
  exact holds

theorem sleep_bind {span : Duration} {next : Unit → Attempt ε β}
    (rest : (next ()).Paces link fun outcome sent slept => post outcome sent (span :: slept)) :
    (liftM (Action.sleep span) >>= next).Paces link post := by
  apply Leaves.sleep_bind
  apply Leaves.mono rest
  intro outcome more holds
  rw [Trace.sends_append, Trace.sleeps_append]
  exact holds

theorem wait_bind {span : Duration} {next : Unit → Attempt ε β}
    (rest : (next ()).Paces link fun outcome sent slept => post outcome sent (span.slept ++ slept)) :
    (liftM (Action.wait span) >>= next).Paces link post := by
  unfold Action.wait Duration.slept at *
  split
  · rename_i zero
    rw [if_pos zero] at rest
    exact rest
  · rename_i positive
    rw [if_neg positive] at rest
    exact sleep_bind rest

section Calls

variable {packet : Bytes} {timeout : Duration} {wrap : LinkError → ε}

theorem call_bind {action : Action (Except LinkError γ)} {call : Except LinkError γ → Event}
    {next : Except LinkError γ → Attempt ε β}
    (answered : ∀ before, ∃ reply : Reply σ γ,
      action.run link before = (some reply.result, before.afterCall call reply))
    (awake : ∀ result, Trace.sleeps #[call result] = [])
    (rest : ∀ result, (next result).Paces link fun outcome more slept =>
      post outcome (Trace.sends #[call result] ++ more) slept) :
    (liftM action >>= next).Paces link post := by
  intro before
  obtain ⟨reply, ran⟩ := answered before
  obtain ⟨more, trace, holds⟩ := rest reply.result (before.afterCall call reply)
  rw [World.afterCall_trace, Array.append_assoc] at trace
  have none := (Trace.sleeps_called reply.notes (call reply.result)).trans (awake _)
  rw [← Trace.sends_called reply.notes, ← Trace.sends_append, ← List.nil_append (Trace.sleeps more),
    ← none, ← Trace.sleeps_append] at holds
  rw [Attempt.on_bind, Attempt.on_lift, ran]
  exact ⟨_, trace, holds⟩

theorem sendOutcome_bind {next : Except LinkError Unit → Attempt ε β}
    (rest : ∀ result, (next result).Paces link fun outcome more slept =>
      post outcome ((packet, result) :: more) slept) :
    (liftM (Action.send packet) >>= next).Paces link post :=
  call_bind (fun before => ⟨_, Action.run_send link before packet⟩) (fun _ => rfl) rest

theorem send_bind {next : Unit → Attempt ε β}
    (refused : ∀ reason, post (some (.error (wrap reason))) [(packet, .error reason)] [])
    (accepted : (next ()).Paces link fun outcome more slept =>
      post outcome ((packet, .ok ()) :: more) slept) :
    (Attempt.of wrap (Action.send packet) >>= next).Paces link post := by
  rw [of_bind]
  apply sendOutcome_bind
  intro result
  cases result with
  | error reason => exact throw (refused reason)
  | ok _ => exact accepted

end Calls

end Paces

namespace Rests

variable {attempt : Attempt ε α} {next : α → Attempt ε β}
  {post : Option (Except ε β) → List (Bytes × Except LinkError Unit) → List Duration → Prop}

/-- What comes after a part that rests decides, unless that part ends it. -/
theorem bind_paces (rests : attempt.Rests link) (stuck : post none [] [])
    (failed : ∀ reason, post (some (.error reason)) [] [])
    (finished : ∀ value, (next value).Paces link post) : (attempt >>= next).Paces link post := by
  apply Paces.bind rests
  · intro sent slept none
    obtain ⟨rfl, rfl⟩ := none
    exact stuck
  · intro reason sent slept none
    obtain ⟨rfl, rfl⟩ := none
    exact failed reason
  · intro value sent slept none
    obtain ⟨rfl, rfl⟩ := none
    exact finished value

theorem bind (first : attempt.Rests link) (second : ∀ value, (next value).Rests link) :
    (attempt >>= next).Rests link :=
  first.bind_paces ⟨rfl, rfl⟩ (fun _ => ⟨rfl, rfl⟩) second

theorem pure (value : α) : (Pure.pure value : Attempt ε α).Rests link := Paces.pure ⟨rfl, rfl⟩

theorem throw (reason : ε) : (MonadExcept.throw reason : Attempt ε α).Rests link :=
  Paces.throw ⟨rfl, rfl⟩

theorem unfinished : (Attempt.unfinished : Attempt ε α).Rests link := Paces.unfinished ⟨rfl, rfl⟩

theorem stop (token : CancelToken) (reason : ε) : (stopIfCancelled token reason).Rests link := by
  rw [← bind_pure (stopIfCancelled token reason)]
  exact Paces.stop_bind ⟨rfl, rfl⟩ (pure ())

theorem note (note : Note) : (liftM (Action.note note) : Attempt ε Unit).Rests link := by
  rw [← bind_pure (liftM (Action.note note) : Attempt ε Unit)]
  exact Paces.note_bind (pure ())

theorem readOutcome (timeout : Duration) :
    (liftM (Action.read timeout) : Attempt ε (Except LinkError Bytes)).Rests link := by
  rw [← bind_pure (liftM (Action.read timeout) : Attempt ε (Except LinkError Bytes))]
  apply Paces.call_bind (fun before => ⟨_, Action.run_read link before timeout⟩) (fun _ => rfl)
  intro result
  exact pure result

theorem read (wrap : LinkError → ε) (timeout : Duration) :
    (Attempt.of wrap (Action.read timeout)).Rests link := by
  rw [← bind_pure (Attempt.of wrap (Action.read timeout)), of_bind]
  apply bind (readOutcome timeout)
  intro result
  cases result with
  | error reason => exact throw (wrap reason)
  | ok received => exact pure received

end Rests

end Attempt

end PacketLink
