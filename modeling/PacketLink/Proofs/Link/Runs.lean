import PacketLink.Link.Trace

namespace PacketLink

/-! Runs of attempts on a link, step by step.

A run of two attempts in sequence goes on only where the first one ended well. The world after a
call differs from the one before it by the reply; the trace grows at its end. -/

namespace World

variable {σ α : Type}

/-- The world after a call of the link. -/
def afterCall (world : World σ) (event : Except LinkError α → Event) (reply : Reply σ α) : World σ :=
  (settle world.clock world.raised world.trace event reply).2

@[simp] theorem afterCall_device (world : World σ) (event : Except LinkError α → Event)
    (reply : Reply σ α) : (world.afterCall event reply).device = reply.device := rfl

@[simp] theorem afterCall_raised (world : World σ) (event : Except LinkError α → Event)
    (reply : Reply σ α) : (world.afterCall event reply).raised = reply.raises.toList ++ world.raised :=
  rfl

@[simp] theorem afterCall_trace (world : World σ) (event : Except LinkError α → Event)
    (reply : Reply σ α) :
    (world.afterCall event reply).trace =
      world.trace ++ ((reply.notes.map Event.note).toArray ++ #[event reply.result]) := by
  simp [afterCall, settle]

@[simp] theorem record_device (world : World σ) (event : Event) :
    (world.record event).device = world.device := rfl

@[simp] theorem record_raised (world : World σ) (event : Event) :
    (world.record event).raised = world.raised := rfl

@[simp] theorem record_trace (world : World σ) (event : Event) :
    (world.record event).trace = world.trace ++ #[event] := by
  simp [record]

end World

namespace Action

variable {σ : Type} (link : Link σ) (world : World σ)

theorem run_of_outcome {α : Type} {action : Action α} {link : Link σ} {before : World σ}
    {outcome : Option α} (ended : (action.run link before).1 = outcome) :
    action.run link before = (outcome, (action.run link before).2) :=
  Prod.ext ended rfl

theorem run_send (packet : Bytes) :
    (send packet).run link world =
      (some (link.send packet world.device).result,
        world.afterCall (.send packet) (link.send packet world.device)) := rfl

theorem run_read (timeout : Duration) :
    (read timeout).run link world =
      (some (link.read timeout world.device).result,
        world.afterCall (.read timeout) (link.read timeout world.device)) := rfl

theorem run_reset :
    reset.run link world =
      (some (link.reset world.device).result,
        world.afterCall .reset (link.reset world.device)) := rfl

theorem run_dispose :
    dispose.run link world =
      (some (link.dispose world.device).result,
        world.afterCall .dispose (link.dispose world.device)) := rfl

theorem run_note (note : Note) :
    (Action.note note).run link world = (some (), world.record (.note note)) := rfl

theorem run_sleep (span : Duration) :
    (sleep span).run link world =
      (some (), { world.record (.sleep span) with clock := world.clock + span }) := rfl

end Action

namespace Attempt

variable {σ ε ε' α β : Type} (link : Link σ) (world : World σ)

/-- The run of an attempt: its outcome, if it finishes, and the world in which it ends. -/
def on (attempt : Attempt ε α) (link : Link σ) (world : World σ) :
    Option (Except ε α) × World σ :=
  Action.run link attempt.run world

@[simp] theorem on_pure (value : α) :
    (pure value : Attempt ε α).on link world = (some (.ok value), world) := rfl

@[simp] theorem on_throw (reason : ε) :
    (throw reason : Attempt ε α).on link world = (some (.error reason), world) := rfl

@[simp] theorem on_unfinished :
    (unfinished : Attempt ε α).on link world = (none, world) := rfl

theorem on_bind (attempt : Attempt ε α) (next : α → Attempt ε β) :
    (attempt >>= next).on link world =
      match attempt.on link world with
      | (some (.ok value), following) => (next value).on link following
      | (some (.error reason), following) => (some (.error reason), following)
      | (none, following) => (none, following) := by
  have unfolded : (attempt >>= next).on link world =
      (attempt.run >>= ExceptT.bindCont next).run link world := rfl
  rw [unfolded, Action.run_bind, on]
  split <;> rename_i ran
  · rename_i outcome following
    rw [ran]
    cases outcome <;> rfl
  · rw [ran]

theorem on_lift (action : Action α) :
    (liftM action : Attempt ε α).on link world =
      ((action.run link world).1.map .ok, (action.run link world).2) := by
  have unfolded : (liftM action : Attempt ε α).on link world =
      (action >>= fun value => .done (.ok value)).run link world := rfl
  rw [unfolded, Action.run_bind]
  split <;> rename_i ran <;> rw [ran] <;> rfl

theorem on_of (wrap : ε → ε') (action : Action (Except ε α)) :
    (of wrap action).on link world =
      ((action.run link world).1.map (·.mapError wrap), (action.run link world).2) := by
  have unfolded : (of wrap action).on link world =
      (action >>= fun outcome => .done (outcome.mapError wrap)).run link world := rfl
  rw [unfolded, Action.run_bind]
  split <;> rename_i ran <;> rw [ran] <;> rfl

theorem on_ofExcept (outcome : Except ε α) :
    (ofExcept outcome).on link world = (some outcome, world) := rfl

theorem on_outcome (attempt : Attempt ε α) :
    (attempt.outcome : Attempt ε' (Except ε α)).on link world =
      ((attempt.on link world).1.map .ok, (attempt.on link world).2) := by
  have unfolded : (attempt.outcome : Attempt ε' (Except ε α)).on link world =
      (attempt.run >>= fun outcome => .done (.ok outcome)).run link world := rfl
  rw [unfolded, Action.run_bind, on]
  split <;> rename_i ran <;> rw [ran] <;> rfl

theorem on_stopIfCancelled (token : CancelToken) (reason : ε) :
    (stopIfCancelled token reason).on link world =
      (some (if token ∈ world.raised then .error reason else .ok ()), world) := by
  have answered : (stopIfCancelled token reason).on link world =
      (some (if decide (token ∈ world.raised) then .error reason else .ok ()), world) := rfl
  simpa using answered

variable {link world} {attempt : Attempt ε α} {next : α → Attempt ε β} {value : α} {result : β}
  {reason : ε} {middle after : World σ}

theorem on_bind_of_ok (ran : attempt.on link world = (some (.ok value), middle)) :
    (attempt >>= next).on link world = (next value).on link middle := by
  rw [on_bind, ran]

/-- A sequence that ends well has both parts end well. -/
theorem ok_of_bind (ran : (attempt >>= next).on link world = (some (.ok result), after)) :
    ∃ value middle, attempt.on link world = (some (.ok value), middle) ∧
      (next value).on link middle = (some (.ok result), after) := by
  rw [on_bind] at ran
  split at ran
  · rename_i value middle first
    exact ⟨value, middle, first, ran⟩
  · simp at ran
  · simp at ran

theorem unchanged_of_stop {token : CancelToken}
    (ran : (stopIfCancelled token reason).on link world = (some (.ok ()), after)) :
    after = world := by
  rw [on_stopIfCancelled] at ran
  exact (Prod.mk.inj ran).2.symm

theorem ok_of_stop_bind {token : CancelToken} {next : Unit → Attempt ε β}
    (ran : (stopIfCancelled token reason >>= next).on link world = (some (.ok result), after)) :
    (next ()).on link world = (some (.ok result), after) := by
  obtain ⟨_, middle, stopped, later⟩ := ok_of_bind ran
  obtain rfl := unchanged_of_stop stopped
  exact later

end Attempt

end PacketLink
