import PacketLink.Proofs.Link.CallSequences

namespace PacketLink

/-! The calls of a run, each with whether a cancel token was raised when it began.

Only calls raise tokens, and a raised token stays raised. So what holds of the late calls holds of
everything that the host asks of the link once the token is raised. `Proceeds` bounds the outcome and
the calls of an attempt that starts where the token is raised, or is not; its rules follow the steps
of an attempt. -/

/-- A call of the link with its answer; it is late if the token was raised when it began. -/
structure TimedCall where
  event : Event
  late : Bool

/-- Whether this is a call that moves a packet. -/
def Event.exchanges : Event → Bool
  | .send .. | .read .. => true
  | .reset _ | .dispose _ | .sleep _ | .note _ => false

namespace TimedCall

/-- A send or a read that began before the token was raised. -/
structure Early (call : TimedCall) : Prop where
  exchanges : call.event.exchanges = true
  unraised : call.late = false

theorem forall_early_append {front calls : List TimedCall} (first : ∀ call ∈ front, call.Early)
    (rest : ∀ call ∈ calls, call.Early) : ∀ call ∈ front ++ calls, call.Early := by
  intro call member
  rcases List.mem_append.mp member with here | there
  · exact first call here
  · exact rest call there

theorem forall_early_cons {call : TimedCall} {calls : List TimedCall} (first : call.Early)
    (rest : ∀ call ∈ calls, call.Early) : ∀ other ∈ call :: calls, other.Early :=
  List.forall_mem_cons.mpr ⟨first, rest⟩

end TimedCall

/-- What a step leaves in the trace if it is a call of the link. -/
def Effect.event? : (effect : Effect) → effect.Answer → Option Event
  | .send packet, result => some (.send packet result)
  | .read timeout, result => some (.read timeout result)
  | .reset, result => some (.reset result)
  | .dispose, result => some (.dispose result)
  | .sleep _, _ | .isCancelled _, _ | .now, _ | .note _, _ => none

namespace Link

variable {σ : Type} (link : Link σ) (effect : Effect) (world : World σ)

theorem perform_trace :
    ∃ events, (link.perform effect world).2.trace = world.trace ++ events ∧
      Trace.calls events = (effect.event? (link.perform effect world).1).toList := by
  have called {α : Type} (event : Except LinkError α → Event) (reply : Reply σ α)
      (isCall : Trace.calls #[event reply.result] = [event reply.result]) :
      ∃ events, (world.afterCall event reply).trace = world.trace ++ events ∧
        Trace.calls events = [event reply.result] := by
    refine ⟨_, world.afterCall_trace event reply, ?_⟩
    rw [Trace.calls_append, Trace.calls_notes, isCall, List.nil_append]
  cases effect with
  | send packet => exact called (.send packet) (link.send packet world.device) rfl
  | read timeout => exact called (.read timeout) (link.read timeout world.device) rfl
  | reset => exact called .reset (link.reset world.device) rfl
  | dispose => exact called .dispose (link.dispose world.device) rfl
  | sleep span => exact ⟨#[.sleep span], Array.push_eq_append, rfl⟩
  | note note => exact ⟨#[.note note], Array.push_eq_append, rfl⟩
  | isCancelled token => exact ⟨#[], Array.append_empty.symm, rfl⟩
  | now => exact ⟨#[], Array.append_empty.symm, rfl⟩

theorem perform_raised : world.raised ⊆ (link.perform effect world).2.raised := by
  cases effect with
  | send _ | read _ | reset | dispose => exact List.subset_append_right _ _
  | _ => exact List.Subset.refl _

end Link

namespace Action

variable {σ α β : Type} (link : Link σ) (token : CancelToken)

/-- The calls that an action makes, in order. -/
def calls (link : Link σ) (token : CancelToken) (action : Action α) (world : World σ) :
    List TimedCall :=
  match action with
  | .done _ | .unfinished => []
  | .step effect next =>
      ((effect.event? (link.perform effect world).1).map
          fun event => ⟨event, decide (token ∈ world.raised)⟩).toList ++
        (next (link.perform effect world).1).calls link token (link.perform effect world).2

theorem calls_bind (action : Action α) (next : α → Action β) (world : World σ) :
    (action >>= next).calls link token world =
      action.calls link token world ++
        match action.run link world with
        | (some value, following) => (next value).calls link token following
        | (none, _) => [] := by
  induction action generalizing world with
  | done value => rfl
  | unfinished => rfl
  | step effect continue_ ih =>
      rw [step_bind, calls, ih, calls, run_step, List.append_assoc]

/-- The calls are those in the trace. -/
theorem trace_calls (action : Action α) (world : World σ) :
    ∃ events, (action.run link world).2.trace = world.trace ++ events ∧
      Trace.calls events = (action.calls link token world).map TimedCall.event := by
  induction action generalizing world with
  | done value => exact ⟨#[], Array.append_empty.symm, rfl⟩
  | unfinished => exact ⟨#[], Array.append_empty.symm, rfl⟩
  | step effect next ih =>
      obtain ⟨first, trace, call⟩ := link.perform_trace effect world
      obtain ⟨rest, later, others⟩ :=
        ih (link.perform effect world).1 (link.perform effect world).2
      refine ⟨first ++ rest, ?_, ?_⟩
      · rw [run_step, later, trace, Array.append_assoc]
      · rw [Trace.calls_append, call, others, calls, List.map_append]
        cases effect.event? (link.perform effect world).1 <;> rfl

theorem run_raised (action : Action α) (world : World σ) :
    world.raised ⊆ (action.run link world).2.raised := by
  induction action generalizing world with
  | done value => exact List.Subset.refl _
  | unfinished => exact List.Subset.refl _
  | step effect next ih => exact List.Subset.trans (link.perform_raised effect world) (ih _ _)

end Action

namespace Attempt

variable {σ ε ε' α β γ : Type} {link : Link σ} {token : CancelToken}

def calls (link : Link σ) (token : CancelToken) (attempt : Attempt ε α) (world : World σ) :
    List TimedCall :=
  Action.calls link token attempt.run world

theorem calls_bind (attempt : Attempt ε α) (next : α → Attempt ε β) (world : World σ) :
    (attempt >>= next).calls link token world =
      attempt.calls link token world ++
        match attempt.on link world with
        | (some (.ok value), following) => (next value).calls link token following
        | (_, _) => [] := by
  have unfolded : (attempt >>= next).calls link token world =
      (attempt.run >>= ExceptT.bindCont next).calls link token world := rfl
  rw [unfolded, Action.calls_bind, calls, on]
  refine congrArg (Action.calls link token attempt.run world ++ ·) ?_
  cases Action.run link attempt.run world with
  | mk outcome following =>
      cases outcome with
      | none => rfl
      | some ended => cases ended <;> rfl

theorem calls_lift (action : Action α) (world : World σ) :
    (liftM action : Attempt ε α).calls link token world = action.calls link token world := by
  have unfolded : (liftM action : Attempt ε α).calls link token world =
      (action >>= fun value => .done (Except.ok value : Except ε α)).calls link token world := rfl
  rw [unfolded, Action.calls_bind]
  split <;> exact List.append_nil _

theorem calls_outcome (attempt : Attempt ε α) (world : World σ) :
    (attempt.outcome : Attempt ε' (Except ε α)).calls link token world =
      attempt.calls link token world := by
  have unfolded : (attempt.outcome : Attempt ε' (Except ε α)).calls link token world =
      (attempt.run >>= fun outcome =>
        .done (Except.ok outcome : Except ε' (Except ε α))).calls link token world := rfl
  rw [unfolded, Action.calls_bind]
  split <;> exact List.append_nil _

/-- Wherever the attempt starts with the token raised or not, as `late` says, `post` holds of its
outcome and its calls. -/
def Proceeds (link : Link σ) (token : CancelToken) (late : Bool) (attempt : Attempt ε α)
    (post : Option (Except ε α) → List TimedCall → Prop) : Prop :=
  ∀ before, decide (token ∈ before.raised) = late →
    post (attempt.on link before).1 (attempt.calls link token before)

namespace Proceeds

variable {attempt : Attempt ε α} {next : α → Attempt ε β} {late : Bool}
  {middle : Option (Except ε α) → List TimedCall → Prop}
  {post : Option (Except ε β) → List TimedCall → Prop}

theorem mono {weaker : Option (Except ε α) → List TimedCall → Prop}
    (proceeds : attempt.Proceeds link token late middle)
    (implies : ∀ outcome calls, middle outcome calls → weaker outcome calls) :
    attempt.Proceeds link token late weaker :=
  fun before start => implies _ _ (proceeds before start)

theorem bind (first : attempt.Proceeds link token late middle)
    (stuck : ∀ calls, middle none calls → post none calls)
    (failed : ∀ reason calls, middle (some (.error reason)) calls → post (some (.error reason)) calls)
    (finished : ∀ value calls later, middle (some (.ok value)) calls → (late = true → later = true) →
      (next value).Proceeds link token later fun outcome more => post outcome (calls ++ more)) :
    (attempt >>= next).Proceeds link token late post := by
  intro before start
  have holds := first before start
  have kept : before.raised ⊆ (attempt.on link before).2.raised :=
    Action.run_raised link attempt.run before
  rw [on_bind, calls_bind]
  cases ran : attempt.on link before with
  | mk outcome between =>
      rw [ran] at holds kept
      cases outcome with
      | none => exact (List.append_nil _).symm ▸ stuck _ holds
      | some ended =>
          cases ended with
          | error reason => exact (List.append_nil _).symm ▸ failed reason _ holds
          | ok value =>
              refine finished value _ _ holds (fun raised => ?_) between rfl
              rw [raised] at start
              exact decide_eq_true (kept (of_decide_eq_true start))

theorem pure {value : β} (holds : post (some (.ok value)) []) :
    (Pure.pure value : Attempt ε β).Proceeds link token late post :=
  fun _ _ => holds

theorem throw {reason : ε} (holds : post (some (.error reason)) []) :
    (MonadExcept.throw reason : Attempt ε β).Proceeds link token late post :=
  fun _ _ => holds

theorem unfinished (holds : post none []) :
    (Attempt.unfinished : Attempt ε β).Proceeds link token late post :=
  fun _ _ => holds

theorem outcome (proceeds : attempt.Proceeds link token late middle) :
    (attempt.outcome : Attempt ε' (Except ε α)).Proceeds link token late fun looked calls =>
      ∃ ended, looked = ended.map .ok ∧ middle ended calls := by
  intro before start
  rw [on_outcome, calls_outcome]
  exact ⟨_, rfl, proceeds before start⟩

/-- Past a look at the token, it is not raised. -/
theorem stop_bind {reason : ε} {next : Unit → Attempt ε β}
    (cancelled : late = true → post (some (.error reason)) [])
    (rest : late = false → (next ()).Proceeds link token false post) :
    (stopIfCancelled token reason >>= next).Proceeds link token late post := by
  intro before start
  have looked : (stopIfCancelled token reason).calls link token before = [] := rfl
  rw [on_bind, calls_bind, on_stopIfCancelled, looked, List.nil_append]
  by_cases seen : token ∈ before.raised
  · rw [if_pos seen]
    exact cancelled (start ▸ decide_eq_true seen)
  · rw [if_neg seen]
    have active : decide (token ∈ before.raised) = false := decide_eq_false seen
    exact rest (start ▸ active) before active

theorem stop {reason : ε} {post : Option (Except ε Unit) → List TimedCall → Prop}
    (cancelled : late = true → post (some (.error reason)) [])
    (passed : late = false → post (some (.ok ())) []) :
    (stopIfCancelled token reason).Proceeds link token late post := by
  rw [← bind_pure (stopIfCancelled token reason)]
  exact stop_bind cancelled fun active => pure (passed active)

section Silent

variable {next : Unit → Attempt ε β} (rest : (next ()).Proceeds link token late post)

include rest

theorem note_bind {note : Note} : (liftM (Action.note note) >>= next).Proceeds link token late post := by
  intro before start
  rw [on_bind, calls_bind, on_lift, calls_lift, Action.run_note]
  exact rest (before.record (.note note)) start

theorem sleep_bind {span : Duration} :
    (liftM (Action.sleep span) >>= next).Proceeds link token late post := by
  intro before start
  rw [on_bind, calls_bind, on_lift, calls_lift, Action.run_sleep]
  exact rest { before.record (.sleep span) with clock := before.clock + span } start

theorem wait_bind {span : Duration} :
    (liftM (Action.wait span) >>= next).Proceeds link token late post := by
  unfold Action.wait
  split
  · exact rest
  · exact sleep_bind rest

end Silent

theorem now_bind {next : Duration → Attempt ε β}
    (rest : ∀ moment, (next moment).Proceeds link token late post) :
    (liftM Action.now >>= next).Proceeds link token late post := by
  intro before start
  rw [on_bind, calls_bind, on_lift, calls_lift]
  exact rest before.clock before start

section Calls

variable {packet : Bytes} {timeout : Duration} {wrap : LinkError → ε}

theorem call_bind {action : Action (Except LinkError γ)} {call : Except LinkError γ → Event}
    {next : Except LinkError γ → Attempt ε β}
    (answered : ∀ before, ∃ reply : Reply σ γ,
      action.run link before = (some reply.result, before.afterCall call reply) ∧
      action.calls link token before = [⟨call reply.result, decide (token ∈ before.raised)⟩])
    (rest : ∀ result later, (late = true → later = true) →
      (next result).Proceeds link token later fun outcome more =>
        post outcome (⟨call result, late⟩ :: more)) :
    (liftM action >>= next).Proceeds link token late post := by
  intro before start
  obtain ⟨reply, ran, called⟩ := answered before
  rw [on_bind, calls_bind, on_lift, calls_lift, ran, called, start]
  refine rest reply.result _ (fun raised => ?_) _ rfl
  rw [raised] at start
  exact decide_eq_true (List.mem_append_right _ (of_decide_eq_true start))

theorem sendOutcome_bind {next : Except LinkError Unit → Attempt ε β}
    (rest : ∀ result later, (late = true → later = true) →
      (next result).Proceeds link token later fun outcome more =>
        post outcome (⟨.send packet result, late⟩ :: more)) :
    (liftM (Action.send packet) >>= next).Proceeds link token late post :=
  call_bind (fun before => ⟨_, Action.run_send link before packet, rfl⟩) rest

theorem readOutcome_bind {next : Except LinkError Bytes → Attempt ε β}
    (rest : ∀ result later, (late = true → later = true) →
      (next result).Proceeds link token later fun outcome more =>
        post outcome (⟨.read timeout result, late⟩ :: more)) :
    (liftM (Action.read timeout) >>= next).Proceeds link token late post :=
  call_bind (fun before => ⟨_, Action.run_read link before timeout, rfl⟩) rest

theorem reset_bind {next : Except LinkError Unit → Attempt ε β}
    (rest : ∀ result later, (late = true → later = true) →
      (next result).Proceeds link token later fun outcome more =>
        post outcome (⟨.reset result, late⟩ :: more)) :
    (liftM Action.reset >>= next).Proceeds link token late post :=
  call_bind (fun before => ⟨_, Action.run_reset link before, rfl⟩) rest

theorem send_bind {next : Unit → Attempt ε β}
    (refused : ∀ reason, post (some (.error (wrap reason))) [⟨.send packet (.error reason), late⟩])
    (accepted : ∀ later, (late = true → later = true) →
      (next ()).Proceeds link token later fun outcome more =>
        post outcome (⟨.send packet (.ok ()), late⟩ :: more)) :
    (Attempt.of wrap (Action.send packet) >>= next).Proceeds link token late post := by
  rw [of_bind]
  apply sendOutcome_bind
  intro result later kept
  cases result with
  | error reason => exact throw (refused reason)
  | ok _ => exact accepted later kept

theorem read_bind {next : Bytes → Attempt ε β}
    (failed : ∀ reason, post (some (.error (wrap reason))) [⟨.read timeout (.error reason), late⟩])
    (delivered : ∀ received later, (late = true → later = true) →
      (next received).Proceeds link token later fun outcome more =>
        post outcome (⟨.read timeout (.ok received), late⟩ :: more)) :
    (Attempt.of wrap (Action.read timeout) >>= next).Proceeds link token late post := by
  rw [of_bind]
  apply readOutcome_bind
  intro result later kept
  cases result with
  | error reason => exact throw (failed reason)
  | ok received => exact delivered received later kept

end Calls

end Proceeds

/-- Wherever it starts, the attempt makes no call. -/
def Quiet (link : Link σ) (token : CancelToken) (attempt : Attempt ε α) : Prop :=
  ∀ late, attempt.Proceeds link token late fun _ calls => calls = []

theorem Quiet.bind {attempt : Attempt ε α} {next : α → Attempt ε β} {late : Bool}
    {post : Option (Except ε β) → List TimedCall → Prop} (quiet : attempt.Quiet link token)
    (stuck : post none []) (failed : ∀ reason, post (some (.error reason)) [])
    (finished : ∀ value later, (next value).Proceeds link token later post) :
    (attempt >>= next).Proceeds link token late post := by
  refine Proceeds.bind (quiet late) ?_ ?_ ?_
  · intro calls none
    exact none ▸ stuck
  · intro reason calls none
    exact none ▸ failed reason
  · intro value calls later none _
    exact none ▸ finished value later

end Attempt

end PacketLink
