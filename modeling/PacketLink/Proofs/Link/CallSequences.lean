import PacketLink.Proofs.Link.Runs
import PacketLink.Proofs.Link.Traces

namespace PacketLink

/-! The calls that an attempt makes, on any link and however it ends.

`Makes` bounds the outcome, the calls and the tokens that are raised at the end; its rules follow the
steps of an attempt. A token stays raised, so what was seen of it earlier holds at the end. -/

namespace Trace

/-- The answers to all sends of a packet. -/
def answersTo (packet : Bytes) (calls : List Event) : List (Except LinkError Unit) :=
  calls.filterMap fun
    | .send sent result => if sent = packet then some result else none
    | _ => none

def resets (calls : List Event) : List (Except LinkError Unit) :=
  calls.filterMap fun
    | .reset result => some result
    | _ => none

variable {calls more : List Event} {packet sent : Bytes} {result : Except LinkError Unit}

@[simp] theorem answersTo_append (packet : Bytes) (calls more : List Event) :
    answersTo packet (calls ++ more) = answersTo packet calls ++ answersTo packet more :=
  List.filterMap_append

@[simp] theorem answersTo_send_same :
    answersTo packet (.send packet result :: calls) = result :: answersTo packet calls := by
  simp [answersTo]

theorem answersTo_send_other (other : sent ≠ packet) :
    answersTo packet (.send sent result :: calls) = answersTo packet calls := by
  simp [answersTo, other]

theorem mem_answersTo : result ∈ answersTo packet calls ↔ .send packet result ∈ calls := by
  induction calls with
  | nil => simp [answersTo]
  | cons call rest ih =>
      cases call with
      | send sent answer =>
          by_cases same : sent = packet
          · subst same
            simp [ih]
          · rw [answersTo_send_other same, ih, List.mem_cons]
            simp [Ne.symm same]
      | _ => simpa [answersTo] using ih

theorem answersTo_eq_nil (unsent : ∀ result, .send packet result ∉ calls) :
    answersTo packet calls = [] :=
  List.eq_nil_iff_forall_not_mem.mpr fun result member => unsent result (mem_answersTo.mp member)

@[simp] theorem resets_append (calls more : List Event) :
    resets (calls ++ more) = resets calls ++ resets more :=
  List.filterMap_append

theorem resets_eq_nil (unreset : ∀ result, .reset result ∉ calls) : resets calls = [] := by
  refine List.filterMap_eq_nil_iff.mpr fun call member => ?_
  cases call with
  | reset result => exact absurd member (unreset result)
  | _ => rfl

end Trace

namespace Attempt

variable {σ ε ε' α β γ : Type} {link : Link σ}

def Makes (link : Link σ) (attempt : Attempt ε α)
    (post : Option (Except ε α) → List Event → List CancelToken → Prop) : Prop :=
  ∀ before, ∃ events, (attempt.on link before).2.trace = before.trace ++ events ∧
    before.raised ⊆ (attempt.on link before).2.raised ∧
    post (attempt.on link before).1 (Trace.calls events) (attempt.on link before).2.raised

theorem ofExcept_bind (value : α) (next : α → Attempt ε β) :
    (ofExcept (.ok value) >>= next) = next value := rfl

theorem of_bind (wrap : LinkError → ε) (action : Action (Except LinkError α))
    (next : α → Attempt ε β) :
    (of wrap action >>= next) = (liftM action >>= fun result : Except LinkError α =>
      match result with
      | .ok value => next value
      | .error reason => throw (wrap reason)) := by
  change (action >>= fun result => .done (result.mapError wrap)) >>= ExceptT.bindCont next =
    (action >>= fun result => .done (.ok result)) >>= ExceptT.bindCont _
  rw [Action.bind_assoc, Action.bind_assoc]
  refine congrArg (action >>= ·) (funext fun result => ?_)
  cases result <;> rfl

namespace Makes

variable {attempt : Attempt ε α} {next : α → Attempt ε β}
  {middle : Option (Except ε α) → List Event → List CancelToken → Prop}
  {post : Option (Except ε β) → List Event → List CancelToken → Prop}

theorem mono {weaker : Option (Except ε α) → List Event → List CancelToken → Prop}
    (makes : attempt.Makes link middle)
    (implies : ∀ outcome calls raised, middle outcome calls raised → weaker outcome calls raised) :
    attempt.Makes link weaker := by
  intro before
  obtain ⟨events, trace, kept, holds⟩ := makes before
  exact ⟨events, trace, kept, implies _ _ _ holds⟩

theorem bind (first : attempt.Makes link middle)
    (stuck : ∀ calls raised, middle none calls raised → post none calls raised)
    (failed : ∀ reason calls raised, middle (some (.error reason)) calls raised →
      post (some (.error reason)) calls raised)
    (finished : ∀ value calls raised, middle (some (.ok value)) calls raised →
      (next value).Makes link fun outcome more final =>
        raised ⊆ final → post outcome (calls ++ more) final) :
    (attempt >>= next).Makes link post := by
  intro before
  obtain ⟨events, trace, kept, holds⟩ := first before
  rw [Attempt.on_bind]
  cases ran : attempt.on link before with
  | mk outcome between =>
      rw [ran] at trace kept holds
      cases outcome with
      | none => exact ⟨events, trace, kept, stuck _ _ holds⟩
      | some ended =>
          cases ended with
          | error reason => exact ⟨events, trace, kept, failed reason _ _ holds⟩
          | ok value =>
              obtain ⟨more, later, keptLater, holdsLater⟩ := finished value _ _ holds between
              refine ⟨events ++ more, ?_, List.Subset.trans kept keptLater, ?_⟩
              · rw [later, trace, Array.append_assoc]
              · rw [Trace.calls_append]
                exact holdsLater keptLater

theorem pure {value : β} (holds : ∀ raised, post (some (.ok value)) [] raised) :
    (Pure.pure value : Attempt ε β).Makes link post :=
  fun before => ⟨#[], by simp, List.Subset.refl _, holds _⟩

theorem throw {reason : ε} (holds : ∀ raised, post (some (.error reason)) [] raised) :
    (MonadExcept.throw reason : Attempt ε β).Makes link post :=
  fun before => ⟨#[], by simp, List.Subset.refl _, holds _⟩

theorem unfinished (holds : ∀ raised, post none [] raised) :
    (Attempt.unfinished : Attempt ε β).Makes link post :=
  fun before => ⟨#[], by simp, List.Subset.refl _, holds _⟩

theorem outcome (makes : attempt.Makes link middle) :
    (attempt.outcome : Attempt ε' (Except ε α)).Makes link fun looked calls raised =>
      ∃ ended, looked = ended.map .ok ∧ middle ended calls raised := by
  intro before
  obtain ⟨events, trace, kept, holds⟩ := makes before
  rw [Attempt.on_outcome]
  exact ⟨events, trace, kept, _, rfl, holds⟩

theorem stop_bind {token : CancelToken} {reason : ε} {next : Unit → Attempt ε β}
    (cancelled : ∀ raised, token ∈ raised → post (some (.error reason)) [] raised)
    (rest : (next ()).Makes link post) :
    (stopIfCancelled token reason >>= next).Makes link post := by
  intro before
  rw [Attempt.on_bind, Attempt.on_stopIfCancelled]
  by_cases seen : token ∈ before.raised
  · rw [if_pos seen]
    exact ⟨#[], by simp, List.Subset.refl _, cancelled _ seen⟩
  · rw [if_neg seen]
    exact rest before

theorem note_bind {note : Note} {next : Unit → Attempt ε β} (rest : (next ()).Makes link post) :
    (liftM (Action.note note) >>= next).Makes link post := by
  intro before
  obtain ⟨more, trace, kept, holds⟩ := rest (before.record (.note note))
  rw [World.record_trace, Array.append_assoc] at trace
  rw [Attempt.on_bind, Attempt.on_lift, Action.run_note]
  refine ⟨_, trace, kept, ?_⟩
  rw [Trace.calls_append]
  exact holds

theorem wait_bind {span : Duration} {next : Unit → Attempt ε β} (rest : (next ()).Makes link post) :
    (liftM (Action.wait span) >>= next).Makes link post := by
  unfold Action.wait
  split
  · exact rest
  · intro before
    obtain ⟨more, trace, kept, holds⟩ :=
      rest { before.record (.sleep span) with clock := before.clock + span }
    rw [World.record_trace, Array.append_assoc] at trace
    rw [Attempt.on_bind, Attempt.on_lift, Action.run_sleep]
    refine ⟨_, trace, kept, ?_⟩
    rw [Trace.calls_append]
    exact holds

section Calls

variable {packet : Bytes} {timeout : Duration} {wrap : LinkError → ε}

theorem call_bind {action : Action (Except LinkError γ)} {call : Except LinkError γ → Event}
    {next : Except LinkError γ → Attempt ε β}
    (answered : ∀ before, ∃ reply : Reply σ γ,
      action.run link before = (some reply.result, before.afterCall call reply))
    (called : ∀ result, Trace.calls #[call result] = [call result])
    (rest : ∀ result, (next result).Makes link fun outcome more raised =>
      post outcome (call result :: more) raised) :
    (liftM action >>= next).Makes link post := by
  intro before
  obtain ⟨reply, ran⟩ := answered before
  obtain ⟨more, trace, kept, holds⟩ := rest reply.result (before.afterCall call reply)
  rw [World.afterCall_trace, Array.append_assoc] at trace
  rw [World.afterCall_raised] at kept
  rw [Attempt.on_bind, Attempt.on_lift, ran]
  refine ⟨_, trace, List.Subset.trans (List.subset_append_right _ _) kept, ?_⟩
  rw [Trace.calls_append, Trace.calls_append, Trace.calls_notes, called]
  exact holds

theorem sendOutcome_bind {next : Except LinkError Unit → Attempt ε β}
    (rest : ∀ result, (next result).Makes link fun outcome more raised =>
      post outcome (.send packet result :: more) raised) :
    (liftM (Action.send packet) >>= next).Makes link post := by
  apply call_bind _ (fun _ => rfl) rest
  intro before
  exact ⟨_, Action.run_send link before packet⟩

theorem reset_bind {next : Except LinkError Unit → Attempt ε β}
    (rest : ∀ result, (next result).Makes link fun outcome more raised =>
      post outcome (.reset result :: more) raised) :
    (liftM Action.reset >>= next).Makes link post := by
  apply call_bind _ (fun _ => rfl) rest
  intro before
  exact ⟨_, Action.run_reset link before⟩

theorem send_bind {next : Unit → Attempt ε β}
    (refused : ∀ reason raised,
      post (some (.error (wrap reason))) [.send packet (.error reason)] raised)
    (accepted : (next ()).Makes link fun outcome more raised =>
      post outcome (.send packet (.ok ()) :: more) raised) :
    (Attempt.of wrap (Action.send packet) >>= next).Makes link post := by
  rw [of_bind]
  apply sendOutcome_bind
  intro result
  cases result with
  | error reason => exact throw (refused reason)
  | ok _ => exact accepted

theorem read_bind {next : Bytes → Attempt ε β}
    (failed : ∀ reason raised,
      post (some (.error (wrap reason))) [.read timeout (.error reason)] raised)
    (delivered : ∀ received, (next received).Makes link fun outcome more raised =>
      post outcome (.read timeout (.ok received) :: more) raised) :
    (Attempt.of wrap (Action.read timeout) >>= next).Makes link post := by
  rw [of_bind]
  refine call_bind (fun before => ⟨_, Action.run_read link before timeout⟩) (fun _ => rfl) ?_
  intro result
  cases result with
  | error reason => exact throw (failed reason)
  | ok received => exact delivered received

end Calls

end Makes

end Attempt

end PacketLink
