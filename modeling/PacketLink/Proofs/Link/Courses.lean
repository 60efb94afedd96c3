import PacketLink.Proofs.Link.Lateness

namespace PacketLink

/-! Courses of actions.

A course answers each step of an action in any way: the link, the clock and the tokens may do what they
like, and take any time for it. The run on a link is one course of many. -/

/-- A step of an action and the answer to it. -/
structure Answered where
  effect : Effect
  answer : effect.Answer

namespace Answered

/-- Whether a packet crossed the link in this step, in either direction. -/
def crosses : Answered → Bool
  | ⟨.send _, .ok _⟩ | ⟨.read _, .ok _⟩ => true
  | _ => false

def event? (step : Answered) : Option Event := step.effect.event? step.answer

end Answered

/-- The packets that crossed the link. -/
def crossings (history : List Answered) : Nat := history.countP Answered.crosses

@[simp] theorem crossings_append (front rest : List Answered) :
    crossings (front ++ rest) = crossings front + crossings rest := by
  simp [crossings]

namespace Action

variable {α β : Type} {action : Action α} {next : α → Action β} {history : List Answered}

/-- A whole course of an action: its steps, and its value if it ends in one. -/
inductive Course : Action α → List Answered → Option α → Prop
  | done (value : α) : Course (.done value) [] (some value)
  | unfinished : Course .unfinished [] none
  | step {effect : Effect} {next : effect.Answer → Action α} {answer : effect.Answer}
      {history : List Answered} {result : Option α} (rest : Course (next answer) history result) :
      Course (.step effect next) (⟨effect, answer⟩ :: history) result

namespace Course

theorem of_step {effect : Effect} {next : effect.Answer → Action α} {result : Option α}
    (course : (Action.step effect next).Course history result) :
    ∃ answer rest, history = ⟨effect, answer⟩ :: rest ∧ (next answer).Course rest result := by
  cases course with
  | step rest => exact ⟨_, _, rfl, rest⟩

theorem of_done {value : α} {result : Option α} (course : (Action.done value).Course history result) :
    history = [] ∧ result = some value := by
  cases course
  exact ⟨rfl, rfl⟩

theorem of_note {note : Note} {result : Option Unit}
    (course : (Action.note note).Course history result) : result = some () := by
  obtain ⟨_, _, rfl, ended⟩ := course.of_step
  exact ended.of_done.2

/-- A course of two actions in sequence is one of the first alone if that does not end, and else has a
course of the second behind it. -/
theorem of_bind {result : Option β} (course : (action >>= next).Course history result) :
    (action.Course history none ∧ result = none) ∨
      ∃ value front rest, history = front ++ rest ∧ action.Course front (some value) ∧
        (next value).Course rest result := by
  induction action generalizing history with
  | done value => exact .inr ⟨value, [], history, rfl, .done value, course⟩
  | unfinished =>
      cases course
      exact .inl ⟨.unfinished, rfl⟩
  | step effect continue_ ih =>
      obtain ⟨answer, steps, rfl, later⟩ := of_step course
      rcases ih answer later with ⟨stuck, rfl⟩ | ⟨value, front, rest, rfl, first, second⟩
      · exact .inl ⟨.step stuck, rfl⟩
      · exact .inr ⟨value, _, rest, rfl, .step first, second⟩

/-- An action that is a single step goes on with the answer to it. -/
theorem of_step_bind {effect : Effect} {next : effect.Answer → Action β} {result : Option β}
    (course : ((Action.step effect .done) >>= next).Course history result) :
    ∃ answer rest, history = ⟨effect, answer⟩ :: rest ∧ (next answer).Course rest result :=
  of_step course

end Course

variable {σ : Type} (link : Link σ)

/-- A run on a link is a course, and the calls in its trace are those of the course. -/
theorem run_course (action : Action α) (world : World σ) :
    ∃ history events, action.Course history (action.run link world).1 ∧
      (action.run link world).2.trace = world.trace ++ events ∧
      Trace.calls events = history.filterMap Answered.event? := by
  induction action generalizing world with
  | done value => exact ⟨[], #[], .done value, Array.append_empty.symm, rfl⟩
  | unfinished => exact ⟨[], #[], .unfinished, Array.append_empty.symm, rfl⟩
  | step effect next ih =>
      obtain ⟨first, trace, call⟩ := link.perform_trace effect world
      obtain ⟨history, rest, course, later, calls⟩ :=
        ih (link.perform effect world).1 (link.perform effect world).2
      refine ⟨⟨effect, (link.perform effect world).1⟩ :: history, first ++ rest, .step course, ?_, ?_⟩
      · rw [run_step, later, trace, Array.append_assoc]
      · rw [Trace.calls_append, call, calls, List.filterMap_cons, Answered.event?]
        cases effect.event? (link.perform effect world).1 <;> rfl

end Action

namespace Attempt

variable {ε ε' α β : Type} {attempt : Attempt ε α} {next : α → Attempt ε β} {action : Action α}
  {history : List Answered}

def Course (attempt : Attempt ε α) (history : List Answered) (result : Option (Except ε α)) : Prop :=
  Action.Course attempt.run history result

theorem Course.of_bind {result : Option (Except ε β)}
    (course : (attempt >>= next).Course history result) :
    (attempt.Course history none ∧ result = none) ∨
      (∃ reason, attempt.Course history (some (.error reason)) ∧ result = some (.error reason)) ∨
        ∃ value front rest, history = front ++ rest ∧ attempt.Course front (some (.ok value)) ∧
          (next value).Course rest result := by
  have unfolded : (attempt.run >>= ExceptT.bindCont next).Course history result := course
  rcases Action.Course.of_bind unfolded with stuck | ⟨outcome, front, rest, rfl, first, second⟩
  · exact .inl stuck
  cases outcome with
  | error reason =>
      obtain ⟨rfl, rfl⟩ := Action.Course.of_done second
      rw [List.append_nil]
      exact .inr (.inl ⟨reason, first, rfl⟩)
  | ok value => exact .inr (.inr ⟨value, front, rest, rfl, first, second⟩)

theorem Course.of_lift {result : Option (Except ε α)}
    (course : (liftM action : Attempt ε α).Course history result) :
    ∃ ended, result = ended.map .ok ∧ action.Course history ended := by
  have unfolded : (action >>= fun value => .done (.ok value)).Course history result := course
  rcases Action.Course.of_bind unfolded with ⟨stuck, rfl⟩ | ⟨value, front, rest, rfl, first, later⟩
  · exact ⟨none, rfl, stuck⟩
  · obtain ⟨rfl, rfl⟩ := Action.Course.of_done later
    rw [List.append_nil]
    exact ⟨some value, rfl, first⟩

/-- A step of which the answer is all that matters. -/
theorem Course.of_ask {effect : Effect} {next : effect.Answer → Attempt ε β}
    {result : Option (Except ε β)}
    (course : ((liftM (Action.step effect .done) : Attempt ε effect.Answer) >>= next).Course history
      result) :
    ∃ answer rest, history = ⟨effect, answer⟩ :: rest ∧ (next answer).Course rest result :=
  Action.Course.of_step course

theorem Course.of_lift_bind {next : α → Attempt ε β} {result : Option (Except ε β)}
    (course : ((liftM action : Attempt ε α) >>= next).Course history result) :
    (action.Course history none ∧ result = none) ∨
      ∃ value front rest, history = front ++ rest ∧ action.Course front (some value) ∧
        (next value).Course rest result := by
  rcases course.of_bind with ⟨stuck, rfl⟩ | ⟨reason, failed, -⟩ | ⟨value, front, rest, rfl, first, later⟩
  · obtain ⟨_ | _, ended, course⟩ := stuck.of_lift
    · exact .inl ⟨course, rfl⟩
    · cases ended
  · obtain ⟨_ | _, ended, -⟩ := failed.of_lift <;> cases ended
  · obtain ⟨_ | _, ended, course⟩ := first.of_lift <;> cases ended
    exact .inr ⟨value, front, rest, rfl, course, later⟩

/-- The attempt comes to an end, and if it succeeds, this many packets have crossed the link. -/
def Moves (attempt : Attempt ε α) (count : Nat) : Prop :=
  ∀ history result, attempt.Course history result →
    ∃ outcome, result = some outcome ∧ ∀ value, outcome = .ok value → crossings history = count

namespace Moves

variable {count more : Nat}

theorem bind (first : attempt.Moves count) (rest : ∀ value, (next value).Moves more) :
    (attempt >>= next).Moves (count + more) := by
  intro history result course
  rcases course.of_bind with ⟨stuck, -⟩ | ⟨reason, -, rfl⟩ | ⟨value, front, steps, rfl, before, after⟩
  · obtain ⟨_, ended, -⟩ := first _ _ stuck
    cases ended
  · exact ⟨_, rfl, nofun⟩
  · obtain ⟨_, ended, moved⟩ := first _ _ before
    cases ended
    obtain ⟨outcome, rfl, later⟩ := rest value _ _ after
    refine ⟨outcome, rfl, fun result succeeded => ?_⟩
    rw [crossings_append, moved value rfl, later result succeeded]

theorem pure (value : α) : (Pure.pure value : Attempt ε α).Moves 0 := by
  intro history result course
  obtain ⟨rfl, rfl⟩ := Action.Course.of_done course
  exact ⟨_, rfl, fun _ _ => rfl⟩

/-- An attempt of one step moves what that step does. -/
theorem single {effect : Effect} {outcome : effect.Answer → Except ε α}
    (each : ∀ answer value, outcome answer = .ok value → crossings [⟨effect, answer⟩] = count) :
    Moves (ExceptT.mk (.step effect fun answer => .done (outcome answer)) : Attempt ε α) count := by
  intro history result course
  obtain ⟨answer, rest, rfl, later⟩ := Action.Course.of_step course
  obtain ⟨rfl, rfl⟩ := Action.Course.of_done later
  exact ⟨_, rfl, each answer⟩

theorem note (note : Note) : (liftM (Action.note note) : Attempt ε Unit).Moves 0 :=
  single fun _ _ _ => rfl

theorem stop (token : CancelToken) (reason : ε) : (stopIfCancelled token reason).Moves 0 :=
  single fun _ _ _ => rfl

theorem wait (span : Duration) : (liftM (Action.wait span) : Attempt ε Unit).Moves 0 := by
  unfold Action.wait
  split
  · exact pure ()
  · exact single fun _ _ _ => rfl

theorem send (wrap : LinkError → ε) (packet : Bytes) :
    (Attempt.of wrap (Action.send packet)).Moves 1 := by
  apply single
  intro answer value succeeded
  cases answer with
  | error reason => cases succeeded
  | ok _ => rfl

theorem read (wrap : LinkError → ε) (timeout : Duration) :
    (Attempt.of wrap (Action.read timeout)).Moves 1 := by
  apply single
  intro answer value succeeded
  cases answer with
  | error reason => cases succeeded
  | ok _ => rfl

end Moves

end Attempt

end PacketLink
