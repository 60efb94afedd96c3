import PacketLink.Proofs.Link.Runs

namespace PacketLink

/-! Actions with more rounds.

An action approximates another that does the same as far as it goes, and may go on where the first
one gives up unfinished. A run of it that finishes is a run of the other. -/

namespace Action

variable {σ α β : Type}

inductive Approximates : Action α → Action α → Prop
  | unfinished (more : Action α) : Approximates .unfinished more
  | done (value : α) : Approximates (.done value) (.done value)
  | step {effect : Effect} {next more : effect.Answer → Action α}
      (later : ∀ answer, Approximates (next answer) (more answer)) :
      Approximates (.step effect next) (.step effect more)

namespace Approximates

theorem refl (action : Action α) : action.Approximates action := by
  induction action with
  | done value => exact .done value
  | unfinished => exact .unfinished _
  | step effect next ih => exact .step ih

theorem bind {action more : Action α} {next nextMore : α → Action β}
    (first : action.Approximates more)
    (second : ∀ value, (next value).Approximates (nextMore value)) :
    (action >>= next).Approximates (more >>= nextMore) := by
  induction first with
  | unfinished more => exact .unfinished _
  | done value => exact second value
  | step later ih => exact .step ih

theorem run_eq {action more : Action α} (approximates : action.Approximates more)
    {link : Link σ} {before after : World σ} {value : α}
    (ran : action.run link before = (some value, after)) :
    more.run link before = (some value, after) := by
  induction approximates generalizing before with
  | unfinished more => cases ran
  | done result => exact ran
  | step later ih => exact ih _ ran

end Approximates

end Action

namespace Attempt

variable {ε ε' α β : Type}

def Approximates (attempt more : Attempt ε α) : Prop :=
  attempt.run.Approximates more.run

namespace Approximates

theorem refl (attempt : Attempt ε α) : attempt.Approximates attempt :=
  Action.Approximates.refl attempt.run

theorem unfinished (more : Attempt ε α) : Attempt.unfinished.Approximates more :=
  Action.Approximates.unfinished more.run

theorem bind {attempt more : Attempt ε α} {next nextMore : α → Attempt ε β}
    (first : attempt.Approximates more)
    (second : ∀ value, (next value).Approximates (nextMore value)) :
    (attempt >>= next).Approximates (more >>= nextMore) := by
  apply Action.Approximates.bind first
  intro ended
  cases ended with
  | error reason => exact .refl _
  | ok value => exact second value

/-- What comes after a common first part decides. -/
theorem after (attempt : Attempt ε α) {next nextMore : α → Attempt ε β}
    (second : ∀ value, (next value).Approximates (nextMore value)) :
    (attempt >>= next).Approximates (attempt >>= nextMore) :=
  bind (refl attempt) second

theorem outcome {attempt more : Attempt ε α} (approximates : attempt.Approximates more) :
    (attempt.outcome : Attempt ε' (Except ε α)).Approximates more.outcome :=
  Action.Approximates.bind approximates fun _ => .refl _

end Approximates

end Attempt

end PacketLink
