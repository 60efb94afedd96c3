import PacketLink.Log
import PacketLink.Throughput.Counter

namespace PacketLink

/-! What the host does, as a value.

An `Action` is a tree: a finished result, or one step into the outside world and a continuation for
each answer to it. It does not say what the outside is; a `Link` does. A loop that depends on the
outside is bounded by a number of rounds, and an action that runs out of rounds is `unfinished`,
which no handler of errors can catch.

The outside acts on a `World`: it holds the device's state, the clock, the tokens that were raised
and the events so far. -/

/-- Names a shutdown flag. Once raised, a flag stays raised. -/
structure CancelToken where
  id : Nat
deriving DecidableEq

/-- What the host tells whoever runs it, beside talking to the device. -/
inductive Note where
  | log (entry : Log.Entry)
  /-- A line of debug text for a session's sink. -/
  | debugText (text : String)
  | rate (rate : Throughput.Rate)
  /-- A line of the traffic monitor. -/
  | monitor (line : String)
  /-- A line of a command's own output. -/
  | output (line : String)

def Note.outputLine? : Note → Option String
  | .output line => some line
  | _ => none

inductive Effect where
  | send (packet : Bytes)
  | read (timeout : Duration)
  | reset
  | dispose
  | sleep (span : Duration)
  | isCancelled (token : CancelToken)
  | now
  | note (note : Note)

abbrev Effect.Answer : Effect → Type
  | .send _ | .reset | .dispose => Except LinkError Unit
  | .read _ => Except LinkError Bytes
  | .sleep _ | .note _ => Unit
  | .isCancelled _ => Bool
  | .now => Duration

inductive Action (α : Type) where
  | done (value : α)
  | unfinished
  | step (effect : Effect) (next : effect.Answer → Action α)

namespace Action

def bind {α β : Type} (action : Action α) (next : α → Action β) : Action β :=
  match action with
  | .done value => next value
  | .unfinished => .unfinished
  | .step effect continue_ => .step effect fun answer => (continue_ answer).bind next

instance : Monad Action where
  pure := .done
  bind := .bind

@[simp] theorem pure_eq_done {α : Type} (value : α) : (pure value : Action α) = .done value := rfl

@[simp] theorem done_bind {α β : Type} (value : α) (next : α → Action β) :
    ((.done value : Action α) >>= next) = next value := rfl

@[simp] theorem unfinished_bind {α β : Type} (next : α → Action β) :
    ((.unfinished : Action α) >>= next) = .unfinished := rfl

@[simp] theorem step_bind {α β : Type} (effect : Effect) (continue_ : effect.Answer → Action α)
    (next : α → Action β) :
    (.step effect continue_ >>= next) = .step effect fun answer => continue_ answer >>= next := rfl

theorem bind_done {α : Type} (action : Action α) : (action >>= fun value => .done value) = action := by
  induction action with
  | done value => rfl
  | unfinished => rfl
  | step effect continue_ ih =>
      rw [step_bind]
      exact congrArg (Action.step effect) (funext ih)

theorem bind_assoc {α β γ : Type} (action : Action α) (next : α → Action β) (last : β → Action γ) :
    ((action >>= next) >>= last) = (action >>= fun value => next value >>= last) := by
  induction action with
  | done value => rfl
  | unfinished => rfl
  | step effect continue_ ih =>
      rw [step_bind, step_bind, step_bind]
      exact congrArg (Action.step effect) (funext ih)

instance : LawfulMonad Action :=
  LawfulMonad.mk' Action bind_done (fun _ _ => rfl) bind_assoc

def send (packet : Bytes) : Action (Except LinkError Unit) := .step (.send packet) .done

def read (timeout : Duration) : Action (Except LinkError Bytes) := .step (.read timeout) .done

def reset : Action (Except LinkError Unit) := .step .reset .done

def dispose : Action (Except LinkError Unit) := .step .dispose .done

def sleep (span : Duration) : Action Unit := .step (.sleep span) .done

/-- Sleeps, unless there is nothing to wait for. -/
def wait (span : Duration) : Action Unit := if span.isZero then .done () else sleep span

def isCancelled (token : CancelToken) : Action Bool := .step (.isCancelled token) .done

def now : Action Duration := .step .now .done

def note (note : Note) : Action Unit := .step (.note note) .done

def log (entry : Log.Entry) : Action Unit := note (.log entry)

end Action

/-- An action that ends in a value or in an error. -/
abbrev Attempt (ε α : Type) := ExceptT ε Action α

namespace Attempt

/-- The outcome of an action, its error turned into one of this attempt. -/
def of {ε ε' α : Type} (wrap : ε → ε') (action : Action (Except ε α)) : Attempt ε' α :=
  ExceptT.mk (action >>= fun outcome => .done (outcome.mapError wrap))

def ofExcept {ε α : Type} (outcome : Except ε α) : Attempt ε α := ExceptT.mk (.done outcome)

/-- The outcome of another attempt as a value, so that a failure of it can be acted upon. -/
def outcome {ε ε' α : Type} (attempt : Attempt ε α) : Attempt ε' (Except ε α) :=
  ExceptT.mk (attempt.run >>= fun outcome => .done (.ok outcome))

/-- No outcome within the bound. -/
def unfinished {ε α : Type} : Attempt ε α := ExceptT.mk .unfinished

/-- Fails with `reason` if the token is raised. -/
def stopIfCancelled {ε : Type} (token : CancelToken) (reason : ε) : Attempt ε Unit :=
  ExceptT.mk (Action.isCancelled token >>= fun raised =>
    .done (if raised then .error reason else .ok ()))

end Attempt

end PacketLink
