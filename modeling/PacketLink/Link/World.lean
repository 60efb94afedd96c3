import PacketLink.Action

namespace PacketLink

/-! Links, the worlds on which they act, and the run of an action on them.

A `Link` is any device behaviour, as a state machine: each call yields a result and the next state,
and may raise a cancel token or leave notes. The clock moves only by sleeping. A run keeps all
events in order. -/

/-- What a link does at one call. -/
structure Reply (σ α : Type) where
  result : Except LinkError α
  device : σ
  /-- A token that is raised during the call. -/
  raises : Option CancelToken := none
  notes : List Note := []

/-- A device behaviour. -/
structure Link (σ : Type) where
  /-- The device's path, for people. -/
  path : String
  send : Bytes → σ → Reply σ Unit
  read : Duration → σ → Reply σ Bytes
  reset : σ → Reply σ Unit
  dispose : σ → Reply σ Unit

inductive Event where
  | send (packet : Bytes) (result : Except LinkError Unit)
  | read (timeout : Duration) (result : Except LinkError Bytes)
  | reset (result : Except LinkError Unit)
  | dispose (result : Except LinkError Unit)
  | sleep (span : Duration)
  | note (note : Note)

structure World (σ : Type) where
  device : σ
  clock : Duration := .zero
  raised : List CancelToken := []
  trace : Array Event := #[]

namespace World

variable {σ α : Type}

def record (event : Event) : World σ → World σ
  | ⟨device, clock, raised, trace⟩ => ⟨device, clock, raised, trace.push event⟩

/-- The answer of a call, and the moment after it: the link's new state, its token and notes, and
then the call itself. -/
def settle (clock : Duration) (raised : List CancelToken) (trace : Array Event)
    (event : Except LinkError α → Event) : Reply σ α → Except LinkError α × World σ
  | ⟨result, device, raises, notes⟩ =>
      (result, ⟨device, clock, raises.toList ++ raised,
        (notes.foldl (fun trace note => trace.push (.note note)) trace).push (event result)⟩)

end World

namespace Link

variable {σ α : Type}

/-- One step of an action on a link. The world is taken apart first, so that the device's state and
the events so far have one owner each and grow in place. -/
def perform (link : Link σ) (effect : Effect) : World σ → effect.Answer × World σ
  | ⟨device, clock, raised, trace⟩ =>
      match effect with
      | .send packet => World.settle clock raised trace (.send packet) (link.send packet device)
      | .read timeout => World.settle clock raised trace (.read timeout) (link.read timeout device)
      | .reset => World.settle clock raised trace .reset (link.reset device)
      | .dispose => World.settle clock raised trace .dispose (link.dispose device)
      | .sleep span => ((), ⟨device, clock + span, raised, trace.push (.sleep span)⟩)
      | .isCancelled token => (decide (token ∈ raised), ⟨device, clock, raised, trace⟩)
      | .now => (clock, ⟨device, clock, raised, trace⟩)
      | .note note => ((), ⟨device, clock, raised, trace.push (.note note)⟩)

end Link

namespace Action

variable {σ α β : Type}

/-- Runs an action on a link: its value, if it finishes, and the world in which it ends. -/
def run (link : Link σ) (action : Action α) (world : World σ) : Option α × World σ :=
  match action with
  | .done value => (some value, world)
  | .unfinished => (none, world)
  | .step effect next =>
      let (answer, following) := link.perform effect world
      (next answer).run link following

@[simp] theorem run_done (link : Link σ) (value : α) (world : World σ) :
    (Action.done value).run link world = (some value, world) := rfl

@[simp] theorem run_unfinished (link : Link σ) (world : World σ) :
    (Action.unfinished : Action α).run link world = (none, world) := rfl

theorem run_step (link : Link σ) (effect : Effect) (next : effect.Answer → Action α)
    (world : World σ) :
    (Action.step effect next).run link world =
      (next (link.perform effect world).1).run link (link.perform effect world).2 := rfl

theorem run_bind (link : Link σ) (action : Action α) (next : α → Action β) (world : World σ) :
    (action >>= next).run link world =
      match action.run link world with
      | (some value, following) => (next value).run link following
      | (none, following) => (none, following) := by
  induction action generalizing world with
  | done value => rfl
  | unfinished => rfl
  | step effect continue_ ih =>
      rw [step_bind, run_step, run_step]
      exact ih _ _

end Action

end PacketLink
