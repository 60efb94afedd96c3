import PacketLink.Link.Monitored
import PacketLink.Proofs.Link.Runs
import PacketLink.Proofs.Link.Traces
import PacketLink.Proofs.Monitor.Lines

namespace PacketLink

/-! A monitor only watches.

An action on a monitored link comes to the same value, device, clock and tokens as on the link alone.
Its events are those on the link alone with the monitor's lines put in, and nothing is known of the
link: it may answer anything, and have notes of its own. -/

/-- What crosses the link at a call: a packet handed over for sending, accepted or not, or a packet
received. -/
def Event.crossing? : Event → Option (Monitor.Direction × Bytes)
  | .send packet _ => some (.tx, packet)
  | .read _ (.ok packet) => some (.rx, packet)
  | _ => none

/-- The second list of events is the first one with the lines of a monitor put in. -/
inductive Printed : List String → List Event → List Event → Prop
  | nil : Printed [] [] []
  | line {lines : List String} {events more : List Event} (line : String)
      (rest : Printed lines events more) :
      Printed (line :: lines) events (.note (.monitor line) :: more)
  | event {lines : List String} {events more : List Event} (event : Event)
      (rest : Printed lines events more) : Printed lines (event :: events) (event :: more)

namespace Printed

variable {lines linesLater : List String} {events more eventsLater moreLater : List Event}

theorem refl (events : List Event) : Printed [] events events := by
  induction events with
  | nil => exact .nil
  | cons event rest ih => exact .event event ih

theorem only (lines : List String) :
    Printed lines [] ((lines.map Note.monitor).map Event.note) := by
  induction lines with
  | nil => exact .nil
  | cons line rest ih => exact .line line ih

theorem append (first : Printed lines events more)
    (second : Printed linesLater eventsLater moreLater) :
    Printed (lines ++ linesLater) (events ++ eventsLater) (more ++ moreLater) := by
  induction first with
  | nil => exact second
  | line line rest ih => exact .line line ih
  | event event rest ih => exact .event event ih

/-- A view that no line of a monitor shows in is the same with the lines and without. -/
theorem filterMap_eq {α : Type} (printed : Printed lines events more) {view : Event → Option α}
    (blind : ∀ line, view (.note (.monitor line)) = none) :
    more.filterMap view = events.filterMap view := by
  induction printed with
  | nil => rfl
  | line line rest ih => rw [List.filterMap_cons_none (blind line), ih]
  | event event rest ih => rw [List.filterMap_cons, List.filterMap_cons, ih]

/-- Where there were no lines of a monitor, all that there are were put in. -/
theorem lines_eq (printed : Printed lines events more)
    (unprinted : Trace.monitorLines events.toArray = []) :
    Trace.monitorLines more.toArray = lines := by
  induction printed with
  | nil => rfl
  | line line rest ih => exact congrArg (line :: ·) (ih unprinted)
  | event event rest ih =>
      cases event with
      | note note =>
          cases note with
          | monitor line => cases unprinted
          | _ => exact ih unprinted
      | _ => exact ih unprinted

end Printed

namespace Trace

def crossings (trace : Array Event) : List (Monitor.Direction × Bytes) :=
  trace.toList.filterMap Event.crossing?

@[simp] theorem crossings_append (trace events : Array Event) :
    crossings (trace ++ events) = crossings trace ++ crossings events := by
  simp [crossings]

@[simp] theorem crossings_notes (notes : List Note) :
    crossings (notes.map Event.note).toArray = [] := by
  simp [crossings, Event.crossing?]

theorem calls_of_printed {lines : List String} {events more : Array Event}
    (printed : Printed lines events.toList more.toList) : calls more = calls events := by
  unfold calls
  rw [← List.filterMap_eq_filter]
  apply printed.filterMap_eq
  intro line
  rfl

end Trace

namespace Monitor

def transcript (config : Config) (crossings : List (Direction × Bytes)) : List String :=
  crossings.flatMap fun crossing => lines config crossing.1 crossing.2

variable {config : Config} (crossings later : List (Direction × Bytes))

theorem transcript_append :
    transcript config (crossings ++ later) =
      transcript config crossings ++ transcript config later :=
  List.flatMap_append

/-- The packets that the filter shows, decoded. -/
def shown (config : Config) (crossings : List (Direction × Bytes)) : List Decoded :=
  (crossings.filter fun crossing => config.filter.shows crossing.1).map
    fun crossing => Decoded.ofBytes crossing.1 crossing.2

theorem transcript_json (json : config.format = .json) :
    transcript config crossings = (shown config crossings).map Decoded.json := by
  induction crossings with
  | nil => rfl
  | cons crossing rest ih =>
      rw [transcript, List.flatMap_cons, ← transcript, ih, lines, json, shown, shown, List.filter_cons]
      split <;> rfl

theorem transcript_compact (json : config.format = .json) :
    transcript config crossings =
      (shown config crossings).map fun decoded => Json.compact decoded.members := by
  rw [transcript_json crossings json]
  exact List.map_congr_left fun decoded _ => decoded.json_eq_compact

/-- What a reader of JSON finds in the lines. -/
theorem map_object?_transcript (json : config.format = .json) :
    (transcript config crossings).map Json.object? =
      (shown config crossings).map fun decoded => some decoded.members := by
  rw [transcript_json crossings json, List.map_map]
  exact List.map_congr_left fun decoded _ => decoded.object?_json

end Monitor

/-- The two worlds are one but for their traces: since `start`, the monitored one has seen the events
of the other, and the lines for what crossed the link. -/
structure World.Watched {σ : Type} (config : Monitor.Config) (start : Array Event)
    (direct monitored : World σ) : Prop where
  device : monitored.device = direct.device
  clock : monitored.clock = direct.clock
  raised : monitored.raised = direct.raised
  printed : ∃ events more, direct.trace = start ++ events ∧ monitored.trace = start ++ more ∧
    Printed (Monitor.transcript config (Trace.crossings events)) events.toList more.toList

section Watching

variable {σ : Type} {config : Monitor.Config} {start : Array Event}
  {direct monitored : World σ}

namespace World.Watched

theorem refl (world : World σ) : Watched config world.trace world world where
  device := rfl
  clock := rfl
  raised := rfl
  printed := ⟨#[], #[], by simp, by simp, .nil⟩

theorem extend (watched : Watched config start direct monitored) {directly watching : World σ}
    {events more : Array Event} (device : watching.device = directly.device)
    (clock : watching.clock = directly.clock) (raised : watching.raised = directly.raised)
    (trace : directly.trace = direct.trace ++ events)
    (traceToo : watching.trace = monitored.trace ++ more)
    (printed : Printed (Monitor.transcript config (Trace.crossings events))
      events.toList more.toList) :
    Watched config start directly watching := by
  obtain ⟨earlier, earlierToo, since, sinceToo, printedEarlier⟩ := watched.printed
  refine ⟨device, clock, raised, earlier ++ events, earlierToo ++ more, ?_, ?_, ?_⟩
  · rw [trace, since, Array.append_assoc]
  · rw [traceToo, sinceToo, Array.append_assoc]
  · rw [Trace.crossings_append, Monitor.transcript_append, Array.toList_append,
      Array.toList_append]
    exact printedEarlier.append printed

theorem record (watched : Watched config start direct monitored) {event : Event}
    (uncrossed : event.crossing? = none) :
    Watched config start (direct.record event) (monitored.record event) := by
  have silent : Trace.crossings #[event] = [] := List.filterMap_cons_none uncrossed
  have printed : Printed (Monitor.transcript config (Trace.crossings #[event])) [event] [event] := by
    rw [silent]
    exact .refl [event]
  exact watched.extend watched.device watched.clock watched.raised (World.record_trace direct event)
    (World.record_trace monitored event) printed

theorem sleep (watched : Watched config start direct monitored) (span : Duration) :
    Watched config start { direct.record (.sleep span) with clock := direct.clock + span }
      { monitored.record (.sleep span) with clock := monitored.clock + span } where
  device := watched.device
  clock := congrArg (· + span) watched.clock
  raised := watched.raised
  printed := (watched.record rfl).printed

/-- A call that is answered alike; its lines are put in among the notes of the link. -/
theorem call (watched : Watched config start direct monitored) {α : Type}
    (event : Except LinkError α → Event) {reply : Reply σ α} {notes : List Note}
    (printed : Printed (Monitor.transcript config (Trace.crossings #[event reply.result]))
      (reply.notes.map Event.note) (notes.map Event.note)) :
    Watched config start (direct.afterCall event reply)
      (monitored.afterCall event { reply with notes }) := by
  have put : Printed (Monitor.transcript config (Trace.crossings
        ((reply.notes.map Event.note).toArray ++ #[event reply.result])))
      ((reply.notes.map Event.note).toArray ++ #[event reply.result]).toList
      ((notes.map Event.note).toArray ++ #[event reply.result]).toList := by
    rw [Trace.crossings_append, Trace.crossings_notes, List.nil_append]
    have followed := printed.append (.refl [event reply.result])
    simpa using followed
  exact watched.extend rfl watched.clock (congrArg (reply.raises.toList ++ ·) watched.raised)
    (World.afterCall_trace direct event reply) (World.afterCall_trace monitored event _) put

theorem send (watched : Watched config start direct monitored) (link : Link σ) (packet : Bytes) :
    Watched config start (direct.afterCall (.send packet) (link.send packet direct.device))
      (monitored.afterCall (.send packet)
        ((link.monitored config).send packet monitored.device)) := by
  rw [watched.device]
  apply watched.call (.send packet)
  have noted := (Printed.only (Monitor.lines config .tx packet)).append
    (.refl ((link.send packet direct.device).notes.map Event.note))
  rw [List.map_append]
  exact noted

theorem read (watched : Watched config start direct monitored) (link : Link σ)
    (timeout : Duration) :
    Watched config start (direct.afterCall (.read timeout) (link.read timeout direct.device))
      (monitored.afterCall (.read timeout)
        ((link.monitored config).read timeout monitored.device)) := by
  rw [watched.device]
  apply watched.call (.read timeout)
  have unshown := Printed.refl ((link.read timeout direct.device).notes.map Event.note)
  rw [List.map_append]
  cases (link.read timeout direct.device).result with
  | error reason =>
      change Printed [] _ (_ ++ [])
      rw [List.append_nil]
      exact unshown
  | ok packet =>
      have alone : Monitor.transcript config (Trace.crossings #[.read timeout (.ok packet)]) =
          Monitor.lines config .rx packet := List.append_nil _
      have shown := unshown.append (.only (Monitor.lines config .rx packet))
      rw [List.append_nil] at shown
      rw [alone]
      exact shown

theorem uncrossed (watched : Watched config start direct monitored) {α : Type}
    {event : Except LinkError α → Event} {reply : Reply σ α}
    (silent : Trace.crossings #[event reply.result] = []) :
    Watched config start (direct.afterCall event reply) (monitored.afterCall event reply) := by
  apply watched.call event
  rw [silent]
  exact .refl _

theorem perform (watched : Watched config start direct monitored) (link : Link σ)
    (effect : Effect) :
    ((link.monitored config).perform effect monitored).1 = (link.perform effect direct).1 ∧
      Watched config start (link.perform effect direct).2
        ((link.monitored config).perform effect monitored).2 := by
  have device := watched.device
  cases effect with
  | send packet =>
      have result := congrArg (fun state => (link.send packet state).result) device
      exact ⟨result, watched.send link packet⟩
  | read timeout =>
      have result := congrArg (fun state => (link.read timeout state).result) device
      exact ⟨result, watched.read link timeout⟩
  | reset =>
      have result := congrArg (fun state => (link.reset state).result) device
      have after : Watched config start (direct.afterCall .reset (link.reset direct.device))
          (monitored.afterCall .reset (link.reset monitored.device)) := by
        rw [device]
        exact watched.uncrossed rfl
      exact ⟨result, after⟩
  | dispose =>
      have result := congrArg (fun state => (link.dispose state).result) device
      have after : Watched config start (direct.afterCall .dispose (link.dispose direct.device))
          (monitored.afterCall .dispose (link.dispose monitored.device)) := by
        rw [device]
        exact watched.uncrossed rfl
      exact ⟨result, after⟩
  | sleep span => exact ⟨rfl, watched.sleep span⟩
  | isCancelled token =>
      have answer := congrArg (fun raised => decide (token ∈ raised)) watched.raised
      exact ⟨answer, watched⟩
  | now => exact ⟨watched.clock, watched⟩
  | note note => exact ⟨rfl, watched.record rfl⟩

end World.Watched

theorem Action.run_monitored {α : Type} (action : Action α) (link : Link σ)
    (watched : World.Watched config start direct monitored) :
    (action.run (link.monitored config) monitored).1 = (action.run link direct).1 ∧
      World.Watched config start (action.run link direct).2
        (action.run (link.monitored config) monitored).2 := by
  induction action generalizing direct monitored with
  | done value => exact ⟨rfl, watched⟩
  | unfinished => exact ⟨rfl, watched⟩
  | step effect next ih =>
      obtain ⟨answered, after⟩ := watched.perform link effect
      rw [run_step, run_step, answered]
      exact ih _ after

end Watching

end PacketLink
