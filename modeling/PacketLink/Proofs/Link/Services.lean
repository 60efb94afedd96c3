import PacketLink.Proofs.Link.Cooperation
import PacketLink.Proofs.Link.Replays

namespace PacketLink

/-! Links that answer sends and reads in any way, failures among the answers, and leave cancel token
and sink alone.

What the host hears of such a link are the answers to its reads; what its sink gets are the lines of
debug text. `Heard` keeps both in one order. `Ends` says how an attempt ends by the answers ahead. -/

/-- The answers that a link has ahead. After the last of them sends succeed and reads time out. -/
structure Prospect where
  sends : List (Except LinkError Unit)
  reads : List ReadResult

/-- The answer to a read, or a line of debug text. -/
inductive Heard where
  | answer (result : ReadResult)
  | line (text : String)

namespace Heard

def answer? : Heard → Option ReadResult
  | .answer result => some result
  | .line _ => none

def line? : Heard → Option String
  | .answer _ => none
  | .line text => some text

/-- The packet that a read brought. -/
def packet? : Heard → Option Bytes
  | .answer (.ok packet) => some packet
  | .answer (.error _) | .line _ => none

end Heard

namespace Trace

/-- The answers to all reads and the lines that went to the sink, in order. -/
def heard (sink : DebugSink) (trace : Array Event) : List Heard :=
  trace.toList.filterMap fun
    | .read _ result => some (.answer result)
    | .note note => (sink.line? note).map .line
    | _ => none

variable (sink : DebugSink)

@[simp] theorem heard_append (trace events : Array Event) :
    heard sink (trace ++ events) = heard sink trace ++ heard sink events := by
  simp [heard]

theorem heard_notes (notes : List Note) :
    heard sink (notes.map Event.note).toArray = (notes.filterMap sink.line?).map .line := by
  simp only [heard, List.filterMap_map, List.map_filterMap]
  rfl

theorem lines_eq (trace : Array Event) :
    lines sink trace = (heard sink trace).filterMap Heard.line? := by
  simp only [lines, notes, heard, List.filterMap_filterMap]
  congr 1
  funext event
  cases event with
  | note note => cases line : sink.line? note <;> simp [line, Heard.line?]
  | _ => rfl

theorem delivered_eq (trace : Array Event) :
    delivered trace = (heard sink trace).filterMap Heard.packet? := by
  simp only [delivered, heard, List.filterMap_filterMap]
  congr 1
  funext event
  cases event with
  | read timeout result => cases result <;> rfl
  | note note => cases line : sink.line? note <;> simp [line, Heard.packet?]
  | _ => rfl

end Trace

/-- `ahead` says which answers a device has ahead. -/
structure Link.Serves {σ : Type} (link : Link σ) (token : CancelToken) (sink : DebugSink)
    (ahead : σ → Prospect → Prop) : Prop where
  sends : ∀ {device : σ} {prospect : Prospect} (packet : Bytes), ahead device prospect →
    (link.send packet device).result = prospect.sends.headD (.ok ()) ∧
      ahead (link.send packet device).device ⟨prospect.sends.tail, prospect.reads⟩ ∧
      (link.send packet device).Quiet token sink
  reads : ∀ {device : σ} {prospect : Prospect} (timeout : Duration), ahead device prospect →
    (link.read timeout device).result = prospect.reads.headD (.error .timeout) ∧
      ahead (link.read timeout device).device ⟨prospect.sends, prospect.reads.tail⟩ ∧
      (link.read timeout device).Quiet token sink

/-- These answers are ahead, and the token is not raised. -/
structure World.Faces {σ : Type} (ahead : σ → Prospect → Prop) (token : CancelToken)
    (world : World σ) (prospect : Prospect) : Prop where
  prospect : ahead world.device prospect
  active : token ∉ world.raised

theorem World.Faces.afterCall {σ α : Type} {ahead : σ → Prospect → Prop} {token : CancelToken}
    {sink : DebugSink} {before : World σ} {prospect left : Prospect}
    {event : Except LinkError α → Event} {reply : Reply σ α}
    (faces : before.Faces ahead token prospect) (remains : ahead reply.device left)
    (quiet : reply.Quiet token sink) : (before.afterCall event reply).Faces ahead token left := by
  constructor
  · exact remains
  · rw [World.afterCall_raised]
    intro raised
    rcases List.mem_append.mp raised with now | earlier
    · exact quiet.raises (by simpa using now)
    · exact faces.active earlier

/-- On the way to `after` packets were sent with these answers, and this was heard. -/
def Passes {σ : Type} (sink : DebugSink) (before after : World σ)
    (sent : List (Bytes × Except LinkError Unit)) (heard : List Heard) : Prop :=
  ∃ events, after.trace = before.trace ++ events ∧ Trace.sends events = sent ∧
    Trace.heard sink events = heard

namespace Passes

variable {σ α : Type} {sink : DebugSink} {before middle after : World σ}
  {sent sentLater : List (Bytes × Except LinkError Unit)} {heard heardLater : List Heard}

theorem refl (sink : DebugSink) (world : World σ) : Passes sink world world [] [] :=
  ⟨#[], by simp, rfl, rfl⟩

theorem trans (first : Passes sink before middle sent heard)
    (second : Passes sink middle after sentLater heardLater) :
    Passes sink before after (sent ++ sentLater) (heard ++ heardLater) := by
  obtain ⟨events, trace, rfl, rfl⟩ := first
  obtain ⟨more, traceLater, rfl, rfl⟩ := second
  refine ⟨events ++ more, ?_, Trace.sends_append _ _, Trace.heard_append _ _ _⟩
  rw [traceLater, trace, Array.append_assoc]

theorem call {token : CancelToken} (world : World σ) (event : Except LinkError α → Event)
    {reply : Reply σ α} (quiet : reply.Quiet token sink) :
    Passes sink world (world.afterCall event reply) (Trace.sends #[event reply.result])
      (Trace.heard sink #[event reply.result]) := by
  refine ⟨_, world.afterCall_trace event reply, ?_, ?_⟩
  · rw [Trace.sends_append, Trace.sends_notes, List.nil_append]
  · rw [Trace.heard_append, Trace.heard_notes, quiet.notes, List.map_nil, List.nil_append]

end Passes

namespace Link.Serves

section Triples

variable {σ ε α : Type} {link : Link σ} {token : CancelToken} {sink : DebugSink}
  {ahead : σ → Prospect → Prop}

/-- Wherever `prospect` is ahead, the action returns `result`; on the way it sends and hears what is
given, and `left` is then ahead. -/
def Returns (_ : link.Serves token sink ahead) (action : Action α) (prospect : Prospect) (result : α)
    (sent : List (Bytes × Except LinkError Unit)) (heard : List Heard) (left : Prospect) : Prop :=
  ∀ before, before.Faces ahead token prospect →
    ∃ after, action.run link before = (some result, after) ∧
      Passes sink before after sent heard ∧ after.Faces ahead token left

/-- As `Returns`, for the outcome of an attempt. -/
def Ends (serves : link.Serves token sink ahead) (attempt : Attempt ε α) (prospect : Prospect)
    (outcome : Except ε α) (sent : List (Bytes × Except LinkError Unit)) (heard : List Heard)
    (left : Prospect) : Prop :=
  serves.Returns attempt.run prospect outcome sent heard left

end Triples

variable {σ ε α β : Type} {link : Link σ} {token : CancelToken} {sink : DebugSink}
  {ahead : σ → Prospect → Prop} (serves : link.Serves token sink ahead)
  {prospect middle left : Prospect} {sent sentLater : List (Bytes × Except LinkError Unit)}
  {heard heardLater : List Heard} {attempt : Attempt ε α} {value : α} {outcome : Except ε β}
  {reason : ε}

include serves

theorem done {attempt : Attempt ε α} {outcome : Except ε α}
    (immediate : attempt.run = .done outcome) : serves.Ends attempt prospect outcome [] [] prospect := by
  intro before faces
  refine ⟨before, ?_, .refl sink before, faces⟩
  rw [immediate, Action.run_done]

theorem bind {next : α → Attempt ε β} (first : serves.Ends attempt prospect (.ok value) sent heard middle)
    (second : serves.Ends (next value) middle outcome sentLater heardLater left) :
    serves.Ends (attempt >>= next) prospect outcome (sent ++ sentLater) (heard ++ heardLater) left := by
  intro before faces
  obtain ⟨between, ran, passes, facesBetween⟩ := first before faces
  obtain ⟨after, ranLater, passesLater, facesAfter⟩ := second between facesBetween
  have whole : (attempt >>= next).on link before = (some outcome, after) := by
    rw [Attempt.on_bind_of_ok ran]
    exact ranLater
  exact ⟨after, whole, passes.trans passesLater, facesAfter⟩

theorem bind_silent {next : α → Attempt ε β}
    (first : serves.Ends attempt prospect (.ok value) sent heard middle)
    (second : serves.Ends (next value) middle outcome [] [] left) :
    serves.Ends (attempt >>= next) prospect outcome sent heard left := by
  have whole := serves.bind first second
  rwa [List.append_nil, List.append_nil] at whole

theorem fails_bind {next : α → Attempt ε β}
    (first : serves.Ends attempt prospect (.error reason) sent heard left) :
    serves.Ends (attempt >>= next) prospect (.error reason) sent heard left := by
  intro before faces
  obtain ⟨after, ran, passes, facesAfter⟩ := first before faces
  have whole : (attempt >>= next).on link before = (some (.error reason), after) := by
    have failed : attempt.on link before = (some (.error reason), after) := ran
    rw [Attempt.on_bind, failed]
  exact ⟨after, whole, passes, facesAfter⟩

theorem stop (reason : ε) :
    serves.Ends (Attempt.stopIfCancelled token reason) prospect (.ok ()) [] [] prospect := by
  intro before faces
  have ran : (Attempt.stopIfCancelled token reason).on link before = (some (.ok ()), before) := by
    rw [Attempt.on_stopIfCancelled, if_neg faces.active]
  exact ⟨before, ran, .refl sink before, faces⟩

section Steps

variable {next : Unit → Attempt ε β}

theorem stop_bind (rest : serves.Ends (next ()) prospect outcome sent heard left) :
    serves.Ends (Attempt.stopIfCancelled token reason >>= next) prospect outcome sent heard left :=
  serves.bind (serves.stop reason) rest

theorem note_bind (note : Note) (rest : serves.Ends (next ()) prospect outcome sent heard left) :
    serves.Ends (liftM (Action.note note) >>= next) prospect outcome sent
      ((sink.line? note).toList.map .line ++ heard) left := by
  have noted : serves.Ends (liftM (Action.note note) : Attempt ε Unit) prospect (.ok ()) []
      ((sink.line? note).toList.map .line) prospect := by
    intro before faces
    refine ⟨before.record (.note note), rfl, ⟨_, before.record_trace _, rfl, ?_⟩, ⟨faces.1, faces.2⟩⟩
    cases line : sink.line? note <;> simp [Trace.heard, line]
  exact serves.bind noted rest

theorem log_bind {entry : Log.Entry} (silent : sink.line? (.log entry) = none)
    (rest : serves.Ends (next ()) prospect outcome sent heard left) :
    serves.Ends (liftM (Action.log entry) >>= next) prospect outcome sent heard left := by
  have logged := serves.note_bind (.log entry) rest
  rw [silent] at logged
  exact logged

theorem sleep_bind (span : Duration) (rest : serves.Ends (next ()) prospect outcome sent heard left) :
    serves.Ends (liftM (Action.sleep span) >>= next) prospect outcome sent heard left := by
  have slept : serves.Ends (liftM (Action.sleep span) : Attempt ε Unit) prospect (.ok ()) [] []
      prospect := by
    intro before faces
    exact ⟨_, rfl, ⟨_, before.record_trace (.sleep span), rfl, rfl⟩, ⟨faces.1, faces.2⟩⟩
  exact serves.bind slept rest

theorem wait_bind (span : Duration) (rest : serves.Ends (next ()) prospect outcome sent heard left) :
    serves.Ends (liftM (Action.wait span) >>= next) prospect outcome sent heard left := by
  unfold Action.wait
  split
  · exact rest
  · exact serves.sleep_bind span rest

end Steps

theorem send (wrap : LinkError → ε) (packet : Bytes) {sends : List (Except LinkError Unit)}
    {answer : Except LinkError Unit} (next : sends.headD (.ok ()) = answer) (reads : List ReadResult) :
    serves.Ends (Attempt.of wrap (Action.send packet)) ⟨sends, reads⟩ (answer.mapError wrap)
      [(packet, answer)] [] ⟨sends.tail, reads⟩ := by
  subst next
  intro before faces
  obtain ⟨answered, remains, quiet⟩ := serves.sends packet faces.prospect
  have passes := Passes.call before (Event.send packet) quiet
  have ran : (Attempt.of wrap (Action.send packet)).on link before =
      (some ((link.send packet before.device).result.mapError wrap),
        before.afterCall (.send packet) (link.send packet before.device)) := by
    rw [Attempt.on_of, Action.run_send]
    rfl
  rw [answered] at passes ran
  exact ⟨_, ran, passes, faces.afterCall remains quiet⟩

theorem readOutcome_bind {next : ReadResult → Attempt ε β} (timeout : Duration)
    (rest : serves.Ends (next (prospect.reads.headD (.error .timeout)))
      ⟨prospect.sends, prospect.reads.tail⟩ outcome sent heard left) :
    serves.Ends (liftM (Action.read timeout) >>= next) prospect outcome sent
      (.answer (prospect.reads.headD (.error .timeout)) :: heard) left := by
  have answer : serves.Ends (liftM (Action.read timeout) : Attempt ε ReadResult) prospect
      (.ok (prospect.reads.headD (.error .timeout))) []
      [.answer (prospect.reads.headD (.error .timeout))] ⟨prospect.sends, prospect.reads.tail⟩ := by
    intro before faces
    obtain ⟨answered, remains, quiet⟩ := serves.reads timeout faces.prospect
    have passes := Passes.call before (Event.read timeout) quiet
    have ran : (liftM (Action.read timeout) : Attempt ε ReadResult).on link before =
        (some (.ok (link.read timeout before.device).result),
          before.afterCall (.read timeout) (link.read timeout before.device)) := by
      rw [Attempt.on_lift, Action.run_read]
      rfl
    rw [answered] at passes ran
    exact ⟨_, ran, passes, faces.afterCall remains quiet⟩
  exact serves.bind answer rest

theorem beside {outcome : Except ε α} (ends : serves.Ends attempt prospect outcome sent heard left)
    (value : β) :
    serves.Returns (attempt.run >>= fun outcome => .done (outcome, value)) prospect (outcome, value)
      sent heard left := by
  intro before faces
  obtain ⟨after, ran, passes, facesAfter⟩ := ends before faces
  refine ⟨after, ?_, passes, facesAfter⟩
  rw [Action.run_bind, ran]
  rfl

end Link.Serves

/-- The script goes on with these answers: sends fail as often as it says, and no token is raised. -/
structure Script.Foretells (script : Script) (prospect : Prospect) : Prop where
  open_ : script.disposed = false
  sendsUntilCancel : script.sendsUntilCancel = 0
  readsUntilCancel : script.readsUntilCancel = 0
  sends : List.replicate script.failingSends (.error (.hid "scripted send failure")) = prospect.sends
  reads : script.reads.map ScriptedRead.result = prospect.reads

theorem Link.scripted_serves (token : CancelToken) (sink : DebugSink) :
    Link.scripted.Serves token sink Script.Foretells := by
  constructor
  · intro script prospect packet foretells
    obtain ⟨open_, sendsUntilCancel, readsUntilCancel, sends, reads⟩ := foretells
    rw [← sends]
    cases failing : script.failingSends with
    | zero =>
        have sent : Link.scripted.send packet script =
            ⟨.ok (), { script with sendsUntilCancel := script.sendsUntilCancel - 1 }, none, []⟩ := by
          simp [Link.scripted, Script.send, Script.dueToken, open_, failing, sendsUntilCancel]
        rw [sent]
        exact ⟨rfl, ⟨open_, by simp [sendsUntilCancel], readsUntilCancel, by simp [failing], reads⟩,
          by simp, rfl⟩
    | succ fewer =>
        have sent : Link.scripted.send packet script =
            ⟨.error (.hid "scripted send failure"), { script with failingSends := fewer }, none,
              []⟩ := by
          simp [Link.scripted, Script.send, open_, failing]
        rw [sent]
        exact ⟨rfl, ⟨open_, sendsUntilCancel, readsUntilCancel, rfl, reads⟩, by simp, rfl⟩
  · intro script prospect timeout foretells
    obtain ⟨open_, sendsUntilCancel, readsUntilCancel, sends, reads⟩ := foretells
    have read : Link.scripted.read timeout script =
        ⟨(script.reads.map ScriptedRead.result).headD (.error .timeout), { script with
          reads := script.reads.tail
          readsUntilCancel := script.readsUntilCancel - 1 }, none, []⟩ := by
      cases listed : script.reads with
      | nil => simp [Link.scripted, Script.read, Script.nextRead, Script.dueToken, open_, listed,
          readsUntilCancel]
      | cons first rest =>
          cases first <;> simp [Link.scripted, Script.read, Script.nextRead, Script.dueToken, open_,
            listed, readsUntilCancel, ScriptedRead.result]
    rw [read, ← reads]
    exact ⟨rfl, ⟨open_, sendsUntilCancel, by simp [readsUntilCancel], sends, List.map_tail⟩,
      by simp, rfl⟩

end PacketLink
