import PacketLink.Link.Scripted
import PacketLink.Proofs.Link.Outcomes

namespace PacketLink

/-! Links that accept every packet and answer the reads from a script, failures among the answers.
Where the script ends, reads time out.

`Yields` and `Fails` say how an attempt ends on such a link, by the answers that are ahead; their
rules follow the steps of an attempt. A part of which the failure is looked at does not fail. -/

abbrev ReadResult := Except LinkError Bytes

/-- `ahead` says which answers a device has ahead. -/
structure Link.Replays {σ : Type} (link : Link σ) (token : CancelToken)
    (ahead : σ → List ReadResult → Prop) : Prop where
  accepts : ∀ {device : σ} {script : List ReadResult} (packet : Bytes), ahead device script →
    (link.send packet device).result = .ok () ∧ ahead (link.send packet device).device script ∧
      (link.send packet device).raises ≠ some token
  answers : ∀ {device : σ} {script : List ReadResult} (timeout : Duration), ahead device script →
    (link.read timeout device).result = script.headD (.error .timeout) ∧
      ahead (link.read timeout device).device script.tail ∧
      (link.read timeout device).raises ≠ some token

structure World.Awaits {σ : Type} (ahead : σ → List ReadResult → Prop) (token : CancelToken)
    (world : World σ) (script : List ReadResult) : Prop where
  script : ahead world.device script
  active : token ∉ world.raised

/-- On the way to `after` the link was asked for `calls`; there, `left` is ahead. -/
structure Reaches {σ : Type} (ahead : σ → List ReadResult → Prop) (token : CancelToken)
    (before after : World σ) (calls : List Event) (left : List ReadResult) : Prop where
  trace : ∃ events, after.trace = before.trace ++ events ∧ Trace.calls events = calls
  awaits : after.Awaits ahead token left

section Steps

variable {σ α : Type} {ahead : σ → List ReadResult → Prop} {token : CancelToken}
  {before middle after : World σ} {script left : List ReadResult} {calls callsLater : List Event}

namespace Reaches

theorem refl (awaits : before.Awaits ahead token script) :
    Reaches ahead token before before [] script :=
  ⟨⟨#[], by simp, rfl⟩, awaits⟩

theorem trans (first : Reaches ahead token before middle calls script)
    (second : Reaches ahead token middle after callsLater left) :
    Reaches ahead token before after (calls ++ callsLater) left := by
  obtain ⟨events, trace, rfl⟩ := first.trace
  obtain ⟨more, traceLater, rfl⟩ := second.trace
  refine ⟨⟨events ++ more, ?_, Trace.calls_append _ _⟩, second.awaits⟩
  rw [traceLater, trace, Array.append_assoc]

theorem record (awaits : before.Awaits ahead token script) {event : Event}
    (uncalled : Trace.calls #[event] = []) :
    Reaches ahead token before (before.record event) [] script :=
  ⟨⟨_, before.record_trace event, uncalled⟩, awaits.script, awaits.active⟩

theorem call {event : Except LinkError α → Event} {reply : Reply σ α}
    (awaits : before.Awaits ahead token script) (remains : ahead reply.device left)
    (quiet : reply.raises ≠ some token)
    (called : Trace.calls #[event reply.result] = [event reply.result]) :
    Reaches ahead token before (before.afterCall event reply) [event reply.result] left := by
  refine ⟨⟨_, before.afterCall_trace event reply, ?_⟩, remains, ?_⟩
  · rw [Trace.calls_append, Trace.calls_notes, called, List.nil_append]
  · rw [World.afterCall_raised]
    intro raised
    rcases List.mem_append.mp raised with now | earlier
    · exact quiet (by simpa using now)
    · exact awaits.active earlier

end Reaches

end Steps

namespace Link.Replays

section Triples

variable {σ ε α : Type} {link : Link σ} {token : CancelToken} {ahead : σ → List ReadResult → Prop}

/-- Wherever `script` is ahead, the attempt ends with `value`; it asks the link for `calls` and
leaves `left` ahead. -/
def Yields (_ : link.Replays token ahead) (attempt : Attempt ε α) (script : List ReadResult) (value : α)
    (calls : List Event) (left : List ReadResult) : Prop :=
  ∀ before, before.Awaits ahead token script →
    ∃ after, attempt.on link before = (some (.ok value), after) ∧
      Reaches ahead token before after calls left

/-- Wherever `script` is ahead, the attempt fails. -/
def Fails (_ : link.Replays token ahead) (attempt : Attempt ε α) (script : List ReadResult) : Prop :=
  ∀ before, before.Awaits ahead token script →
    ∃ reason after, attempt.on link before = (some (.error reason), after)

end Triples

variable {σ ε ε' α β : Type} {link : Link σ} {token : CancelToken}
  {ahead : σ → List ReadResult → Prop} (replays : link.Replays token ahead)
  {script middle left : List ReadResult} {calls callsLater : List Event} {attempt : Attempt ε α}
  {next : α → Attempt ε β} {value : α} {result : β}

include replays

theorem pure (value : α) :
    replays.Yields (Pure.pure value : Attempt ε α) script value [] script :=
  fun before awaits => ⟨before, Attempt.on_pure link before value, .refl awaits⟩

theorem ofExcept (value : α) :
    replays.Yields (Attempt.ofExcept (.ok value) : Attempt ε α) script value [] script :=
  fun before awaits => ⟨before, Attempt.on_ofExcept link before _, .refl awaits⟩

theorem bind (first : replays.Yields attempt script value calls middle)
    (second : replays.Yields (next value) middle result callsLater left) :
    replays.Yields (attempt >>= next) script result (calls ++ callsLater) left := by
  intro before awaits
  obtain ⟨between, ran, reaches⟩ := first before awaits
  obtain ⟨after, ranLater, reachesLater⟩ := second between reaches.awaits
  exact ⟨after, by rw [Attempt.on_bind_of_ok ran, ranLater], reaches.trans reachesLater⟩

theorem silent_bind (first : replays.Yields attempt script value [] middle)
    (second : replays.Yields (next value) middle result calls left) :
    replays.Yields (attempt >>= next) script result calls left :=
  replays.bind first second

theorem bind_silent (first : replays.Yields attempt script value calls middle)
    (second : replays.Yields (next value) middle result [] left) :
    replays.Yields (attempt >>= next) script result calls left := by
  have whole := replays.bind first second
  rwa [List.append_nil] at whole

theorem bind_fails (first : replays.Yields attempt script value calls middle)
    (second : replays.Fails (next value) middle) : replays.Fails (attempt >>= next) script := by
  intro before awaits
  obtain ⟨between, ran, reaches⟩ := first before awaits
  obtain ⟨reason, after, failed⟩ := second between reaches.awaits
  exact ⟨reason, after, by rw [Attempt.on_bind_of_ok ran, failed]⟩

theorem fails_bind (first : replays.Fails attempt script) :
    replays.Fails (attempt >>= next) script := by
  intro before awaits
  obtain ⟨reason, after, failed⟩ := first before awaits
  exact ⟨reason, after, by rw [Attempt.on_bind, failed]⟩

theorem stop (reason : ε) :
    replays.Yields (Attempt.stopIfCancelled token reason) script () [] script := by
  intro before awaits
  refine ⟨before, ?_, .refl awaits⟩
  rw [Attempt.on_stopIfCancelled, if_neg awaits.active]

theorem note (note : Note) :
    replays.Yields (liftM (Action.note note) : Attempt ε Unit) script () [] script :=
  fun before awaits =>
    ⟨_, by rw [Attempt.on_lift, Action.run_note]; rfl, .record awaits rfl⟩

theorem wait (span : Duration) :
    replays.Yields (liftM (Action.wait span) : Attempt ε Unit) script () [] script := by
  unfold Action.wait
  split
  · exact replays.pure ()
  · intro before awaits
    refine ⟨_, by rw [Attempt.on_lift, Action.run_sleep]; rfl, ?_⟩
    exact ⟨⟨_, before.record_trace _, rfl⟩, awaits.script, awaits.active⟩

theorem send_reaches (packet : Bytes) {before : World σ}
    (awaits : before.Awaits ahead token script) :
    ∃ after, (Action.send packet).run link before = (some (.ok ()), after) ∧
      Reaches ahead token before after [.send packet (.ok ())] script := by
  obtain ⟨accepted, remains, quiet⟩ := replays.accepts packet awaits.script
  have reaches : Reaches ahead token before
      (before.afterCall (.send packet) (link.send packet before.device)) _ script :=
    .call awaits remains quiet rfl
  rw [accepted] at reaches
  exact ⟨_, by rw [Action.run_send, accepted], reaches⟩

theorem send (wrap : LinkError → ε) (packet : Bytes) :
    replays.Yields (Attempt.of wrap (Action.send packet)) script () [.send packet (.ok ())]
      script := by
  intro before awaits
  obtain ⟨after, ran, reaches⟩ := replays.send_reaches packet awaits
  exact ⟨after, by rw [Attempt.on_of, ran]; rfl, reaches⟩

theorem sendOutcome (packet : Bytes) :
    replays.Yields (liftM (Action.send packet) : Attempt ε (Except LinkError Unit)) script (.ok ())
      [.send packet (.ok ())] script := by
  intro before awaits
  obtain ⟨after, ran, reaches⟩ := replays.send_reaches packet awaits
  exact ⟨after, by rw [Attempt.on_lift, ran]; rfl, reaches⟩

theorem read (wrap : LinkError → ε) (timeout : Duration) (packet : Bytes) :
    replays.Yields (Attempt.of wrap (Action.read timeout)) (.ok packet :: script) packet
      [.read timeout (.ok packet)] script := by
  intro before awaits
  obtain ⟨answered, remains, quiet⟩ := replays.answers timeout awaits.script
  have reaches : Reaches ahead token before
      (before.afterCall (.read timeout) (link.read timeout before.device)) _ script :=
    .call awaits remains quiet rfl
  rw [answered] at reaches
  exact ⟨_, by rw [Attempt.on_of, Action.run_read, answered]; rfl, reaches⟩

theorem read_fails (wrap : LinkError → ε) (timeout : Duration) {reason : LinkError}
    (next : script.headD (.error .timeout) = .error reason) :
    replays.Fails (Attempt.of wrap (Action.read timeout)) script := by
  intro before awaits
  obtain ⟨answered, -, -⟩ := replays.answers timeout awaits.script
  exact ⟨wrap reason, _, by rw [Attempt.on_of, Action.run_read, answered, next]; rfl⟩

theorem outcome (yields : replays.Yields attempt script value calls left) :
    replays.Yields (attempt.outcome : Attempt ε' (Except ε α)) script (.ok value) calls left := by
  intro before awaits
  obtain ⟨after, ran, reaches⟩ := yields before awaits
  exact ⟨after, by rw [Attempt.on_outcome, ran]; rfl, reaches⟩

/-- A failure that is looked at, and answered by what fails whatever the link does. -/
theorem outcome_bind_fails {next : Except ε α → Attempt ε' β} (fails : replays.Fails attempt script)
    (answer : ∀ reason, (next (.error reason)).Leaves link fun outcome _ =>
      ∃ final, outcome = some (.error final)) :
    replays.Fails (attempt.outcome >>= next) script := by
  intro before awaits
  obtain ⟨reason, between, failed⟩ := fails before awaits
  obtain ⟨-, -, final, answered⟩ := answer reason between
  have looked : (attempt.outcome : Attempt ε' (Except ε α)).on link before =
      (some (.ok (.error reason)), between) := by
    rw [Attempt.on_outcome, failed]
    rfl
  refine ⟨final, ((next (.error reason)).on link between).2, ?_⟩
  rw [Attempt.on_bind_of_ok looked]
  exact Prod.ext answered rfl

end Link.Replays

def ScriptedRead.result : ScriptedRead → ReadResult
  | .packet bytes => .ok bytes
  | .timeout => .error .timeout
  | .error reason => .error (.hid reason)

/-- The script goes on with these answers and ends there; no send fails, and no token is raised. -/
structure Script.Answers (script : Script) (answers : List ReadResult) : Prop where
  open_ : script.disposed = false
  sends : script.failingSends = 0
  sendsUntilCancel : script.sendsUntilCancel = 0
  readsUntilCancel : script.readsUntilCancel = 0
  reads : script.reads.map ScriptedRead.result = answers

theorem Link.scripted_replays (token : CancelToken) :
    Link.scripted.Replays token Script.Answers := by
  constructor
  · intro script answers packet left
    have sent : Link.scripted.send packet script =
        ⟨.ok (), { script with sendsUntilCancel := script.sendsUntilCancel - 1 }, none, []⟩ := by
      simp [Link.scripted, Script.send, Script.dueToken, left.open_, left.sends,
        left.sendsUntilCancel]
    rw [sent]
    exact ⟨rfl, ⟨left.open_, left.sends, by simp [left.sendsUntilCancel], left.readsUntilCancel,
      left.reads⟩, by simp⟩
  · intro script answers timeout left
    obtain ⟨open_, sends, sendsUntilCancel, readsUntilCancel, rfl⟩ := left
    have read : Link.scripted.read timeout script =
        ⟨(script.reads.map ScriptedRead.result).headD (.error .timeout), { script with
          reads := script.reads.tail
          readsUntilCancel := script.readsUntilCancel - 1 }, none, []⟩ := by
      cases listed : script.reads with
      | nil => simp [Link.scripted, Script.read, Script.nextRead, Script.dueToken, open_, listed,
          readsUntilCancel]
      | cons first rest =>
          cases first <;> simp [Link.scripted, Script.read, Script.nextRead, Script.dueToken, open_,
            listed, readsUntilCancel, ScriptedRead.result]
    rw [read]
    refine ⟨rfl, ⟨open_, sends, sendsUntilCancel, by simp [readsUntilCancel], ?_⟩, by simp⟩
    exact List.map_tail

end PacketLink
