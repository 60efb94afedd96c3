import PacketLink.Proofs.Link.Runs
import PacketLink.Proofs.Link.Traces

namespace PacketLink

/-! What a part of a run adds to the trace: packets sent, packets received, and lines that went to
the sink. -/

/-- The run from `before` to `after` added `events`: all packets in `sent` were given to the link
and accepted, and it delivered `received`. -/
structure Stretch {σ : Type} (before after : World σ) (events : Array Event)
    (sent received : List Bytes) : Prop where
  trace : after.trace = before.trace ++ events
  attempted : Trace.attempted events = sent
  accepted : Trace.accepted events = sent
  delivered : Trace.delivered events = received

namespace Stretch

variable {σ α : Type} {before middle after : World σ} {events more : Array Event}
  {sent received sentLater receivedLater : List Bytes}

theorem refl (world : World σ) : Stretch world world #[] [] [] :=
  ⟨by simp, rfl, rfl, rfl⟩

theorem trans (first : Stretch before middle events sent received)
    (second : Stretch middle after more sentLater receivedLater) :
    Stretch before after (events ++ more) (sent ++ sentLater) (received ++ receivedLater) := by
  refine ⟨?_, ?_, ?_, ?_⟩
  · rw [second.trace, first.trace, Array.append_assoc]
  · rw [Trace.attempted_append, first.attempted, second.attempted]
  · rw [Trace.accepted_append, first.accepted, second.accepted]
  · rw [Trace.delivered_append, first.delivered, second.delivered]

theorem note (world : World σ) (note : Note) :
    Stretch world (world.record (.note note)) #[.note note] [] [] :=
  ⟨by simp, rfl, rfl, rfl⟩

theorem sleep (world : World σ) (span clock : Duration) :
    Stretch world { world.record (.sleep span) with clock } #[.sleep span] [] [] :=
  ⟨by simp [World.record], rfl, rfl, rfl⟩

theorem call (world : World σ) (event : Except LinkError α → Event) (reply : Reply σ α)
    (attempted : Trace.attempted #[event reply.result] = sent)
    (accepted : Trace.accepted #[event reply.result] = sent)
    (delivered : Trace.delivered #[event reply.result] = received) :
    Stretch world (world.afterCall event reply)
      ((reply.notes.map Event.note).toArray ++ #[event reply.result]) sent received := by
  refine ⟨world.afterCall_trace event reply, ?_, ?_, ?_⟩
  · rw [Trace.attempted_append, Trace.attempted_notes, attempted, List.nil_append]
  · rw [Trace.accepted_append, Trace.accepted_notes, accepted, List.nil_append]
  · rw [Trace.delivered_append, Trace.delivered_notes, delivered, List.nil_append]

theorem send (world : World σ) (packet : Bytes) (reply : Reply σ Unit)
    (accepted : reply.result = .ok ()) :
    Stretch world (world.afterCall (.send packet) reply)
      ((reply.notes.map Event.note).toArray ++ #[.send packet reply.result]) [packet] [] :=
  call world _ reply rfl (by rw [accepted]; rfl) rfl

theorem read (world : World σ) (timeout : Duration) {packet : Bytes} (reply : Reply σ Bytes)
    (delivered : reply.result = .ok packet) :
    Stretch world (world.afterCall (.read timeout) reply)
      ((reply.notes.map Event.note).toArray ++ #[.read timeout reply.result]) [] [packet] :=
  call world _ reply rfl rfl (by rw [delivered]; rfl)

/-! What a step added to the trace, where it ended well. -/

variable {ε ε' : Type} {link : Link σ}

theorem of_note {note : Note}
    (ran : (liftM (Action.note note) : Attempt ε Unit).on link before = (some (.ok ()), after)) :
    ∃ events, Stretch before after events [] [] := by
  rw [Attempt.on_lift, Action.run_note] at ran
  obtain ⟨-, rfl⟩ := Prod.mk.inj ran
  exact ⟨_, .note before note⟩

theorem of_sleep {span : Duration}
    (ran : (liftM (Action.sleep span) : Attempt ε Unit).on link before = (some (.ok ()), after)) :
    ∃ events, Stretch before after events [] [] := by
  rw [Attempt.on_lift, Action.run_sleep] at ran
  obtain ⟨-, rfl⟩ := Prod.mk.inj ran
  exact ⟨_, .sleep before span _⟩

theorem of_wait {span : Duration}
    (ran : (liftM (Action.wait span) : Attempt ε Unit).on link before = (some (.ok ()), after)) :
    ∃ events, Stretch before after events [] [] := by
  unfold Action.wait at ran
  split at ran
  · obtain ⟨-, rfl⟩ := Prod.mk.inj ran
    exact ⟨_, .refl before⟩
  · exact of_sleep ran

theorem of_send {wrap : LinkError → ε'} {packet : Bytes}
    (ran : (Attempt.of wrap (Action.send packet)).on link before = (some (.ok ()), after)) :
    ∃ events, Stretch before after events [packet] [] := by
  rw [Attempt.on_of, Action.run_send] at ran
  obtain ⟨outcome, rfl⟩ := Prod.mk.inj ran
  cases result : (link.send packet before.device).result with
  | error reason =>
      rw [result] at outcome
      cases outcome
  | ok _ => exact ⟨_, .send before packet _ result⟩

theorem of_readOutcome {timeout : Duration} {packet : Bytes}
    (ran : (liftM (Action.read timeout) : Attempt ε (Except LinkError Bytes)).on link before =
      (some (.ok (.ok packet)), after)) :
    ∃ events, Stretch before after events [] [packet] := by
  rw [Attempt.on_lift, Action.run_read] at ran
  obtain ⟨outcome, rfl⟩ := Prod.mk.inj ran
  exact ⟨_, .read before timeout _ (by simpa using outcome)⟩

theorem of_read {wrap : LinkError → ε'} {timeout : Duration} {packet : Bytes}
    (ran : (Attempt.of wrap (Action.read timeout)).on link before = (some (.ok packet), after)) :
    ∃ events, Stretch before after events [] [packet] := by
  rw [Attempt.on_of, Action.run_read] at ran
  obtain ⟨outcome, rfl⟩ := Prod.mk.inj ran
  cases result : (link.read timeout before.device).result with
  | error reason =>
      rw [result] at outcome
      cases outcome
  | ok delivered =>
      rw [result] at outcome
      cases outcome
      exact ⟨_, .read before timeout _ result⟩

end Stretch

/-- As `Stretch`, with the lines that the sink received. -/
def Exchanged {σ : Type} (sink : DebugSink) (before after : World σ) (sent received : List Bytes)
    (lines : List String) : Prop :=
  ∃ events, Stretch before after events sent received ∧ Trace.lines sink events = lines

namespace Exchanged

variable {σ α : Type} {sink : DebugSink} {before middle after : World σ}
  {sent received sentLater receivedLater : List Bytes} {lines linesLater : List String}

theorem refl (sink : DebugSink) (world : World σ) : Exchanged sink world world [] [] [] :=
  ⟨#[], .refl world, rfl⟩

theorem trans (first : Exchanged sink before middle sent received lines)
    (second : Exchanged sink middle after sentLater receivedLater linesLater) :
    Exchanged sink before after (sent ++ sentLater) (received ++ receivedLater)
      (lines ++ linesLater) := by
  obtain ⟨events, stretch, went⟩ := first
  obtain ⟨more, following, wentLater⟩ := second
  exact ⟨events ++ more, stretch.trans following, by rw [Trace.lines_append, went, wentLater]⟩

theorem note (world : World σ) (note : Note) :
    Exchanged sink world (world.record (.note note)) [] [] (sink.line? note).toList := by
  refine ⟨_, .note world note, ?_⟩
  cases line : sink.line? note <;> simp [Trace.lines, Trace.notes, line]

theorem sleep (sink : DebugSink) (world : World σ) (span clock : Duration) :
    Exchanged sink world { world.record (.sleep span) with clock } [] [] [] :=
  ⟨_, .sleep world span clock, rfl⟩

end Exchanged

end PacketLink
