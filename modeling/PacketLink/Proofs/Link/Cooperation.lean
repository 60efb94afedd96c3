import PacketLink.Link.Scripted
import PacketLink.Proofs.Link.Stretch

namespace PacketLink

/-! Links that do their part: they accept every packet, deliver a queue of packets one read at a
time, and leave cancel token and debug text to others.

`Performs` says what an attempt does on such a link; its rules follow the steps of an attempt from
the first to the last. -/

/-- The reply leaves the token alone and puts no line into the sink. -/
structure Reply.Quiet {σ α : Type} (token : CancelToken) (sink : DebugSink) (reply : Reply σ α) :
    Prop where
  raises : reply.raises ≠ some token
  notes : reply.notes.filterMap sink.line? = []

/-- The link accepts every packet, and reads deliver a queue packet by packet; `queued` says which
queue a device will deliver. -/
structure Link.Cooperates {σ : Type} (link : Link σ) (token : CancelToken) (sink : DebugSink)
    (queued : σ → List Bytes → Prop) : Prop where
  send : ∀ {device : σ} {queue : List Bytes} (packet : Bytes), queued device queue →
    (link.send packet device).result = .ok () ∧ queued (link.send packet device).device queue ∧
      (link.send packet device).Quiet token sink
  read : ∀ {device : σ} {packet : Bytes} {queue : List Bytes} (timeout : Duration),
    queued device (packet :: queue) →
      (link.read timeout device).result = .ok packet ∧
        queued (link.read timeout device).device queue ∧
        (link.read timeout device).Quiet token sink

/-- The device will deliver `queue`, and the token is not raised. -/
structure World.Ready {σ : Type} (queued : σ → List Bytes → Prop) (token : CancelToken)
    (world : World σ) (queue : List Bytes) : Prop where
  queue : queued world.device queue
  active : token ∉ world.raised

namespace World.Ready

variable {σ : Type} {link : Link σ} {token : CancelToken} {sink : DebugSink}
  {queued : σ → List Bytes → Prop} {before : World σ} {queue : List Bytes} {packet : Bytes}

theorem afterCall {α : Type} {event : Except LinkError α → Event} {reply : Reply σ α}
    (ready : before.Ready queued token queue) {left : List Bytes} (remains : queued reply.device left)
    (quiet : reply.Quiet token sink) : (before.afterCall event reply).Ready queued token left := by
  refine ⟨remains, ?_⟩
  rw [World.afterCall_raised]
  intro raised
  rcases List.mem_append.mp raised with now | earlier
  · exact quiet.raises (by simpa using now)
  · exact ready.active earlier

theorem record (ready : before.Ready queued token queue) (event : Event) :
    (before.record event).Ready queued token queue :=
  ⟨ready.queue, ready.active⟩

variable (cooperates : link.Cooperates token sink queued)

include cooperates

theorem send (ready : before.Ready queued token queue) (packet : Bytes) :
    ∃ after, (Action.send packet).run link before = (some (.ok ()), after) ∧
      Exchanged sink before after [packet] [] [] ∧ after.Ready queued token queue := by
  obtain ⟨accepted, remains, quiet⟩ := cooperates.send packet ready.queue
  refine ⟨_, by rw [Action.run_send, accepted], ⟨_, .send before packet _ accepted, ?_⟩,
    ready.afterCall remains quiet⟩
  rw [Trace.lines_append, Trace.lines_notes, quiet.notes]
  rfl

theorem read (ready : before.Ready queued token (packet :: queue)) (timeout : Duration) :
    ∃ after, (Action.read timeout).run link before = (some (.ok packet), after) ∧
      Exchanged sink before after [] [packet] [] ∧ after.Ready queued token queue := by
  obtain ⟨delivered, remains, quiet⟩ := cooperates.read timeout ready.queue
  refine ⟨_, by rw [Action.run_read, delivered], ⟨_, .read before timeout _ delivered, ?_⟩,
    ready.afterCall remains quiet⟩
  rw [Trace.lines_append, Trace.lines_notes, quiet.notes]
  rfl

end World.Ready

/-- Wherever `queue` is ahead, the attempt ends with `outcome`; on the way it sends and receives the
given packets and puts the given lines into the sink, and `left` is then ahead. -/
def Link.Cooperates.Performs {σ ε α : Type} {link : Link σ} {token : CancelToken} {sink : DebugSink}
    {queued : σ → List Bytes → Prop} (_ : link.Cooperates token sink queued) (attempt : Attempt ε α)
    (queue : List Bytes) (outcome : Except ε α) (sent received : List Bytes) (lines : List String)
    (left : List Bytes) : Prop :=
  ∀ before, before.Ready queued token queue →
    ∃ after, attempt.on link before = (some outcome, after) ∧
      Exchanged sink before after sent received lines ∧ after.Ready queued token left

namespace Link.Cooperates

variable {σ ε ε' α β : Type} {link : Link σ} {token : CancelToken} {sink : DebugSink}
  {queued : σ → List Bytes → Prop} (cooperates : link.Cooperates token sink queued)
  {queue middle left sent received sentLater receivedLater : List Bytes}
  {lines linesLater : List String} {attempt : Attempt ε α} {next : α → Attempt ε β} {value : α}
  {outcome : Except ε β}

include cooperates

theorem done (attempt : Attempt ε α) (outcome : Except ε α)
    (immediate : attempt.run = .done outcome) :
    cooperates.Performs attempt queue outcome [] [] [] queue := by
  intro before ready
  refine ⟨before, ?_, .refl sink before, ready⟩
  rw [Attempt.on, immediate, Action.run_done]

theorem bind (first : cooperates.Performs attempt queue (.ok value) sent received lines middle)
    (second : cooperates.Performs (next value) middle outcome sentLater receivedLater linesLater left) :
    cooperates.Performs (attempt >>= next) queue outcome (sent ++ sentLater)
      (received ++ receivedLater) (lines ++ linesLater) left := by
  intro before ready
  obtain ⟨between, ran, exchanged, readyBetween⟩ := first before ready
  obtain ⟨after, ranLater, exchangedLater, readyAfter⟩ := second between readyBetween
  exact ⟨after, by rw [Attempt.on_bind_of_ok ran, ranLater], exchanged.trans exchangedLater,
    readyAfter⟩

theorem stop (reason : ε) :
    cooperates.Performs (Attempt.stopIfCancelled token reason) queue (.ok ()) [] [] [] queue := by
  intro before ready
  refine ⟨before, ?_, .refl sink before, ready⟩
  rw [Attempt.on_stopIfCancelled, if_neg ready.active]

theorem stop_bind {next : Unit → Attempt ε β} {reason : ε}
    (rest : cooperates.Performs (next ()) queue outcome sent received lines left) :
    cooperates.Performs (Attempt.stopIfCancelled token reason >>= next) queue outcome sent received
      lines left :=
  cooperates.bind (cooperates.stop reason) rest

theorem note (note : Note) :
    cooperates.Performs (liftM (Action.note note) : Attempt ε Unit) queue (.ok ()) [] []
      (sink.line? note).toList queue := by
  intro before ready
  exact ⟨_, by rw [Attempt.on_lift, Action.run_note]; rfl, .note before note, ready.record _⟩

/-- Entries of the log are no lines of debug text, other than the one kind that is. -/
theorem log {entry : Log.Entry} (silent : sink.line? (.log entry) = none) :
    cooperates.Performs (liftM (Action.log entry) : Attempt ε Unit) queue (.ok ()) [] [] []
      queue := by
  have lines : (sink.line? (.log entry)).toList = [] := by rw [silent]; rfl
  exact lines ▸ cooperates.note (.log entry)

theorem log_bind {next : Unit → Attempt ε β} {entry : Log.Entry}
    (silent : sink.line? (.log entry) = none)
    (rest : cooperates.Performs (next ()) queue outcome sent received lines left) :
    cooperates.Performs (liftM (Action.log entry) >>= next) queue outcome sent received lines
      left :=
  cooperates.bind (cooperates.log silent) rest

theorem sleep_bind {next : Unit → Attempt ε β} (span : Duration)
    (rest : cooperates.Performs (next ()) queue outcome sent received lines left) :
    cooperates.Performs (liftM (Action.sleep span) >>= next) queue outcome sent received lines
      left := by
  have first : cooperates.Performs (liftM (Action.sleep span) : Attempt ε Unit) queue (.ok ()) []
      [] [] queue := by
    intro before ready
    exact ⟨_, by rw [Attempt.on_lift, Action.run_sleep]; rfl, .sleep sink before span _,
      ready.queue, ready.active⟩
  exact cooperates.bind first rest

theorem wait_bind {next : Unit → Attempt ε β} (span : Duration)
    (rest : cooperates.Performs (next ()) queue outcome sent received lines left) :
    cooperates.Performs (liftM (Action.wait span) >>= next) queue outcome sent received lines
      left := by
  unfold Action.wait
  split
  · exact rest
  · exact cooperates.sleep_bind span rest

theorem send_bind {next : Unit → Attempt ε' β} {outcome : Except ε' β} (wrap : LinkError → ε')
    (packet : Bytes)
    (rest : cooperates.Performs (next ()) queue outcome sent received lines left) :
    cooperates.Performs (Attempt.of wrap (Action.send packet) >>= next) queue outcome
      (packet :: sent) received lines left := by
  have first : cooperates.Performs (Attempt.of wrap (Action.send packet)) queue (.ok ()) [packet] []
      [] queue := by
    intro before ready
    obtain ⟨after, ran, exchanged, remains⟩ := ready.send cooperates packet
    exact ⟨after, by rw [Attempt.on_of, ran]; rfl, exchanged, remains⟩
  exact cooperates.bind first rest

theorem read_bind {next : Bytes → Attempt ε' β} {outcome : Except ε' β} (wrap : LinkError → ε')
    (timeout : Duration) (packet : Bytes)
    (rest : cooperates.Performs (next packet) queue outcome sent received lines left) :
    cooperates.Performs (Attempt.of wrap (Action.read timeout) >>= next) (packet :: queue) outcome
      sent (packet :: received) lines left := by
  have first : cooperates.Performs (Attempt.of wrap (Action.read timeout)) (packet :: queue)
      (.ok packet) [] [packet] [] queue := by
    intro before ready
    obtain ⟨after, ran, exchanged, remains⟩ := ready.read cooperates timeout
    exact ⟨after, by rw [Attempt.on_of, ran]; rfl, exchanged, remains⟩
  exact cooperates.bind first rest

/-- A read whose failure would be looked at. -/
theorem readOutcome_bind {next : Except LinkError Bytes → Attempt ε β} (timeout : Duration)
    (packet : Bytes)
    (rest : cooperates.Performs (next (.ok packet)) queue outcome sent received lines left) :
    cooperates.Performs (liftM (Action.read timeout) >>= next) (packet :: queue) outcome sent
      (packet :: received) lines left := by
  have first : cooperates.Performs (liftM (Action.read timeout) : Attempt ε (Except LinkError Bytes))
      (packet :: queue) (.ok (.ok packet)) [] [packet] [] queue := by
    intro before ready
    obtain ⟨after, ran, exchanged, remains⟩ := ready.read cooperates timeout
    exact ⟨after, by rw [Attempt.on_lift, ran]; rfl, exchanged, remains⟩
  exact cooperates.bind first rest

end Link.Cooperates

/-- The script goes on with the packets of `queue`, and nothing in it fails or raises a token. -/
structure Script.Queues (script : Script) (queue : List Bytes) : Prop where
  open_ : script.disposed = false
  sends : script.failingSends = 0
  sendsUntilCancel : script.sendsUntilCancel = 0
  readsUntilCancel : script.readsUntilCancel = 0
  reads : ∃ more, script.reads = queue.map ScriptedRead.packet ++ more

/-- Answers each read with the next packet of a queue. -/
def Script.playing (queue : List Bytes) : Script := { reads := queue.map .packet }

theorem Script.playing_queues (queue : List Bytes) : (Script.playing queue).Queues queue :=
  ⟨rfl, rfl, rfl, rfl, [], (List.append_nil _).symm⟩

/-- The link that replays a script does its part as long as the script does. -/
theorem Link.scripted_cooperates (token : CancelToken) (sink : DebugSink) :
    Link.scripted.Cooperates token sink Script.Queues := by
  constructor
  · intro script queue packet queues
    have sent : Link.scripted.send packet script =
        ⟨.ok (), { script with sendsUntilCancel := script.sendsUntilCancel - 1 }, none, []⟩ := by
      simp [Link.scripted, Script.send, Script.dueToken, queues.open_, queues.sends,
        queues.sendsUntilCancel]
    rw [sent]
    exact ⟨rfl, ⟨queues.open_, queues.sends, by simp [queues.sendsUntilCancel],
      queues.readsUntilCancel, queues.reads⟩, by simp, rfl⟩
  · intro script packet queue timeout queues
    obtain ⟨more, reads⟩ := queues.reads
    have read : Link.scripted.read timeout script =
        ⟨.ok packet, { script with
          reads := queue.map ScriptedRead.packet ++ more
          readsUntilCancel := script.readsUntilCancel - 1 }, none, []⟩ := by
      simp [Link.scripted, Script.read, Script.nextRead, Script.dueToken, queues.open_, reads,
        queues.readsUntilCancel]
    rw [read]
    exact ⟨rfl, ⟨queues.open_, queues.sends, queues.sendsUntilCancel,
      by simp [queues.readsUntilCancel], more, rfl⟩, by simp, rfl⟩

end PacketLink
