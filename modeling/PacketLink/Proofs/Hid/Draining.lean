import PacketLink.Proofs.Hid.Closings
import PacketLink.Proofs.Link.Stretch

namespace PacketLink.Hid

/-! What a reset leaves of the reports of an interface, and a disposal of the interface itself.

A reset reads without waiting, 64 times at most, and stops at the first read that brings nothing. These
reads are all that it does to the system. A disposed interface refuses every call. -/

section Polls

variable {σ : Type} (system : System σ)

/-- The system after a number of reads that do not wait. -/
def System.polled : Nat → σ → σ
  | 0, state => state
  | made + 1, state => (system.read 0 (polled made state)).system

/-- A read that does not wait brings a report. -/
def System.Brings (state : σ) : Prop :=
  ∃ received, (system.read 0 state).result = .ok received ∧ received ≠ []

/-- So many reads, one after the other, bring a report each. -/
def System.Streams (count : Nat) (state : σ) : Prop :=
  ∀ made < count, system.Brings (system.polled made state)

variable {system} {state : σ} {left dropped : Nat} {raises : Option CancelToken}

/-- Of the reads that bring no report there is a first one. -/
theorem System.exists_silence {count : Nat} (silent : ¬ system.Streams count state) :
    ∃ dropped < count, system.Streams dropped state ∧
      ¬ system.Brings (system.polled dropped state) := by
  induction count with
  | zero => exact absurd (fun _ within => absurd within (Nat.not_lt_zero _)) silent
  | succ count ih =>
      by_cases before : system.Streams count state
      · refine ⟨count, Nat.lt_succ_self count, before, fun brings => silent fun made within => ?_⟩
        rcases Nat.lt_succ_iff_lt_or_eq.mp within with earlier | rfl
        · exact before made earlier
        · exact brings
      · obtain ⟨dropped, few, found⟩ := ih before
        exact ⟨dropped, Nat.lt_succ_of_lt few, found⟩

theorem isEmpty_take_packet {received : Bytes} :
    (received.take Limits.packet).isEmpty = true ↔ received = [] := by
  cases received with
  | nil => exact iff_of_true rfl rfl
  | cons first rest => exact iff_of_false Bool.false_ne_true nofun

/-- As long as reads bring reports, a drain drops them. -/
theorem Handle.drain_streams {count : Nat} (streams : system.Streams count state) :
    ∃ raised, drain system (count + left) dropped state raises =
      drain system left (dropped + count) (system.polled count state) raised := by
  induction count generalizing left with
  | zero => exact ⟨raises, by rw [Nat.zero_add]; rfl⟩
  | succ count ih =>
      obtain ⟨between, before⟩ := @ih (left + 1) fun made within => streams made (Nat.lt_succ_of_lt within)
      obtain ⟨received, delivered, present⟩ := streams count (Nat.lt_succ_self count)
      refine ⟨(system.read 0 (system.polled count state)).raises.or between, ?_⟩
      rw [Nat.succ_add_eq_add_succ, before, drain]
      simp only [delivered, isEmpty_take_packet, present, if_false]
      rfl

/-- The drain of a reset that has dropped fewer reports than it may. -/
theorem Handle.drain_within (few : dropped < 64) (streams : system.Streams dropped state) :
    ∃ left raised, drain system mostDrained 0 state none =
      drain system (left + 1) dropped (system.polled dropped state) raised := by
  obtain ⟨left, split⟩ : ∃ left, mostDrained = dropped + (left + 1) :=
    ⟨63 - dropped, by change 64 = _; omega⟩
  obtain ⟨raised, drained⟩ := @drain_streams σ system state (left + 1) 0 none dropped streams
  rw [Nat.zero_add] at drained
  exact ⟨left, raised, split ▸ drained⟩

section Resets

variable (path : String)

/-- A reset gives up once it has dropped 64 reports. -/
theorem Handle.reset_of_streams (streams : system.Streams 64 state) :
    ∃ raised, Handle.reset system path ⟨state, true⟩ =
      ⟨.ok (), ⟨system.polled 64 state, true⟩, raised, [.log (.stillStreaming path 64)]⟩ := by
  obtain ⟨raised, drained⟩ := @drain_streams σ system state 0 0 none 64 streams
  have full : drain system mostDrained 0 state none = ⟨.ok 64, system.polled 64 state, raised⟩ := drained
  refine ⟨raised, ?_⟩
  rw [reset, full]
  rfl

/-- A reset is done at the first read that brings nothing. -/
theorem Handle.reset_of_silence (few : dropped < 64) (streams : system.Streams dropped state)
    (silent : (system.read 0 (system.polled dropped state)).result = .ok []) :
    ∃ raised, Handle.reset system path ⟨state, true⟩ =
      ⟨.ok (), ⟨system.polled (dropped + 1) state, true⟩, raised, [.log (.drained path dropped)]⟩ := by
  obtain ⟨left, raised, drained⟩ := drain_within few streams
  refine ⟨(system.read 0 (system.polled dropped state)).raises.or raised, ?_⟩
  have fewer : dropped ≠ mostDrained := Nat.ne_of_lt few
  rw [reset, drained, drain]
  simp only [silent, isEmpty_take_packet, if_true, if_neg fewer]
  rfl

/-- A reset fails at the first read that fails. -/
theorem Handle.reset_of_failure (few : dropped < 64) (streams : system.Streams dropped state)
    {reason : Error} (failed : (system.read 0 (system.polled dropped state)).result = .error reason) :
    ∃ raised, Handle.reset system path ⟨state, true⟩ =
      ⟨.error reason.toLinkError, ⟨system.polled (dropped + 1) state, true⟩, raised, []⟩ := by
  obtain ⟨left, raised, drained⟩ := drain_within few streams
  refine ⟨(system.read 0 (system.polled dropped state)).raises.or raised, ?_⟩
  rw [reset, drained, drain]
  simp only [failed]
  rfl

/-- Whatever the system does, a reset makes between one and 64 reads and does nothing else. -/
theorem Handle.reset_bounded (system : System σ) (state : σ) :
    ∃ made, 1 ≤ made ∧ made ≤ 64 ∧
      (Handle.reset system path ⟨state, true⟩).device = ⟨system.polled made state, true⟩ := by
  by_cases streams : system.Streams 64 state
  · obtain ⟨raised, ended⟩ := reset_of_streams path streams
    exact ⟨64, by decide, Nat.le_refl 64, by rw [ended]⟩
  obtain ⟨dropped, few, before, last⟩ := System.exists_silence streams
  cases result : (system.read 0 (system.polled dropped state)).result with
  | error reason =>
      obtain ⟨raised, ended⟩ := reset_of_failure path few before result
      exact ⟨dropped + 1, by omega, by omega, by rw [ended]⟩
  | ok received =>
      obtain rfl : received = [] :=
        Decidable.byContradiction fun present => last ⟨received, result, present⟩
      obtain ⟨raised, ended⟩ := reset_of_silence path few before result
      exact ⟨dropped + 1, by omega, by omega, by rw [ended]⟩

end Resets

end Polls

/-- A queue of input reports behind a system. A read that does not wait and does not fail takes the
oldest one, or brings nothing if there is none; one that fails leaves them all. -/
structure InputQueue {σ : Type} (system : System σ) where
  /-- The reports that were not read yet, the oldest first. -/
  pending : σ → List Bytes
  /-- How often the system was asked for a report. -/
  reads : σ → Nat
  nonempty : ∀ state, [] ∉ pending state
  counts : ∀ state, reads (system.read 0 state).system = reads state + 1
  takes : ∀ state received, (system.read 0 state).result = .ok received →
    received = (pending state).headD [] ∧
      pending (system.read 0 state).system = (pending state).tail
  keeps : ∀ state reason, (system.read 0 state).result = .error reason →
    pending (system.read 0 state).system = pending state

/-- So many reads that do not wait, one after the other, do not fail. -/
def System.Answers {σ : Type} (system : System σ) (count : Nat) (state : σ) : Prop :=
  ∀ made < count, ∃ received, (system.read 0 (system.polled made state)).result = .ok received

namespace InputQueue

variable {σ : Type} {system : System σ} (queue : InputQueue system) {state : σ} {count : Nat}

theorem reads_polled (made : Nat) (state : σ) :
    queue.reads (system.polled made state) = queue.reads state + made := by
  induction made with
  | zero => rfl
  | succ made ih => rw [System.polled, queue.counts, ih, Nat.add_assoc]

theorem pending_polled (answers : system.Answers count state) :
    queue.pending (system.polled count state) = (queue.pending state).drop count := by
  induction count with
  | zero => rfl
  | succ count ih =>
      obtain ⟨received, answered⟩ := answers count (Nat.lt_succ_self count)
      rw [System.polled, (queue.takes _ received answered).2,
        ih fun made within => answers made (Nat.lt_succ_of_lt within), List.tail_drop]

theorem streams_of_answers (answers : system.Answers count state)
    (enough : count ≤ (queue.pending state).length) : system.Streams count state := by
  intro made within
  obtain ⟨received, answered⟩ := answers made within
  refine ⟨received, answered, ?_⟩
  have earlier : system.Answers made state :=
    fun before less => answers before (Nat.lt_trans less within)
  have oldest := (queue.takes _ received answered).1
  rw [queue.pending_polled earlier, List.drop_eq_getElem_cons (Nat.lt_of_lt_of_le within enough)] at oldest
  rintro rfl
  exact queue.nonempty state (oldest ▸ List.getElem_mem _)

theorem silent_of_answers (answers : system.Answers (queue.pending state).length state)
    {received : Bytes}
    (answered : (system.read 0 (system.polled (queue.pending state).length state)).result = .ok received) :
    received = [] := by
  rw [(queue.takes _ received answered).1, queue.pending_polled answers, List.drop_length]
  rfl

/-- What a reset that ended with `reply` did behind an open interface: so many reads, of which so many
took a report each, and nothing else. -/
structure Drained (state : σ) (reply : Reply (Handle σ) Unit) (reads dropped : Nat) : Prop where
  isOpen : reply.device.isOpen = true
  polled : reply.device.system = system.polled reads state
  reads : queue.reads reply.device.system = queue.reads state + reads
  pending : queue.pending reply.device.system = (queue.pending state).drop dropped

variable {queue} {dropped : Nat}

theorem Drained.of_reset {result : Except LinkError Unit} {raises : Option CancelToken}
    {notes : List Note}
    (pending : queue.pending (system.polled count state) = (queue.pending state).drop dropped) :
    queue.Drained state ⟨result, ⟨system.polled count state, true⟩, raises, notes⟩ count dropped :=
  ⟨rfl, rfl, queue.reads_polled count state, pending⟩

variable (path : String)

theorem reset_answered (answers : system.Answers (min ((queue.pending state).length + 1) 64) state) :
    (Handle.reset system path ⟨state, true⟩).result = .ok () ∧
      queue.Drained state (Handle.reset system path ⟨state, true⟩)
        (min ((queue.pending state).length + 1) 64) (min (queue.pending state).length 64) := by
  have taken := queue.pending_polled answers
  by_cases few : (queue.pending state).length < 64
  · have reads : min ((queue.pending state).length + 1) 64 = (queue.pending state).length + 1 := by omega
    rw [reads] at answers taken ⊢
    have each : system.Answers (queue.pending state).length state :=
      fun made within => answers made (Nat.lt_succ_of_lt within)
    obtain ⟨received, answered⟩ := answers _ (Nat.lt_succ_self _)
    obtain rfl := queue.silent_of_answers each answered
    obtain ⟨raised, ended⟩ :=
      Handle.reset_of_silence path few (queue.streams_of_answers each (Nat.le_refl _)) answered
    rw [ended]
    refine ⟨rfl, .of_reset ?_⟩
    rw [taken, Nat.min_eq_left (Nat.le_of_lt few), List.drop_length,
      List.drop_eq_nil_of_le (Nat.le_succ _)]
  · have reads : min ((queue.pending state).length + 1) 64 = 64 := by omega
    rw [reads] at answers taken ⊢
    obtain ⟨raised, ended⟩ :=
      Handle.reset_of_streams path (queue.streams_of_answers answers (Nat.le_of_not_lt few))
    rw [ended]
    refine ⟨rfl, .of_reset ?_⟩
    rw [taken, Nat.min_eq_right (Nat.le_of_not_lt few)]

theorem reset_failed {earlier : Nat} {reason : Error}
    (made : earlier < min ((queue.pending state).length + 1) 64) (answers : system.Answers earlier state)
    (failed : (system.read 0 (system.polled earlier state)).result = .error reason) :
    (Handle.reset system path ⟨state, true⟩).result = .error reason.toLinkError ∧
      queue.Drained state (Handle.reset system path ⟨state, true⟩) (earlier + 1) earlier := by
  have streams := queue.streams_of_answers answers (by omega)
  obtain ⟨raised, ended⟩ := Handle.reset_of_failure path (by omega) streams failed
  rw [ended]
  refine ⟨rfl, .of_reset ?_⟩
  rw [System.polled, queue.keeps _ reason failed, queue.pending_polled answers]

end InputQueue

/-- A call that was refused, or no call that could be. -/
def Refused : Event → Prop
  | .send _ result | .reset result => result = .error .disconnected
  | .read _ result => result = .error .disconnected
  | .dispose _ | .sleep _ | .note _ => True

section Closed

variable {σ α : Type} {system : System σ} {interface : Interface}

/-- From `before` to `after` nothing was done to the device, and every call was refused. -/
structure Untouched (before after : World (Handle σ)) : Prop where
  device : after.device = before.device
  refused : ∃ events, after.trace = before.trace ++ events ∧ ∀ event ∈ events, Refused event

theorem Untouched.refl (world : World (Handle σ)) : Untouched world world :=
  ⟨rfl, #[], by simp, by simp⟩

theorem Untouched.trans {before middle after : World (Handle σ)} (first : Untouched before middle)
    (second : Untouched middle after) : Untouched before after := by
  obtain ⟨events, trace, refused⟩ := first.refused
  obtain ⟨more, traceLater, refusedLater⟩ := second.refused
  refine ⟨second.device.trans first.device, events ++ more, ?_, fun event member => ?_⟩
  · rw [traceLater, trace, Array.append_assoc]
  · rcases Array.mem_append.mp member with earlier | later
    · exact refused event earlier
    · exact refusedLater event later

theorem Untouched.call {β : Type} (event : Except LinkError β → Event) {reply : Reply (Handle σ) β}
    {result : Except LinkError β} {world : World (Handle σ)}
    (unmoved : reply = ⟨result, world.device, none, []⟩) (refused : Refused (event result)) :
    Untouched world (world.afterCall event reply) := by
  subst unmoved
  refine ⟨rfl, #[event result], by rw [World.afterCall_trace]; rfl, fun other member => ?_⟩
  obtain rfl : other = event result := by simpa using member
  exact refused

theorem Untouched.push {event : Event} {before after : World (Handle σ)}
    (device : after.device = before.device) (trace : after.trace = before.trace.push event)
    (refused : Refused event) : Untouched before after := by
  refine ⟨device, #[event], by rw [trace, Array.push_eq_append], fun other member => ?_⟩
  obtain rfl : other = event := by simpa using member
  exact refused

section Calls

variable {handle : Handle σ} (closed : handle.isOpen = false)

include closed

theorem Handle.send_of_closed (packet : Bytes) :
    Handle.send system packet handle = handle.disconnected :=
  if_neg (Bool.eq_false_iff.mp closed)

theorem Handle.read_of_closed (timeout : Duration) :
    Handle.read system timeout handle = handle.disconnected :=
  if_neg (Bool.eq_false_iff.mp closed)

theorem Handle.reset_of_closed (path : String) :
    Handle.reset system path handle = handle.disconnected :=
  if_neg (Bool.eq_false_iff.mp closed)

theorem Handle.dispose_of_closed (path : String) :
    Handle.dispose system path handle = ⟨.ok (), handle, none, []⟩ :=
  if_neg (Bool.eq_false_iff.mp closed)

end Calls

theorem System.perform_closed (effect : Effect) {world : World (Handle σ)}
    (closed : world.device.isOpen = false) :
    Untouched world ((system.link interface).perform effect world).2 := by
  cases effect with
  | send packet => exact .call (Event.send packet) (Handle.send_of_closed closed packet) rfl
  | read timeout => exact .call (Event.read timeout) (Handle.read_of_closed closed timeout) rfl
  | reset => exact .call Event.reset (Handle.reset_of_closed closed interface.path) rfl
  | dispose => exact .call Event.dispose (Handle.dispose_of_closed closed interface.path) trivial
  | sleep span => exact .push rfl rfl trivial
  | isCancelled token => exact .refl world
  | now => exact .refl world
  | note note => exact .push rfl rfl trivial

/-- Whatever is run on a closed interface, it is refused. -/
theorem System.run_closed (action : Action α) {world : World (Handle σ)}
    (closed : world.device.isOpen = false) :
    Untouched world (action.run (system.link interface) world).2 := by
  induction action generalizing world with
  | done value => exact .refl world
  | unfinished => exact .refl world
  | step effect next ih =>
      have first : Untouched world ((system.link interface).perform effect world).2 :=
        perform_closed effect closed
      rw [Action.run_step]
      exact first.trans (ih _ (by rw [first.device, closed]))

end Closed

/-- A reset removes the oldest reports of an open interface, 64 at most, with as many reads and one more
for what is not there; a read that fails ends it with that failure and what was removed by then. On any
system it makes between one and 64 reads and nothing else, and it is content if the reports do not end.
Once an interface is disposed of, whatever is run on it is refused and does not touch the system. -/
theorem Handle.reset_drains {σ : Type} (system : System σ) (interface : Interface) :
    (∀ (queue : InputQueue system) (state : σ),
      let count := (queue.pending state).length
      let reply := Handle.reset system interface.path ⟨state, true⟩
      (system.Answers (min (count + 1) 64) state →
        reply.result = .ok () ∧ queue.Drained state reply (min (count + 1) 64) (min count 64)) ∧
      ∀ earlier reason, earlier < min (count + 1) 64 → system.Answers earlier state →
        (system.read 0 (system.polled earlier state)).result = .error reason →
        reply.result = .error reason.toLinkError ∧ queue.Drained state reply (earlier + 1) earlier) ∧
    (∀ state,
      let reply := Handle.reset system interface.path ⟨state, true⟩
      (∃ made, 1 ≤ made ∧ made ≤ 64 ∧ reply.device = ⟨system.polled made state, true⟩) ∧
      (system.Streams 64 state →
        reply.result = .ok () ∧ reply.device = ⟨system.polled 64 state, true⟩)) ∧
    ∀ handle : Handle σ,
      let closed := (Handle.dispose system interface.path handle).device
      (∀ packet, Handle.send system packet closed = closed.disconnected) ∧
      (∀ timeout, Handle.read system timeout closed = closed.disconnected) ∧
      Handle.reset system interface.path closed = closed.disconnected ∧
      ∀ {α : Type} (action : Action α) (world : World (Handle σ)), world.device = closed →
        Untouched world (action.run (system.link interface) world).2 := by
  refine ⟨fun queue state => ⟨?_, ?_⟩, fun state => ⟨?_, ?_⟩, fun handle => ?_⟩
  · exact InputQueue.reset_answered interface.path
  · intro earlier reason made answers failed
    exact InputQueue.reset_failed interface.path made answers failed
  · exact reset_bounded interface.path system state
  · intro streams
    obtain ⟨raised, ended⟩ := reset_of_streams interface.path streams
    rw [ended]
    exact ⟨rfl, rfl⟩
  · have closed : (Handle.dispose system interface.path handle).device.isOpen = false :=
      handle.dispose_isOpen interface.path
    refine ⟨send_of_closed closed, read_of_closed closed, reset_of_closed closed interface.path, ?_⟩
    intro α action world disposed
    exact System.run_closed action (disposed ▸ closed)

/-- Reports that wait to be read, and the reads that fail, counted from zero. -/
structure Inbox where
  reports : List { report : Bytes // report ≠ [] }
  failing : List Nat := []
  reads : Nat := 0

namespace Inbox

def system : System Inbox where
  interfaces _ := .ok []
  openPath _ inbox := ⟨.ok (), inbox, none⟩
  write _ inbox := ⟨.ok (), inbox, none⟩
  read _ inbox :=
    let counted := { inbox with reads := inbox.reads + 1 }
    if inbox.reads ∈ inbox.failing then ⟨.error (.api "read failed"), counted, none⟩
    else match inbox.reports with
      | [] => ⟨.ok [], counted, none⟩
      | first :: rest => ⟨.ok first, { counted with reports := rest }, none⟩
  close inbox := inbox

def queue : InputQueue system where
  pending inbox := inbox.reports.map (·.val)
  reads := Inbox.reads
  nonempty inbox member := by
    obtain ⟨report, -, empty⟩ := List.mem_map.mp member
    exact report.property empty
  counts inbox := by
    simp only [system]
    split
    · rfl
    · split <;> rfl
  takes inbox received answered := by
    simp only [system] at answered ⊢
    split at answered
    · cases answered
    · rename_i works
      rw [if_neg works]
      split at answered <;> rename_i waiting <;> cases answered <;> simp [waiting]
  keeps inbox reason failed := by
    simp only [system] at failed ⊢
    split at failed
    · rename_i fails
      rw [if_pos fails]
    · split at failed <;> cases failed

def interface : Interface := ⟨0x1234, 0x5678, "inbox", 0, none, none⟩

theorem answers_of_isOk {count : Nat} {inbox : Inbox}
    (each : ∀ made < count, (system.read 0 (system.polled made inbox)).result.toBool = true) :
    system.Answers count inbox := by
  intro made within
  have answered := each made within
  cases result : (system.read 0 (system.polled made inbox)).result with
  | error reason =>
      rw [result] at answered
      cases answered
  | ok received => exact ⟨received, rfl⟩

/-- Of seventy reports a reset removes 64; of four it removes two if the third read fails; and nothing
can be read behind a disposal. -/
theorem reset_drains_inbox :
    (let reports := (List.range 70).map fun number => ⟨[UInt8.ofNat number], nofun⟩
    let state : Inbox := { reports }
    let reply := Handle.reset system interface.path ⟨state, true⟩
    system.Answers 64 state ∧ system.Streams 64 state ∧ reply.result = .ok () ∧
      queue.reads reply.device.system = 64 ∧
      queue.pending reply.device.system = [[64], [65], [66], [67], [68], [69]]) ∧
    (let reports := [⟨[1], nofun⟩, ⟨[2], nofun⟩, ⟨[3], nofun⟩, ⟨[4], nofun⟩]
    let state : Inbox := { reports, failing := [2] }
    let reply := Handle.reset system interface.path ⟨state, true⟩
    system.Answers 2 state ∧
      (system.read 0 (system.polled 2 state)).result = .error (.api "read failed") ∧
      reply.result = .error (.hid "hidapi error: read failed") ∧ queue.reads reply.device.system = 3 ∧
      queue.pending reply.device.system = [[3], [4]]) ∧
    let open_ : Handle Inbox := ⟨{ reports := [⟨[1], nofun⟩] }, true⟩
    let world : World (Handle Inbox) := { device := (Handle.dispose system interface.path open_).device }
    Untouched world ((Action.read .zero).run (system.link interface) world).2 := by
  obtain ⟨drains, -, refuses⟩ := Handle.reset_drains system interface
  refine ⟨?_, ?_, ?_⟩
  · intro reports state
    have answers : system.Answers 64 state := answers_of_isOk (by decide +kernel)
    have most : min ((queue.pending state).length + 1) 64 = 64 := by decide +kernel
    obtain ⟨succeeded, drained⟩ := (drains queue state).1 (most.symm ▸ answers)
    have streams : system.Streams 64 state := queue.streams_of_answers answers (by decide +kernel)
    have counted : queue.reads state + min ((queue.pending state).length + 1) 64 = 64 := by
      decide +kernel
    have reads := drained.reads
    rw [counted] at reads
    exact ⟨answers, streams, succeeded, reads, drained.pending.trans (by decide +kernel)⟩
  · intro reports state
    have answers : system.Answers 2 state := answers_of_isOk (by decide)
    have failed : (system.read 0 (system.polled 2 state)).result = .error (.api "read failed") := rfl
    obtain ⟨reported, drained⟩ := (drains queue state).2 2 _ (by decide) answers failed
    exact ⟨answers, failed, reported.trans (congrArg Except.error (by decide +kernel)), drained.reads,
      drained.pending⟩
  · intro open_ world
    obtain ⟨-, -, -, runs⟩ := refuses open_
    exact runs (Action.read .zero) world rfl

end Inbox

end PacketLink.Hid
