import Mathlib.Data.List.Basic
import PacketLink.Proofs.Link.CallSequences
import PacketLink.Proofs.Session.Handshakes

namespace PacketLink

/-! What a handshake does on any link: markers until one is accepted, the probe, echoes, and a reset
where something failed once the probe was out.

`Course` lists the ways it can go, call by call. What is said of failures is read off them. -/

namespace Handshake

open Attempt

variable {σ α : Type} {link : Link σ} {timing : HandshakeTiming} {token : CancelToken}
  {value : α} {outcome : Option (Except HandshakeError α)} {calls more : List Event}
  {raised final : List CancelToken} {left rounds : Nat} {reference : Packet} {next flip : FlipBit}
  {controller : Log.Controller}

def refusals (refused : List LinkError) : List Event :=
  refused.map fun reason => .send resetMarker (.error reason)

def reads (timing : HandshakeTiming) (received : List Bytes) : List Event :=
  received.map fun packet => .read timing.echoTimeout (.ok packet)

/-- How up to `left` attempts at the reset marker end. -/
inductive Marked (timing : HandshakeTiming) (token : CancelToken) (left : Nat) :
    Option (Except HandshakeError Unit) → List Event → List CancelToken → Prop
  | accepted {raised : List CancelToken} (refused : List LinkError) (within : refused.length < left) :
      Marked timing token left (some (.ok ())) (refusals refused ++ [.send resetMarker (.ok ())]) raised
  | down {raised : List CancelToken} (refused : List LinkError) (all : refused.length = left) :
      Marked timing token left (some (.error (.linkDown timing.resetAttempts))) (refusals refused) raised
  | cancelled {raised : List CancelToken} (refused : List LinkError) (within : refused.length < left)
      (seen : token ∈ raised) :
      Marked timing token left (some (.error .cancelled)) (refusals refused) raised

theorem Marked.refusal {outcome : Option (Except HandshakeError Unit)}
    (marked : Marked timing token left outcome calls raised) (reason : LinkError) :
    Marked timing token (left + 1) outcome (.send resetMarker (.error reason) :: calls) raised := by
  cases marked with
  | accepted refused within => exact .accepted (reason :: refused) (Nat.succ_lt_succ within)
  | down refused all => exact .down (reason :: refused) (congrArg Nat.succ all)
  | cancelled refused within seen =>
      exact .cancelled (reason :: refused) (Nat.succ_lt_succ within) seen

theorem sendResetMarker_makes (left attempt : Nat) :
    (sendResetMarker timing token left attempt).Makes link (Marked timing token left) := by
  induction left generalizing attempt with
  | zero => exact Makes.throw fun _ => .down [] rfl
  | succ left ih =>
      apply Makes.stop_bind (fun _ seen => .cancelled [] (Nat.succ_pos left) seen)
      apply Makes.sendOutcome_bind
      intro result
      cases result with
      | ok _ => exact Makes.pure fun _ => .accepted [] (Nat.succ_pos left)
      | error reason =>
          have again := (ih (attempt + 1)).mono fun _ _ _ marked => marked.refusal reason
          apply Makes.note_bind
          split
          · exact Makes.wait_bind again
          · exact again

/-- How reading until an echo ends. -/
inductive Listened {α : Type} (timing : HandshakeTiming) (token : CancelToken) (value : α) :
    Option (Except HandshakeError α) → List Event → List CancelToken → Prop
  | heard {raised : List CancelToken} (received : List Bytes) :
      Listened timing token value (some (.ok value)) (reads timing received) raised
  | failed {raised : List CancelToken} (received : List Bytes) (reason : LinkError) :
      Listened timing token value (some (.error (.aborted reason)))
        (reads timing received ++ [.read timing.echoTimeout (.error reason)]) raised
  | cancelled {raised : List CancelToken} (received : List Bytes) (seen : token ∈ raised) :
      Listened timing token value (some (.error .cancelled)) (reads timing received) raised
  | unheard {raised : List CancelToken} (received : List Bytes) :
      Listened timing token value none (reads timing received) raised

theorem Listened.preceded (listened : Listened timing token value outcome calls raised)
    (earlier : List Bytes) :
    Listened timing token value outcome (reads timing earlier ++ calls) raised := by
  have joined (received : List Bytes) :
      reads timing earlier ++ reads timing received = reads timing (earlier ++ received) :=
    List.map_append.symm
  cases listened with
  | heard received => exact joined received ▸ .heard _
  | failed received reason =>
      rw [← List.append_assoc, joined]
      exact .failed _ reason
  | cancelled received seen => exact joined received ▸ .cancelled _ seen
  | unheard received => exact joined received ▸ .unheard _

/-- How it fails does not hang on what it would have come to. -/
theorem Listened.failing {β : Type} {other : β} {reason : HandshakeError}
    (listened : Listened timing token value (some (.error reason)) calls raised) :
    Listened timing token other (some (.error reason)) calls raised := by
  cases listened with
  | failed received reason => exact .failed received reason
  | cancelled received seen => exact .cancelled received seen

theorem awaitEcho_makes (rounds : Nat) :
    (awaitEcho timing token reference controller rounds).Makes link (Listened timing token ()) := by
  induction rounds with
  | zero => exact Makes.unfinished fun _ => .unheard []
  | succ rounds ih =>
      apply Makes.stop_bind (fun _ seen => .cancelled [] seen)
      apply Makes.read_bind (fun reason _ => .failed [] reason)
      intro received
      split
      · exact Makes.note_bind (Makes.pure fun _ => .heard [received])
      · exact Makes.note_bind (ih.mono fun _ _ _ listened => listened.preceded [received])

theorem awaitEchoes_makes :
    (awaitEchoes timing token reference rounds).Makes link (Listened timing token ()) := by
  apply Makes.note_bind
  apply Makes.bind (awaitEcho_makes rounds)
  · intro calls raised listened
    exact listened
  · intro reason calls raised listened
    exact listened
  · intro _ calls raised listened
    cases listened with
    | heard received =>
        exact Makes.note_bind ((awaitEcho_makes rounds).mono fun _ _ _ later _ =>
          later.preceded received)

/-- How a handshake ends from the probe on; a failure is cleaned up after. -/
inductive Concluded (timing : HandshakeTiming) (token : CancelToken) (next : FlipBit) :
    Option (Except HandshakeError FlipBit) → List Event → List CancelToken → Prop
  | connected {raised : List CancelToken} (received : List Bytes) :
      Concluded timing token next (some (.ok next)) (reads timing received) raised
  | cleaned {raised final : List CancelToken} {calls : List Event} {reason : HandshakeError}
      (listened : Listened timing token next (some (.error reason)) calls raised) (kept : raised ⊆ final)
      (result : Except LinkError Unit) :
      Concluded timing token next (some (.error reason)) (calls ++ [.reset result]) final
  | unheard {raised : List CancelToken} (received : List Bytes) :
      Concluded timing token next none (reads timing received) raised

/-- A failure is written down, and the link is reset; the failure remains the outcome. -/
def cleanUp (reason : HandshakeError) : Attempt HandshakeError FlipBit := do
  Action.log (.handshakeFailed reason)
  match ← Action.reset with
  | .ok () => throw reason
  | .error secondary =>
      Action.log (.cleanUpFailed secondary)
      throw reason

/-- What follows an accepted probe. -/
def conclude (timing : HandshakeTiming) (token : CancelToken) (reference : Packet) (next : FlipBit)
    (rounds : Nat) : Attempt HandshakeError FlipBit := do
  match ← (awaitEchoes timing token reference rounds).outcome with
  | .ok () =>
      Action.wait timing.postConnectSettle
      Action.log (.handshakeStage .connected)
      return next
  | .error reason => cleanUp reason

theorem cleanUp_makes (reason : HandshakeError) :
    (cleanUp reason).Makes link fun outcome calls _ =>
      outcome = some (.error reason) ∧ ∃ result, calls = [.reset result] := by
  apply Makes.note_bind
  apply Makes.reset_bind
  intro result
  cases result with
  | ok _ => exact Makes.throw fun _ => ⟨rfl, .ok (), rfl⟩
  | error secondary =>
      apply Makes.note_bind
      exact Makes.throw fun _ => ⟨rfl, .error secondary, rfl⟩

theorem conclude_makes :
    (conclude timing token reference next rounds).Makes link (Concluded timing token next) := by
  apply Makes.bind (Makes.outcome awaitEchoes_makes)
  · intro calls raised looked
    obtain ⟨ended, looked, listened⟩ := looked
    cases Option.map_eq_none_iff.mp looked.symm
    cases listened with
    | unheard received => exact .unheard received
  · intro reason calls raised looked
    obtain ⟨ended, looked, -⟩ := looked
    obtain ⟨_, _, same⟩ := Option.map_eq_some_iff.mp looked.symm
    cases same
  · intro result calls raised looked
    obtain ⟨ended, looked, listened⟩ := looked
    obtain ⟨_, rfl, same⟩ := Option.map_eq_some_iff.mp looked.symm
    cases same
    cases result with
    | ok _ =>
        cases listened with
        | heard received =>
            apply Makes.wait_bind
            apply Makes.note_bind
            apply Makes.pure
            intro final _
            rw [List.append_nil]
            exact .connected received
    | error reason =>
        apply (cleanUp_makes reason).mono
        intro outcome more final reset kept
        obtain ⟨rfl, result, rfl⟩ := reset
        exact .cleaned listened.failing kept result

/-- How a handshake goes whose probe is this packet. -/
inductive Course (timing : HandshakeTiming) (token : CancelToken) (probe : Bytes) (next : FlipBit) :
    Option (Except HandshakeError FlipBit) → List Event → List CancelToken → Prop
  | down {raised : List CancelToken} (refused : List LinkError)
      (all : refused.length = timing.resetAttempts) :
      Course timing token probe next (some (.error (.linkDown timing.resetAttempts)))
        (refusals refused) raised
  | unmarked {raised : List CancelToken} (refused : List LinkError)
      (within : refused.length < timing.resetAttempts) (seen : token ∈ raised) :
      Course timing token probe next (some (.error .cancelled)) (refusals refused) raised
  | unprobed {raised : List CancelToken} (refused : List LinkError)
      (within : refused.length < timing.resetAttempts) (reason : LinkError) :
      Course timing token probe next (some (.error (.aborted reason)))
        (refusals refused ++ [.send resetMarker (.ok ()), .send probe (.error reason)]) raised
  | probed {raised : List CancelToken} {outcome : Option (Except HandshakeError FlipBit)}
      {calls : List Event} (refused : List LinkError)
      (within : refused.length < timing.resetAttempts)
      (concluded : Concluded timing token next outcome calls raised) :
      Course timing token probe next outcome
        (refusals refused ++ .send resetMarker (.ok ()) :: .send probe (.ok ()) :: calls) raised

theorem run_makes {probe : Message} (fits : probePacket probe .clear = .ok (reference, next)) :
    (run timing token probe rounds).Makes link (Course timing token reference.bytes next) := by
  apply Makes.note_bind
  rw [fits, ofExcept_bind]
  apply Makes.note_bind
  apply Makes.bind (sendResetMarker_makes timing.resetAttempts 1)
  · intro calls raised marked
    cases marked
  · intro reason calls raised marked
    cases marked with
    | down refused all => exact .down refused all
    | cancelled refused within seen => exact .unmarked refused within seen
  · intro _ calls raised marked
    cases marked with
    | accepted refused within =>
        simp only [List.append_assoc, List.singleton_append]
        apply Makes.send_bind (fun reason _ _ => .unprobed refused within reason)
        apply Makes.note_bind
        apply conclude_makes.mono
        intro outcome more final concluded _
        exact .probed refused within concluded

open Trace (answersTo resets answersTo_append answersTo_eq_nil resets_append resets_eq_nil)

variable {call : Event} {refused : List LinkError} {received : List Bytes} {reason : LinkError}
  {probe packet : Bytes}

theorem mem_refusals (member : call ∈ refusals refused) :
    ∃ reason, call = .send resetMarker (.error reason) := by
  obtain ⟨reason, -, rfl⟩ := List.mem_map.mp member
  exact ⟨reason, rfl⟩

theorem mem_reads (member : call ∈ reads timing received) :
    ∃ packet, call = .read timing.echoTimeout (.ok packet) := by
  obtain ⟨packet, -, rfl⟩ := List.mem_map.mp member
  exact ⟨packet, rfl⟩

theorem answersTo_resetMarker (refused : List LinkError) :
    answersTo resetMarker (refusals refused) = refused.map .error := by
  induction refused with
  | nil => rfl
  | cons reason rest ih =>
      rw [List.map_cons, ← ih]
      exact Trace.answersTo_send_same

theorem answersTo_refusals (other : packet ≠ resetMarker) : answersTo packet (refusals refused) = [] := by
  refine answersTo_eq_nil fun result member => ?_
  obtain ⟨_, same⟩ := mem_refusals member
  injection same with sent
  exact other sent

theorem resets_refusals : resets (refusals refused) = [] := by
  refine resets_eq_nil fun result member => ?_
  obtain ⟨_, same⟩ := mem_refusals member
  cases same

theorem resets_reads : resets (reads timing received) = [] := by
  refine resets_eq_nil fun result member => ?_
  obtain ⟨_, same⟩ := mem_reads member
  cases same

namespace Listened

variable (listened : Listened timing token value outcome calls raised)

include listened

theorem mem (member : call ∈ calls) : ∃ result, call = .read timing.echoTimeout result := by
  cases listened with
  | failed received reason =>
      rcases List.mem_append.mp member with early | last
      · obtain ⟨packet, rfl⟩ := mem_reads early
        exact ⟨_, rfl⟩
      · exact ⟨_, List.mem_singleton.mp last⟩
  | _ =>
      obtain ⟨packet, rfl⟩ := mem_reads member
      exact ⟨_, rfl⟩

theorem resets_eq : resets calls = [] := by
  refine resets_eq_nil fun result member => ?_
  obtain ⟨_, same⟩ := listened.mem member
  cases same

/-- A read that failed is the last one, and its failure is the outcome. -/
theorem aborted_iff : outcome = some (.error (.aborted reason)) ↔
    ∃ timeout, .read timeout (.error reason) ∈ calls := by
  have received {timeout : Duration} {earlier : List Bytes}
      (member : .read timeout (.error reason) ∈ reads timing earlier) : False := by
    obtain ⟨_, same⟩ := mem_reads member
    cases same
  cases listened with
  | failed earlier other =>
      constructor
      · intro same
        cases same
        exact ⟨_, List.mem_append_right _ (List.mem_singleton_self _)⟩
      · intro failed
        obtain ⟨timeout, member⟩ := failed
        rcases List.mem_append.mp member with early | last
        · exact (received early).elim
        · cases List.mem_singleton.mp last
          rfl
  | _ => exact ⟨nofun, fun ⟨_, member⟩ => (received member).elim⟩

theorem ne_linkDown (attempts : Nat) : outcome ≠ some (.error (.linkDown attempts)) := by
  cases listened <;> nofun

theorem ne_probeTooLarge (count : Nat) : outcome ≠ some (.error (.probeTooLarge count)) := by
  cases listened <;> nofun

theorem seen_of_cancelled (cancelled : outcome = some (.error .cancelled)) : token ∈ raised := by
  cases listened with
  | cancelled _ seen => exact seen
  | _ => cases cancelled

end Listened

namespace Concluded

variable {outcome : Option (Except HandshakeError FlipBit)}
  (concluded : Concluded timing token next outcome calls raised)

include concluded

theorem mem (member : call ∈ calls) :
    (∃ result, call = .read timing.echoTimeout result) ∨ ∃ result, call = .reset result := by
  cases concluded with
  | cleaned listened kept result =>
      rcases List.mem_append.mp member with early | last
      · exact .inl (listened.mem early)
      · exact .inr ⟨result, List.mem_singleton.mp last⟩
  | _ =>
      obtain ⟨packet, rfl⟩ := mem_reads member
      exact .inl ⟨_, rfl⟩

theorem unsent {sent : Bytes} (result : Except LinkError Unit) : .send sent result ∉ calls := by
  intro member
  rcases concluded.mem member with ⟨_, same⟩ | ⟨_, same⟩ <;> cases same

theorem undisposed (result : Except LinkError Unit) : .dispose result ∉ calls := by
  intro member
  rcases concluded.mem member with ⟨_, same⟩ | ⟨_, same⟩ <;> cases same

theorem aborted_iff : outcome = some (.error (.aborted reason)) ↔
    ∃ timeout, .read timeout (.error reason) ∈ calls := by
  cases concluded with
  | connected received =>
      have listened : Listened timing token next (some (.ok next)) (reads timing received) raised :=
        .heard received
      exact listened.aborted_iff
  | unheard received =>
      have listened : Listened timing token next none (reads timing received) raised :=
        .unheard received
      exact listened.aborted_iff
  | cleaned listened kept result =>
      rw [listened.aborted_iff]
      refine exists_congr fun timeout => ⟨List.mem_append_left _, fun member => ?_⟩
      rcases List.mem_append.mp member with early | last
      · exact early
      · cases List.mem_singleton.mp last

theorem ne_linkDown (attempts : Nat) : outcome ≠ some (.error (.linkDown attempts)) := by
  cases concluded with
  | cleaned listened kept result => exact listened.ne_linkDown attempts
  | _ => nofun

theorem ne_probeTooLarge (count : Nat) : outcome ≠ some (.error (.probeTooLarge count)) := by
  cases concluded with
  | cleaned listened kept result => exact listened.ne_probeTooLarge count
  | _ => nofun

theorem seen_of_cancelled (cancelled : outcome = some (.error .cancelled)) : token ∈ raised := by
  cases concluded with
  | cleaned listened kept result => exact kept (listened.seen_of_cancelled cancelled)
  | _ => cases cancelled

theorem resets_of_error {reason : HandshakeError} (failed : outcome = some (.error reason)) :
    (resets calls).length = 1 := by
  cases concluded with
  | cleaned listened kept result =>
      rw [resets_append, listened.resets_eq]
      rfl
  | _ => cases failed

theorem resets_of_ok (succeeded : outcome = some (.ok flip)) : resets calls = [] := by
  cases concluded with
  | connected received => exact resets_reads
  | _ => cases succeeded

end Concluded

/-- What a handshake does to the link and how it fails. -/
structure Disciplined {α : Type} (timing : HandshakeTiming) (token : CancelToken) (probe : Bytes)
    (outcome : Option (Except HandshakeError α)) (calls : List Event) (raised : List CancelToken) :
    Prop where
  attempts : (answersTo [0xFF, 0xFF] calls).length ≤ timing.resetAttempts
  markedOnce : ∀ earlier later, calls = earlier ++ .send [0xFF, 0xFF] (.ok ()) :: later →
    answersTo [0xFF, 0xFF] later = []
  probedMarked : ∀ earlier result later, calls = earlier ++ .send probe result :: later →
    .send [0xFF, 0xFF] (.ok ()) ∈ earlier ∧ answersTo [0xFF, 0xFF] later = []
  probedOnce : (answersTo probe calls).length ≤ 1
  /-- The link counts as down if every permitted attempt was made and none succeeded. -/
  linkDown : ∀ attempts, outcome = some (.error (.linkDown attempts)) ↔
    attempts = timing.resetAttempts ∧
      (answersTo [0xFF, 0xFF] calls).length = timing.resetAttempts ∧
      .ok () ∉ answersTo [0xFF, 0xFF] calls
  /-- A failed call is what the handshake fails with, whatever the link does after it. -/
  aborted : ∀ reason, outcome = some (.error (.aborted reason)) ↔
    .send probe (.error reason) ∈ calls ∨ ∃ timeout, .read timeout (.error reason) ∈ calls
  cancelled : outcome = some (.error .cancelled) → token ∈ raised
  fits : ∀ count, outcome ≠ some (.error (.probeTooLarge count))
  failed : ∀ reason, outcome = some (.error reason) →
    (resets calls).length = if .ok () ∈ answersTo probe calls then 1 else 0
  succeeded : ∀ value, outcome = some (.ok value) → resets calls = []
  undisposed : ∀ result, .dispose result ∉ calls

/-- Another value of a handshake that succeeds makes no difference. -/
theorem Disciplined.congr {α β : Type} {outcome : Option (Except HandshakeError α)}
    {other : Option (Except HandshakeError β)}
    (disciplined : Disciplined timing token probe outcome calls raised) (kept : raised ⊆ final)
    (failures : ∀ reason, other = some (.error reason) ↔ outcome = some (.error reason))
    (successes : ∀ value, other = some (.ok value) → ∃ value, outcome = some (.ok value)) :
    Disciplined timing token probe other calls final :=
  { disciplined with
    linkDown := fun attempts => (failures _).trans (disciplined.linkDown attempts)
    aborted := fun reason => (failures _).trans (disciplined.aborted reason)
    cancelled := fun same => kept (disciplined.cancelled ((failures _).mp same))
    fits := fun count same => disciplined.fits count ((failures _).mp same)
    failed := fun reason same => disciplined.failed reason ((failures _).mp same)
    succeeded := fun value same =>
      have ⟨value, succeeded⟩ := successes value same
      disciplined.succeeded value succeeded }

theorem not_failed_refusals (unlike : probe ≠ resetMarker) :
    ¬ (.send probe (.error reason) ∈ refusals refused ∨
      ∃ timeout, .read timeout (.error reason) ∈ refusals refused) := by
  rw [← Trace.mem_answersTo, answersTo_refusals unlike]
  intro failed
  rcases failed with sent | ⟨timeout, read⟩
  · cases sent
  · obtain ⟨_, same⟩ := mem_refusals read
    cases same

section Probed

variable {rest earlier later : List Event} {result other : Except LinkError Unit}
  (unlike : probe ≠ resetMarker) (unsent : ∀ sent result, .send sent result ∉ rest)

include unlike unsent

theorem answersTo_probed :
    answersTo resetMarker
        (refusals refused ++ .send resetMarker (.ok ()) :: .send probe result :: rest) =
      refused.map .error ++ [.ok ()] ∧
    answersTo probe
        (refusals refused ++ .send resetMarker (.ok ()) :: .send probe result :: rest) =
      [result] := by
  have silent (packet : Bytes) : answersTo packet rest = [] := answersTo_eq_nil (unsent packet)
  constructor
  · rw [answersTo_append, answersTo_resetMarker, Trace.answersTo_send_same,
      Trace.answersTo_send_other unlike, silent]
  · rw [answersTo_append, answersTo_refusals unlike, Trace.answersTo_send_other unlike.symm,
      Trace.answersTo_send_same, silent]
    rfl

theorem failed_probed :
    (.send probe (.error reason) ∈
          refusals refused ++ .send resetMarker (.ok ()) :: .send probe result :: rest ∨
        ∃ timeout, .read timeout (.error reason) ∈
          refusals refused ++ .send resetMarker (.ok ()) :: .send probe result :: rest) ↔
      result = .error reason ∨ ∃ timeout, .read timeout (.error reason) ∈ rest := by
  rw [← Trace.mem_answersTo, (answersTo_probed unlike unsent).2, List.mem_singleton]
  refine or_congr eq_comm (exists_congr fun timeout => ⟨fun member => ?_, fun member => ?_⟩)
  · rcases List.mem_append.mp member with early | late
    · obtain ⟨_, same⟩ := mem_refusals early
      cases same
    · simpa using late
  · exact List.mem_append_right _ (List.mem_cons_of_mem _ (List.mem_cons_of_mem _ member))

theorem later_of_marker
    (split : refusals refused ++ .send resetMarker (.ok ()) :: .send probe result :: rest =
      earlier ++ .send resetMarker (.ok ()) :: later) : answersTo resetMarker later = [] := by
  have notBefore : .send resetMarker (.ok ()) ∉ refusals refused := by
    intro member
    obtain ⟨_, same⟩ := mem_refusals member
    cases same
  have notAfter : .send resetMarker (.ok ()) ∉ .send probe result :: rest := by
    intro member
    rcases List.mem_cons.mp member with same | member
    · injection same with sent
      exact unlike sent.symm
    · exact unsent _ _ member
  obtain ⟨-, -, rfl⟩ := (List.append_cons_inj_of_notMem notBefore notAfter).mp split
  rw [Trace.answersTo_send_other unlike, answersTo_eq_nil (unsent resetMarker)]

theorem around_probe
    (split : refusals refused ++ .send resetMarker (.ok ()) :: .send probe result :: rest =
      earlier ++ .send probe other :: later) :
    .send resetMarker (.ok ()) ∈ earlier ∧ answersTo resetMarker later = [] := by
  rw [List.append_cons] at split
  have notBefore : .send probe other ∉ refusals refused ++ [.send resetMarker (.ok ())] := by
    intro member
    rcases List.mem_append.mp member with member | last
    · obtain ⟨_, same⟩ := mem_refusals member
      injection same with sent
      exact unlike sent
    · injection List.mem_singleton.mp last with sent
      exact unlike sent
  obtain ⟨rfl, -, rfl⟩ :=
    (List.append_cons_inj_of_notMem notBefore (unsent probe other)).mp split
  exact ⟨List.mem_append_right _ (List.mem_singleton_self _), answersTo_eq_nil (unsent resetMarker)⟩

end Probed

namespace Course

variable {outcome : Option (Except HandshakeError FlipBit)}
  (course : Course timing token probe next outcome calls raised)

include course

theorem calls_eq :
    (∃ refused, calls = refusals refused ∧ refused.length ≤ timing.resetAttempts) ∨
      ∃ refused result rest,
        calls = refusals refused ++ .send resetMarker (.ok ()) :: .send probe result :: rest ∧
          refused.length < timing.resetAttempts ∧ ∀ sent result, .send sent result ∉ rest := by
  cases course with
  | down refused all => exact .inl ⟨refused, rfl, Nat.le_of_eq all⟩
  | unmarked refused within _ => exact .inl ⟨refused, rfl, Nat.le_of_lt within⟩
  | unprobed refused within reason => exact .inr ⟨refused, _, [], rfl, within, by simp⟩
  | probed refused within concluded =>
      exact .inr ⟨refused, _, _, rfl, within, fun _ => concluded.unsent⟩

theorem attempts_le (unlike : probe ≠ resetMarker) :
    (answersTo resetMarker calls).length ≤ timing.resetAttempts := by
  rcases course.calls_eq with ⟨refused, rfl, within⟩ | ⟨refused, result, rest, rfl, within, unsent⟩
  · rwa [answersTo_resetMarker, List.length_map]
  · rw [(answersTo_probed unlike unsent).1, List.length_append, List.length_map]
    exact within

theorem linkDown_iff (unlike : probe ≠ resetMarker) (attempts : Nat) :
    outcome = some (.error (.linkDown attempts)) ↔ attempts = timing.resetAttempts ∧
      (answersTo resetMarker calls).length = timing.resetAttempts ∧
      .ok () ∉ answersTo resetMarker calls := by
  cases course with
  | down refused all =>
      rw [answersTo_resetMarker, List.length_map]
      constructor
      · intro same
        cases same
        exact ⟨rfl, all, by simp⟩
      · intro spent
        rw [spent.1]
  | unmarked refused within _ =>
      rw [answersTo_resetMarker, List.length_map]
      refine ⟨nofun, fun ⟨_, all, _⟩ => ?_⟩
      exact absurd all (Nat.ne_of_lt within)
  | unprobed refused within reason =>
      rw [(answersTo_probed unlike (by simp)).1]
      exact ⟨nofun, fun ⟨_, _, unaccepted⟩ => absurd (List.mem_append_right _ (List.mem_singleton_self _)) unaccepted⟩
  | probed refused within concluded =>
      rw [(answersTo_probed unlike fun _ => concluded.unsent).1]
      refine ⟨fun same => absurd same (concluded.ne_linkDown attempts), fun ⟨_, _, unaccepted⟩ => ?_⟩
      exact absurd (List.mem_append_right _ (List.mem_singleton_self _)) unaccepted

theorem aborted_iff (unlike : probe ≠ resetMarker) (reason : LinkError) :
    outcome = some (.error (.aborted reason)) ↔
      .send probe (.error reason) ∈ calls ∨ ∃ timeout, .read timeout (.error reason) ∈ calls := by
  cases course with
  | down refused all => exact ⟨nofun, fun failed => (not_failed_refusals unlike failed).elim⟩
  | unmarked refused within _ =>
      exact ⟨nofun, fun failed => (not_failed_refusals unlike failed).elim⟩
  | unprobed refused within other =>
      rw [failed_probed unlike (by simp)]
      simp
  | probed refused within concluded =>
      rw [failed_probed unlike fun _ => concluded.unsent, concluded.aborted_iff]
      simp

theorem seen_of_cancelled (cancelled : outcome = some (.error .cancelled)) : token ∈ raised := by
  cases course with
  | unmarked refused within seen => exact seen
  | probed refused within concluded => exact concluded.seen_of_cancelled cancelled
  | _ => cases cancelled

theorem ne_probeTooLarge (count : Nat) : outcome ≠ some (.error (.probeTooLarge count)) := by
  cases course with
  | probed refused within concluded => exact concluded.ne_probeTooLarge count
  | _ => nofun

theorem resets_of_error (unlike : probe ≠ resetMarker) {reason : HandshakeError}
    (failed : outcome = some (.error reason)) :
    (resets calls).length = if .ok () ∈ answersTo probe calls then 1 else 0 := by
  cases course with
  | unprobed refused within other =>
      rw [(answersTo_probed unlike (by simp)).2, if_neg (by simp), resets_append, resets_refusals]
      rfl
  | probed refused within concluded =>
      rw [(answersTo_probed unlike fun _ => concluded.unsent).2, if_pos (List.mem_singleton_self _),
        resets_append, resets_refusals]
      exact concluded.resets_of_error failed
  | _ =>
      rw [answersTo_refusals unlike, resets_refusals]
      rfl

theorem resets_of_ok (succeeded : outcome = some (.ok flip)) : resets calls = [] := by
  cases course with
  | probed refused within concluded =>
      rw [resets_append, resets_refusals]
      exact concluded.resets_of_ok succeeded
  | _ => cases succeeded

theorem flip_eq (succeeded : outcome = some (.ok flip)) : flip = next := by
  cases course with
  | probed refused within concluded =>
      cases concluded with
      | connected received => exact (Except.ok.inj (Option.some.inj succeeded)).symm
      | _ => cases succeeded
  | _ => cases succeeded

theorem undisposed (result : Except LinkError Unit) : .dispose result ∉ calls := by
  have early {refused : List LinkError} : .dispose result ∉ refusals refused := by
    intro member
    obtain ⟨_, same⟩ := mem_refusals member
    cases same
  cases course with
  | unprobed refused within reason => simp [early]
  | probed refused within concluded =>
      simp [early, concluded.undisposed]
  | _ => exact early

theorem disciplined (unlike : probe ≠ resetMarker) :
    Disciplined timing token probe outcome calls raised where
  attempts := course.attempts_le unlike
  markedOnce := by
    intro earlier later split
    rcases course.calls_eq with ⟨refused, rfl, -⟩ | ⟨refused, result, rest, rfl, -, unsent⟩
    · obtain ⟨_, same⟩ := mem_refusals (split ▸ List.mem_append_right _ List.mem_cons_self)
      cases same
    · exact later_of_marker unlike unsent split
  probedMarked := by
    intro earlier answer later split
    rcases course.calls_eq with ⟨refused, rfl, -⟩ | ⟨refused, result, rest, rfl, -, unsent⟩
    · obtain ⟨_, same⟩ := mem_refusals (split ▸ List.mem_append_right _ List.mem_cons_self)
      injection same with sent
      exact absurd sent unlike
    · exact around_probe unlike unsent split
  probedOnce := by
    rcases course.calls_eq with ⟨refused, rfl, -⟩ | ⟨refused, result, rest, rfl, -, unsent⟩
    · rw [answersTo_refusals unlike]
      exact Nat.zero_le 1
    · rw [(answersTo_probed unlike unsent).2]
      exact Nat.le_refl 1
  linkDown := course.linkDown_iff unlike
  aborted := course.aborted_iff unlike
  cancelled := course.seen_of_cancelled
  fits := course.ne_probeTooLarge
  failed := fun _ => course.resets_of_error unlike
  succeeded := fun _ => course.resets_of_ok
  undisposed := course.undisposed

end Course

end Handshake

namespace Session

open Handshake Attempt

variable {σ : Type} {link : Link σ} {config : SessionConfig} {token : CancelToken} {probe : Message}
  {rounds : Nat}

theorem resetMarker_ne (packet : Packet) : packet.bytes ≠ resetMarker := by
  intro same
  have size := packet.length_bytes
  rw [same] at size
  cases size

theorem connect_makes (short : 4 + probe.length ≤ 62) :
    (connect config token probe rounds).Makes link
      (Disciplined config.handshake token (probe.single .clear true).bytes) := by
  have fits := probePacket_eq probe .clear short
  apply Makes.bind ((run_makes fits).mono fun _ _ _ course => course.disciplined (resetMarker_ne _))
  · intro calls raised disciplined
    exact disciplined.congr (List.Subset.refl _) (by simp) (by simp)
  · intro reason calls raised disciplined
    exact disciplined.congr (List.Subset.refl _) (by simp) (by simp)
  · intro next calls raised disciplined
    apply Makes.note_bind
    refine Makes.pure fun final kept => ?_
    rw [List.append_nil]
    exact disciplined.congr kept (by simp) fun _ _ => ⟨next, rfl⟩

theorem handshake_long (timing : HandshakeTiming) (long : 62 < 4 + probe.length) :
    (Handshake.run timing token probe rounds).Makes link fun outcome calls _ =>
      outcome = some (.error (.probeTooLarge (Message.packetsNeeded probe.length))) ∧ calls = [] := by
  apply Makes.note_bind
  rw [probePacket_long probe .clear long]
  exact Makes.throw fun _ => ⟨rfl, rfl⟩

/-- The probe carried the cleared bit, so the first message after it carries the other. -/
theorem handshake_flip {timing : HandshakeTiming} {before after : World σ} {next : FlipBit}
    (ran : (Handshake.run timing token probe rounds).on link before = (some (.ok next), after)) :
    next = .set := by
  by_cases short : 4 + probe.length ≤ 62
  · have makes : (Handshake.run timing token probe rounds).Makes link _ :=
      run_makes (probePacket_eq probe .clear short)
    obtain ⟨events, -, -, course⟩ := makes before
    rw [ran] at course
    exact course.flip_eq rfl
  · have refused : (Handshake.run timing token probe rounds).Makes link _ :=
      handshake_long timing (Nat.lt_of_not_le short)
    obtain ⟨events, -, -, failed, -⟩ := refused before
    rw [ran] at failed
    cases failed

theorem connect_long (long : 62 < 4 + probe.length) :
    (connect config token probe rounds).Makes link fun outcome calls _ =>
      outcome = some (.error (.probeTooLarge (Message.packetsNeeded probe.length))) ∧ calls = [] := by
  apply Makes.bind (handshake_long config.handshake long)
  · intro calls raised refused
    cases refused.1
  · intro reason calls raised refused
    cases refused.1
    exact ⟨rfl, refused.2⟩
  · intro value calls raised refused
    cases refused.1

/-- Whatever the link does: a probe that does not fit one packet is refused without a call. Otherwise
the reset marker is tried as often as permitted at most, then the probe once; a handshake that fails
with the probe out resets the link once and fails with what it failed with before. -/
theorem connect_disciplined (link : Link σ) (config : SessionConfig) (token : CancelToken)
    (probe : Message) (rounds : Nat) (before : World σ) :
    ∃ outcome after events,
      (connect config token probe rounds).on link before = (outcome, after) ∧
      after.trace = before.trace ++ events ∧
      (∀ count, outcome = some (.error (.probeTooLarge count)) ↔
        62 < 4 + probe.length ∧ count = Message.packetsNeeded probe.length) ∧
      (62 < 4 + probe.length → Trace.calls events = []) ∧
      (4 + probe.length ≤ 62 → ∃ packet, probe.encode .clear true = .ok ⟨.clear, [packet]⟩ ∧
        Disciplined config.handshake token packet.bytes outcome (Trace.calls events) after.raised) := by
  by_cases short : 4 + probe.length ≤ 62
  · have makes : (connect config token probe rounds).Makes link _ := connect_makes short
    obtain ⟨events, trace, -, disciplined⟩ := makes before
    refine ⟨_, _, events, rfl, trace, fun count => ⟨fun tooLarge => ?_, fun long => ?_⟩, ?_, ?_⟩
    · exact absurd tooLarge (disciplined.fits count)
    · exact absurd long.1 (Nat.not_lt.mpr short)
    · intro long
      exact absurd long (Nat.not_lt.mpr short)
    · intro _
      exact ⟨_, probe.encode_single .clear true short, disciplined⟩
  · have long : 62 < 4 + probe.length := Nat.lt_of_not_le short
    have makes : (connect config token probe rounds).Makes link _ := connect_long long
    obtain ⟨events, trace, -, refused, uncalled⟩ := makes before
    refine ⟨_, _, events, Prod.ext refused rfl, trace, fun count => ⟨fun same => ?_, fun both => ?_⟩,
      fun _ => uncalled, fun fits => absurd fits short⟩
    · cases same
      exact ⟨long, rfl⟩
    · rw [both.2]

end Session

end PacketLink
