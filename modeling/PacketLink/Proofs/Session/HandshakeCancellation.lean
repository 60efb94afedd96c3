import PacketLink.Proofs.Link.Lateness
import PacketLink.Proofs.Session.HandshakeFailures

namespace PacketLink

/-! What a handshake asks of the link once its token is raised.

The host looks at the token before every attempt at the marker and before every read of an echo, but
not between the accepted marker and the probe. So a token that the marker raised is seen only when
the probe is out. -/

namespace Handshake

open TimedCall Attempt

variable {σ α : Type} {link : Link σ} {timing : HandshakeTiming} {token : CancelToken}
  {reference packet : Packet} {controller : Log.Controller} {rounds : Nat} {next : FlipBit}
  {outcome : Option (Except HandshakeError Unit)} {front calls : List TimedCall}

/-- The marker, accepted in time. -/
def marked : TimedCall := ⟨.send [0xFF, 0xFF] (.ok ()), false⟩

def refusal (reason : LinkError) : TimedCall := ⟨.send [0xFF, 0xFF] (.error reason), false⟩

def heard (timing : HandshakeTiming) (received : Bytes) : TimedCall :=
  ⟨.read timing.echoTimeout (.ok received), false⟩

/-- How the attempts at the marker end: all of them in time. -/
inductive Marking (timing : HandshakeTiming) :
    Option (Except HandshakeError Unit) → List TimedCall → Prop
  | accepted (front : List TimedCall) (early : ∀ call ∈ front, call.Early) :
      Marking timing (some (.ok ())) (front ++ [marked])
  | down (front : List TimedCall) (early : ∀ call ∈ front, call.Early) (reason : LinkError) :
      Marking timing (some (.error (.linkDown timing.resetAttempts))) (front ++ [refusal reason])
  | cancelled {calls : List TimedCall} (early : ∀ call ∈ calls, call.Early) :
      Marking timing (some (.error .cancelled)) calls

theorem Marking.refused (marking : Marking timing outcome calls) (reason : LinkError) :
    Marking timing outcome (refusal reason :: calls) := by
  have first : (refusal reason).Early := ⟨rfl, rfl⟩
  cases marking with
  | accepted front early => exact .accepted (_ :: front) (forall_early_cons first early)
  | down front early last => exact .down (_ :: front) (forall_early_cons first early) last
  | cancelled early => exact .cancelled (forall_early_cons first early)

theorem attempt_proceeds {left attempt : Nat} (late : Bool)
    (again : ∀ reason later,
      (sendResetMarker timing token left (attempt + 1)).Proceeds link token later
        fun outcome calls => Marking timing outcome (refusal reason :: calls)) :
    (sendResetMarker timing token (left + 1) attempt).Proceeds link token late (Marking timing) := by
  refine .stop_bind (fun _ => .cancelled (by simp)) fun _ => ?_
  refine .sendOutcome_bind fun result later _ => ?_
  cases result with
  | ok _ => exact .pure (.accepted [] (by simp))
  | error reason =>
      refine .note_bind ?_
      split
      · exact .wait_bind (again reason later)
      · exact again reason later

theorem sendResetMarker_proceeds (left attempt : Nat) (late : Bool) :
    (sendResetMarker timing token (left + 1) attempt).Proceeds link token late (Marking timing) := by
  induction left generalizing attempt late with
  | zero => exact attempt_proceeds late fun _ _ => .throw (.down [] (by simp) _)
  | succ left ih =>
      exact attempt_proceeds late fun reason later =>
        (ih (attempt + 1) later).mono fun _ _ marking => marking.refused reason

/-- How reading until an echo ends: all reads in time, and as many as there were rounds if none of
them ended it. -/
inductive Hearing (timing : HandshakeTiming) (reference : Packet) (rounds : Nat) :
    Option (Except HandshakeError Unit) → List TimedCall → Prop
  | echoed (front : List TimedCall) {received : Bytes} (early : ∀ call ∈ front, call.Early)
      (echoes : reference.isEcho received = true) :
      Hearing timing reference rounds (some (.ok ())) (front ++ [heard timing received])
  | failed (front : List TimedCall) {reason : LinkError} (early : ∀ call ∈ front, call.Early) :
      Hearing timing reference rounds (some (.error (.aborted reason)))
        (front ++ [⟨.read timing.echoTimeout (.error reason), false⟩])
  | cancelled {calls : List TimedCall} (early : ∀ call ∈ calls, call.Early) :
      Hearing timing reference rounds (some (.error .cancelled)) calls
  | unheard {calls : List TimedCall} (early : ∀ call ∈ calls, call.Early)
      (spent : rounds ≤ calls.length) : Hearing timing reference rounds none calls

namespace Hearing

theorem preceded {total : Nat} (hearing : Hearing timing reference rounds outcome calls)
    (first : ∀ call ∈ front, call.Early) (within : total ≤ front.length + rounds) :
    Hearing timing reference total outcome (front ++ calls) := by
  cases hearing with
  | echoed front early echoes =>
      rw [← List.append_assoc]
      exact .echoed _ (forall_early_append first early) echoes
  | failed front early =>
      rw [← List.append_assoc]
      exact .failed _ (forall_early_append first early)
  | cancelled early => exact .cancelled (forall_early_append first early)
  | unheard early spent =>
      refine .unheard (forall_early_append first early) ?_
      rw [List.length_append]
      omega

theorem early (hearing : Hearing timing reference rounds outcome calls) :
    ∀ call ∈ calls, call.Early := by
  cases hearing with
  | echoed front early echoes =>
      exact forall_early_append early (forall_early_cons ⟨rfl, rfl⟩ (by simp))
  | failed front early => exact forall_early_append early (forall_early_cons ⟨rfl, rfl⟩ (by simp))
  | cancelled early => exact early
  | unheard early spent => exact early

end Hearing

theorem awaitEcho_proceeds (rounds : Nat) (late : Bool) :
    (awaitEcho timing token reference controller rounds).Proceeds link token late
      (Hearing timing reference rounds) := by
  induction rounds generalizing late with
  | zero => exact .unfinished (.unheard (by simp) (Nat.le_refl 0))
  | succ rounds ih =>
      refine .stop_bind (fun _ => .cancelled (by simp)) fun _ => ?_
      refine .read_bind (fun reason => .failed [] (by simp)) fun received later _ => ?_
      split
      · rename_i echoes
        refine .note_bind ?_
        exact .pure (.echoed [] (by simp) echoes)
      · refine .note_bind ((ih later).mono fun outcome calls hearing => ?_)
        have first : ∀ call ∈ [heard timing received], call.Early :=
          forall_early_cons ⟨rfl, rfl⟩ (by simp)
        exact hearing.preceded first (Nat.le_of_eq (Nat.add_comm rounds 1))

theorem awaitEchoes_proceeds (late : Bool) :
    (awaitEchoes timing token reference rounds).Proceeds link token late
      (Hearing timing (reference.withAck false) rounds) := by
  refine .note_bind (.bind (awaitEcho_proceeds rounds late) ?_ ?_ ?_)
  · intro calls hearing
    cases hearing with
    | unheard early spent => exact .unheard early spent
  · intro reason calls hearing
    cases hearing with
    | failed front early => exact .failed front early
    | cancelled early => exact .cancelled early
  · intro _ calls later hearing _
    refine .note_bind ((awaitEcho_proceeds rounds later).mono fun outcome more main => ?_)
    exact main.preceded hearing.early (Nat.le_add_left _ _)

/-- The token was raised while the link took the marker. -/
def RaisedByMarker (calls : List TimedCall) : Prop :=
  ∃ earlier call later, calls = earlier ++ marked :: call :: later ∧ call.late = true

/-- The call in time with which a handshake can end otherwise than cancelled: the main controller's
echo, or one that failed, and the handshake with it. -/
inductive Decisive (timing : HandshakeTiming) (packet : Packet) {α : Type} :
    Except HandshakeError α → List TimedCall → Prop
  | echo {value : α} {earlier : List TimedCall} {received : Bytes}
      (echoes : (packet.withAck false).isEcho received = true) :
      Decisive timing packet (.ok value) (earlier ++ [heard timing received])
  | marker {earlier : List TimedCall} {reason : LinkError} :
      Decisive timing packet (.error (.linkDown timing.resetAttempts))
        (earlier ++ [refusal reason])
  | probe {earlier : List TimedCall} {reason : LinkError} :
      Decisive timing packet (.error (.aborted reason))
        (earlier ++ [⟨.send packet.bytes (.error reason), false⟩])
  | read {earlier : List TimedCall} {reason : LinkError} {cleanUp : Except LinkError Unit}
      {late : Bool} :
      Decisive timing packet (.error (.aborted reason))
        (earlier ++ [⟨.read timing.echoTimeout (.error reason), false⟩, ⟨.reset cleanUp, late⟩])

theorem Decisive.preceded {α : Type} {ended : Except HandshakeError α}
    (decisive : Decisive timing packet ended calls) (front : List TimedCall) :
    Decisive timing packet ended (front ++ calls) := by
  cases decisive with
  | echo echoes =>
      rw [← List.append_assoc]
      exact .echo echoes
  | marker =>
      rw [← List.append_assoc]
      exact .marker
  | probe =>
      rw [← List.append_assoc]
      exact .probe
  | read =>
      rw [← List.append_assoc]
      exact .read

theorem Hearing.decisive_of_ok
    (hearing : Hearing timing (packet.withAck false) rounds (some (.ok ())) calls) (value : α) :
    Decisive timing packet (.ok value : Except HandshakeError α) calls := by
  cases hearing with
  | echoed front early echoes => exact .echo echoes

theorem Hearing.cancelled_or_decisive {reason : HandshakeError}
    (hearing : Hearing timing reference rounds (some (.error reason)) calls)
    (cleanUp : Except LinkError Unit) (late : Bool) :
    reason = .cancelled ∨
      Decisive timing packet (.error reason : Except HandshakeError α)
        (calls ++ [⟨.reset cleanUp, late⟩]) := by
  cases hearing with
  | failed front early =>
      rw [List.append_assoc]
      exact .inr .read
  | cancelled early => exact .inl rfl

/-- What a handshake does once its token is raised. -/
structure Stops (timing : HandshakeTiming) (packet : Packet) (rounds : Nat) {α : Type}
    (outcome : Option (Except HandshakeError α)) (calls : List TimedCall) : Prop where
  /-- It only cleans up, but a token that the marker raised does not stop the probe. -/
  late : ∀ call ∈ calls, call.late = true →
    (∃ result, call.event = .reset result) ∨
      RaisedByMarker calls ∧ ∃ result, call.event = .send packet.bytes result
  cancelled : ∀ ended, outcome = some ended →
    ended = .error .cancelled ∨ Decisive timing packet ended calls ∨
      RaisedByMarker calls ∧ ∃ reason, ended = .error (.aborted reason)
  /-- It returns unless it made calls in time for all rounds. -/
  returns : outcome = none → rounds ≤ calls.countP fun call => !call.late

theorem not_late_of_early (early : ∀ call ∈ calls, call.Early) :
    ∀ call ∈ calls, call.late = true → ∃ result, call.event = .reset result := by
  intro call member raised
  simp [(early call member).unraised] at raised

theorem Marking.stops {reason : HandshakeError}
    (marking : Marking timing (some (.error reason)) calls) :
    Stops timing packet rounds (some (.error reason) : Option (Except HandshakeError α)) calls := by
  cases marking with
  | down front early last =>
      have all : ∀ call ∈ front ++ [refusal last], call.Early :=
        forall_early_append early (forall_early_cons ⟨rfl, rfl⟩ (by simp))
      refine ⟨fun call member raised => .inl (not_late_of_early all call member raised), ?_, by simp⟩
      intro ended same
      obtain rfl := Option.some.inj same
      exact .inr (.inl .marker)
  | cancelled early =>
      refine ⟨fun call member raised => .inl (not_late_of_early early call member raised), ?_, by simp⟩
      intro ended same
      exact .inl (Option.some.inj same).symm

def probed (packet : Packet) (answer : Except LinkError Unit) (late : Bool) : TimedCall :=
  ⟨.send packet.bytes answer, late⟩

theorem late_of_probed {answer : Except LinkError Unit} {late : Bool} {rest : List TimedCall}
    (early : ∀ call ∈ front, call.Early)
    (cleansUp : ∀ call ∈ rest, call.late = true → ∃ result, call.event = .reset result) :
    ∀ call ∈ front ++ marked :: probed packet answer late :: rest, call.late = true →
      (∃ result, call.event = .reset result) ∨
        RaisedByMarker (front ++ marked :: probed packet answer late :: rest) ∧
          ∃ result, call.event = .send packet.bytes result := by
  intro call member raised
  rcases List.mem_append.mp member with earlier | here
  · simp [(early call earlier).unraised] at raised
  rcases List.mem_cons.mp here with rfl | there
  · contradiction
  rcases List.mem_cons.mp there with rfl | later
  · exact .inr ⟨⟨front, _, rest, rfl, raised⟩, answer, rfl⟩
  · exact .inl (cleansUp call later raised)

section Probed

variable {timely : List TimedCall} (early : ∀ call ∈ front, call.Early) (late : Bool)

include early

theorem stops_of_unprobed (reason : LinkError) :
    Stops timing packet rounds (some (.error (.aborted reason) : Except HandshakeError α))
      (front ++ [marked, probed packet (.error reason) late]) where
  late := late_of_probed early (by simp)
  cancelled := by
    intro ended same
    obtain rfl := Option.some.inj same
    cases late with
    | false =>
        have last : Decisive timing packet (.error (.aborted reason) : Except HandshakeError α)
            ([marked] ++ [probed packet (.error reason) false]) := .probe
        exact .inr (.inl (last.preceded front))
    | true => exact .inr (.inr ⟨⟨front, _, [], rfl, rfl⟩, reason, rfl⟩)
  returns := by simp

theorem stops_of_echoed
    (hearing : Hearing timing (packet.withAck false) rounds (some (.ok ())) calls) (value : α) :
    Stops timing packet rounds (some (.ok value) : Option (Except HandshakeError α))
      (front ++ marked :: probed packet (.ok ()) late :: calls) where
  late := late_of_probed early (not_late_of_early hearing.early)
  cancelled := by
    intro ended same
    obtain rfl := Option.some.inj same
    exact .inr (.inl (((hearing.decisive_of_ok value).preceded [_, _]).preceded front))
  returns := by simp

theorem stops_of_cleaned {reason : HandshakeError}
    (hearing : Hearing timing reference rounds (some (.error reason)) calls)
    (cleanUp : Except LinkError Unit) (last : Bool) :
    Stops timing packet rounds (some (.error reason) : Option (Except HandshakeError α))
      (front ++ marked :: probed packet (.ok ()) late :: (calls ++ [⟨.reset cleanUp, last⟩])) where
  late := by
    refine late_of_probed early fun call member raised => ?_
    rcases List.mem_append.mp member with read | reset
    · exact not_late_of_early hearing.early call read raised
    · rw [List.mem_singleton.mp reset]
      exact ⟨cleanUp, rfl⟩
  cancelled := by
    intro ended same
    obtain rfl := Option.some.inj same
    rcases hearing.cancelled_or_decisive cleanUp last with rfl | decisive
    · exact .inl rfl
    · exact .inr (.inl ((decisive.preceded [_, _]).preceded front))
  returns := by simp

theorem stops_of_unheard (hearing : Hearing timing reference rounds none calls) :
    Stops timing packet rounds (none : Option (Except HandshakeError α))
      (front ++ marked :: probed packet (.ok ()) late :: calls) where
  late := late_of_probed early (not_late_of_early hearing.early)
  cancelled := by simp
  returns := by
    intro _
    cases hearing with
    | unheard timely spent =>
        have counted : calls.countP (fun call => !call.late) = calls.length :=
          List.countP_eq_length.mpr fun call member => by simp [(timely call member).unraised]
        rw [List.countP_append, List.countP_cons, List.countP_cons, counted]
        omega

end Probed

theorem cleanUp_proceeds (reason : HandshakeError) (late : Bool) :
    (cleanUp reason).Proceeds link token late fun outcome calls =>
      outcome = some (.error reason) ∧ ∃ result, calls = [⟨.reset result, late⟩] := by
  refine .note_bind (.reset_bind fun result later _ => ?_)
  cases result with
  | ok _ => exact .throw ⟨rfl, .ok (), rfl⟩
  | error secondary =>
      refine .note_bind ?_
      exact .throw ⟨rfl, .error secondary, rfl⟩

theorem conclude_proceeds (early : ∀ call ∈ front, call.Early) (probing late : Bool) :
    (conclude timing token packet next rounds).Proceeds link token late fun outcome calls =>
      Stops timing packet rounds outcome
        (front ++ marked :: probed packet (.ok ()) probing :: calls) := by
  refine .bind (.outcome (awaitEchoes_proceeds late)) ?_ ?_ ?_
  · intro calls looked
    obtain ⟨ended, looked, hearing⟩ := looked
    cases Option.map_eq_none_iff.mp looked.symm
    exact stops_of_unheard early probing hearing
  · intro reason calls looked
    obtain ⟨ended, looked, -⟩ := looked
    obtain ⟨_, _, same⟩ := Option.map_eq_some_iff.mp looked.symm
    cases same
  · intro result calls last looked _
    obtain ⟨ended, looked, hearing⟩ := looked
    obtain ⟨_, rfl, same⟩ := Option.map_eq_some_iff.mp looked.symm
    cases same
    cases result with
    | ok _ =>
        refine .wait_bind (.note_bind ?_)
        refine .pure ?_
        rw [List.append_nil]
        exact stops_of_echoed early probing hearing next
    | error reason =>
        refine (cleanUp_proceeds reason last).mono fun outcome more reset => ?_
        obtain ⟨rfl, cleaned, rfl⟩ := reset
        exact stops_of_cleaned early probing hearing cleaned last

theorem run_proceeds {probe : Message} (fits : probePacket probe .clear = .ok (packet, next))
    (attempts : 0 < timing.resetAttempts) (late : Bool) :
    (run timing token probe rounds).Proceeds link token late (Stops timing packet rounds) := by
  obtain ⟨left, count⟩ := Nat.exists_eq_succ_of_ne_zero (Nat.ne_of_gt attempts)
  refine .note_bind ?_
  rw [fits, ofExcept_bind]
  refine .note_bind ?_
  rw [count]
  refine .bind (sendResetMarker_proceeds left 1 late) ?_ ?_ ?_
  · intro calls marking
    cases marking
  · exact fun reason calls marking => marking.stops
  · intro _ calls later marking _
    cases marking with
    | accepted front early =>
        simp only [List.append_assoc, List.singleton_append]
        refine .send_bind (fun reason => stops_of_unprobed early later reason) fun last _ => ?_
        exact .note_bind (conclude_proceeds early later last)

theorem Stops.congr {α β : Type} {outcome : Option (Except HandshakeError α)}
    {other : Option (Except HandshakeError β)} (stops : Stops timing packet rounds outcome calls)
    (unfinished : other = none → outcome = none)
    (failed : ∀ reason, other = some (.error reason) → outcome = some (.error reason))
    (succeeded : ∀ value, other = some (.ok value) → ∃ same, outcome = some (.ok same)) :
    Stops timing packet rounds other calls where
  late := stops.late
  cancelled := by
    intro ended same
    cases ended with
    | error reason =>
        rcases stops.cancelled _ (failed reason same) with cancelled | decisive | raised
        · cases cancelled
          exact .inl rfl
        · refine .inr (.inl ?_)
          cases decisive with
          | marker => exact .marker
          | probe => exact .probe
          | read => exact .read
        · obtain ⟨raised, aborted, same⟩ := raised
          cases same
          exact .inr (.inr ⟨raised, aborted, rfl⟩)
    | ok value =>
        obtain ⟨first, finished⟩ := succeeded value same
        rcases stops.cancelled _ finished with cancelled | decisive | raised
        · cases cancelled
        · cases decisive with
          | echo echoes => exact .inr (.inl (.echo echoes))
        · obtain ⟨-, aborted, same⟩ := raised
          cases same
  returns := fun none => stops.returns (unfinished none)

end Handshake

namespace Session

open Handshake Attempt

variable {σ : Type}

/-- Whatever the link does, and whichever of its calls raises the token: once it is raised, connecting
neither sends nor reads, and only resets the link if the probe was out; and it ends cancelled, unless
its last send or read began in time and decided the outcome. Only if the token was raised while the
link took the marker is the probe still sent, and a link that refuses it still is what is reported. -/
theorem connect_once_cancelled (link : Link σ) (config : SessionConfig) (token : CancelToken)
    (probe : Message) (rounds : Nat) (before : World σ) (short : 4 + probe.length ≤ 62)
    (attempts : 0 < config.handshake.resetAttempts) :
    ∃ packet, probe.encode .clear true = .ok ⟨.clear, [packet]⟩ ∧
      Stops config.handshake packet rounds ((connect config token probe rounds).on link before).1
        ((connect config token probe rounds).calls link token before) := by
  refine ⟨_, probe.encode_single .clear true short, ?_⟩
  have fits := probePacket_eq probe .clear short
  have proceeds (late : Bool) : (connect config token probe rounds).Proceeds link token late
      (Stops config.handshake (probe.single .clear true) rounds) := by
    refine .bind (run_proceeds fits attempts late) ?_ ?_ ?_
    · exact fun calls stops => stops.congr (by simp) (by simp) (by simp)
    · exact fun reason calls stops => stops.congr (by simp) (by simp) (by simp)
    · intro next calls later stops _
      refine .note_bind ?_
      refine .pure ?_
      rw [List.append_nil]
      exact stops.congr (by simp) (by simp) fun _ _ => ⟨next, rfl⟩
  exact proceeds _ before rfl

theorem connect_once_cancelled_by_probe :
    (∃ packet, Message.encode ⟨0x0001, [0x12, 0x34]⟩ .clear true = .ok ⟨.clear, [packet]⟩ ∧
      Stops {} packet 1
        ((connect {} ⟨0⟩ ⟨0x0001, [0x12, 0x34]⟩ 1).on Link.scripted
          { device := { sendsUntilCancel := 2 } }).1
        ((connect {} ⟨0⟩ ⟨0x0001, [0x12, 0x34]⟩ 1).calls Link.scripted ⟨0⟩
          { device := { sendsUntilCancel := 2 } })) ∧
    ((connect {} ⟨0⟩ ⟨0x0001, [0x12, 0x34]⟩ 1).on Link.scripted
      { device := { sendsUntilCancel := 2 } }).1 = some (.error .cancelled) :=
  ⟨connect_once_cancelled Link.scripted {} ⟨0⟩ ⟨0x0001, [0x12, 0x34]⟩ 1
    { device := { sendsUntilCancel := 2 } } (by decide) (by decide), rfl⟩

/-- The marker is accepted and raises the token, and the probe is sent all the same. -/
theorem connect_sends_after_marker_cancels :
    4 + Message.length ⟨0x0001, [0x12, 0x34, 0x56, 0x78]⟩ ≤ 62 ∧
      0 < ({} : SessionConfig).handshake.resetAttempts ∧
      ∃ packet, Message.encode ⟨0x0001, [0x12, 0x34, 0x56, 0x78]⟩ .clear true =
          .ok ⟨.clear, [packet]⟩ ∧
        (connect {} ⟨0⟩ ⟨0x0001, [0x12, 0x34, 0x56, 0x78]⟩ 1).calls Link.scripted ⟨0⟩
            { device := { sendsUntilCancel := 1 } } =
          [⟨.send [0xFF, 0xFF] (.ok ()), false⟩, ⟨.send packet.bytes (.ok ()), true⟩,
            ⟨.reset (.ok ()), true⟩] :=
  ⟨by decide, by decide, _, rfl, rfl⟩

end Session

end PacketLink
