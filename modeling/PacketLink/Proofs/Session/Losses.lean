import Mathlib.Algebra.Ring.Parity
import PacketLink.Proofs.Session.Alternation

namespace PacketLink

/-! The flip bit on the wire. A message of which no packet was accepted takes up a bit all the same,
so that the messages before and after it may carry the same one. -/

theorem FlipBit.toggled_involutive : Function.Involutive FlipBit.toggled :=
  FlipBit.toggled_toggled

theorem FlipBit.iterate_toggled (times : Nat) (flip : FlipBit) :
    toggled^[times] flip = if Even times then flip else flip.toggled := by
  split
  · rename_i even
    rw [toggled_involutive.iterate_even even]
    rfl
  · rename_i odd
    rw [toggled_involutive.iterate_odd (Nat.not_even_iff_odd.mp odd)]

theorem Trace.attempted_of_accepted {trace : Array Event} {packet : Bytes}
    (member : packet ∈ accepted trace) : packet ∈ attempted trace := by
  obtain ⟨event, within, picked⟩ := List.mem_filterMap.mp member
  refine List.mem_filterMap.mpr ⟨event, within, ?_⟩
  cases event with
  | send sent result =>
      cases result with
      | ok _ => exact picked
      | error reason => contradiction
  | _ => contradiction

namespace Consecutive

variable {session : Session} {step : Step} {earlier later : List Step}

theorem dropped (consecutive : Consecutive session (earlier ++ step :: later)) :
    Consecutive step.session (step :: later) := by
  induction earlier generalizing session with
  | nil =>
      obtain ⟨rfl, -⟩ := consecutive.of_cons
      exact consecutive
  | cons first rest ih =>
      rcases consecutive.of_cons with ⟨-, none | ⟨_, _, -, rest⟩⟩
      · simp at none
      · exact ih rest

end Consecutive

namespace Step

/-- All accepted packets of the call carry the bit. -/
def Carries (step : Step) (flip : FlipBit) : Prop :=
  ∀ packet ∈ Trace.accepted step.events,
    ∃ parsed, Packet.ofBytes packet = .ok parsed ∧ parsed.flip = flip

def dispatches (step : Step) : Bool :=
  step.call.message?.isSome && !(Trace.accepted step.events).isEmpty

/-- The call made packets of its message, and none of them was accepted. -/
def unsent (step : Step) : Bool := step.makes && (Trace.accepted step.events).isEmpty

namespace Lawful

variable {step : Step}

theorem carries (lawful : step.Lawful) (given : step.call.message?.isSome) :
    step.Carries step.session.nextFlip :=
  fun packet member => lawful.sent given packet (Trace.attempted_of_accepted member)

theorem makes_eq (lawful : step.Lawful) : step.makes = (step.dispatches || step.unsent) := by
  cases given : step.call.message?.isSome with
  | false =>
      have none : step.call.message? = none := by simpa using given
      simp [makes, none, dispatches, unsent]
  | true =>
      cases makes : step.makes with
      | false =>
          have silent := (lawful.idle given makes).1
          simp [dispatches, unsent, silent, makes, Trace.accepted]
      | true => cases sent : (Trace.accepted step.events).isEmpty <;>
          simp [dispatches, unsent, given, makes, sent]

theorem toggles_iff (lawful : step.Lawful) {outcome : Except ExchangeError step.call.Value}
    {next : Session} (returned : step.returned = some (outcome, next)) :
    (next.nextFlip = step.session.nextFlip.toggled ↔ step.dispatches = true) ↔
      step.unsent = false := by
  have moves := lawful.flip outcome next returned
  have made := lawful.makes_eq
  have apart : step.unsent = true → step.dispatches = false := by
    intro unsent
    have none := (Bool.and_eq_true_iff.mp unsent).2
    simp [dispatches, none]
  have changed : next.nextFlip = step.session.nextFlip.toggled ↔ step.makes = true := by
    rw [moves]
    cases makes : step.makes with
    | true => simp
    | false => cases step.session.nextFlip <;> simp [FlipBit.toggled]
  rw [changed, made]
  cases unsent : step.unsent with
  | false => simp
  | true => simp [apart unsent]

end Lawful

theorem countP_makes {steps : List Step} (lawful : ∀ step ∈ steps, step.Lawful)
    (others : ∀ step ∈ steps, step.dispatches = false) :
    steps.countP makes = steps.countP unsent := by
  refine List.countP_congr fun step member => ?_
  rw [(lawful step member).makes_eq, others step member, Bool.false_or]

end Step

def Link.refusing (place : Nat) : Link Nat where
  path := ""
  send _ count := ⟨if count = place then .error .timeout else .ok (), count + 1, none, []⟩
  read _ count := ⟨.error .timeout, count, none, []⟩
  reset count := ⟨.ok (), count, none, []⟩
  dispose count := ⟨.ok (), count, none, []⟩

namespace Session

variable {σ : Type}

/-- A call toggles the bit exactly if it had a packet accepted, unless it made packets of which none
was. Two messages that follow each other on the wire carry opposite bits if the number of such calls
between them is even, and the same bit otherwise. -/
theorem flip_alternates (link : Link σ) (session : Session) (moves : List Move)
    (world : World σ) :
    (∀ step ∈ session.steps link moves world,
      ∀ outcome next, step.returned = some (outcome, next) →
        ((next.nextFlip = step.session.nextFlip.toggled ↔ step.dispatches = true) ↔
          step.unsent = false)) ∧
    ∀ earlier first between second later,
      session.steps link moves world = earlier ++ first :: (between ++ second :: later) →
      first.dispatches → second.dispatches → (∀ step ∈ between, step.dispatches = false) →
      ∃ flip, first.Carries flip ∧
        second.Carries (if Even (between.countP Step.unsent) then flip.toggled else flip) := by
  refine ⟨fun step member outcome next returned =>
    (lawful_of_mem_steps member).toggles_iff returned, ?_⟩
  intro earlier first between second later parts firstSent secondSent others
  have lawful : ∀ step ∈ first :: (between ++ second :: later), step.Lawful := by
    intro step member
    have within : step ∈ session.steps link moves world := by
      rw [parts]
      exact List.mem_append_right earlier member
    exact lawful_of_mem_steps within
  have firstLawful := lawful first List.mem_cons_self
  have secondLawful := lawful second (by simp)
  have betweenLawful : ∀ step ∈ between, step.Lawful :=
    fun step member => lawful step (by simp [member])
  have run : Consecutive first.session ((first :: between) ++ second :: later) := by
    have whole := session.steps_consecutive link moves world
    rw [parts] at whole
    exact whole.dropped
  have ahead : ∀ step ∈ first :: between, step.Lawful := by
    intro step member
    rcases List.mem_cons.mp member with rfl | inside
    · exact firstLawful
    · exact betweenLawful step inside
  have bit := (run.session_eq ahead).2
  have firstMakes : first.makes = true := by rw [firstLawful.makes_eq, firstSent]; rfl
  rw [List.countP_cons_of_pos firstMakes, Step.countP_makes betweenLawful others,
    Function.iterate_succ_apply', FlipBit.iterate_toggled] at bit
  refine ⟨first.session.nextFlip, firstLawful.carries ?_, ?_⟩
  · exact (Bool.and_eq_true_iff.mp firstSent).1
  · have carries := secondLawful.carries (Bool.and_eq_true_iff.mp secondSent).1
    rw [bit] at carries
    split
    · rename_i even
      rwa [if_pos even] at carries
    · rename_i odd
      rwa [if_neg odd, FlipBit.toggled_toggled] at carries

/-- The second of three messages is refused by the link, and the bits of the two that reach the device
are the same. -/
theorem flip_repeats_after_refusal :
    ∃ first second third, (resume {} ⟨0⟩ .clear).steps (.refusing 1)
        [.call (.sendOnly ⟨0x0001, []⟩), .call (.sendOnly ⟨0x0002, []⟩),
          .call (.sendOnly ⟨0x0003, []⟩)] { device := 0 } = [first, second, third] ∧
      Trace.accepted second.events = [] ∧
      (∃ reason next, second.returned = some (.error reason, next) ∧
        next.nextFlip = second.session.nextFlip.toggled) ∧
      (∃ packet : Packet, Trace.accepted first.events = [packet.bytes] ∧ packet.flip = .clear) ∧
      ∃ packet : Packet, Trace.accepted third.events = [packet.bytes] ∧ packet.flip = .clear := by
  refine ⟨_, _, _, rfl, rfl, ⟨_, _, rfl, rfl⟩, ?_, ?_⟩
  · exact ⟨⟨.clear, false, 0, 0, [0x01, 0x00, 0x00, 0x00], _, rfl⟩, rfl, rfl⟩
  · exact ⟨⟨.clear, false, 0, 0, [0x03, 0x00, 0x00, 0x00], _, rfl⟩, rfl, rfl⟩

end Session

end PacketLink
