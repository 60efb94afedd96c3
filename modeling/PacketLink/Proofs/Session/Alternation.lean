import Mathlib.Logic.Function.Iterate
import PacketLink.Link.Scripted
import PacketLink.Proofs.Session.FlipBits
import PacketLink.Proofs.Session.HandshakeFailures

namespace PacketLink

/-! The flip bit over whole runs of calls. The bit at a call is the first one, toggled as often as
the calls before it made a message into packets; whether those packets reached the link does not
matter. -/

namespace Consecutive

variable {session : Session} {step : Step} {earlier later : List Step}

theorem of_cons (consecutive : Consecutive session (step :: later)) :
    session = step.session ∧ (later = [] ∨
      ∃ outcome next, step.returned = some (outcome, next) ∧ Consecutive next later) := by
  cases consecutive with
  | last unreturned => exact ⟨rfl, .inl rfl⟩
  | cons returned following => exact ⟨rfl, .inr ⟨_, _, returned, following⟩⟩

theorem session_eq (consecutive : Consecutive session (earlier ++ step :: later))
    (lawful : ∀ other ∈ earlier, other.Lawful) :
    step.session.config = session.config ∧
      step.session.nextFlip = FlipBit.toggled^[earlier.countP Step.makes] session.nextFlip := by
  induction earlier generalizing session with
  | nil =>
      obtain ⟨rfl, -⟩ := consecutive.of_cons
      exact ⟨rfl, rfl⟩
  | cons first rest ih =>
      rcases consecutive.of_cons with ⟨rfl, none | ⟨outcome, next, returned, goesOn⟩⟩
      · simp at none
      have firstLawful := lawful first List.mem_cons_self
      obtain ⟨config, flip⟩ := ih goesOn fun other member =>
        lawful other (List.mem_cons_of_mem first member)
      refine ⟨config.trans (firstLawful.config outcome next returned), ?_⟩
      rw [flip, firstLawful.flip outcome next returned]
      cases makes : first.makes with
      | false => rw [List.countP_cons_of_neg (by simp [makes])]; rfl
      | true => rw [List.countP_cons_of_pos makes]; rfl

end Consecutive

namespace Step

end Step

namespace Session

variable {σ : Type}

theorem lawful_of_mem_steps {link : Link σ} {moves : List Move} {session : Session}
    {world : World σ} {step : Step} (member : step ∈ session.steps link moves world) :
    step.Lawful := by
  obtain ⟨call, start, before, rfl⟩ := exists_of_mem_steps member
  exact Step.of_lawful link start before call

/-- A session as it is opened, with the bit of its first message. -/
inductive Opened : Session → FlipBit → Prop
  | connected {σ : Type} {link : Link σ} {before after : World σ} {config : SessionConfig}
      {token : CancelToken} {probe : Message} {rounds : Nat} {session : Session}
      (ran : (connect config token probe rounds).on link before = (some (.ok session), after)) :
      Opened session .set
  | resumed (config : SessionConfig) (token : CancelToken) (next : FlipBit) :
      Opened (resume config token next) next

theorem connect_of_ok {link : Link σ} {before after : World σ} {config : SessionConfig}
    {token : CancelToken} {probe : Message} {rounds : Nat} {session : Session}
    (ran : (connect config token probe rounds).on link before = (some (.ok session), after)) :
    session = ⟨config, token, .set, true, config.readTimeout⟩ := by
  unfold connect at ran
  obtain ⟨next, _, greeted, logged⟩ := Attempt.ok_of_bind ran
  obtain rfl := handshake_flip greeted
  obtain ⟨_, _, -, returned⟩ := Attempt.ok_of_bind logged
  exact (Except.ok.inj (Option.some.inj (Prod.mk.inj returned).1)).symm

end Session

end PacketLink
