import PacketLink.Hid.Link
import PacketLink.Proofs.Link.Stretch

namespace PacketLink.Hid

/-! The reports that are written over an interface.

A `Ledger` is a view of a system on them. Whatever is run on the link, they are the reports of the
packets that the link was given, as long as the interface stays open. -/

/-- A view of a system on the reports that were written to it. -/
structure Ledger {σ : Type} (system : System σ) where
  written : σ → List Bytes
  write : ∀ report state, written (system.write report state).system = written state ++ [report]
  read : ∀ timeout state, written (system.read timeout state).system = written state

section Ledgers

variable {σ : Type} {system : System σ} (ledger : Ledger system)

/-- If the interface is open at the end, it was open all the time, and the packets that the link was
given on the way were written as reports. -/
def Ledger.Tallies (before after : World (Handle σ)) : Prop :=
  ∃ events, after.trace = before.trace ++ events ∧
    (after.device.isOpen = true → before.device.isOpen = true ∧
      ledger.written after.device.system =
        ledger.written before.device.system ++ (Trace.attempted events).map report)

theorem Ledger.written_drain (left dropped : Nat) (state : σ) (raises : Option CancelToken) :
    ledger.written (Handle.drain system left dropped state raises).system = ledger.written state := by
  induction left generalizing dropped state raises with
  | zero => rfl
  | succ left ih =>
      rw [Handle.drain]
      split
      · exact ledger.read 0 state
      · split
        · exact ledger.read 0 state
        · rw [ih, ledger.read]

namespace Ledger.Tallies

variable {ledger} {before middle after : World (Handle σ)}

theorem refl (world : World (Handle σ)) : ledger.Tallies world world :=
  ⟨#[], by simp, fun isOpen => ⟨isOpen, by simp [Trace.attempted]⟩⟩

theorem trans (first : ledger.Tallies before middle) (second : ledger.Tallies middle after) :
    ledger.Tallies before after := by
  obtain ⟨events, trace, written⟩ := first
  obtain ⟨more, traceLater, writtenLater⟩ := second
  refine ⟨events ++ more, by rw [traceLater, trace, Array.append_assoc], fun isOpen => ?_⟩
  obtain ⟨between, later⟩ := writtenLater isOpen
  obtain ⟨start, earlier⟩ := written between
  refine ⟨start, ?_⟩
  rw [later, earlier, Trace.attempted_append, List.map_append, List.append_assoc]

theorem call {α : Type} {event : Except LinkError α → Event} (reply : Reply (Handle σ) α)
    (packets : List Bytes) (attempted : Trace.attempted #[event reply.result] = packets)
    (written : reply.device.isOpen = true → before.device.isOpen = true ∧
      ledger.written reply.device.system =
        ledger.written before.device.system ++ packets.map report) :
    ledger.Tallies before (before.afterCall event reply) := by
  refine ⟨_, before.afterCall_trace event reply, fun isOpen => ?_⟩
  rw [Trace.attempted_append, Trace.attempted_notes, attempted]
  exact written isOpen

theorem of_push {event : Event} (device : after.device = before.device)
    (trace : after.trace = before.trace.push event) (silent : Trace.attempted #[event] = []) :
    ledger.Tallies before after := by
  refine ⟨#[event], by rw [trace, Array.push_eq_append], fun isOpen => ?_⟩
  rw [device] at isOpen ⊢
  exact ⟨isOpen, by rw [silent]; simp⟩

/-- One step of an action. A closed interface stays closed; over an open one all that is sent is
written. -/
theorem perform (interface : Interface) (effect : Effect) (before : World (Handle σ)) :
    ledger.Tallies before ((system.link interface).perform effect before).2 := by
  cases effect with
  | send packet =>
      apply call (Handle.send system packet before.device) [packet] rfl
      unfold Handle.send
      split
      · rename_i isOpen
        exact fun _ => ⟨isOpen, ledger.write _ _⟩
      · exact fun isOpen => absurd isOpen ‹_›
  | read timeout =>
      apply call (Handle.read system timeout before.device) [] rfl
      unfold Handle.read
      split
      · rename_i isOpen
        exact fun _ => ⟨isOpen, by simp [ledger.read]⟩
      · exact fun isOpen => absurd isOpen ‹_›
  | reset =>
      apply call (Handle.reset system interface.path before.device) [] rfl
      unfold Handle.reset
      split
      · rename_i isOpen
        dsimp only
        split
        · exact fun _ => ⟨isOpen, by simp [ledger.written_drain]⟩
        · exact fun _ => ⟨isOpen, by simp [ledger.written_drain]⟩
      · exact fun isOpen => absurd isOpen ‹_›
  | dispose =>
      apply call (Handle.dispose system interface.path before.device) [] rfl
      unfold Handle.dispose
      split
      · exact nofun
      · exact fun isOpen => absurd isOpen ‹_›
  | sleep span => exact of_push rfl rfl rfl
  | isCancelled token => exact refl before
  | now => exact refl before
  | note note => exact of_push rfl rfl rfl

theorem run {α : Type} (interface : Interface) (action : Action α) (before : World (Handle σ)) :
    ledger.Tallies before (action.run (system.link interface) before).2 := by
  induction action generalizing before with
  | done value => exact refl before
  | unfinished => exact refl before
  | step effect next ih =>
      rw [Action.run_step]
      exact (perform interface effect before).trans (ih _ _)

end Ledger.Tallies

theorem Ledger.written_of_exchanged {ε α : Type} {interface : Interface} {attempt : Attempt ε α}
    {before after : World (Handle σ)} {outcome : Option (Except ε α)} {sink : DebugSink}
    {sent received : List Bytes} {lines : List String}
    (ran : attempt.on (system.link interface) before = (outcome, after))
    (exchanged : Exchanged sink before after sent received lines)
    (isOpen : after.device.isOpen = true) :
    ledger.written after.device.system = ledger.written before.device.system ++ sent.map report := by
  have tallies : ledger.Tallies before (attempt.on (system.link interface) before).2 :=
    Tallies.run interface attempt.run before
  obtain ⟨events, trace, written⟩ := tallies
  obtain ⟨others, stretch, -⟩ := exchanged
  rw [ran] at trace written
  obtain rfl : others = events := (Array.append_right_inj _).mp (stretch.trace.symm.trans trace)
  rw [(written isOpen).2, stretch.attempted]

end Ledgers

end PacketLink.Hid
