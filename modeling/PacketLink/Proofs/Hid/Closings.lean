import PacketLink.Hid.Simulated
import PacketLink.Link.Monitored
import PacketLink.Proofs.Link.Lateness

namespace PacketLink.Hid

/-! How often an interface is closed.

`Closings` counts the times that a system closed one. Whatever is run on the link, with or without a
monitor: what was closed and what is still open make up the same number, and an interface stays open
as long as the link is not disposed of. -/

variable {σ α : Type} {system : System σ} {interface : Interface} {monitor : Option Monitor.Config}

section Open

variable (handle : Handle σ)

theorem Handle.send_isOpen (packet : Bytes) :
    (handle.send system packet).device.isOpen = handle.isOpen := by
  unfold Handle.send
  split
  · rename_i isOpen
    exact isOpen.symm
  · rfl

theorem Handle.read_isOpen (timeout : Duration) :
    (handle.read system timeout).device.isOpen = handle.isOpen := by
  unfold Handle.read
  split
  · rename_i isOpen
    exact isOpen.symm
  · rfl

theorem Handle.reset_isOpen (path : String) :
    (handle.reset system path).device.isOpen = handle.isOpen := by
  unfold Handle.reset
  split
  · rename_i isOpen
    dsimp only
    split
    · exact isOpen.symm
    · exact isOpen.symm
  · rfl

theorem Handle.dispose_isOpen (path : String) :
    (handle.dispose system path).device.isOpen = false := by
  unfold Handle.dispose
  split
  · rfl
  · rename_i closed
    exact Bool.eq_false_iff.mpr closed

theorem System.perform_isOpen {effect : Effect} (kept : effect ≠ .dispose)
    (world : World (Handle σ)) :
    (((system.link interface).monitoredBy monitor).perform effect world).2.device.isOpen =
      world.device.isOpen := by
  cases monitor <;> cases effect with
  | send packet => exact world.device.send_isOpen packet
  | read timeout => exact world.device.read_isOpen timeout
  | reset => exact world.device.reset_isOpen interface.path
  | dispose => exact absurd rfl kept
  | _ => rfl

/-- An interface is closed by nothing but a disposal of the link. -/
theorem System.run_isOpen (action : Action α) (token : CancelToken) (world : World (Handle σ))
    (undisposed : ∀ call ∈ action.calls ((system.link interface).monitoredBy monitor) token world,
      ∀ result, call.event ≠ .dispose result) :
    (action.run ((system.link interface).monitoredBy monitor) world).2.device.isOpen =
      world.device.isOpen := by
  induction action generalizing world with
  | done value => rfl
  | unfinished => rfl
  | step effect next ih =>
      have kept : effect ≠ .dispose := by
        rintro rfl
        exact undisposed _ List.mem_cons_self _ rfl
      rw [Action.run_step, ih _ _ fun call member => undisposed call (List.mem_append_right _ member)]
      exact System.perform_isOpen kept world

end Open

/-- A count of the closings of a system, which nothing else changes. -/
structure Closings {σ : Type} (system : System σ) where
  count : σ → Nat
  openPath : ∀ path state, count (system.openPath path state).system = count state
  write : ∀ report state, count (system.write report state).system = count state
  read : ∀ timeout state, count (system.read timeout state).system = count state
  close : ∀ state, count (system.close state) = count state + 1

namespace Closings

variable (closings : Closings system)

theorem count_openFirst (vid pid : UInt16) (state : σ) :
    closings.count (system.openFirst vid pid state).system = closings.count state := by
  unfold System.openFirst
  split
  · rfl
  · dsimp only
    split
    · rfl
    · dsimp only
      unfold System.openInterface
      split
      · rfl
      · dsimp only
        split
        · exact closings.openPath _ _
        · exact closings.openPath _ _

theorem count_drain (left dropped : Nat) (state : σ) (raises : Option CancelToken) :
    closings.count (Handle.drain system left dropped state raises).system = closings.count state := by
  induction left generalizing dropped state raises with
  | zero => rfl
  | succ left ih =>
      rw [Handle.drain]
      split
      · exact closings.read 0 state
      · split
        · exact closings.read 0 state
        · rw [ih, closings.read]

/-- The closings so far, and one to come while the interface is open. -/
def due (handle : Handle σ) : Nat := closings.count handle.system + handle.isOpen.toNat

theorem count_release (handle : Handle σ) :
    closings.count (handle.release system) = closings.due handle := by
  unfold Handle.release due
  split
  · rename_i isOpen
    rw [closings.close, isOpen]
    rfl
  · rename_i closed
    rw [Bool.eq_false_iff.mpr closed]
    rfl

theorem due_send (packet : Bytes) (handle : Handle σ) :
    closings.due (handle.send system packet).device = closings.due handle := by
  rw [due, due, handle.send_isOpen]
  unfold Handle.send
  split
  · rw [closings.write]
  · rfl

theorem due_read (timeout : Duration) (handle : Handle σ) :
    closings.due (handle.read system timeout).device = closings.due handle := by
  rw [due, due, handle.read_isOpen]
  unfold Handle.read
  split
  · rw [closings.read]
  · rfl

theorem due_reset (path : String) (handle : Handle σ) :
    closings.due (handle.reset system path).device = closings.due handle := by
  rw [due, due, handle.reset_isOpen]
  unfold Handle.reset
  split
  · dsimp only
    split
    · rw [closings.count_drain]
    · rw [closings.count_drain]
  · rfl

theorem due_dispose (path : String) (handle : Handle σ) :
    closings.due (handle.dispose system path).device = closings.due handle := by
  unfold Handle.dispose
  split
  · rename_i isOpen
    rw [due, due, closings.close, isOpen]
    rfl
  · rfl

theorem perform_due (effect : Effect) (world : World (Handle σ)) :
    closings.due (((system.link interface).monitoredBy monitor).perform effect world).2.device =
      closings.due world.device := by
  cases monitor <;> cases effect with
  | send packet => exact closings.due_send packet world.device
  | read timeout => exact closings.due_read timeout world.device
  | reset => exact closings.due_reset interface.path world.device
  | dispose => exact closings.due_dispose interface.path world.device
  | _ => rfl

theorem run_due (action : Action α) (world : World (Handle σ)) :
    closings.due (action.run ((system.link interface).monitoredBy monitor) world).2.device =
      closings.due world.device := by
  induction action generalizing world with
  | done value => rfl
  | unfinished => rfl
  | step effect next ih =>
      rw [Action.run_step, ih]
      exact closings.perform_due effect world

def simulated : Closings System.simulated where
  count := Simulation.closed
  openPath path state := by
    simp only [System.simulated, Simulation.openPath]
    split <;> rfl
  write report state := by
    simp only [System.simulated, Simulation.write]
    split <;> rfl
  read timeout state := by
    simp only [System.simulated, Simulation.read]
    split <;> rfl
  close _ := rfl

end Closings

end PacketLink.Hid
