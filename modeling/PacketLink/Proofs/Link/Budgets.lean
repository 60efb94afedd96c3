import PacketLink.Link.Scripted
import PacketLink.Proofs.Link.CallSequences

namespace PacketLink

/-! Links that have a finite number of read results left, and time out from then on.

`Spends` says that an attempt finishes on such a link, and bounds its reads and sends by what is left.
Its rules follow the steps of an attempt; an attempt that `Idles` neither reads nor sends. -/

namespace Trace

def reads (trace : Array Event) : Nat := (timeouts trace).length

def tries (trace : Array Event) : Nat := (attempted trace).length

variable (trace events : Array Event) (notes : List Note) (event : Event)

@[simp] theorem reads_append : reads (trace ++ events) = reads trace + reads events := by
  simp [reads, timeouts]

@[simp] theorem tries_append : tries (trace ++ events) = tries trace + tries events := by
  simp [tries]

theorem reads_called : reads (called notes event) = reads #[event] := by
  rw [called, reads_append]
  simp [reads, timeouts]

theorem tries_called : tries (called notes event) = tries #[event] := by
  rw [called, tries_append]
  simp [tries]

end Trace

/-- `left` bounds the read results that a device has left. Without any, reads time out. Sends and
resets may fail in any way. -/
structure Link.Expires {σ : Type} (link : Link σ) (left : σ → Nat → Prop) : Prop where
  send : ∀ {device : σ} {count : Nat} (packet : Bytes), left device count →
    left (link.send packet device).device count
  read : ∀ {device : σ} {count : Nat} (timeout : Duration), left device count →
    left (link.read timeout device).device (count - 1)
  reset : ∀ {device : σ} {count : Nat}, left device count → left (link.reset device).device count
  silent : ∀ {device : σ} (timeout : Duration), left device 0 →
    (link.read timeout device).result = .error .timeout

/-- At most so many answers to reads are ahead on the script of a link that is open. -/
def Script.Holds (script : Script) (count : Nat) : Prop :=
  script.disposed = false ∧ script.reads.length ≤ count

theorem Link.scripted_expires : Link.scripted.Expires Script.Holds where
  send := by
    intro script count packet holds
    obtain ⟨usable, few⟩ := holds
    simp only [Link.scripted, Script.send, usable, Bool.false_eq_true, ↓reduceIte]
    split
    · exact ⟨rfl, few⟩
    · exact ⟨rfl, few⟩
  read := by
    intro script count timeout holds
    obtain ⟨usable, few⟩ := holds
    have shorter := Nat.sub_le_sub_right few 1
    rw [← List.length_tail] at shorter
    simp only [Link.scripted, Script.read, usable, Bool.false_eq_true, ↓reduceIte]
    exact ⟨rfl, shorter⟩
  reset holds := holds
  silent := by
    intro script timeout holds
    obtain ⟨usable, few⟩ := holds
    have ended : script.reads = [] := List.length_eq_zero_iff.mp (Nat.le_zero.mp few)
    simp [Link.scripted, Script.read, Script.nextRead, usable, ended]

namespace Link.Expires

section Triples

variable {σ ε α : Type} {link : Link σ} {left : σ → Nat → Prop}

/-- Wherever `count` read results are left, the attempt finishes, and `post` holds of how it ended and
of the numbers of its reads and sends. -/
def Spends (_ : link.Expires left) (attempt : Attempt ε α) (count : Nat)
    (post : Except ε α → (reads sends : Nat) → Prop) : Prop :=
  ∀ before, left before.device count → ∃ ended after events,
    attempt.on link before = (some ended, after) ∧ after.trace = before.trace ++ events ∧
    left after.device (count - Trace.reads events) ∧
    post ended (Trace.reads events) (Trace.tries events)

/-- The attempt finishes without a read or a send. -/
def Idles (expires : link.Expires left) (attempt : Attempt ε α) : Prop :=
  ∀ count, expires.Spends attempt count fun _ reads sends => reads = 0 ∧ sends = 0

/-- Sends nothing, and reads what is left and once more at most; where it is served, it made do with
what is left. -/
structure Takes (served : Except ε α → Prop) (count : Nat) (ended : Except ε α) (reads sends : Nat) :
    Prop where
  unsent : sends = 0
  bounded : reads ≤ count + 1
  used : served ended → 0 < reads ∧ reads ≤ count

end Triples

variable {σ ε ε' α β : Type} {link : Link σ} {left : σ → Nat → Prop} {expires : link.Expires left}
  {count : Nat}

namespace Takes

variable {served : Except ε α → Prop} {ended : Except ε α} {more sends : Nat}

theorem nothing (unserved : ¬ served ended) : Takes served count ended 0 0 :=
  ⟨rfl, Nat.zero_le _, fun served => absurd served unserved⟩

/-- A read that used up one of the results comes first. -/
theorem after_read (available : 0 < count) (later : Takes served (count - 1) ended more sends) :
    Takes served count ended (1 + more) (0 + sends) := by
  obtain ⟨unsent, bounded, used⟩ := later
  constructor
  · omega
  · omega
  · intro served
    have fewer := used served
    omega

end Takes

namespace Spends

variable {attempt : Attempt ε α} {next : α → Attempt ε β} {middle : Except ε α → Nat → Nat → Prop}
  {post : Except ε β → Nat → Nat → Prop}

theorem mono {weaker : Except ε α → Nat → Nat → Prop} (spends : expires.Spends attempt count middle)
    (implies : ∀ ended reads sends, middle ended reads sends → weaker ended reads sends) :
    expires.Spends attempt count weaker := by
  intro before bounded
  obtain ⟨ended, after, events, ran, trace, remains, holds⟩ := spends before bounded
  exact ⟨ended, after, events, ran, trace, remains, implies _ _ _ holds⟩

theorem bind (first : expires.Spends attempt count middle)
    (failed : ∀ reason reads sends, middle (.error reason) reads sends →
      post (.error reason) reads sends)
    (finished : ∀ value reads sends, middle (.ok value) reads sends →
      expires.Spends (next value) (count - reads) fun ended more sendsMore =>
        post ended (reads + more) (sends + sendsMore)) :
    expires.Spends (attempt >>= next) count post := by
  intro before bounded
  obtain ⟨ended, between, events, ran, trace, remains, holds⟩ := first before bounded
  rw [Attempt.on_bind, ran]
  cases ended with
  | error reason => exact ⟨_, between, events, rfl, trace, remains, failed reason _ _ holds⟩
  | ok value =>
      obtain ⟨last, after, more, ranLater, traceLater, remainsLater, holdsLater⟩ :=
        finished value _ _ holds between remains
      rw [Nat.sub_sub, ← Trace.reads_append] at remainsLater
      rw [← Trace.reads_append, ← Trace.tries_append] at holdsLater
      rw [trace, Array.append_assoc] at traceLater
      exact ⟨last, after, events ++ more, ranLater, traceLater, remainsLater, holdsLater⟩

theorem done {attempt : Attempt ε α} {ended : Except ε α} (immediate : attempt.run = .done ended)
    (holds : middle ended 0 0) : expires.Spends attempt count middle := by
  intro before bounded
  have ran : attempt.on link before = (some ended, before) := by
    rw [Attempt.on, immediate, Action.run_done]
  exact ⟨ended, before, #[], ran, Array.append_empty.symm, bounded, holds⟩

theorem outcome (spends : expires.Spends attempt count middle) :
    expires.Spends (attempt.outcome : Attempt ε' (Except ε α)) count fun looked reads sends =>
      ∃ ended, looked = .ok ended ∧ middle ended reads sends := by
  intro before bounded
  obtain ⟨ended, after, events, ran, trace, remains, holds⟩ := spends before bounded
  have looked : (attempt.outcome : Attempt ε' (Except ε α)).on link before =
      (some (.ok ended), after) := by
    rw [Attempt.on_outcome, ran]
    rfl
  exact ⟨.ok ended, after, events, looked, trace, remains, ended, rfl, holds⟩

section Calls

variable {γ : Type} {wrap : LinkError → ε} {packet : Bytes} {timeout : Duration}

theorem of_call {post : Except ε α → Nat → Nat → Prop}
    (answered : ∀ before, left before.device count →
      ∃ (call : Except LinkError γ → Event) (reply : Reply σ γ) (ended : Except ε α),
        attempt.on link before = (some ended, before.afterCall call reply) ∧
        left reply.device (count - Trace.reads #[call reply.result]) ∧
        post ended (Trace.reads #[call reply.result]) (Trace.tries #[call reply.result])) :
    expires.Spends attempt count post := by
  intro before bounded
  obtain ⟨call, reply, ended, ran, kept, holds⟩ := answered before bounded
  rw [← Trace.reads_called reply.notes] at kept holds
  rw [← Trace.tries_called reply.notes] at holds
  exact ⟨ended, _, _, ran, before.afterCall_trace call reply, kept, holds⟩

theorem send : expires.Spends (Attempt.of wrap (Action.send packet)) count
    fun _ reads sends => reads = 0 ∧ sends = 1 := by
  apply of_call
  intro before bounded
  exact ⟨.send packet, link.send packet before.device, _, Attempt.on_of link before wrap _,
    expires.send packet bounded, rfl, rfl⟩

theorem sendOutcome :
    expires.Spends (liftM (Action.send packet) : Attempt ε (Except LinkError Unit)) count
      fun _ reads sends => reads = 0 ∧ sends = 1 := by
  apply of_call
  intro before bounded
  exact ⟨.send packet, link.send packet before.device, _, Attempt.on_lift link before _,
    expires.send packet bounded, rfl, rfl⟩

/-- A read that delivers uses up a read result that was left. -/
theorem readOutcome :
    expires.Spends (liftM (Action.read timeout) : Attempt ε (Except LinkError Bytes)) count
      fun ended reads sends => reads = 1 ∧ sends = 0 ∧
        ∀ packet, ended = .ok (.ok packet) → 0 < count := by
  apply of_call
  intro before bounded
  refine ⟨.read timeout, link.read timeout before.device, _, Attempt.on_lift link before _,
    expires.read timeout bounded, rfl, rfl, ?_⟩
  intro packet delivered
  cases count with
  | succ fewer => exact Nat.succ_pos fewer
  | zero =>
      have answered := Except.ok.inj delivered
      rw [expires.silent timeout bounded] at answered
      cases answered

end Calls

end Spends

namespace Idles

variable {attempt : Attempt ε α} {next : α → Attempt ε β} {post : Except ε β → Nat → Nat → Prop}

/-- What comes after an idle part decides, unless that part fails. -/
theorem bind_spends (idles : expires.Idles attempt) (failed : ∀ reason, post (.error reason) 0 0)
    (rest : ∀ value, expires.Spends (next value) count post) :
    expires.Spends (attempt >>= next) count post := by
  apply Spends.bind (idles count)
  · intro reason reads sends none
    obtain ⟨rfl, rfl⟩ := none
    exact failed reason
  · intro value reads sends none
    obtain ⟨rfl, rfl⟩ := none
    apply (rest value).mono
    intro ended more sendsMore holds
    rw [Nat.zero_add, Nat.zero_add]
    exact holds

theorem bind (first : expires.Idles attempt) (second : ∀ value, expires.Idles (next value)) :
    expires.Idles (attempt >>= next) := by
  intro count
  exact first.bind_spends (fun _ => ⟨rfl, rfl⟩) fun value => second value count

theorem done {ended : Except ε α} (immediate : attempt.run = .done ended) : expires.Idles attempt :=
  fun _ => Spends.done immediate ⟨rfl, rfl⟩

theorem stop (token : CancelToken) (reason : ε) :
    expires.Idles (Attempt.stopIfCancelled token reason) := by
  intro count before bounded
  exact ⟨_, before, #[], Attempt.on_stopIfCancelled _ _ _ _, Array.append_empty.symm, bounded, rfl, rfl⟩

theorem note (note : Note) : expires.Idles (liftM (Action.note note) : Attempt ε Unit) := by
  intro count before bounded
  exact ⟨.ok (), before.record (.note note), #[.note note], Attempt.on_lift link before _,
    before.record_trace _, bounded, rfl, rfl⟩

theorem sleep (span : Duration) : expires.Idles (liftM (Action.sleep span) : Attempt ε Unit) := by
  intro count before bounded
  exact ⟨.ok (), { before.record (.sleep span) with clock := before.clock + span }, #[.sleep span],
    Attempt.on_lift link before _, before.record_trace _, bounded, rfl, rfl⟩

theorem wait (span : Duration) : expires.Idles (liftM (Action.wait span) : Attempt ε Unit) := by
  unfold Action.wait
  split
  · exact done rfl
  · exact sleep span

theorem reset : expires.Idles (liftM Action.reset : Attempt ε (Except LinkError Unit)) := by
  intro count
  apply Spends.of_call
  intro before bounded
  exact ⟨.reset, link.reset before.device, _, Attempt.on_lift link before _, expires.reset bounded,
    rfl, rfl⟩

end Idles

end Link.Expires

end PacketLink
