import PacketLink.Link.Scripted
import PacketLink.Proofs.Link.Monitoring
import PacketLink.Proofs.Session.Calls

namespace PacketLink

/-! Sequences of operations on one link.

Sessions are opened, and calls are made on them. What comes next may depend on all that was returned
before. -/

inductive Operation where
  | connect (config : SessionConfig) (token : CancelToken) (probe : Message) (rounds : Nat)
  | call (session : Session) (call : Call)

namespace Operation

abbrev Returned : Operation → Type
  | .connect .. => Except HandshakeError Session
  | .call _ made => Except ExchangeError made.Value × Session

def action : (operation : Operation) → Action operation.Returned
  | .connect config token probe rounds => (Session.connect config token probe rounds).run
  | .call session made => made.action session

end Operation

/-- Operations one after the other; a token may be raised from outside between two of them. -/
inductive Plan where
  | done
  | perform (operation : Operation) (next : operation.Returned → Plan)
  | cancel (token : CancelToken) (next : Plan)

/-- An operation, and what it returned with the session that it left, if it returned. -/
structure Episode where
  operation : Operation
  returned : Option operation.Returned

namespace Plan

variable {σ : Type}

/-- What the operations return, up to the first that does not, and the world after them. -/
def play (link : Link σ) : Plan → World σ → List Episode × World σ
  | .done, world => ([], world)
  | .cancel token next, world => next.play link { world with raised := token :: world.raised }
  | .perform operation next, world =>
      match operation.action.run link world with
      | (none, after) => ([⟨operation, none⟩], after)
      | (some returned, after) =>
          let (later, final) := (next returned).play link after
          (⟨operation, some returned⟩ :: later, final)

variable {config : Monitor.Config} {start : Array Event}

/-- By the operations: each of them is a run of its own, and the next is chosen alike. -/
theorem play_watched (plan : Plan) (link : Link σ) {direct monitored : World σ}
    (watched : World.Watched config start direct monitored) :
    (plan.play (link.monitored config) monitored).1 = (plan.play link direct).1 ∧
      World.Watched config start (plan.play link direct).2
        (plan.play (link.monitored config) monitored).2 := by
  induction plan generalizing direct monitored with
  | done => exact ⟨rfl, watched⟩
  | cancel token next ih =>
      have raised := congrArg (token :: ·) watched.raised
      exact ih ⟨watched.device, watched.clock, raised, watched.printed⟩
  | perform operation next ih =>
      obtain ⟨same, after⟩ := operation.action.run_monitored link watched
      cases ranMonitored : operation.action.run (link.monitored config) monitored with
      | mk returnedMonitored afterMonitored =>
          cases ran : operation.action.run link direct with
          | mk returned afterDirect =>
              rw [ran, ranMonitored] at same after
              obtain rfl : returned = returnedMonitored := same.symm
              simp only [play, ran, ranMonitored]
              cases returned with
              | none => exact ⟨rfl, after⟩
              | some returned =>
                  obtain ⟨sameLater, afterLater⟩ := ih returned after
                  exact ⟨congrArg (⟨operation, some returned⟩ :: ·) sameLater, afterLater⟩

/-- A monitor changes nothing that is returned, asked of the link or left behind, and prints what
crosses the link and nothing else. In JSON that is one object for each packet shown, and a reader of JSON
finds the packet's members in it. -/
theorem play_monitored (plan : Plan) (link : Link σ) (config : Monitor.Config) (before : World σ) :
    (plan.play (link.monitored config) before).1 = (plan.play link before).1 ∧
    (plan.play (link.monitored config) before).2.device = (plan.play link before).2.device ∧
    (plan.play (link.monitored config) before).2.clock = (plan.play link before).2.clock ∧
    (plan.play (link.monitored config) before).2.raised = (plan.play link before).2.raised ∧
    ∃ events more lines,
      (plan.play link before).2.trace = before.trace ++ events ∧
      (plan.play (link.monitored config) before).2.trace = before.trace ++ more ∧
      Trace.calls more = Trace.calls events ∧
      Printed lines events.toList more.toList ∧
      (Trace.monitorLines events = [] → Trace.monitorLines more = lines) ∧
      (config.format = .json →
        lines = (Monitor.shown config (Trace.crossings events)).map (fun decoded =>
          Json.compact decoded.members) ∧
        lines.map Json.object? = (Monitor.shown config (Trace.crossings events)).map fun decoded =>
          some decoded.members) := by
  obtain ⟨returned, watched⟩ := plan.play_watched link (World.Watched.refl before)
  obtain ⟨events, more, trace, traceMonitored, printed⟩ := watched.printed
  exact ⟨returned, watched.device, watched.clock, watched.raised, events, more, _, trace,
    traceMonitored, Trace.calls_of_printed printed, printed, printed.lines_eq, fun json =>
    ⟨Monitor.transcript_compact _ json, Monitor.map_object?_transcript _ json⟩⟩

/-- Two pings, the second one on the session that the first one left. -/
def pings (session : Session) : Plan :=
  .perform (.call session (.request (.empty .ping) false 3)) fun (_, next) =>
    .perform (.call next (.request (.empty .ping) false 3)) fun _ => .done

/-- The link refuses the first ping, whose packet is printed all the same. -/
theorem play_monitored_past_refusal :
    ∃ watching : List Episode × World Script,
      (pings (.resume {} ⟨0⟩ .set)).play (Link.scripted.monitored ⟨false, .all, .json⟩)
        { device := { failingSends := 1, reads := [.packet [4, 0, 1, 0, 0, 0]] } } = watching ∧
      watching.1 = ((pings (.resume {} ⟨0⟩ .set)).play Link.scripted
        { device := { failingSends := 1, reads := [.packet [4, 0, 1, 0, 0, 0]] } }).1 ∧
      Trace.monitorLines watching.2.trace =
        ["\x7b\"direction\":\"tx\",\"reset_marker\":false,\"flip\":true,\"ack\":false,\"index\":0," ++
            "\"total\":1,\"payload_len\":4,\"command\":1,\"length\":0\x7d",
          "\x7b\"direction\":\"tx\",\"reset_marker\":false,\"flip\":false,\"ack\":false,\"index\":0," ++
            "\"total\":1,\"payload_len\":4,\"command\":1,\"length\":0\x7d",
          "\x7b\"direction\":\"rx\",\"reset_marker\":false,\"flip\":false,\"ack\":false,\"index\":0," ++
            "\"total\":1,\"payload_len\":4,\"command\":1,\"length\":0\x7d"] := by
  obtain ⟨returned, -, -, -, events, more, lines, trace, watched, -, -, printed, json⟩ :=
    (pings (.resume {} ⟨0⟩ .set)).play_monitored Link.scripted ⟨false, .all, .json⟩
      { device := { failingSends := 1, reads := [.packet [4, 0, 1, 0, 0, 0]] } }
  rw [Array.empty_append] at trace watched
  have unprinted : Trace.monitorLines events = [] := by
    rw [← trace]
    rfl
  refine ⟨_, rfl, returned, ?_⟩
  rw [watched, printed unprinted, (json rfl).1, ← trace]
  rfl

end Plan

end PacketLink
