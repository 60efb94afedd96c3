import PacketLink.Link.Trace

namespace PacketLink

/-! Views of traces that were put together from pieces. -/

/-- The line that a note puts into the sink. -/
def DebugSink.line? : DebugSink → Note → Option String
  | .log, .log (.deviceText text) => some text
  | .lines, .debugText text => some text
  | _, _ => none

/-- The note that puts a line into the sink. -/
def DebugSink.note : DebugSink → String → Note
  | .log, text => .log (.deviceText text)
  | .lines, text => .debugText text

theorem DebugSink.line?_note (sink : DebugSink) (text : String) :
    sink.line? (sink.note text) = some text := by
  cases sink <;> rfl

namespace Trace

/-- The packets that the link was given to send, accepted or not. -/
def attempted (trace : Array Event) : List Bytes :=
  trace.toList.filterMap fun
    | .send packet _ => some packet
    | _ => none

/-- All packets that the link was given to send, each with the link's answer. -/
def sends (trace : Array Event) : List (Bytes × Except LinkError Unit) :=
  trace.toList.filterMap fun
    | .send packet result => some (packet, result)
    | _ => none

/-- What the host asked of the link, and the answers. -/
def calls (trace : Array Event) : List Event :=
  trace.toList.filter fun
    | .send .. | .read .. | .reset _ | .dispose _ => true
    | .sleep _ | .note _ => false

/-- The events of one call of the link. -/
def called (notes : List Note) (event : Event) : Array Event :=
  (notes.map Event.note).toArray ++ #[event]

/-- The lines of debug text that went to the sink. -/
def lines (sink : DebugSink) (trace : Array Event) : List String :=
  (notes trace).filterMap sink.line?

section Pieces

variable (trace events : Array Event)

@[simp] theorem accepted_append : accepted (trace ++ events) = accepted trace ++ accepted events := by
  simp [accepted]

@[simp] theorem attempted_append :
    attempted (trace ++ events) = attempted trace ++ attempted events := by
  simp [attempted]

@[simp] theorem delivered_append :
    delivered (trace ++ events) = delivered trace ++ delivered events := by
  simp [delivered]

@[simp] theorem sends_append : sends (trace ++ events) = sends trace ++ sends events := by
  simp [sends]

@[simp] theorem calls_append : calls (trace ++ events) = calls trace ++ calls events := by
  simp [calls]

@[simp] theorem lines_append (sink : DebugSink) :
    lines sink (trace ++ events) = lines sink trace ++ lines sink events := by
  simp [lines, notes]

end Pieces

@[simp] theorem accepted_notes (notes : List Note) :
    accepted (notes.map Event.note).toArray = [] := by
  simp [accepted]

@[simp] theorem attempted_notes (notes : List Note) :
    attempted (notes.map Event.note).toArray = [] := by
  simp [attempted]

@[simp] theorem delivered_notes (notes : List Note) :
    delivered (notes.map Event.note).toArray = [] := by
  simp [delivered]

@[simp] theorem sends_notes (notes : List Note) : sends (notes.map Event.note).toArray = [] := by
  simp [sends]

@[simp] theorem calls_notes (notes : List Note) : calls (notes.map Event.note).toArray = [] := by
  simp [calls]

@[simp] theorem lines_notes (sink : DebugSink) (left : List Note) :
    lines sink (left.map Event.note).toArray = left.filterMap sink.line? := by
  have unwrapped : notes (left.map Event.note).toArray = left := by
    simp only [notes, List.filterMap_map]
    exact List.filterMap_some
  rw [lines, unwrapped]

section Calls

variable (notes : List Note)

@[simp] theorem sends_send (packet : Bytes) (result : Except LinkError Unit) :
    sends (called notes (.send packet result)) = [(packet, result)] := by
  rw [called, sends_append, sends_notes]
  rfl

@[simp] theorem sends_read (timeout : Duration) (result : Except LinkError Bytes) :
    sends (called notes (.read timeout result)) = [] := by
  rw [called, sends_append, sends_notes]
  rfl

@[simp] theorem delivered_send (packet : Bytes) (result : Except LinkError Unit) :
    delivered (called notes (.send packet result)) = [] := by
  rw [called, delivered_append, delivered_notes]
  rfl

end Calls

theorem attempted_eq (trace : Array Event) : attempted trace = (sends trace).map Prod.fst := by
  rw [attempted, sends, List.map_filterMap]
  congr 1
  funext event
  cases event <;> rfl

theorem accepted_eq (trace : Array Event) :
    accepted trace = (sends trace).filterMap fun
      | (packet, .ok ()) => some packet
      | (_, .error _) => none := by
  rw [accepted, sends, List.filterMap_filterMap]
  congr 1
  funext event
  cases event with
  | send packet result => cases result <;> rfl
  | _ => rfl

theorem accepted_of_sends {trace : Array Event} {packets : List Bytes}
    {last : List (Bytes × Except LinkError Unit)}
    (sent : sends trace = packets.map (·, .ok ()) ++ last)
    (refused : last = [] ∨ ∃ packet reason, last = [(packet, .error reason)]) :
    accepted trace = packets := by
  have kept : (packets.map fun packet => (packet, (.ok () : Except LinkError Unit))).filterMap (fun
      | (packet, .ok ()) => some packet
      | (_, .error _) => none) = packets := by
    rw [List.filterMap_map]
    exact List.filterMap_some
  rw [accepted_eq, sent, List.filterMap_append, kept]
  rcases refused with rfl | ⟨packet, reason, rfl⟩
  · exact List.append_nil _
  · exact List.append_nil _

end Trace

end PacketLink
