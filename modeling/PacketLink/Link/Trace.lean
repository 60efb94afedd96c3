import PacketLink.Link.World

namespace PacketLink.Trace

/-! Views of a trace: the events of one kind, in their order. -/

variable (trace : Array Event)

def accepted : List Bytes :=
  trace.toList.filterMap fun
    | .send packet (.ok ()) => some packet
    | _ => none

def delivered : List Bytes :=
  trace.toList.filterMap fun
    | .read _ (.ok packet) => some packet
    | _ => none

def timeouts : List Duration :=
  trace.toList.filterMap fun
    | .read timeout _ => some timeout
    | _ => none

def sleeps : List Duration :=
  trace.toList.filterMap fun
    | .sleep span => some span
    | _ => none

def notes : List Note :=
  trace.toList.filterMap fun
    | .note note => some note
    | _ => none

def log : List Log.Entry :=
  (notes trace).filterMap fun
    | .log entry => some entry
    | _ => none

/-- The lines of debug text that went to a session's sink. -/
def debugLines : List String :=
  (notes trace).filterMap fun
    | .debugText line => some line
    | _ => none

def rates : List Throughput.Rate :=
  (notes trace).filterMap fun
    | .rate rate => some rate
    | _ => none

def monitorLines : List String :=
  (notes trace).filterMap fun
    | .monitor line => some line
    | _ => none

def output : List String := (notes trace).filterMap Note.outputLine?

end PacketLink.Trace
