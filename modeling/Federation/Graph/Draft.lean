import Federation.Attempt
import Federation.Graph.Basic
import Federation.Notice

/-!
# Graphs under construction

While operations are registered, a recorder draws a key for each of them and keeps the notices of
what happens. A draft is a graph together with its recorder; one recorder serves many graphs, one
after the other, so that no key is drawn twice.

* `Draft.push` adds an operation at the end of the graph, under a new key;
* `Draft.push_of_fault`, `Draft.push_of_sound`: what becomes of the draft when an input has a fault,
  and when none has.
-/

namespace Federation

/-- Draws the keys of tasks and keeps the notices. -/
structure Recorder where
  /-- The number of keys drawn so far. -/
  drawn : Nat
  /-- The notices, in the order in which things happened. -/
  notices : Array Notice

namespace Recorder

/-- A recorder that has recorded nothing. -/
def new : Recorder :=
  ⟨0, #[]⟩

/-- Adds a notice. -/
def note (r : Recorder) (n : Notice) : Recorder :=
  { r with notices := r.notices.push n }

/-- Adds several notices. -/
def noteAll (r : Recorder) (ns : List Notice) : Recorder :=
  { r with notices := r.notices ++ ns }

end Recorder

/-- A graph under construction. -/
structure Draft where
  graph : Graph
  recorder : Recorder

namespace Draft

/-- Adds a notice. -/
def note (d : Draft) (n : Notice) : Draft :=
  { d with recorder := d.recorder.note n }

/-- The operation that would be added next with the given contents. -/
def next (d : Draft) (node : ParticipantId) (round : Round) (inputs : List OperationInput)
    (payload : OperationPayload) : Operation where
  id := ⟨d.graph.size⟩
  key := .drawn d.recorder.drawn
  node := node
  round := round
  inputs := inputs
  payload := payload

/-- The draft after an operation has been added and its key has been used. -/
def append (d : Draft) (op : Operation) : Draft where
  graph := d.graph.append op
  recorder :=
    { (d.recorder.note (.registering op.kind op.id op.round op.node)) with
      drawn := d.recorder.drawn + 1 }

/-- Adds an operation at the end, under a new key, unless one of its inputs has a fault. -/
def push (d : Draft) (node : ParticipantId) (round : Round) (inputs : List OperationInput)
    (payload : OperationPayload) : Attempt Draft GraphError OperationId :=
  let op := d.next node round inputs payload
  match d.graph.firstFault? op.id inputs with
  | some e => ⟨d, .error e⟩
  | none => ⟨d.append op, .ok op.id⟩

variable {d : Draft} {node : ParticipantId} {round : Round} {inputs : List OperationInput}
  {payload : OperationPayload}

theorem push_of_fault {e : GraphError} (h : d.graph.firstFault? ⟨d.graph.size⟩ inputs = some e) :
    d.push node round inputs payload = ⟨d, .error e⟩ := by
  simp only [push, next, h]

theorem push_of_sound (h : d.graph.firstFault? ⟨d.graph.size⟩ inputs = none) :
    d.push node round inputs payload =
      ⟨d.append (d.next node round inputs payload), .ok ⟨d.graph.size⟩⟩ := by
  simp only [push, next, h]

end Draft

end Federation
