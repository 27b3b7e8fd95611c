import Federation.Graph.Operation

/-!
# Graphs of operations

A graph is the sequence of the operations of an experiment, in the order in which they will be
submitted. An operation is known by its position, and it may only consume results of operations
before it, each of the kind that produces such a result. So a graph has no cycles.

* `Graph.fault?_eq_none_iff`: an input has no fault exactly when it names an earlier operation of
  the right kind;
* `Graph.get?_append_of_lt`, `Graph.get?_append_size`: adding an operation moves no other.
-/

namespace Federation

/-- Why an operation cannot be part of a graph. -/
inductive GraphError
  /-- An input does not come from an earlier operation. -/
  | forwardReference (operation input : OperationId)
  /-- An input comes from an operation of the wrong kind. -/
  | kindMismatch (input : OperationId) (expected found : OperationKind)
  deriving DecidableEq

/-- What is said about an operation that cannot be part of a graph. -/
def GraphError.message : GraphError → String
  | .forwardReference operation input =>
    input.text ++ " is not produced by an operation preceding " ++ operation.text
  | .kindMismatch input expected found =>
    input.text ++ " is a " ++ found.name ++ " operation but a " ++ expected.name ++
      " operation was expected"

/-- The operations of an experiment, in order. -/
structure Graph where
  operations : Array Operation

namespace Graph

/-- The graph without operations. -/
def empty : Graph :=
  ⟨#[]⟩

/-- The number of operations. -/
def size (g : Graph) : Nat :=
  g.operations.size

/-- The operation at a position. -/
def get? (g : Graph) (id : OperationId) : Option Operation :=
  g.operations[id.index]?

/-- The operations in order. -/
def toList (g : Graph) : List Operation :=
  g.operations.toList

/-- The operations of one kind, in order. -/
def ofKind (g : Graph) (k : OperationKind) : List Operation :=
  g.toList.filter fun op => op.kind = k

/-- What is wrong with an input of the operation at a position, if anything. -/
def fault? (g : Graph) (operation : OperationId) (input : OperationInput) : Option GraphError :=
  let producer := input.producer
  if operation.index ≤ producer.index then some (.forwardReference operation producer)
  else
    match g.get? producer with
    | none => some (.forwardReference operation producer)
    | some op =>
      if op.kind = input.producerKind then none
      else some (.kindMismatch producer input.producerKind op.kind)

/-- The first thing that is wrong with the inputs of an operation. -/
def firstFault? (g : Graph) (operation : OperationId) (inputs : List OperationInput) :
    Option GraphError :=
  inputs.findSome? (g.fault? operation)

/-- The first thing that is wrong with a graph: every operation must consume results of earlier
operations of the right kinds. -/
def invalid? (g : Graph) : Option GraphError :=
  g.toList.findSome? fun op => g.firstFault? op.id op.inputs

/-- Adds an operation at the end. -/
def append (g : Graph) (op : Operation) : Graph :=
  ⟨g.operations.push op⟩

theorem fault?_eq_none_iff (g : Graph) (operation : OperationId) (input : OperationInput) :
    g.fault? operation input = none ↔
      input.producer.index < operation.index ∧
        ∃ op, g.get? input.producer = some op ∧ op.kind = input.producerKind := by
  unfold fault?
  by_cases h : operation.index ≤ input.producer.index
  · simp only [h, if_true, reduceCtorEq, false_iff, not_and]
    omega
  · have h' : input.producer.index < operation.index := by omega
    simp only [h, if_false, h', true_and]
    cases g.get? input.producer with
    | none => simp
    | some op => by_cases hk : op.kind = input.producerKind <;> simp [hk]

@[simp]
theorem size_append (g : Graph) (op : Operation) : (g.append op).size = g.size + 1 := by
  simp [append, size]

@[simp]
theorem toList_append (g : Graph) (op : Operation) : (g.append op).toList = g.toList ++ [op] := by
  simp [append, toList]

theorem get?_append_of_lt (g : Graph) (op : Operation) {id : OperationId}
    (h : id.index < g.size) : (g.append op).get? id = g.get? id := by
  simp only [get?, append]
  rw [Array.getElem?_push_lt h]
  exact (Array.getElem?_eq_getElem h).symm

theorem get?_append_size (g : Graph) (op : Operation) :
    (g.append op).get? ⟨g.size⟩ = some op := by
  simp [get?, append, size]

end Graph

end Federation
