import Federation.Uuid

/-!
# Who and what is named

The members of a federation, the data they hold, and the tasks and plans that run on it, each with
a key of its own type. The keys of data are given by whoever registers the data. The keys of tasks
and plans are drawn as they come into being, so that no two draws give the same key, or given when
a plan is written by hand.

* `TaskKey.drawn_injective`: different draws give different keys;
* `ParticipantId.not_lt_self`: the order of the members is strict.
-/

namespace Federation

/-- The index of a round. Rounds start at zero. -/
abbrev Round := UInt32

/-- The identity of a member of the federation. -/
structure ParticipantId where
  text : String
  deriving DecidableEq, Inhabited

namespace ParticipantId

/-- The bytes of the identity's text. -/
def bytes (p : ParticipantId) : List UInt8 :=
  p.text.toByteArray.toList

/-- Members are ordered by the bytes of their identities. -/
instance : LT ParticipantId :=
  ⟨fun p q => p.bytes < q.bytes⟩

instance : DecidableLT ParticipantId :=
  fun p q => inferInstanceAs (Decidable (p.bytes < q.bytes))

theorem lt_def (p q : ParticipantId) : p < q ↔ p.bytes < q.bytes := Iff.rfl

theorem not_lt_self (p : ParticipantId) : ¬ p < p := by
  rw [lt_def]
  exact List.lt_irrefl _

end ParticipantId

/-- The key of a dataset. -/
structure DatasetKey where
  id : Uuid
  deriving DecidableEq, Inhabited

/-- The key of a data sample. -/
structure SampleKey where
  id : Uuid
  deriving DecidableEq, Inhabited

/-- The key of a metric. -/
structure MetricKey where
  id : Uuid
  deriving DecidableEq, Inhabited

/-- The key of a task of a compute plan. -/
inductive TaskKey
  /-- Drawn when an operation is registered; the number counts the draws. -/
  | drawn (serial : Nat)
  /-- Given by the author of a plan. -/
  | given (id : Uuid)
  deriving DecidableEq, Inhabited

/-- The key of a compute plan. -/
inductive PlanKey
  /-- Drawn when a plan is accepted; the number counts the draws. -/
  | drawn (serial : Nat)
  /-- Given by another backend. -/
  | given (id : Uuid)
  deriving DecidableEq, Inhabited

/-- The written form of a dataset's key. -/
def DatasetKey.text (k : DatasetKey) : String := k.id.text

/-- The written form of a sample's key. -/
def SampleKey.text (k : SampleKey) : String := k.id.text

/-- The written form of a metric's key. -/
def MetricKey.text (k : MetricKey) : String := k.id.text

/-- A drawn task is written by its letter and number. -/
def TaskKey.text : TaskKey → String
  | .drawn n => "T" ++ toString n
  | .given id => id.text

/-- A drawn plan is written by its letter and number. -/
def PlanKey.text : PlanKey → String
  | .drawn n => "P" ++ toString n
  | .given id => id.text

theorem TaskKey.drawn_injective {m n : Nat} (h : TaskKey.drawn m = .drawn n) : m = n :=
  TaskKey.drawn.inj h

end Federation
