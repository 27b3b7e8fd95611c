/-!
# Attempts

An attempt leaves a state behind whether or not it succeeds. Registering the operations of a round
is one: what was registered before an error stays registered.

* `Attempt.mapError_state`, `Attempt.map_state`: a change of the outcome leaves the state alone.
-/

namespace Federation

/-- A state that was reached, and what came of it. -/
structure Attempt (σ ε α : Type) where
  state : σ
  outcome : Except ε α

namespace Attempt

variable {σ τ ε δ α β : Type}

/-- Changes what comes of a success. -/
def map (f : α → β) (a : Attempt σ ε α) : Attempt σ ε β :=
  ⟨a.state, a.outcome.map f⟩

/-- Changes the error. -/
def mapError (f : ε → δ) (a : Attempt σ ε α) : Attempt σ δ α :=
  ⟨a.state, a.outcome.mapError f⟩

/-- Changes the state. -/
def mapState (f : σ → τ) (a : Attempt σ ε α) : Attempt τ ε α :=
  ⟨f a.state, a.outcome⟩

@[simp]
theorem map_state (f : α → β) (a : Attempt σ ε α) : (a.map f).state = a.state := rfl

@[simp]
theorem mapError_state (f : ε → δ) (a : Attempt σ ε α) : (a.mapError f).state = a.state := rfl

@[simp]
theorem mapState_outcome (f : σ → τ) (a : Attempt σ ε α) : (a.mapState f).outcome = a.outcome := rfl

end Attempt

end Federation
