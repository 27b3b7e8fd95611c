import Federation.Averaging
import Federation.Identity
import Federation.Json.Basic
import Federation.Text.Quoted

/-!
# Training algorithms

An algorithm trains on the samples of a node and scores what a node has learned. It is the user's:
nothing in the description of an experiment runs it, and a plan only says when it is called and
with what. Here an algorithm is known by the number under which it was enrolled, its name and its
configuration; its behaviour is whatever answers its calls.

* `Call`: a call of an algorithm, with all that it is given;
* `Call.Reply`: what comes back, which is a failure or an answer of the call's own type.
-/

namespace Federation

/-- What a node has learned, private to the node. -/
structure LocalState where
  parameters : List Float
  deriving Inhabited

/-- Why an algorithm cannot train or score. -/
inductive AlgorithmError
  /-- A sample is not there. -/
  | missingData (sample : SampleKey)
  /-- The training failed. -/
  | training (reason : String)
  /-- The scoring failed. -/
  | scoring (reason : String)
  deriving DecidableEq

/-- What is said about a failure of an algorithm. -/
def AlgorithmError.message : AlgorithmError → String
  | .missingData sample => "data sample " ++ sample.text ++ " is not available"
  | .training reason => "training failed: " ++ reason
  | .scoring reason => "scoring failed: " ++ reason

/-- An algorithm as plans and operations know it. -/
structure Algorithm where
  /-- The number under which the algorithm was enrolled. -/
  number : Nat
  /-- The name under which it appears in plans. -/
  name : String
  /-- The configuration sent along with its name. -/
  config : Json
  deriving Inhabited

/-- The text that identifies an algorithm in diagnostics. -/
def Algorithm.debugText (a : Algorithm) : String :=
  "AlgoHandle(" ++ Quoted.text a.name ++ ")"

/-- A call of an algorithm. -/
inductive Call
  /-- Train on samples, from what the node learned before and the state that all nodes share. -/
  | train (algorithm : Algorithm) (samples : List SampleKey) (start : Option LocalState)
      (shared : Option (AveragedState Float))
  /-- Score what a node has learned on samples. -/
  | score (algorithm : Algorithm) (samples : List SampleKey) (state : LocalState)

namespace Call

/-- The algorithm that is called. -/
def algorithm : Call → Algorithm
  | .train a _ _ _ => a
  | .score a _ _ => a

/-- The samples that the call is about. -/
def samples : Call → List SampleKey
  | .train _ samples _ _ => samples
  | .score _ samples _ => samples

/-- What a successful call gives: training gives a state and an update to share, scoring gives a
score. -/
def Answer : Call → Type
  | .train .. => LocalState × SharedState Float
  | .score .. => Float

/-- What comes back from a call. -/
abbrev Reply (c : Call) : Type :=
  Except (Failure AlgorithmError) c.Answer

end Call

/-- A behaviour of algorithms: a reply to every call. -/
abbrev Answers : Type :=
  (c : Call) → c.Reply

end Federation
