import Federation.Backend.Local
import Federation.Rehearsal.Behaviour
import Federation.Waiting.Watch

/-!
# Rehearsals

A rehearsal is a whole federation in one value: algorithms with a known behaviour, the local
backends that call them, and the notices of all that happens. The calls of each algorithm are
logged, and a call can be interfered with: it can be made to fail or to crash, and a plan can be
canceled or asked about while it is under way.

Accepted plans do nothing until the world is left to itself. Then all of them begin, and after that
they run to their ends, one after the other.

* `World.settle` leaves the world to itself;
* `Stage.stepsLeft` bounds the steps that an execution still makes.
-/

namespace Federation

/-! ## Algorithms under observation -/

/-- What happens during a call. -/
inductive Interference
  /-- The call fails. -/
  | fail (e : AlgorithmError)
  /-- The call crashes. -/
  | crash
  /-- The plan that was submitted last is canceled. -/
  | cancel
  /-- The status of the plan that was submitted last is asked for. -/
  | probe

/-- A call as it is logged, with what a cancellation and a question during the call gave. -/
structure LoggedCall where
  call : Call
  canceled : Option Bool
  probed : Option PlanStatus

/-- An algorithm of a rehearsal. -/
structure RehearsedAlgorithm where
  behaviour : Behaviour
  /-- What happens during which of the logged calls. -/
  interferences : List (Nat × Interference)
  log : Array LoggedCall

/-- Everything that a rehearsal is about. -/
structure World where
  recorder : Recorder
  /-- The number of plans accepted so far. -/
  plansAccepted : Nat
  /-- The algorithms, by their numbers. -/
  algorithms : Array RehearsedAlgorithm
  /-- The local backends, by their numbers. -/
  backends : Array LocalBackend
  /-- The plans that have not run yet, with the numbers of their backends. -/
  pending : List (Nat × PlanKey)
  /-- The plan that was submitted last by itself. -/
  lastSubmitted : Option (Nat × PlanKey)

namespace World

/-- A world with nothing in it. -/
def empty : World :=
  ⟨.new, 0, #[], #[], [], none⟩

/-- Keeps notices. -/
def note (w : World) (notices : List Notice) : World :=
  { w with recorder := w.recorder.noteAll notices }

/-- Adds an algorithm and says how plans know it. -/
def enroll (w : World) (name : String) (config : Json) (behaviour : Behaviour)
    (interferences : List (Nat × Interference)) : Algorithm × World :=
  (⟨w.algorithms.size, name, config⟩,
    { w with algorithms := w.algorithms.push ⟨behaviour, interferences, #[]⟩ })

/-- Adds a local backend and gives its number. -/
def addBackend (w : World) : Nat × World :=
  (w.backends.size, { w with backends := w.backends.push .empty })

/-- The local backend with a number. -/
def backend (w : World) (number : Nat) : LocalBackend :=
  w.backends[number]?.getD .empty

/-- Changes a local backend. -/
def setBackend (w : World) (number : Nat) (b : LocalBackend) : World :=
  { w with backends := w.backends.setIfInBounds number b }

/-- The calls of an algorithm since its log was taken last. -/
def log (w : World) (a : Algorithm) : List LoggedCall :=
  ((w.algorithms[a.number]?).map (·.log.toList)).getD []

/-- Empties the log of an algorithm. -/
def clearLog (w : World) (a : Algorithm) : World :=
  { w with algorithms := w.algorithms.modify a.number ({ · with log := #[] }) }

/-- Takes the notices. -/
def takeNotices (w : World) : List Notice × World :=
  (w.recorder.notices.toList, { w with recorder := { w.recorder with notices := #[] } })

/-! ## Plans -/

/-- Submits a plan to a local backend. -/
def submit (w : World) (number : Nat) (p : Plan) : Except BackendError PlanKey × World :=
  let key := PlanKey.drawn w.plansAccepted
  match (w.backend number).submit key p with
  | ⟨b, .error e⟩ => (.error e, w.setBackend number b)
  | ⟨b, .ok notices⟩ =>
    (.ok key,
      { (w.setBackend number b).note notices with
        plansAccepted := w.plansAccepted + 1
        pending := w.pending ++ [(number, key)] })

/-- Remembers that a plan was submitted by itself. -/
def remember (w : World) (number : Nat) (key : PlanKey) : World :=
  { w with lastSubmitted := some (number, key) }

/-- Asks for the cancellation of a plan. -/
def cancel (w : World) (number : Nat) (key : PlanKey) : Except BackendError Bool × World :=
  let a := (w.backend number).cancel key
  (a.outcome, w.setBackend number a.state)

/-! ## Calls -/

/-- One interference with a call, and the failure that it makes of the call, if it makes one. -/
def interfere (w : World) (entry : LoggedCall) :
    Interference → Option (Failure AlgorithmError) × LoggedCall × World
  | .fail e => (some (.error e), entry, w)
  | .crash => (some (.crash .algorithm), entry, w)
  | .cancel =>
    match w.lastSubmitted with
    | none => (none, entry, w)
    | some (number, key) =>
      let (answer, w) := w.cancel number key
      (none, { entry with canceled := answer.toOption }, w)
  | .probe =>
    match w.lastSubmitted with
    | none => (none, entry, w)
    | some (number, key) =>
      (none, { entry with probed := ((w.backend number).status key).toOption }, w)

/-- The failure that two interferences with one call come to. A crash counts more than an error, and
of two errors the later one counts. -/
def worse : Option (Failure AlgorithmError) → Option (Failure AlgorithmError) →
    Option (Failure AlgorithmError)
  | some (.crash c), _ => some (.crash c)
  | earlier, none => earlier
  | _, later => later

/-- The interferences with a call in order, after those that made the call fail as `failure` says.
All of them happen before the call fails. -/
def interfereAll (w : World) (entry : LoggedCall) (failure : Option (Failure AlgorithmError)) :
    List Interference → Option (Failure AlgorithmError) × LoggedCall × World
  | [] => (failure, entry, w)
  | i :: rest =>
    let (next, entry, w) := w.interfere entry i
    interfereAll w entry (worse failure next) rest

/-- A call is made: it is logged and interfered with. Gives the failure that comes of it, if one
does. -/
def makeCall (w : World) (c : Call) : Option (Failure AlgorithmError) × World :=
  let number := c.algorithm.number
  match w.algorithms[number]? with
  | none => (none, w)
  | some a =>
    let planned := a.interferences.filterMap fun (n, i) => if n = a.log.size then some i else none
    let (failure, entry, w) := w.interfereAll ⟨c, none, none⟩ none planned
    (failure,
      { w with
        algorithms := w.algorithms.modify number fun a => { a with log := a.log.push entry } })

/-- The answers of all algorithms by their behaviours. -/
def answers (w : World) : Answers := fun c =>
  match w.algorithms[c.algorithm.number]? with
  | some a => a.behaviour.answers c
  | none => .error (.crash .algorithm)

/-! ## Running plans -/

/-- The next step of the execution of a plan. -/
def advance (w : World) (number : Nat) (key : PlanKey) : World :=
  let (failure, w) :=
    match (w.backend number).call? key with
    | some c => w.makeCall c
    | none => (none, w)
  let answers : Answers := match failure with
    | some f => fun _ => .error f
    | none => w.answers
  let (b, notices) := (w.backend number).advance key answers
  (w.setBackend number b).note notices

end World

/-- A bound on the steps that an execution still makes. -/
def Stage.stepsLeft : Stage → Nat
  | .accepted p => 2 * p.size + 4
  | .between x => 2 * x.remaining.length + 3
  | .calling _ _ rest => 2 * rest.length + 4
  | .reporting _ => 1
  | .finished => 0

namespace World

/-- The steps of a plan, up to the end of its execution or to the given number. -/
def advanceMany (w : World) (number : Nat) (key : PlanKey) : Nat → World
  | 0 => w
  | n + 1 =>
    if (w.backend number).isFinished key then w else advanceMany (w.advance number key) number key n

/-- Runs a plan to its end. -/
def runPlan (w : World) (number : Nat) (key : PlanKey) : World :=
  match (w.backend number).get? key with
  | none => w
  | some r => w.advanceMany number key r.stage.stepsLeft

/-- Runs plans to their ends, one after the other. -/
def runPlans (w : World) : List (Nat × PlanKey) → World
  | [] => w
  | (number, key) :: rest => runPlans (w.runPlan number key) rest

/-- Makes the first step of plans, one after the other. -/
def beginPlans (w : World) (plans : List (Nat × PlanKey)) : World :=
  plans.foldl (fun w p => w.advance p.1 p.2) w

/-- Leaves the world to itself: all plans begin, and then run to their ends. -/
def settle (w : World) : World :=
  ({ w with pending := [] }.beginPlans w.pending).runPlans w.pending

end World

end Federation
