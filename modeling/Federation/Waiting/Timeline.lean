import Federation.Waiting.Watch

/-!
# Waiting on a logical clock

A watch lives on a clock that only moves, to the next timer, when nothing else can happen. Of the
timers that go off at the same time, the watch's own ones (an answer that arrives, the end of its
sleep) come before the end of the whole wait.

The backend is a party that answers questions, possibly after a delay, and that goes on with its own
work before the clock moves. A sleep of no length leaves it the next turn as well, unless the whole
wait ends at that time.

The timers are those of whatever runs the watch (`Timers`). They may go off at other times than they
were set to.

* `Timeline.step` lets the next thing happen, `Timeline.run` lets things happen until the watch is
  over;
* `Timeline.step_of_over`: nothing happens to a watch that is over.
-/

namespace Federation

/-- An answer about the status of a plan, how long it takes in milliseconds, and whether the abort
signal is raised just before it arrives. -/
structure StatusAnswer where
  answer : Except BackendError PlanStatus
  delay : Nat
  raises : Bool

/-- The timers of a runtime, by the numbers of milliseconds that they are set to. -/
structure Timers where
  /-- How long a sleep lasts. -/
  sleep : Nat → Nat
  /-- How long a whole wait may last. -/
  limit : Nat → Nat

/-- What a watch has to do with: a backend, with a state of its own, and the timers. -/
structure Party (σ : Type) where
  timers : Timers
  status : σ → PlanKey → StatusAnswer × σ
  performances : σ → PlanKey → Except BackendError (List Performance) × σ
  /-- Everything that can happen before the clock moves. -/
  settle : σ → σ
  /-- Whether it has work of its own that is not done yet. -/
  busy : σ → Bool
  /-- Keeps notices. -/
  note : σ → List Notice → σ

/-- A question, when it was asked, and about which plan. -/
structure AskedQuestion where
  question : Question
  time : Nat
  plan : PlanKey

/-- A watch on a clock that counts milliseconds. -/
structure Timeline (σ : Type) where
  now : Nat
  watch : Watch
  party : σ
  /-- The answer that is on its way, and when it arrives. -/
  answer : Option (Nat × StatusAnswer)
  /-- When the sleep ends. -/
  wake : Option Nat
  /-- When the whole wait is given up. -/
  deadline : Option Nat
  /-- When the abort signal will be raised. -/
  abortAt : Option Nat
  /-- Whether somebody holds the other end of the abort signal. -/
  abortable : Bool
  questions : Array AskedQuestion

namespace Timeline

variable {σ : Type}

/-- Milliseconds of a number of seconds. -/
def milliseconds (seconds : UInt64) : Nat :=
  1000 * seconds.toNat

/-- The timeline after a reaction of the watch: its notices are kept, its question is asked, and a
watch that sleeps has a timer. -/
def apply (p : Party σ) (t : Timeline σ) (r : Reaction) : Timeline σ :=
  let t := { t with watch := r.watch, party := p.note t.party r.notices, wake := none }
  match r.question with
  | some .status =>
    let (a, party) := p.status t.party r.watch.plan
    { t with
      party := party
      answer := some (t.now + a.delay, a)
      questions := t.questions.push ⟨.status, t.now, r.watch.plan⟩ }
  | some .performances =>
    let (a, party) := p.performances t.party r.watch.plan
    let r := r.watch.react (.performances a)
    { t with
      watch := r.watch
      party := p.note party r.notices
      questions := t.questions.push ⟨.performances, t.now, r.watch.plan⟩ }
  | none =>
    match r.watch.phase with
    | .sleeping =>
      { t with wake := some (t.now + p.timers.sleep (milliseconds r.watch.poll.interval)) }
    | _ => t

/-- A sleeper whose signal is raised notices it at once. -/
def notice (p : Party σ) (t : Timeline σ) : Timeline σ :=
  match t.watch.phase with
  | .sleeping => if t.watch.raised then t.apply p (t.watch.react .noticed) else t
  | _ => t

/-- The abort signal is raised. -/
def raise (p : Party σ) (t : Timeline σ) : Timeline σ :=
  { t with
    watch := (t.watch.react .raised).watch
    party := p.note t.party [.abortRequested] }

/-- Moves the clock; what can happen before does. -/
def moveTo (p : Party σ) (t : Timeline σ) (time : Nat) : Timeline σ :=
  if t.now < time then { t with now := time, party := p.settle t.party } else t

/-- A timer. -/
inductive Timer
  | abort
  | answer (a : StatusAnswer)
  | wake
  | deadline

/-- The timers that are set, those that come first at the same time in front. -/
def timers (t : Timeline σ) : List (Nat × Timer) :=
  (t.abortAt.map (·, Timer.abort)).toList ++
    (t.answer.map fun a => (a.1, Timer.answer a.2)).toList ++
    (t.wake.map (·, Timer.wake)).toList ++ (t.deadline.map (·, Timer.deadline)).toList

/-- The first of the earliest timers. -/
def earliest : List (Nat × Timer) → Option (Nat × Timer)
  | [] => none
  | x :: rest =>
    match earliest rest with
    | none => some x
    | some y => if x.1 ≤ y.1 then some x else some y

/-- A timer goes off. -/
def fire (p : Party σ) (t : Timeline σ) : Timer → Timeline σ
  | .abort => ({ t with abortAt := none }.raise p).notice p
  | .answer a =>
    let t := { t with answer := none }
    let t := if a.raises && t.abortable then t.raise p else t
    (t.apply p (t.watch.react (.status a.answer))).notice p
  | .wake => t.apply p (t.watch.react .woken)
  | .deadline => { t with deadline := none }.apply p (t.watch.react .expired)

/-- A sleeper whose sleep is over before the clock has moved gives way to the party. The end of the
whole wait at the same time comes before that. -/
def giveWay (p : Party σ) (t : Timeline σ) : Timeline σ :=
  if t.deadline = some t.now then t.fire p .deadline
  else { t with party := p.settle t.party }.fire p .wake

/-- The next thing happens. -/
def step (p : Party σ) (t : Timeline σ) : Timeline σ :=
  if t.watch.isOver then t
  else
    match earliest t.timers with
    | none => t
    | some (time, .wake) =>
      if time = t.now && p.busy t.party then t.giveWay p else (t.moveTo p time).fire p .wake
    | some (time, timer) => (t.moveTo p time).fire p timer

/-- Things happen until the watch is over, or the given number of times. -/
def run (p : Party σ) : Nat → Timeline σ → Timeline σ
  | 0, t => t
  | n + 1, t => if t.watch.isOver then t else run p n (t.step p)

/-- The timeline of a wait that begins now. The abort signal may have been raised before, may be
raised at some time, and may be in nobody's hand. -/
def start (p : Party σ) (party : σ) (plan : PlanKey) (poll : PollSettings) (raised : Bool)
    (abortAt : Option Nat) (abortable : Bool) : Timeline σ :=
  let r := Watch.start plan poll raised
  apply p
    { now := 0
      watch := r.watch
      party := party
      answer := none
      wake := none
      deadline := poll.timeout.map fun limit => p.timers.limit (milliseconds limit)
      abortAt := abortAt
      abortable := abortable
      questions := #[] } r

/-- An abort that was announced for later is still requested when the wait is over. -/
def close (p : Party σ) (t : Timeline σ) : σ :=
  match t.abortAt with
  | some time => ((t.moveTo p time).raise p).party
  | none => t.party

theorem step_of_over (p : Party σ) {t : Timeline σ} (h : t.watch.isOver = true) :
    t.step p = t := by
  simp [step, h]

theorem run_of_over (p : Party σ) (n : Nat) {t : Timeline σ} (h : t.watch.isOver = true) :
    run p n t = t := by
  cases n with
  | zero => rfl
  | succ n => simp [run, h]

end Timeline

end Federation
