import Federation.Waiting.Timeline

/-!
# Scripted backends

A scripted backend runs nothing. It answers questions about the status of a plan one after the other
as its script says, always gives the same scores, and accepts or rejects every plan.

In a rehearsal no sleep lasts longer than thirty years, however long it was meant to be: neither
that of a watch, nor that of an answer, nor that of who raises the signal.

* `Script.item`: the answer to each question;
* `Script.horizon`: how many things can happen to a watch on the script before it is over.
-/

namespace Federation

namespace Timers

/-- Thirty years of 365 days, in milliseconds. -/
def longestNap : Nat :=
  30 * 365 * 24 * 60 * 60 * 1000

/-- How long a sleep lasts in a rehearsal: no longer than thirty years. -/
def nap (time : Nat) : Nat :=
  min time longestNap

/-- The timers of a rehearsal. The end of a whole wait is no sleep. -/
def rehearsed : Timers where
  sleep := nap
  limit time := time

end Timers

/-- A backend that follows a script. -/
structure Script where
  /-- The answers about the status, in order. -/
  statuses : List StatusAnswer
  /-- Whether the last answer is repeated after the end. -/
  repeatLast : Bool
  performances : Except BackendError (List Performance)
  /-- What a submission gives. -/
  submit : Except BackendError PlanKey

namespace Script

/-- The answer after the end of a script that does not repeat its last one. -/
def exhausted : StatusAnswer :=
  ⟨.error (.unavailable "end of the script"), 0, false⟩

/-- The answer to the question with the given number. -/
def item (s : Script) (n : Nat) : StatusAnswer :=
  match s.statuses[n]? with
  | some a => a
  | none => if s.repeatLast then s.statuses.getLast?.getD exhausted else exhausted

/-- The milliseconds after which a watch ends for a reason of its own. -/
def limit (poll : PollSettings) (abortAt : Option Nat) : Nat :=
  max ((poll.timeout.map Timeline.milliseconds).getD 0) (abortAt.getD 0)

/-- The milliseconds from one question beyond the script to the next one. -/
def pace (s : Script) (poll : PollSettings) : Nat :=
  Timers.nap (s.item s.statuses.length).delay + Timers.nap (Timeline.milliseconds poll.interval)

/-- A bound on the things that can happen to a watch before it is over: an answer and an end of a
sleep for every question, the signal, and the end of the time. Questions beyond the script are only
asked until the watch ends by itself; without any pace it never would. -/
def horizon (s : Script) (poll : PollSettings) (abortAt : Option Nat) : Nat :=
  2 * (s.statuses.length + limit poll abortAt / s.pace poll) + 8

end Script

end Federation
