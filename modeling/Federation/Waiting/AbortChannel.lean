import Federation.Waiting.Watch

/-!
# Abort channels

An abort channel carries one request, to stop waiting, from the holder of its handle to everybody
who has a signal of it. A request is never taken back. When the handle is dropped nobody can ask
any more.

The channel counts how often it was asked, and each signal remembers which of these versions it has
seen. Whoever listens on a signal looks at the channel and then waits for a version that the signal
has not seen; if there can be none any more it waits for ever.

* `AbortChannel.abort`, `AbortChannel.drop`: what the holder of the handle can do;
* `AbortSignal.poll`: what a listener finds out when its turn comes;
* `AbortSignal.ready_poll_iff`: no request is lost, and none is made up.
-/

namespace Federation

/-- An abort channel. -/
structure AbortChannel where
  /-- Whether somebody has asked. -/
  raised : Bool
  /-- How often somebody has asked. -/
  version : Nat
  /-- Whether somebody holds the handle. -/
  held : Bool
  deriving DecidableEq

namespace AbortChannel

/-- A new channel. -/
def opened : AbortChannel :=
  ⟨false, 0, true⟩

/-- The handle is dropped. -/
def drop (c : AbortChannel) : AbortChannel :=
  { c with held := false }

/-- The channel of a signal that is never raised: its handle is dropped at once. -/
def never : AbortChannel :=
  opened.drop

/-- The holder of the handle asks. -/
def abort (c : AbortChannel) : AbortChannel :=
  if c.held then { c with raised := true, version := c.version + 1 } else c

/-- The counter tells whether somebody has asked. -/
structure Lawful (c : AbortChannel) : Prop where
  raised_iff : c.raised = true ↔ c.version ≠ 0

theorem lawful_opened : opened.Lawful :=
  ⟨by decide⟩

theorem Lawful.drop {c : AbortChannel} (h : c.Lawful) : c.drop.Lawful :=
  ⟨h.raised_iff⟩

theorem Lawful.abort {c : AbortChannel} (h : c.Lawful) : c.abort.Lawful := by
  unfold AbortChannel.abort
  split
  · exact ⟨by simp⟩
  · exact h

theorem raised_abort {c : AbortChannel} (h : c.held = true) : c.abort.raised = true := by
  simp [abort, h]

theorem raised_abort_of_raised {c : AbortChannel} (h : c.raised = true) :
    c.abort.raised = true := by
  unfold abort
  split
  · rfl
  · exact h

theorem abort_of_not_held {c : AbortChannel} (h : c.held = false) : c.abort = c := by
  simp [abort, h]

end AbortChannel

/-- What a listener is doing. -/
inductive Ear
  /-- It has not looked at the channel yet. -/
  | idle
  /-- It waits for a new version. -/
  | listening
  /-- It waits for ever. -/
  | deaf
  deriving DecidableEq

/-- An abort signal, with who listens on it. -/
structure AbortSignal where
  /-- The version of the channel that it has seen. -/
  seen : Nat
  ear : Ear
  deriving DecidableEq

namespace AbortSignal

/-- The signal of a new channel. -/
def opened : AbortSignal :=
  ⟨0, .idle⟩

/-- A signal on which nobody listens. -/
def released (s : AbortSignal) : AbortSignal :=
  { s with ear := .idle }

/-- A listener that has seen the newest version waits for another one. -/
def listen (c : AbortChannel) (s : AbortSignal) : Bool × AbortSignal :=
  (false, { s with ear := if c.held then .listening else .deaf })

/-- A listener looks at the channel. If nobody has asked it has seen that. -/
def look (c : AbortChannel) (s : AbortSignal) : Bool × AbortSignal :=
  if c.raised then (true, s.released) else { s with seen := c.version }.listen c

/-- A listener gets its turn: whether it has found out that somebody has asked. -/
def poll (c : AbortChannel) (s : AbortSignal) : Bool × AbortSignal :=
  match s.ear with
  | .idle => s.look c
  | .listening => if s.seen = c.version then s.listen c else { s with seen := c.version }.look c
  | .deaf => (false, s)

/-- The listener has missed nothing: if it waits for a new version nobody had asked when it began
to, and if it waits for ever nobody can ask. -/
def Attends (c : AbortChannel) (s : AbortSignal) : Prop :=
  match s.ear with
  | .idle => True
  | .listening => s.seen = 0
  | .deaf => c.held = false ∧ c.raised = false

theorem attends_released (c : AbortChannel) (s : AbortSignal) : s.released.Attends c :=
  trivial

variable {c : AbortChannel} {s : AbortSignal}

theorem Attends.drop (h : s.Attends c) : s.Attends c.drop := by
  unfold Attends at h ⊢
  cases hear : s.ear with
  | idle => trivial
  | listening =>
    rw [hear] at h
    exact h
  | deaf =>
    rw [hear] at h
    exact ⟨rfl, h.2⟩

theorem Attends.abort (h : s.Attends c) : s.Attends c.abort := by
  unfold Attends at h ⊢
  cases hear : s.ear with
  | idle => trivial
  | listening =>
    rw [hear] at h
    exact h
  | deaf =>
    rw [hear] at h
    rw [AbortChannel.abort_of_not_held h.1]
    exact h

theorem attends_listen (hraised : c.raised = false) (hseen : s.seen = 0) :
    (s.listen c).2.Attends c := by
  unfold listen Attends
  cases hheld : c.held with
  | true => exact hseen
  | false => exact ⟨rfl, hraised⟩

theorem attends_look (hc : c.Lawful) : (s.look c).2.Attends c := by
  unfold look
  cases hraised : c.raised with
  | true => exact attends_released c s
  | false =>
    have hversion : c.version = 0 := by
      have h := hc.raised_iff
      simpa [hraised] using h
    exact attends_listen hraised hversion

theorem attends_poll (hc : c.Lawful) (h : s.Attends c) : (s.poll c).2.Attends c := by
  unfold poll
  cases hear : s.ear with
  | idle => exact attends_look hc
  | listening =>
    dsimp only
    split
    · next hseen =>
      unfold Attends at h
      rw [hear] at h
      have hraised : c.raised = false := by
        have hiff := hc.raised_iff
        simpa [← hseen, show s.seen = 0 from h] using hiff
      exact attends_listen hraised h
    · exact attends_look hc
  | deaf => exact h

theorem ready_look_iff : (s.look c).1 = true ↔ c.raised = true := by
  unfold look
  cases c.raised with
  | true => simp
  | false => simp [listen]

/-- **A listener that has missed nothing finds out about exactly the requests that there are.** -/
theorem ready_poll_iff (hc : c.Lawful) (h : s.Attends c) :
    (s.poll c).1 = true ↔ c.raised = true := by
  unfold poll
  unfold Attends at h
  cases hear : s.ear with
  | idle => exact ready_look_iff
  | listening =>
    rw [hear] at h
    dsimp only
    split
    · next hseen =>
      have hiff := hc.raised_iff
      simp [← hseen, show s.seen = 0 from h] at hiff
      simp [listen, hiff]
    · exact ready_look_iff
  | deaf =>
    rw [hear] at h
    simp [h.2]

end AbortSignal

end Federation
