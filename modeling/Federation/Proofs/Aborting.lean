import Federation.Proofs.Waiter
import Federation.Waiting.AbortChannel

/-!
# Aborting a wait

One abort channel has any number of signals, and on each of them one wait after the other. Whoever
holds the handle may ask to stop waiting, or drop the handle; signals are cloned; backends answer
when and what they like; sleeps and times come to their ends. All this happens in any order
(`AbortEvent`), and what a wait does between two suspensions happens at once.

The invariant (`AbortScene.Lawful`) says that nobody who listens on a signal has missed anything.
From it, every wait sees what the channel says (`AbortScene.raised_sees`), so that the order of the
other events does not matter to it.

* `AbortScene`: a channel, its signals, and what the wait on each of them has done;
* `AbortScene.waitOn_step`: one event changes at most the wait that it is about;
* `AbortScene.waitOn_after`: what a wait does while nothing changes about the signal;
* `AbortScene.abort_decides`: what comes of a wait on an abort channel.
-/

namespace Federation

/-! ## An abort channel and the waits on its signals -/

/-- A signal, and who waits or has waited on it last. -/
structure Post where
  signal : AbortSignal
  waiter : Option Waiter

namespace Post

/-- A wait begins. If another one has not come to its end it is given up. -/
def begin (c : AbortChannel) (plan : PlanKey) (poll : PollSettings) (q : Post) : Post :=
  ⟨q.signal.released, some (.begin (Watch.start plan poll c.raised))⟩

/-- Whether a watch sees that the signal is raised when something happens to it: a sleeper listens
on the signal, until its sleep is over, and everybody else looks at the channel. -/
def sees (c : AbortChannel) (signal : AbortSignal) (w : Watch) (event : WatchEvent) :
    Bool × AbortSignal :=
  match w.phase, event with
  | .sleeping, .noticed => signal.poll c
  | .sleeping, .woken => (c.raised, signal.released)
  | _, _ => (c.raised, signal)

/-- Something happens around who waits. -/
def happens (c : AbortChannel) (event : WatchEvent) (q : Post) : Post :=
  match q.waiter with
  | none => q
  | some w =>
    let (raised, signal) := sees c q.signal w.watch event
    ⟨signal, some (w.react raised event)⟩

end Post

/-- What happens around an abort channel. -/
inductive AbortEvent
  /-- The holder of the handle asks to stop waiting. -/
  | abort
  /-- The handle is dropped. -/
  | drop
  /-- A signal is cloned. -/
  | clone (signal : Nat)
  /-- A wait begins on a signal. -/
  | wait (signal : Nat) (plan : PlanKey) (poll : PollSettings)
  /-- Something happens around the wait on a signal. -/
  | happens (signal : Nat) (event : WatchEvent)

namespace AbortEvent

/-- What happens in an event around the wait on a signal. -/
def around (signal : Nat) : AbortEvent → Option WatchEvent
  | .happens i event => if i = signal then some event else none
  | _ => none

/-- What an event does to the channel. -/
def change (c : AbortChannel) : AbortEvent → AbortChannel
  | .abort => c.abort
  | .drop => c.drop
  | _ => c

end AbortEvent

/-- An abort channel and its signals. -/
structure AbortScene where
  channel : AbortChannel
  posts : List Post

namespace AbortScene

/-- A new channel with its signal. -/
def opened : AbortScene :=
  ⟨.opened, [⟨.opened, none⟩]⟩

/-- The channel of a signal that is never raised. -/
def never : AbortScene :=
  ⟨.never, [⟨.opened, none⟩]⟩

/-- The signals after an event. -/
def changePosts (s : AbortScene) : AbortEvent → List Post
  | .clone i => s.posts ++ (s.posts[i]?.map fun q => ⟨q.signal.released, none⟩).toList
  | .wait i plan poll => s.posts.modify i (.begin s.channel plan poll)
  | .happens i event => s.posts.modify i (.happens s.channel event)
  | _ => s.posts

/-- One thing happens. -/
def step (s : AbortScene) (event : AbortEvent) : AbortScene :=
  ⟨event.change s.channel, s.changePosts event⟩

/-- Some things happen. -/
def after (s : AbortScene) (events : List AbortEvent) : AbortScene :=
  events.foldl step s

/-- Who waits or has waited last on a signal. -/
def waitOn (s : AbortScene) (i : Nat) : Option Waiter :=
  s.posts[i]?.bind (·.waiter)

end AbortScene

/-! ## One event after the other -/

namespace AbortScene

/-- Every listener attends to the channel. -/
structure Lawful (s : AbortScene) : Prop where
  channel : s.channel.Lawful
  attends : ∀ q ∈ s.posts, q.signal.Attends s.channel

theorem lawful_opened : opened.Lawful :=
  ⟨AbortChannel.lawful_opened, by simp [opened, AbortSignal.opened, AbortSignal.Attends]⟩

/-- A signal that has changed, or not, is one of those before. -/
theorem exists_of_mem_modify {l : List Post} {i : Nat} {f : Post → Post} {q : Post}
    (h : q ∈ l.modify i f) : ∃ q₀ ∈ l, q = q₀ ∨ q = f q₀ := by
  obtain ⟨j, hj⟩ := List.mem_iff_getElem?.mp h
  rw [List.getElem?_modify] at hj
  obtain ⟨q₀, hq₀, rfl⟩ := Option.map_eq_some_iff.mp hj
  refine ⟨q₀, List.mem_of_getElem? hq₀, ?_⟩
  split
  · exact .inr rfl
  · exact .inl rfl

theorem attends_change {signal : AbortSignal} {c : AbortChannel} (h : signal.Attends c)
    (event : AbortEvent) : signal.Attends (event.change c) := by
  cases event with
  | abort => exact h.abort
  | drop => exact h.drop
  | clone i | wait i plan poll | happens i event => exact h

theorem lawful_change {c : AbortChannel} (h : c.Lawful) (event : AbortEvent) :
    (event.change c).Lawful := by
  cases event with
  | abort => exact h.abort
  | drop => exact h.drop
  | clone i | wait i plan poll | happens i event => exact h

theorem attends_sees {signal : AbortSignal} {c : AbortChannel} (hc : c.Lawful)
    (h : signal.Attends c) (w : Watch) (event : WatchEvent) :
    (Post.sees c signal w event).2.Attends c := by
  unfold Post.sees
  split
  · exact AbortSignal.attends_poll hc h
  · exact AbortSignal.attends_released c signal
  · exact h

/-- Whatever a watch is doing, it sees whether the signal is raised. -/
theorem raised_sees {signal : AbortSignal} {c : AbortChannel} (hc : c.Lawful)
    (h : signal.Attends c) (w : Watch) (event : WatchEvent) :
    (Post.sees c signal w event).1 = c.raised := by
  unfold Post.sees
  split
  · exact Bool.eq_iff_iff.mpr (AbortSignal.ready_poll_iff hc h)
  · rfl
  · rfl

theorem attends_happens {q : Post} {c : AbortChannel} (hc : c.Lawful) (h : q.signal.Attends c)
    (event : WatchEvent) : (q.happens c event).signal.Attends c := by
  unfold Post.happens
  cases q.waiter with
  | none => exact h
  | some w => exact attends_sees hc h w.watch event

theorem Lawful.step {s : AbortScene} (h : s.Lawful) (event : AbortEvent) :
    (s.step event).Lawful := by
  refine ⟨lawful_change h.channel event, fun q hq => attends_change ?_ event⟩
  cases event with
  | abort | drop => exact h.attends q hq
  | clone i =>
    obtain hq | hq := List.mem_append.mp hq
    · exact h.attends q hq
    · obtain ⟨q₀, -, rfl⟩ := Option.map_eq_some_iff.mp (Option.mem_toList.mp hq)
      exact AbortSignal.attends_released _ _
  | wait i plan poll =>
    obtain ⟨q₀, hq₀, rfl | rfl⟩ := exists_of_mem_modify hq
    · exact h.attends _ hq₀
    · exact AbortSignal.attends_released _ _
  | happens i event =>
    obtain ⟨q₀, hq₀, rfl | rfl⟩ := exists_of_mem_modify hq
    · exact h.attends _ hq₀
    · exact attends_happens h.channel (h.attends _ hq₀) event

theorem after_append (s : AbortScene) (before after : List AbortEvent) :
    s.after (before ++ after) = (s.after before).after after :=
  List.foldl_append

theorem Lawful.after {s : AbortScene} (h : s.Lawful) (events : List AbortEvent) :
    (s.after events).Lawful := by
  induction events generalizing s with
  | nil => exact h
  | cons event events ih => exact ih (h.step event)

/-- **One event changes at most the wait that it is about**, and that wait sees whether the signal
is raised. -/
theorem waitOn_step {s : AbortScene} (h : s.Lawful) {i : Nat} {w : Waiter}
    (hw : s.waitOn i = some w) (event : AbortEvent)
    (current : ∀ plan poll, event ≠ .wait i plan poll) :
    (s.step event).waitOn i =
      some (((event.around i).map fun e => w.react s.channel.raised e).getD w) := by
  obtain ⟨⟨signal, waiter⟩, hq, rfl⟩ := Option.bind_eq_some_iff.mp hw
  have hlt : i < s.posts.length := (List.getElem?_eq_some_iff.mp hq).1
  unfold waitOn step
  cases event with
  | abort | drop => exact hw
  | clone j =>
    simp only [changePosts, AbortEvent.around, Option.map_none, Option.getD_none,
      List.getElem?_append_left hlt, hq, Option.bind_some]
  | wait j plan poll =>
    have hne : j ≠ i := fun hji => current plan poll (hji ▸ rfl)
    simp only [changePosts, AbortEvent.around, Option.map_none, Option.getD_none,
      List.getElem?_modify, hne, if_false, hq, Option.map_eq_map, Option.map_some, Option.bind_some]
  | happens j e =>
    by_cases hji : j = i
    · subst hji
      have hsees := raised_sees h.channel (h.attends _ (List.mem_of_getElem? hq)) w.watch e
      simp only [changePosts, AbortEvent.around, if_true, Option.map_some, Option.getD_some,
        List.getElem?_modify, hq, Option.map_eq_map, Option.bind_some, Post.happens]
      rw [hsees]
    · simp only [changePosts, AbortEvent.around, hji, if_false, Option.map_none, Option.getD_none,
        List.getElem?_modify, hq, Option.map_eq_map, Option.map_some, Option.bind_some]

/-! ## Any number of events -/

theorem raised_step {s : AbortScene} (h : s.channel.raised = true) (event : AbortEvent) :
    (s.step event).channel.raised = true := by
  cases event with
  | abort => exact AbortChannel.raised_abort_of_raised h
  | drop | clone i | wait i plan poll | happens i event => exact h

/-- A request is never taken back. -/
theorem raised_after {s : AbortScene} (h : s.channel.raised = true) (events : List AbortEvent) :
    (s.after events).channel.raised = true := by
  induction events generalizing s with
  | nil => exact h
  | cons event events ih => exact ih (raised_step h event)

theorem held_after {s : AbortScene} (h : s.channel.held = true) {events : List AbortEvent}
    (hdrop : AbortEvent.drop ∉ events) : (s.after events).channel.held = true := by
  induction events generalizing s with
  | nil => exact h
  | cons event events ih =>
    rw [List.mem_cons, not_or] at hdrop
    refine ih ?_ hdrop.2
    cases event with
    | abort => simp [step, AbortEvent.change, AbortChannel.abort, h]
    | drop => exact absurd rfl hdrop.1
    | clone i | wait i plan poll | happens i event => exact h

/-- The signal is raised when the holder of the handle asks. -/
theorem raised_after_abort {s : AbortScene} (h : s.channel.held = true) {first : List AbortEvent}
    (hdrop : AbortEvent.drop ∉ first) (rest : List AbortEvent) :
    (s.after (first ++ .abort :: rest)).channel.raised = true := by
  rw [after_append]
  exact raised_after (s := (s.after first).step .abort)
    (AbortChannel.raised_abort (held_after h hdrop)) rest

/-- Nobody asks after the handle was dropped. -/
theorem raised_after_of_not_held {s : AbortScene} (h : s.channel.held = false)
    (events : List AbortEvent) : (s.after events).channel.raised = s.channel.raised := by
  induction events generalizing s with
  | nil => rfl
  | cons event events ih =>
    cases event with
    | abort =>
      have hchannel : (s.step .abort).channel = s.channel := AbortChannel.abort_of_not_held h
      have hafter := ih (s := s.step .abort) (hchannel.symm ▸ h)
      rwa [hchannel] at hafter
    | drop => exact ih (s := s.step .drop) rfl
    | clone i => exact ih (s := s.step (.clone i)) h
    | wait i plan poll => exact ih (s := s.step (.wait i plan poll)) h
    | happens i event => exact ih (s := s.step (.happens i event)) h

theorem raised_after_of_no_abort {s : AbortScene} {events : List AbortEvent}
    (habort : AbortEvent.abort ∉ events) : (s.after events).channel.raised = s.channel.raised := by
  induction events generalizing s with
  | nil => rfl
  | cons event events ih =>
    rw [List.mem_cons, not_or] at habort
    refine (ih habort.2).trans ?_
    cases event with
    | abort => exact absurd rfl habort.1
    | drop | clone i | wait i plan poll | happens i event => rfl

/-- A signal is not raised if nobody asks before the handle is dropped. -/
theorem raised_after_drop {s : AbortScene} (h : s.channel.raised = false) {first : List AbortEvent}
    (habort : AbortEvent.abort ∉ first) (rest : List AbortEvent) :
    (s.after (first ++ .drop :: rest)).channel.raised = false := by
  rw [after_append]
  have hrest := raised_after_of_not_held (s := (s.after first).step .drop) rfl rest
  exact hrest.trans ((raised_after_of_no_abort habort).trans h)

/-- What a wait does while the signal is raised all the time, or is not. -/
theorem waitOn_after {s : AbortScene} (h : s.Lawful) {i : Nat} {w : Waiter}
    (hw : s.waitOn i = some w) {events : List AbortEvent}
    (current : ∀ plan poll, AbortEvent.wait i plan poll ∉ events) {raised : Bool}
    (hraised : ∀ first rest, events = first ++ rest →
      (s.after first).channel.raised = raised) :
    (s.after events).waitOn i = some (w.follow raised (events.filterMap (·.around i))) := by
  induction events generalizing s w with
  | nil => exact hw
  | cons event events ih =>
    have hcurrent (plan : PlanKey) (poll : PollSettings) : event ≠ .wait i plan poll :=
      fun heq => current plan poll (heq ▸ List.mem_cons_self)
    have hstep := waitOn_step h hw event hcurrent
    have hnow : s.channel.raised = raised := hraised [] _ rfl
    have hrest := ih (h.step event) hstep
      (fun plan poll hmem => current plan poll (List.mem_cons_of_mem _ hmem))
      (fun first rest hsplit => hraised (event :: first) rest (by rw [hsplit, List.cons_append]))
    refine hrest.trans ?_
    rw [hnow, List.filterMap_cons]
    cases event.around i with
    | none => rfl
    | some e => rfl

theorem watches_begin (plan : PlanKey) (poll : PollSettings) (raised : Bool) :
    (Waiter.begin (Watch.start plan poll raised)).watch.plan = plan ∧
      (Waiter.begin (Watch.start plan poll raised)).watch.poll = poll := by
  cases raised with
  | true => exact ⟨rfl, rfl⟩
  | false => exact ⟨rfl, rfl⟩

theorem waitOn_begin {s : AbortScene} {i : Nat} (h : i < s.posts.length) (plan : PlanKey)
    (poll : PollSettings) :
    (s.step (.wait i plan poll)).waitOn i =
      some (.begin (Watch.start plan poll s.channel.raised)) := by
  simp [waitOn, step, changePosts, List.getElem?_eq_getElem h, Post.begin]

/-- A wait is for its plan, at its pace, for as long as it lasts. -/
theorem exists_waitOn_after {s : AbortScene} (h : s.Lawful) {i : Nat} {w : Waiter}
    (hw : s.waitOn i = some w) {events : List AbortEvent}
    (current : ∀ plan poll, AbortEvent.wait i plan poll ∉ events) :
    ∃ w', (s.after events).waitOn i = some w' ∧
      w'.watch.plan = w.watch.plan ∧ w'.watch.poll = w.watch.poll := by
  induction events generalizing s w with
  | nil => exact ⟨w, hw, rfl, rfl⟩
  | cons event events ih =>
    have hcurrent (plan : PlanKey) (poll : PollSettings) : event ≠ .wait i plan poll :=
      fun heq => current plan poll (heq ▸ List.mem_cons_self)
    obtain ⟨w', hw', hplan, hpoll⟩ := ih (h.step event) (waitOn_step h hw event hcurrent)
      fun plan poll hmem => current plan poll (List.mem_cons_of_mem _ hmem)
    refine ⟨w', hw', hplan.trans ?_, hpoll.trans ?_⟩
    · cases event.around i with
      | none => rfl
      | some e => exact (w.watches_react s.channel.raised e).1
    · cases event.around i with
      | none => rfl
      | some e => exact (w.watches_react s.channel.raised e).2

/-- How many signals there are depends on what happens. -/
theorem length_posts_after {s t : AbortScene} (h : s.posts.length = t.posts.length)
    (events : List AbortEvent) : (s.after events).posts.length = (t.after events).posts.length := by
  induction events generalizing s t with
  | nil => exact h
  | cons event events ih =>
    refine ih ?_
    cases event with
    | abort | drop => exact h
    | clone i =>
      have hsome (s : AbortScene) :
          (s.step (.clone i)).posts.length =
            if i < s.posts.length then s.posts.length + 1 else s.posts.length := by
        by_cases hi : i < s.posts.length <;> simp [step, changePosts, hi]
      rw [hsome, hsome, h]
    | wait i plan poll | happens i event => simpa [step, changePosts] using h

section Wait

variable {s : AbortScene} {before during : List AbortEvent} {i : Nat} (plan : PlanKey)
  (poll : PollSettings)

theorem after_wait (s : AbortScene) (before during : List AbortEvent) (i : Nat) (plan : PlanKey)
    (poll : PollSettings) :
    s.after (before ++ .wait i plan poll :: during) =
      ((s.after before).step (.wait i plan poll)).after during :=
  after_append s before _

/-- A wait whose signal is already raised. -/
theorem waitOn_of_raised (h : s.Lawful) (signal : i < (s.after before).posts.length)
    (current : ∀ plan poll, AbortEvent.wait i plan poll ∉ during)
    (hraised : (s.after before).channel.raised = true) :
    ∃ w, (s.after (before ++ .wait i plan poll :: during)).waitOn i = some w ∧
      w.watch.phase = .over (.error (.aborted plan)) ∧ w.asked = [] := by
  have hbegin := waitOn_begin signal plan poll
  rw [hraised] at hbegin
  have hafter := waitOn_after ((h.after before).step _) hbegin current
    fun first _ _ => raised_after (raised_step hraised _) first
  obtain ⟨hasked, hphase⟩ := Waiter.follow_of_over (w := .begin (Watch.start plan poll true)) rfl
    true (during.filterMap (·.around i))
  rw [after_wait, hafter]
  exact ⟨_, rfl, hphase, hasked⟩

/-- A wait whose signal is never raised. -/
theorem waitOn_of_not_raised (h : s.Lawful) (signal : i < (s.after before).posts.length)
    (current : ∀ plan poll, AbortEvent.wait i plan poll ∉ during)
    (hraised : (s.after (before ++ .wait i plan poll :: during)).channel.raised = false) :
    (s.after (before ++ .wait i plan poll :: during)).waitOn i =
      some (.alone plan poll (during.filterMap (·.around i))) := by
  rw [after_wait] at hraised ⊢
  -- the signal was not raised at any time before
  have hnever (first rest : List AbortEvent) (hsplit : during = first ++ rest) :
      (((s.after before).step (.wait i plan poll)).after first).channel.raised = false := by
    refine Bool.eq_false_iff.mpr fun hfirst => ?_
    have hend := raised_after hfirst rest
    rw [← after_append, ← hsplit, hraised] at hend
    exact Bool.noConfusion hend
  have hbegin := waitOn_begin signal plan poll
  rw [show (s.after before).channel.raised = false from hnever [] during rfl] at hbegin
  rw [waitOn_after ((h.after before).step _) hbegin current hnever, Waiter.follow_false_begin]

/-- A wait during which somebody asks. -/
theorem waitOn_of_abort (h : s.Lawful) (signal : i < (s.after before).posts.length)
    (current : ∀ plan poll, AbortEvent.wait i plan poll ∉ during) {first rest : List AbortEvent}
    (hsplit : during = first ++ .abort :: rest) (hheld : s.channel.held = true)
    (hdrop : .drop ∉ before ++ first) :
    ∃ w₁ w asked, (s.after (before ++ .wait i plan poll :: first)).waitOn i = some w₁ ∧
      (s.after (before ++ .wait i plan poll :: during)).waitOn i = some w ∧
      w.asked = w₁.asked ++ asked ∧ .status ∉ asked ∧
      Aborted plan poll w₁.watch.phase (rest.filterMap (·.around i)) asked w.watch.phase := by
  subst hsplit
  have hbegun := (h.after before).step (.wait i plan poll)
  have hcurrent (plan' : PlanKey) (poll' : PollSettings) : .wait i plan' poll' ∉ first :=
    fun hmem => current plan' poll' (List.mem_append_left _ hmem)
  obtain ⟨w₁, hw₁, hplan, hpoll⟩ :=
    exists_waitOn_after hbegun (waitOn_begin signal plan poll) hcurrent
  obtain ⟨hplan', hpoll'⟩ := watches_begin plan poll (s.after before).channel.raised
  -- from now on the signal is raised
  have hstill : (((s.after before).step (.wait i plan poll)).after first).channel.held = true := by
    rw [← after_wait]
    refine held_after hheld fun hmem => hdrop ?_
    simpa using hmem
  have habort := waitOn_step (hbegun.after first) hw₁ .abort nofun
  have hlater (plan' : PlanKey) (poll' : PollSettings) : .wait i plan' poll' ∉ rest :=
    fun hmem => current plan' poll' (List.mem_append_right _ (List.mem_cons_of_mem _ hmem))
  have hrest := waitOn_after ((hbegun.after first).step .abort) habort hlater
    fun events _ _ => raised_after (AbortChannel.raised_abort hstill) events
  obtain ⟨asked, hasked, hend⟩ := w₁.abortsBy_follow (rest.filterMap (·.around i))
  refine ⟨w₁, w₁.follow true (rest.filterMap (·.around i)), asked, ?_, ?_, hasked,
    hend.status_not_mem, ?_⟩
  · rw [after_wait]
    exact hw₁
  · rw [after_wait, after_append]
    exact hrest
  · rwa [hplan, hpoll, hplan', hpoll'] at hend

end Wait

/-- **What comes of a wait on an abort channel**, whatever happens around it, in whatever order.

If somebody has asked before, the wait is over and has asked nothing. If somebody asks during the
wait, it asks for no status any more, and what it still does is what `Aborted` says. If the handle
is dropped before anybody has asked, and if the signal is one that is never raised, it does what a
wait does that knows nothing of abort channels, and never says that somebody has asked. -/
theorem abort_decides (before during : List AbortEvent) (i : Nat) (plan : PlanKey)
    (poll : PollSettings) (signal : i < (opened.after before).posts.length)
    (current : ∀ plan' poll', AbortEvent.wait i plan' poll' ∉ during) :
    let history := before ++ .wait i plan poll :: during
    let around (events : List AbortEvent) := events.filterMap (·.around i)
    (∃ w, (opened.after history).waitOn i = some w ∧
      (∀ first rest, before = first ++ .abort :: rest → .drop ∉ first →
        w.watch.phase = .over (.error (.aborted plan)) ∧ w.asked = []) ∧
      (∀ first rest, during = first ++ .abort :: rest → .drop ∉ before ++ first →
        ∃ w₁ asked, (opened.after (before ++ .wait i plan poll :: first)).waitOn i = some w₁ ∧
          w.asked = w₁.asked ++ asked ∧ .status ∉ asked ∧
          Aborted plan poll w₁.watch.phase (around rest) asked w.watch.phase) ∧
      (∀ first rest, history = first ++ .drop :: rest → .abort ∉ first →
        w = .alone plan poll (around during))) ∧
      (never.after history).waitOn i = some (.alone plan poll (around during)) ∧
      ∀ p, (Waiter.alone plan poll (around during)).watch.phase ≠ .over (.error (.aborted p)) := by
  intro history around
  obtain ⟨w, hw, -⟩ := exists_waitOn_after ((lawful_opened.after before).step (.wait i plan poll))
    (waitOn_begin signal plan poll) current
  rw [← after_wait] at hw
  refine ⟨⟨w, hw, ?_, ?_, ?_⟩, ?_, Waiter.alone_ne_aborted plan poll _⟩
  · rintro first rest rfl hdrop
    obtain ⟨w', hw', hover⟩ := waitOn_of_raised plan poll lawful_opened signal current
      (raised_after_abort rfl hdrop rest)
    cases hw.symm.trans hw'
    exact hover
  · intro first rest hsplit hdrop
    obtain ⟨w₁, w', asked, hw₁, hw', hend⟩ := waitOn_of_abort plan poll lawful_opened signal current
      hsplit rfl hdrop
    cases hw.symm.trans hw'
    exact ⟨w₁, asked, hw₁, hend⟩
  · intro first rest hsplit habort
    have hraised : (opened.after history).channel.raised = false := by
      rw [hsplit]
      exact raised_after_drop rfl habort rest
    exact Option.some.inj
      (hw.symm.trans (waitOn_of_not_raised plan poll lawful_opened signal current hraised))
  · have hposts := length_posts_after (s := opened) (t := never) rfl before
    refine waitOn_of_not_raised plan poll (lawful_opened.step .drop) (hposts ▸ signal) current ?_
    exact raised_after_of_not_held rfl history

/-- Somebody asks while a wait on a clone of the first signal sleeps, and the sleep is over before
the sleeper notices that. -/
theorem abort_decides_during_sleep :
    let before := [AbortEvent.clone 0]
    let first := [AbortEvent.happens 1 (.status (.ok .running))]
    let during := first ++ [.abort, .happens 1 .woken]
    let begun : AbortEvent := .wait 1 (.drawn 0) .default
    1 < (opened.after before).posts.length ∧
      (∀ plan poll, AbortEvent.wait 1 plan poll ∉ during) ∧
      ∃ w₁ w asked, (opened.after (before ++ begun :: first)).waitOn 1 = some w₁ ∧
        (opened.after (before ++ begun :: during)).waitOn 1 = some w ∧
        w.asked = w₁.asked ++ asked ∧ .status ∉ asked ∧
        Aborted (.drawn 0) .default w₁.watch.phase [.woken] asked w.watch.phase := by
  intro before first during begun
  have hsignal : 1 < (opened.after before).posts.length := by decide
  have hcurrent (plan : PlanKey) (poll : PollSettings) : .wait 1 plan poll ∉ during := by
    simp [during, first]
  obtain ⟨⟨w, hw, -, habort, -⟩, -⟩ :=
    abort_decides before during 1 (.drawn 0) .default hsignal hcurrent
  obtain ⟨w₁, asked, hw₁, hend⟩ := habort first [.happens 1 .woken] rfl (by simp [before, first])
  exact ⟨hsignal, hcurrent, w₁, w, asked, hw₁, hw, hend⟩

end AbortScene

end Federation
