import Federation.Proofs.Polling

/-!
# The times of a wait

A wait on a backend that replies at once is a matter of two timers: the end of the sleep between two
questions, and the end of the whole time. If both go off exactly when they should, the questions
about the status are an interval apart, the first one at the start. The wait is over at the question
whose reply is the first one that is not that the plan is waiting or running, or at the end of the
time, whichever comes first; a question that is due at the end of the time is still asked, and its
reply still counts.

* `Timers.Exact`: timers that go off when they should;
* `Party.Prompt`: a backend that replies at once;
* `Timeline.asking`, `Timeline.sleeping`: the states of a wait on it, question by question;
* `Timeline.step_asking`, `Timeline.step_sleeping`, `Timeline.step_sleeping_late`: what happens in
  them next;
* `Timeline.run_asking`, `Timeline.run_outcome`, `Timeline.run_late`: a wait gets to every question
  before the end, and is over at the first reply that ends it, or at the end;
* `Timeline.punctual_run`: after any number of steps the questions are an interval apart;
* `Timeline.wait_punctual`: when a wait asks, how it ends, and when.
-/

namespace Federation

/-! ## Settings and replies -/

namespace PollSettings

/-- The milliseconds between two questions. -/
def pause (poll : PollSettings) : Nat :=
  Timeline.milliseconds poll.interval

/-- Whether a moment comes no later than the end of the whole time. -/
def InTime (poll : PollSettings) (time : Nat) : Prop :=
  ∀ limit, poll.timeout = some limit → time ≤ Timeline.milliseconds limit

variable {poll : PollSettings}

theorem pause_pos (h : 1 ≤ poll.interval) : 0 < poll.pause := by
  have hinterval : 1 ≤ poll.interval.toNat := UInt64.le_iff_toNat_le.mp h
  unfold pause Timeline.milliseconds
  omega

theorem InTime.le {time time' : Nat} (h : poll.InTime time) (hle : time' ≤ time) :
    poll.InTime time' :=
  fun limit hlimit => Nat.le_trans hle (h limit hlimit)

theorem inTime_zero : poll.InTime 0 :=
  fun _ _ => Nat.zero_le _

/-- A moment that does not come in time comes after the end. -/
theorem exists_timeout {time : Nat} (h : ¬ poll.InTime time) :
    ∃ limit, poll.timeout = some limit ∧ Timeline.milliseconds limit < time := by
  simp only [InTime, Classical.not_forall, Nat.not_le] at h
  obtain ⟨limit, htimeout, hlt⟩ := h
  exact ⟨limit, htimeout, hlt⟩

end PollSettings

/-- Timers that go off exactly when they should, for a wait with the given settings: the sleep
between two questions lasts as long as the interval, and the whole wait as long as it may. -/
structure Timers.Exact (timers : Timers) (poll : PollSettings) : Prop where
  sleep : timers.sleep poll.pause = poll.pause
  limit : ∀ limit, poll.timeout = some limit →
    timers.limit (Timeline.milliseconds limit) = Timeline.milliseconds limit

/-- The result of a wait for which a reply about the status is the last one, with the reply to the
question about the scores; none as long as the plan is waiting or running. -/
def PlanKey.outcome? (plan : PlanKey) (scores : Except BackendError (List Performance)) :
    Except BackendError PlanStatus → Option (Except ExperimentError (List Performance))
  | .error e => some (.error (.backend e))
  | .ok .done => some (scores.mapError .backend)
  | .ok .failed => some (.error (.executionFailed plan))
  | .ok .canceled => some (.error (.canceled plan))
  | .ok _ => none

/-- The first reply that is an error or a final status is the last one. -/
theorem PlanKey.outcome?_eq_none_iff {plan : PlanKey}
    {scores : Except BackendError (List Performance)} {reply : Except BackendError PlanStatus} :
    plan.outcome? scores reply = none ↔
      ∃ status, reply = .ok status ∧ status.isTerminal = false := by
  cases reply with
  | error e => simp [outcome?]
  | ok status => cases status <;> simp [outcome?, PlanStatus.isTerminal]

variable {σ : Type}

/-- A backend that replies at once to the questions about the status of a plan, to each with the
reply of its number, and to the question about the scores always alike. It is ready for the question
of a number until it is told it, and then it goes on with its own work once before the next one. -/
structure Party.Prompt (p : Party σ) (plan : PlanKey)
    (replies : Nat → Except BackendError PlanStatus)
    (scores : Except BackendError (List Performance)) (ready told : Nat → σ → Prop) : Prop where
  reply : ∀ k s, ready k s → (p.status s plan).1 = ⟨replies k, 0, false⟩
  status : ∀ k s, ready k s → told k (p.status s plan).2
  performances : ∀ k s, told k s → replies k = .ok .done → (p.performances s plan).1 = scores
  settle : ∀ k s, told k s → ready (k + 1) (p.settle s)
  note : ∀ k s notices, ready k s → ready k (p.note s notices)
  note_told : ∀ k s notices, told k s → told k (p.note s notices)

namespace Timeline

/-! ## The states of a wait -/

/-- The questions about the status of a plan that have been asked. -/
def statusQuestions (t : Timeline σ) : List AskedQuestion :=
  t.questions.toList.filter (·.question = .status)

/-- A number of questions about the status of a plan, the first one at the start and each of the
others a pause after the one before it. -/
def everyPause (plan : PlanKey) (pause count : Nat) : List AskedQuestion :=
  (List.range count).map fun k => ⟨.status, k * pause, plan⟩

theorem everyPause_succ (plan : PlanKey) (pause count : Nat) :
    everyPause plan pause (count + 1) =
      everyPause plan pause count ++ [⟨.status, count * pause, plan⟩] := by
  rw [everyPause, List.range_succ, List.map_append]
  rfl

theorem filter_everyPause (plan : PlanKey) (pause count : Nat) :
    (everyPause plan pause count).filter (·.question = .status) = everyPause plan pause count :=
  List.filter_eq_self.mpr (by simp [everyPause])

section States

variable (plan : PlanKey) (poll : PollSettings) (abortable : Bool)

/-- A wait at the time of the question of a number, which has been asked. -/
def atQuestion (k : Nat) (phase : WatchPhase) (party : σ) (answer : Option (Nat × StatusAnswer))
    (wake : Option Nat) : Timeline σ where
  now := k * poll.pause
  watch := ⟨plan, poll, false, phase⟩
  party := party
  answer := answer
  wake := wake
  deadline := poll.timeout.map milliseconds
  abortAt := none
  abortable := abortable
  questions := (everyPause plan poll.pause (k + 1)).toArray

/-- A wait that is about to hear the reply to the question of a number. -/
def asking (k : Nat) (reply : Except BackendError PlanStatus) (party : σ) : Timeline σ :=
  atQuestion plan poll abortable k .asking party (some (k * poll.pause, ⟨reply, 0, false⟩)) none

/-- A wait that sleeps after the question of a number. -/
def sleeping (k : Nat) (party : σ) : Timeline σ :=
  atQuestion plan poll abortable k .sleeping party none (some ((k + 1) * poll.pause))

theorem statusQuestions_atQuestion (k : Nat) (phase : WatchPhase) (party : σ)
    (answer : Option (Nat × StatusAnswer)) (wake : Option Nat) :
    (atQuestion plan poll abortable k phase party answer wake).statusQuestions =
      everyPause plan poll.pause (k + 1) :=
  filter_everyPause plan poll.pause (k + 1)

end States

/-! ## What happens next -/

variable {p : Party σ} {plan : PlanKey} {poll : PollSettings} {abortable : Bool} {k : Nat}
  {s : σ}

/-- A reply that is there at the end of the time is heard before. -/
theorem earliest_asking (h : poll.InTime (k * poll.pause))
    (reply : Except BackendError PlanStatus) :
    earliest (asking plan poll abortable k reply s).timers =
      some (k * poll.pause, .answer ⟨reply, 0, false⟩) := by
  cases htimeout : poll.timeout with
  | none => simp [timers, asking, atQuestion, htimeout, earliest]
  | some limit => simp [timers, asking, atQuestion, htimeout, earliest, h limit htimeout]

/-- A sleep that is over at the end of the time is over before. -/
theorem earliest_sleeping (h : poll.InTime ((k + 1) * poll.pause)) :
    earliest (sleeping plan poll abortable k s).timers = some ((k + 1) * poll.pause, .wake) := by
  cases htimeout : poll.timeout with
  | none => simp [timers, sleeping, atQuestion, htimeout, earliest]
  | some limit => simp [timers, sleeping, atQuestion, htimeout, earliest, h limit htimeout]

/-- The time is over before the sleep. -/
theorem earliest_sleeping_late {limit : UInt64} (htimeout : poll.timeout = some limit)
    (h : milliseconds limit < (k + 1) * poll.pause) :
    earliest (sleeping plan poll abortable k s).timers = some (milliseconds limit, .deadline) := by
  simp [timers, sleeping, atQuestion, htimeout, earliest, Nat.not_le.mpr h]

/-- The watch hears the reply at once. -/
theorem step_asking (p : Party σ) (h : poll.InTime (k * poll.pause))
    (reply : Except BackendError PlanStatus) :
    (asking plan poll abortable k reply s).step p =
      ((atQuestion plan poll abortable k .asking s none none).apply p
        (Watch.hear ⟨plan, poll, false, .asking⟩ reply)).notice p := by
  have hover : (asking plan poll abortable k reply s).watch.isOver = false := rfl
  rw [step, hover, if_neg Bool.false_ne_true, earliest_asking h]
  simp [moveTo, asking, atQuestion, fire, Watch.react]

/-- A reply that the plan is at work sends the watch to sleep. -/
theorem step_asking_of_atWork {scores : Except BackendError (List Performance)}
    {reply : Except BackendError PlanStatus} (exact : p.timers.Exact poll) (abortable : Bool)
    (s : σ) (h : poll.InTime (k * poll.pause)) (hwork : plan.outcome? scores reply = none) :
    ∃ status, (asking plan poll abortable k reply s).step p =
      sleeping plan poll abortable k (p.note s [.planStatus plan status]) := by
  have hsleep (status : PlanStatus) :
      ((atQuestion plan poll abortable k .asking s none none).apply p
        ⟨⟨plan, poll, false, .sleeping⟩, none, [.planStatus plan status]⟩).notice p =
        sleeping plan poll abortable k (p.note s [.planStatus plan status]) := by
    have hwake : p.timers.sleep (milliseconds poll.interval) = poll.pause := exact.sleep
    simp [apply, notice, atQuestion, sleeping, hwake, Nat.succ_mul]
  rw [step_asking p h]
  cases reply with
  | error e => cases hwork
  | ok status =>
    cases status with
    | done | failed | canceled => cases hwork
    | waiting => exact ⟨.waiting, hsleep .waiting⟩
    | running => exact ⟨.running, hsleep .running⟩

/-- A wait is over: with a result, at a time, and after a number of questions. -/
structure OverAt (plan : PlanKey) (poll : PollSettings)
    (result : Except ExperimentError (List Performance)) (time count : Nat) (t : Timeline σ) :
    Prop where
  phase : t.watch.phase = .over result
  now : t.now = time
  questions : t.statusQuestions = everyPause plan poll.pause count

theorem OverAt.isOver {result : Except ExperimentError (List Performance)} {time count : Nat}
    {t : Timeline σ} (h : OverAt plan poll result time count t) : t.watch.isOver = true := by
  rw [Watch.isOver, h.phase]

/-- When the plan is done the scores are fetched at once. -/
theorem overAt_done (p : Party σ) (k : Nat) (s : σ) :
    let scores := (p.performances (p.note s [.planDone plan]) plan).1
    OverAt plan poll (scores.mapError .backend) (k * poll.pause) (k + 1)
      (((atQuestion plan poll abortable k .asking s none none).apply p
        (Watch.hear ⟨plan, poll, false, .asking⟩ (.ok .done))).notice p) := by
  intro scores
  let fetched := (atQuestion plan poll abortable k .asking s none none).apply p
    (Watch.hear ⟨plan, poll, false, .asking⟩ (.ok .done))
  have hwatch : fetched.watch = ⟨plan, poll, false, .over (scores.mapError .backend)⟩ := by
    change (Watch.react _ (.performances scores)).watch = _
    cases scores <;> rfl
  have hnotice : fetched.notice p = fetched := by rw [notice, hwatch]
  have hquestions : fetched.questions.toList =
      everyPause plan poll.pause (k + 1) ++ [⟨.performances, k * poll.pause, fetched.watch.plan⟩] :=
    Array.toList_push
  change OverAt plan poll _ _ _ (fetched.notice p)
  rw [hnotice]
  refine ⟨by rw [hwatch], rfl, ?_⟩
  rw [statusQuestions, hquestions, List.filter_append, filter_everyPause]
  simp

/-- Any other reply is the last one. -/
theorem step_asking_of_outcome {replies : Nat → Except BackendError PlanStatus}
    {scores : Except BackendError (List Performance)} {ready told : Nat → σ → Prop}
    (prompt : p.Prompt plan replies scores ready told) (h : poll.InTime (k * poll.pause))
    (hs : told k s) {result : Except ExperimentError (List Performance)}
    (hresult : plan.outcome? scores (replies k) = some result) :
    OverAt plan poll result (k * poll.pause) (k + 1)
      ((asking plan poll abortable k (replies k) s).step p) := by
  rw [step_asking p h]
  cases hreply : replies k with
  | error e =>
    rw [hreply] at hresult
    obtain rfl := Option.some.inj hresult
    exact ⟨rfl, rfl, statusQuestions_atQuestion ..⟩
  | ok status =>
    rw [hreply] at hresult
    cases status with
    | waiting | running => cases hresult
    | failed | canceled =>
      obtain rfl := Option.some.inj hresult
      exact ⟨rfl, rfl, statusQuestions_atQuestion ..⟩
    | done =>
      obtain rfl := Option.some.inj hresult
      rw [← prompt.performances k _ (prompt.note_told k s [.planDone plan] hs) hreply]
      exact overAt_done p k s

variable {replies : Nat → Except BackendError PlanStatus}
  {scores : Except BackendError (List Performance)} {ready told : Nat → σ → Prop}

/-- A backend that is ready for the question of a number is asked, and replies at once. -/
theorem exists_asking (prompt : p.Prompt plan replies scores ready told) (poll : PollSettings)
    (abortable : Bool) (hs : ready k s) (watch : Watch) (wake : Option Nat) :
    let t : Timeline σ := ⟨k * poll.pause, watch, s, none, wake, poll.timeout.map milliseconds,
      none, abortable, (everyPause plan poll.pause k).toArray⟩
    ∃ s', told k s' ∧ t.apply p ⟨⟨plan, poll, false, .asking⟩, some .status, []⟩ =
      asking plan poll abortable k (replies k) s' := by
  intro t
  have hready := prompt.note k s [] hs
  refine ⟨_, prompt.status k _ hready, ?_⟩
  simp [t, apply, asking, atQuestion, prompt.reply k _ hready, everyPause_succ]

/-- A wait begins with a question. -/
theorem start_eq_asking (prompt : p.Prompt plan replies scores ready told)
    (exact : p.timers.Exact poll) (abortable : Bool) (hs : ready 0 s) :
    ∃ s', told 0 s' ∧ start p s plan poll false none abortable =
      asking plan poll abortable 0 (replies 0) s' := by
  obtain ⟨s', hs', heq⟩ := exists_asking prompt poll abortable hs ⟨plan, poll, false, .asking⟩ none
  refine ⟨s', hs', ?_⟩
  have hdeadline : poll.timeout.map (fun limit => p.timers.limit (milliseconds limit)) =
      poll.timeout.map milliseconds := Option.map_congr exact.limit
  rw [← heq]
  simp [start, Watch.start, Watch.ask, everyPause, hdeadline]

/-- A sleep that is over before the end of the time is followed by a question. -/
theorem step_sleeping (prompt : p.Prompt plan replies scores ready told) (abortable : Bool)
    (hpause : 0 < poll.pause) (h : poll.InTime ((k + 1) * poll.pause)) (hs : told k s) :
    ∃ s', told (k + 1) s' ∧ (sleeping plan poll abortable k s).step p =
      asking plan poll abortable (k + 1) (replies (k + 1)) s' := by
  have hlater : k * poll.pause < (k + 1) * poll.pause := by
    rw [Nat.succ_mul]
    exact Nat.lt_add_of_pos_right hpause
  obtain ⟨s', hs', heq⟩ := exists_asking prompt poll abortable (prompt.settle k s hs)
    ⟨plan, poll, false, .sleeping⟩ (some ((k + 1) * poll.pause))
  refine ⟨s', hs', ?_⟩
  rw [← heq]
  have hover : (sleeping plan poll abortable k s).watch.isOver = false := rfl
  -- the clock moves before the sleep is over, so the watch does not have to give way
  rw [step, hover, if_neg Bool.false_ne_true, earliest_sleeping h]
  simp [sleeping, atQuestion, moveTo, fire, Watch.react, Watch.ask, hlater, Nat.ne_of_gt hlater]

/-- A sleep that would be over after the end of the time is interrupted by it. -/
theorem step_sleeping_late (p : Party σ) {limit : UInt64} (htimeout : poll.timeout = some limit)
    (hreached : k * poll.pause ≤ milliseconds limit)
    (hlate : milliseconds limit < (k + 1) * poll.pause) :
    OverAt plan poll (.error (.pollTimeout plan)) (milliseconds limit) (k + 1)
      ((sleeping plan poll abortable k s).step p) := by
  have hover : (sleeping plan poll abortable k s).watch.isOver = false := rfl
  rw [step, hover, if_neg Bool.false_ne_true, earliest_sleeping_late htimeout hlate]
  let t := (sleeping plan poll abortable k s).moveTo p (milliseconds limit)
  have hnow : t.now = milliseconds limit := by
    change (moveTo p _ _).now = _
    unfold moveTo
    split
    · rfl
    · next hge => exact Nat.le_antisymm hreached (Nat.not_lt.mp hge)
  have hwatch : t.watch = ⟨plan, poll, false, .sleeping⟩ := watch_moveTo ..
  have hexpired : t.watch.react .expired = ⟨⟨plan, poll, false, .over (.error (.pollTimeout plan))⟩,
      none, [.waitExpired plan limit]⟩ := by
    rw [hwatch]
    simp [Watch.react, Watch.expire, Watch.stop, htimeout]
  have hquestions : t.questions = (everyPause plan poll.pause (k + 1)).toArray := by
    change (moveTo p _ _).questions = _
    unfold moveTo
    split <;> rfl
  change OverAt plan poll _ _ _ ({ t with deadline := none }.apply p (t.watch.react .expired))
  rw [hexpired]
  refine ⟨rfl, hnow, ?_⟩
  change t.questions.toList.filter _ = _
  rw [hquestions]
  exact filter_everyPause ..

/-! ## The whole wait -/

/-- A wait that has asked its questions in time: about to hear a reply, asleep, or over. -/
inductive Punctual (plan : PlanKey) (poll : PollSettings) (abortable : Bool)
    (replies : Nat → Except BackendError PlanStatus) (told : Nat → σ → Prop) : Timeline σ → Prop
  | asking {k : Nat} {s : σ} (hs : told k s) (h : poll.InTime (k * poll.pause)) :
    Punctual plan poll abortable replies told (asking plan poll abortable k (replies k) s)
  | sleeping {k : Nat} {s : σ} (hs : told k s) (h : poll.InTime (k * poll.pause)) :
    Punctual plan poll abortable replies told (sleeping plan poll abortable k s)
  | over {t : Timeline σ} {result : Except ExperimentError (List Performance)} {time count : Nat}
    (h : OverAt plan poll result time count t) : Punctual plan poll abortable replies told t

/-- **One step of a wait keeps its times.** -/
theorem Punctual.step {t : Timeline σ} (h : Punctual plan poll abortable replies told t)
    (prompt : p.Prompt plan replies scores ready told) (exact : p.timers.Exact poll)
    (hpause : 0 < poll.pause) :
    Punctual plan poll abortable replies told (t.step p) := by
  cases h with
  | @asking k s hs hk =>
    cases hresult : plan.outcome? scores (replies k) with
    | none =>
      obtain ⟨status, heq⟩ := step_asking_of_atWork exact abortable s hk hresult
      rw [heq]
      exact .sleeping (prompt.note_told k s _ hs) hk
    | some result => exact .over (step_asking_of_outcome prompt hk hs hresult)
  | @sleeping k s hs hk =>
    by_cases hnext : poll.InTime ((k + 1) * poll.pause)
    · obtain ⟨s', hs', heq⟩ := step_sleeping prompt abortable hpause hnext hs
      rw [heq]
      exact .asking hs' hnext
    · obtain ⟨limit, htimeout, hlate⟩ := PollSettings.exists_timeout hnext
      exact .over (step_sleeping_late p htimeout (hk limit htimeout) hlate)
  | «over» h =>
    rw [step_of_over p h.isOver]
    exact .over h

theorem Punctual.questions {t : Timeline σ} (h : Punctual plan poll abortable replies told t) :
    ∃ count, t.statusQuestions = everyPause plan poll.pause count := by
  cases h with
  | asking | sleeping => exact ⟨_, statusQuestions_atQuestion ..⟩
  | «over» h => exact ⟨_, h.questions⟩

section Run

variable (abortable : Bool) (prompt : p.Prompt plan replies scores ready told)
  (exact : p.timers.Exact poll) (hpause : 0 < poll.pause) (hs : ready 0 s)
include prompt exact hpause hs

theorem punctual_run (n : Nat) : Punctual plan poll abortable replies told
    (run p n (start p s plan poll false none abortable)) := by
  induction n with
  | zero =>
    obtain ⟨s', hs', heq⟩ := start_eq_asking prompt exact abortable hs
    rw [run, heq]
    exact .asking hs' (by simpa using PollSettings.inTime_zero)
  | succ n ih =>
    rw [run_succ]
    exact ih.step prompt exact hpause

/-- A wait gets to every question before the end of the time, as long as the plan is at work. -/
theorem run_asking (hwork : ∀ j < k, plan.outcome? scores (replies j) = none)
    (h : poll.InTime (k * poll.pause)) :
    ∃ s', told k s' ∧ run p (2 * k) (start p s plan poll false none abortable) =
      asking plan poll abortable k (replies k) s' := by
  induction k with
  | zero => exact start_eq_asking prompt exact abortable hs
  | succ k ih =>
    have hk : poll.InTime (k * poll.pause) :=
      h.le (Nat.mul_le_mul_right _ (Nat.le_succ k))
    obtain ⟨s', hs', heq⟩ := ih (fun j hj => hwork j (Nat.lt_succ_of_lt hj)) hk
    obtain ⟨status, hsleep⟩ := step_asking_of_atWork exact abortable s' hk
      (hwork k (Nat.lt_succ_self k))
    obtain ⟨s'', hs'', hask⟩ := step_sleeping prompt abortable hpause h
      (prompt.note_told k s' [.planStatus plan status] hs')
    refine ⟨s'', hs'', ?_⟩
    rw [Nat.mul_succ, run_succ, run_succ, heq, hsleep, hask]

/-- The first reply that the plan is not at work ends the wait at its time. -/
theorem run_outcome (hwork : ∀ j < k, plan.outcome? scores (replies j) = none)
    {result : Except ExperimentError (List Performance)}
    (hresult : plan.outcome? scores (replies k) = some result)
    (h : poll.InTime (k * poll.pause)) :
    ∃ n, OverAt plan poll result (k * poll.pause) (k + 1)
      (run p n (start p s plan poll false none abortable)) := by
  obtain ⟨s', hs', hask⟩ := run_asking abortable prompt exact hpause hs hwork h
  refine ⟨2 * k + 1, ?_⟩
  rw [run_succ, hask]
  exact step_asking_of_outcome prompt h hs' hresult

/-- If the plan is at work until the end of the time, the wait is over then. -/
theorem run_late {limit : UInt64} (htimeout : poll.timeout = some limit)
    (hwork : ∀ j, j * poll.pause ≤ milliseconds limit → plan.outcome? scores (replies j) = none) :
    ∃ n, OverAt plan poll (.error (.pollTimeout plan)) (milliseconds limit)
      (limit.toNat / poll.interval.toNat + 1)
      (run p n (start p s plan poll false none abortable)) := by
  -- in milliseconds, as many pauses fit into the time as intervals do in seconds
  have hlast : milliseconds limit / poll.pause = limit.toNat / poll.interval.toNat :=
    Nat.mul_div_mul_left _ _ (by decide)
  let last := limit.toNat / poll.interval.toNat
  have hreached : last * poll.pause ≤ milliseconds limit :=
    (Nat.le_div_iff_mul_le hpause).mp (Nat.le_of_eq hlast.symm)
  have hlate : milliseconds limit < (last + 1) * poll.pause :=
    (Nat.div_lt_iff_lt_mul hpause).mp (Nat.lt_succ_of_le (Nat.le_of_eq hlast))
  have hintime : poll.InTime (last * poll.pause) := fun limit' hlimit' => by
    obtain rfl : limit = limit' := Option.some.inj (htimeout.symm.trans hlimit')
    exact hreached
  have hearlier : ∀ j < last, plan.outcome? scores (replies j) = none := fun j hj =>
    hwork j (Nat.le_trans (Nat.mul_le_mul_right _ (Nat.le_of_lt hj)) hreached)
  obtain ⟨s', hs', hask⟩ := run_asking abortable prompt exact hpause hs hearlier hintime
  obtain ⟨status, hsleep⟩ := step_asking_of_atWork exact abortable s' hintime
    (hwork last hreached)
  refine ⟨2 * last + 2, ?_⟩
  rw [run_succ, run_succ, hask, hsleep]
  exact step_sleeping_late p htimeout hreached hlate

end Run

/-- **A wait is punctual.** Let the timers go off exactly when they should, and let the backend
reply at once. The questions about the status are an interval apart, the first one at the start.
Every question that is due before the end of the time, or at it, is asked, as long as the earlier
replies say that the plan is at work. If such a question is the first one whose reply says something
else, the wait is over at its time, and this is its result. If there is none until the end of the
time, the wait is over at the end of the time, after as many intervals as have fitted in, with one
question more. -/
theorem wait_punctual (p : Party σ) (party : σ) (plan : PlanKey) (poll : PollSettings)
    (abortable : Bool) (replies : Nat → Except BackendError PlanStatus)
    (scores : Except BackendError (List Performance)) (ready told : Nat → σ → Prop)
    (prompt : p.Prompt plan replies scores ready told) (begins : ready 0 party)
    (exact : p.timers.Exact poll) (interval : 1 ≤ poll.interval) :
    let wait n := run p n (start p party plan poll false none abortable)
    let pause := milliseconds poll.interval
    let atWork k := ∃ status, replies k = .ok status ∧ status.isTerminal = false
    (∀ n, ∃ count, (wait n).statusQuestions = everyPause plan pause count) ∧
      (∀ k, (∀ j < k, atWork j) → poll.InTime (k * pause) →
        ∃ n, (wait n).statusQuestions = everyPause plan pause (k + 1)) ∧
      (∀ k result, (∀ j < k, atWork j) → plan.outcome? scores (replies k) = some result →
        poll.InTime (k * pause) →
          ∃ n, OverAt plan poll result (k * pause) (k + 1) (wait n)) ∧
      ∀ limit, poll.timeout = some limit →
        (∀ j, j * pause ≤ milliseconds limit → atWork j) →
          ∃ n, OverAt plan poll (.error (.pollTimeout plan)) (milliseconds limit)
            (limit.toNat / poll.interval.toNat + 1) (wait n) := by
  intro wait pause atWork
  have hpause := PollSettings.pause_pos interval
  have hnone {j : Nat} (h : atWork j) : plan.outcome? scores (replies j) = none :=
    PlanKey.outcome?_eq_none_iff.mpr h
  refine ⟨fun n => ?_, fun k hwork h => ?_, fun k result hwork hresult h => ?_,
    fun limit htimeout hwork => ?_⟩
  · exact (punctual_run abortable prompt exact hpause begins n).questions
  · obtain ⟨s, -, hask⟩ := run_asking abortable prompt exact hpause begins
      (fun j hj => hnone (hwork j hj)) h
    refine ⟨2 * k, ?_⟩
    change (run p (2 * k) _).statusQuestions = _
    rw [hask]
    exact statusQuestions_atQuestion ..
  · exact run_outcome abortable prompt exact hpause begins (fun j hj => hnone (hwork j hj))
      hresult h
  · exact run_late abortable prompt exact hpause begins htimeout fun j hj => hnone (hwork j hj)

/-- A scripted backend whose answers take no time, and before which nobody raises the signal,
replies at once. -/
theorem prompt_scripted (script : Script) (plan : PlanKey)
    (h : ∀ k, (script.item k).delay = 0 ∧ (script.item k).raises = false) :
    (World.scriptedParty script).Prompt plan (fun k => (script.item k).answer) script.performances
      (fun k w => w.2 = k) (fun k w => w.2 = k + 1) where
  reply k w hw := by
    obtain ⟨hdelay, hraises⟩ := h w.2
    simp [World.scriptedParty, ← hw, hdelay, hraises, Timers.nap]
  status _ _ hw := congrArg (· + 1) hw
  performances _ _ _ _ := rfl
  settle _ _ hw := hw
  note _ _ _ hw := hw
  note_told _ _ _ hw := hw

/-- A backend that says at once that a plan is running, and then that it is done. -/
def runningThenDone : Script where
  statuses := [⟨.ok .running, 0, false⟩, ⟨.ok .done, 0, false⟩]
  repeatLast := false
  performances := .ok []
  submit := .ok (.drawn 0)

/-- A wait on this backend, after a number of steps. -/
def waitOnRunningThenDone (poll : PollSettings) (n : Nat) : Timeline (World × Nat) :=
  run (World.scriptedParty runningThenDone) n
    (start (World.scriptedParty runningThenDone) (.empty, 0) (.drawn 0) poll false none true)

theorem prompt_runningThenDone : (World.scriptedParty runningThenDone).Prompt (.drawn 0)
    (fun k => (runningThenDone.item k).answer) (.ok []) (fun k w => w.2 = k)
    (fun k w => w.2 = k + 1) :=
  prompt_scripted runningThenDone (.drawn 0) fun k => by
    match k with
    | 0 | 1 => exact ⟨rfl, rfl⟩
    | k + 2 => exact ⟨rfl, rfl⟩

/-- Asked every two seconds, this backend is done after two seconds and two questions; a wait of one
second is over before, and a wait of no time at all asks once. The timers of a rehearsal are exact
for such intervals. -/
theorem wait_punctual_on_runningThenDone :
    (∃ n, OverAt (.drawn 0) ⟨2, none⟩ (.ok []) 2000 2 (waitOnRunningThenDone ⟨2, none⟩ n)) ∧
      (∃ n, OverAt (.drawn 0) ⟨2, some 1⟩ (.error (.pollTimeout (.drawn 0))) 1000 1
        (waitOnRunningThenDone ⟨2, some 1⟩ n)) ∧
      ∃ n, OverAt (.drawn 0) ⟨2, some 0⟩ (.error (.pollTimeout (.drawn 0))) 0 1
        (waitOnRunningThenDone ⟨2, some 0⟩ n) := by
  have exact (timeout : Option UInt64) : Timers.rehearsed.Exact ⟨2, timeout⟩ :=
    ⟨rfl, fun _ _ => rfl⟩
  have running (j : Nat) (h : j < 1) :
      ∃ status, (runningThenDone.item j).answer = .ok status ∧ status.isTerminal = false := by
    obtain rfl : j = 0 := Nat.lt_one_iff.mp h
    exact ⟨.running, rfl, rfl⟩
  obtain ⟨-, -, ends, -⟩ := wait_punctual _ (.empty, 0) (.drawn 0) ⟨2, none⟩ true _ _ _ _
    prompt_runningThenDone rfl (exact none) (by decide)
  obtain ⟨-, -, -, expires⟩ := wait_punctual _ (.empty, 0) (.drawn 0) ⟨2, some 1⟩ true _ _ _ _
    prompt_runningThenDone rfl (exact (some 1)) (by decide)
  obtain ⟨-, -, -, expiresAtOnce⟩ := wait_punctual _ (.empty, 0) (.drawn 0) ⟨2, some 0⟩ true _ _ _ _
    prompt_runningThenDone rfl (exact (some 0)) (by decide)
  refine ⟨ends 1 (.ok []) running rfl nofun, expires 1 rfl fun j hj => running j ?_,
    expiresAtOnce 0 rfl fun j hj => running j ?_⟩
  · change j * 2000 ≤ 1000 at hj
    omega
  · change j * 2000 ≤ 0 at hj
    omega

end Timeline

end Federation
