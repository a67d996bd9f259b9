import Tobiko.Common.Retry

/-!
Contract: when the attempts of a retry are made.

Owns: the time between two attempts as a function of the pause that is due and
of the guard that skips it near the deadline, on any clock, and the end of each
pause relative to the deadline, on the clock that sleeps exactly as long as it
is asked to.

The guard compares the pause with the time that was left when the attempt
started, not with the time that is left after its body.
-/

namespace Tobiko.Common.Retry

open Tobiko.Common.Time

variable {Exc World : Type} {retry : Retry} {clock : Clock World}
  {bodies : Nat → clock.Action} {world later after : World} {index : Nat} {frame next : Frame}

/-- The iteration with bodies that take their time. -/
def timedIterate (Exc : Type) (retry : Retry) (clock : Clock World) (bodies : Nat → clock.Action)
    (world : World) (index : Nat) : Resumed Exc × World :=
  retry.iterate clock (fun index => (bodies index).run) world index

/-- The time between the first reading of the clock and the one after the body. -/
def elapsedAfter (clock : Clock World) (frame : Frame) (ended : World) : ℚ :=
  (clock.time ended).1 - frame.startTime

/-- A positive pause is due, and the time left at the start of the attempt is
not longer. The next attempt is then made at once. -/
def SkipsPause (retry : Retry) (attempt : RetryAttempt) (elapsedTime : ℚ) : Prop :=
  ∃ pause timeLeft, retry.pause attempt elapsedTime = some pause ∧
    attempt.timeLeft = some timeLeft ∧ 0 < pause ∧ timeLeft ≤ pause

/-! ### The pause -/

theorem sleeps_eq_some {attempt : RetryAttempt} {elapsedTime : ℚ} {seconds : ℚ≥0}
    (sleeps : retry.sleeps attempt elapsedTime = some seconds) :
    retry.pause attempt elapsedTime = some (seconds : ℚ) ∧ 0 < seconds ∧
      ∀ timeLeft, attempt.timeLeft = some timeLeft → (seconds : ℚ) < timeLeft := by
  unfold Retry.sleeps at sleeps
  cases due : retry.pause attempt elapsedTime with
  | none => simp [due] at sleeps
  | some pause =>
      rw [due] at sleeps
      dsimp only at sleeps
      split at sleeps
      · rename_i positive
        have exact : ((toSecondsFloat pause : ℚ≥0) : ℚ) = pause := by
          rw [coe_toSecondsFloat, max_eq_left positive.le]
        cases left : attempt.timeLeft with
        | none =>
            simp only [left, Option.some.injEq] at sleeps
            subst sleeps
            refine ⟨by rw [exact], ?_, by simp⟩
            rw [← NNRat.coe_pos, exact]
            exact positive
        | some timeLeft =>
            simp only [left] at sleeps
            split at sleeps
            · rename_i shorter
              obtain rfl := Option.some.inj sleeps
              refine ⟨by rw [exact], ?_, ?_⟩
              · rw [← NNRat.coe_pos, exact]
                exact positive
              · rintro _ ⟨rfl⟩
                rw [exact]
                exact shorter
            · contradiction
      · contradiction

theorem sleeps_eq_none {attempt : RetryAttempt} {elapsedTime : ℚ}
    (awake : retry.sleeps attempt elapsedTime = none) :
    retry.SkipsPause attempt elapsedTime ∨
      ∀ pause, retry.pause attempt elapsedTime = some pause → pause ≤ 0 := by
  by_cases due : ∃ pause, retry.pause attempt elapsedTime = some pause ∧ 0 < pause
  · obtain ⟨pause, due, positive⟩ := due
    unfold Retry.sleeps at awake
    rw [due] at awake
    simp only [positive, if_true] at awake
    cases left : attempt.timeLeft with
    | none => simp [left] at awake
    | some timeLeft =>
        simp only [left] at awake
        refine .inl ⟨pause, timeLeft, due, left, positive, ?_⟩
        by_contra shorter
        simp [not_le.mp shorter] at awake
  · refine .inr fun pause same => ?_
    by_contra positive
    exact due ⟨pause, same, not_le.mp positive⟩

/-- Without a pause the next attempt is made at the reading after the body. -/
theorem resume_awake {ended : World} (free : ¬ frame.attempt.AtLimit)
    (awake : retry.sleeps frame.attempt (elapsedAfter clock frame ended) = none) :
    (retry.resume clock none frame ended : Resumed Exc × World) =
      (retry.nextAttempt frame.startTime (elapsedAfter clock frame ended) frame.numbers,
        (clock.time ended).2) := by
  unfold Retry.resume
  rw [RetryAttempt.checkLimits_ok free]
  dsimp only
  unfold elapsedAfter at awake
  rw [awake]
  rfl

/-- After a pause the clock is read again. -/
theorem resume_asleep {ended : World} {seconds : ℚ≥0} (free : ¬ frame.attempt.AtLimit)
    (sleeps : retry.sleeps frame.attempt (elapsedAfter clock frame ended) = some seconds) :
    (retry.resume clock none frame ended : Resumed Exc × World) =
      (retry.nextAttempt frame.startTime
          ((clock.time (clock.sleep seconds (clock.time ended).2)).1 - frame.startTime)
          frame.numbers,
        (clock.time (clock.sleep seconds (clock.time ended).2)).2) := by
  unfold Retry.resume
  rw [RetryAttempt.checkLimits_ok free]
  dsimp only
  unfold elapsedAfter at sleeps
  rw [sleeps]

/-- What a resumption that yields has done with the time. -/
theorem resume_timing {ended : World}
    (yielded : (retry.resume clock none frame ended : Resumed Exc × World) =
      (.yielded next, after)) :
    next.startTime = frame.startTime ∧ next.attempt.startTime = frame.startTime ∧
      ((∃ seconds, retry.sleeps frame.attempt (elapsedAfter clock frame ended) = some seconds ∧
          next.attempt.elapsedTime =
            (clock.time (clock.sleep seconds (clock.time ended).2)).1 - frame.startTime ∧
          after = (clock.time (clock.sleep seconds (clock.time ended).2)).2) ∨
        (retry.sleeps frame.attempt (elapsedAfter clock frame ended) = none ∧
          next.attempt.elapsedTime = elapsedAfter clock frame ended ∧
          after = (clock.time ended).2)) := by
  by_cases last : frame.attempt.AtLimit
  · obtain ⟨raised, failed, -⟩ := resume_error retry clock (none : Option Exc) ended last
    rw [failed] at yielded
    cases congrArg Prod.fst yielded
  · cases sleeps : retry.sleeps frame.attempt (elapsedAfter clock frame ended) with
    | none =>
        rw [resume_awake last sleeps, nextAttempt_eq] at yielded
        obtain ⟨same, rfl⟩ := Prod.mk.inj yielded
        obtain rfl := Resumed.yielded.inj same
        exact ⟨rfl, rfl, .inr ⟨rfl, rfl, rfl⟩⟩
    | some seconds =>
        rw [resume_asleep last sleeps, nextAttempt_eq] at yielded
        obtain ⟨same, rfl⟩ := Prod.mk.inj yielded
        obtain rfl := Resumed.yielded.inj same
        exact ⟨rfl, rfl, .inl ⟨seconds, rfl, rfl, rfl⟩⟩

theorem timed_start
    (yielded : timedIterate Exc retry clock bodies world 0 = (.yielded frame, later)) :
    frame.attempt.startTime = (clock.time world).1 ∧ frame.startTime = (clock.time world).1 ∧
      frame.attempt.elapsedTime = 0 ∧ later = (clock.time world).2 := by
  unfold timedIterate Retry.iterate at yielded
  rw [start_eq] at yielded
  obtain ⟨same, rfl⟩ := Prod.mk.inj yielded
  obtain rfl := Resumed.yielded.inj same
  exact ⟨rfl, rfl, rfl, rfl⟩

theorem timed_succ
    (yielded : timedIterate Exc retry clock bodies world index = (.yielded frame, later)) :
    timedIterate Exc retry clock bodies world (index + 1) =
      retry.resume clock none frame ((bodies index).run later) :=
  iterate_succ yielded

/-! ### Pacing -/

/-- The time that passes between the start of the iteration, or the end of a
body, and the next attempt, when the pause is not skipped. -/
theorem paced_step
    (yielded : timedIterate Exc retry clock bodies world index = (.yielded frame, later))
    (again : timedIterate Exc retry clock bodies world (index + 1) = (.yielded next, after))
    (paused : ¬ retry.SkipsPause frame.attempt
      (elapsedAfter clock frame ((bodies index).run later))) :
    (∀ interval : ℚ≥0, retry.interval = some interval → retry.sleepTime = none →
      next.attempt.startTime + (index + 1) * (interval : ℚ) ≤ clock.now after) ∧
    ∀ sleepTime : ℚ≥0, retry.sleepTime = some sleepTime →
      clock.now ((bodies index).run later) + sleepTime ≤ clock.now after := by
  have number : frame.attempt.number = (index : Int) + 1 := (iterate_follows yielded).number_eq
  rw [timed_succ yielded] at again
  obtain ⟨-, startTime, slept | ⟨awake, -, rfl⟩⟩ := resume_timing again
  · obtain ⟨seconds, sleeps, -, rfl⟩ := slept
    obtain ⟨due, -, -⟩ := sleeps_eq_some sleeps
    have woken := (clock.time_after _).trans
      (clock.time_before (clock.sleep seconds (clock.time ((bodies index).run later)).2))
    have asleep := clock.sleep_after seconds (clock.time ((bodies index).run later)).2
    have reading := clock.time_before ((bodies index).run later)
    have ended := clock.time_after ((bodies index).run later)
    constructor
    · intro interval every noSleepTime
      rw [startTime]
      simp only [Retry.pause, noSleepTime, every, Option.some.injEq, number] at due
      unfold elapsedAfter at due
      push_cast at due
      linarith
    · intro sleepTime every
      simp only [Retry.pause, every, Option.some.injEq] at due
      linarith
  · obtain skipped | short := sleeps_eq_none awake
    · exact absurd skipped paused
    · have reading := clock.time_before ((bodies index).run later)
      have ended := clock.time_after ((bodies index).run later)
      constructor
      · intro interval every noSleepTime
        rw [startTime]
        have late := short _ (by simp only [Retry.pause, noSleepTime, every]; rfl)
        rw [number] at late
        unfold elapsedAfter at late
        push_cast at late
        linarith
      · intro sleepTime every
        have none_ := short sleepTime (by simp only [Retry.pause, every])
        linarith

/-- Without a timeout no pause is skipped. -/
theorem not_skipsPause_of_noTimeout
    (yielded : timedIterate Exc retry clock bodies world index = (.yielded frame, later))
    (unlimited : retry.timeout = none) (elapsedTime : ℚ) :
    ¬ retry.SkipsPause frame.attempt elapsedTime := by
  rintro ⟨pause, timeLeft, -, left, -⟩
  have noTimeout := (iterate_follows yielded).timeout_eq.trans unlimited
  simp [RetryAttempt.timeLeft, noTimeout] at left

/-- **Pacing.** An attempt is not made before its turn, and not before the sleep
time has passed since the last body, unless the pause that was due is skipped
near the deadline. -/
theorem paced_unless_skipped (Exc : Type) (retry : Retry) (clock : Clock World)
    (bodies : Nat → clock.Action) (world : World) :
    (∀ frame later, timedIterate Exc retry clock bodies world 0 = (.yielded frame, later) →
      frame.attempt.startTime ≤ clock.now later) ∧
    (∀ index frame later next after,
      timedIterate Exc retry clock bodies world index = (.yielded frame, later) →
      timedIterate Exc retry clock bodies world (index + 1) = (.yielded next, after) →
      retry.SkipsPause frame.attempt (elapsedAfter clock frame ((bodies index).run later)) ∨
      ((∀ interval : ℚ≥0, retry.interval = some interval → retry.sleepTime = none →
          next.attempt.startTime + (index + 1) * (interval : ℚ) ≤ clock.now after) ∧
        ∀ sleepTime : ℚ≥0, retry.sleepTime = some sleepTime →
          clock.now ((bodies index).run later) + sleepTime ≤ clock.now after)) ∧
    (retry.timeout = none → ∀ index frame later elapsedTime,
      timedIterate Exc retry clock bodies world index = (.yielded frame, later) →
      ¬ retry.SkipsPause frame.attempt elapsedTime) := by
  refine ⟨?_, ?_, ?_⟩
  · intro frame later yielded
    obtain ⟨startTime, -, -, rfl⟩ := timed_start yielded
    rw [startTime]
    exact clock.time_before world
  · intro index frame later next after yielded again
    by_cases skipped : retry.SkipsPause frame.attempt
        (elapsedAfter clock frame ((bodies index).run later))
    · exact .inl skipped
    · exact .inr (paced_step yielded again skipped)
  · exact fun unlimited index frame later elapsedTime yielded =>
      not_skipsPause_of_noTimeout yielded unlimited elapsedTime

/-- With an interval of 5 seconds and a timeout of 3 the second attempt is made at once. -/
theorem interval_not_paced :
    ¬ ∀ (retry : Retry) (bodies : Nat → Clock.ideal.Action) (world : ℚ) index frame later,
      timedIterate Unit retry Clock.ideal bodies world index = (.yielded frame, later) →
      ∀ interval : ℚ≥0, retry.interval = some interval → 0 < interval → retry.sleepTime = none →
        frame.attempt.startTime + index * (interval : ℚ) ≤ later := by
  intro paced
  let retry : Retry := ⟨none, some 3, none, some 5⟩
  let bodies : Nat → Clock.ideal.Action := fun _ => Clock.lasting 0
  have started : timedIterate Unit retry Clock.ideal bodies (0 : ℚ) 0 =
      (.yielded (retry.firstFrame 0), 0) := by
    rw [timedIterate, iterate, start_eq]
    rfl
  have free : ¬ (retry.firstFrame 0).attempt.AtLimit := by
    simp [RetryAttempt.AtLimit, firstFrame, retry]
  have awake : retry.sleeps (retry.firstFrame 0).attempt
      (elapsedAfter Clock.ideal (retry.firstFrame 0) ((bodies 0).run 0)) = none := by
    simp [Retry.sleeps, Retry.pause, retry, firstFrame, RetryAttempt.timeLeft, elapsedAfter,
      Clock.ideal, bodies, Clock.lasting]
    norm_num
  have again := timed_succ started
  rw [resume_awake free awake, nextAttempt_eq] at again
  have late := paced retry bodies 0 1 _ _ again 5 rfl (by norm_num) rfl
  norm_num [firstFrame, bodies, Clock.ideal, Clock.lasting] at late

/-! ### The end of a pause

On the ideal clock an attempt starts at the moment that its elapsed time tells,
and a body ends as much later as it takes. -/

section Ideal

variable {durations : Nat → ℚ≥0} {start moment : ℚ}

/-- The iteration on the ideal clock, with bodies of the given durations. -/
def idealIterate (Exc : Type) (retry : Retry) (durations : Nat → ℚ≥0) (start : ℚ) (index : Nat) :
    Resumed Exc × ℚ :=
  timedIterate Exc retry Clock.ideal (fun index => Clock.lasting (durations index)) start index

theorem ideal_moment
    (yielded : idealIterate Exc retry durations start index = (.yielded frame, moment)) :
    moment = frame.startTime + frame.attempt.elapsedTime := by
  induction index generalizing frame moment with
  | zero =>
      obtain ⟨-, startTime, elapsedTime, rfl⟩ := timed_start yielded
      rw [startTime, elapsedTime]
      simp [Clock.ideal]
  | succ index inductionHypothesis =>
      obtain ⟨previous, before, earlier, resumed⟩ := iterate_succ_yielded yielded
      obtain ⟨startTime, -, ⟨seconds, -, elapsedTime, rfl⟩ | ⟨-, elapsedTime, rfl⟩⟩ :=
        resume_timing resumed
      · rw [startTime, elapsedTime]
        simp only [Clock.ideal]
        ring
      · rw [startTime, elapsedTime]
        simp only [elapsedAfter, Clock.ideal]
        ring

/-- The pause that is due when the body of the attempt has taken its time. -/
def pauseAfter (retry : Retry) (attempt : RetryAttempt) (duration : ℚ≥0) : Option ℚ :=
  retry.pause attempt (attempt.elapsedTime + duration)

/-- Either no pause is made after the body, or the time left at the start of the
attempt is enough for the body and the pause. -/
def BodyFits (retry : Retry) (attempt : RetryAttempt) (duration : ℚ≥0) : Prop :=
  ∀ timeLeft pause, attempt.timeLeft = some timeLeft →
    retry.pauseAfter attempt duration = some pause →
    pause ≤ 0 ∨ timeLeft ≤ pause ∨ duration + pause ≤ timeLeft

/-- The pause after the attempt ends no later than the timeout, counted from the
start of the iteration. -/
def PauseEndsInTime (retry : Retry) (attempt : RetryAttempt) (duration : ℚ≥0) : Prop :=
  ∀ (timeout seconds : ℚ≥0), retry.timeout = some timeout →
    retry.sleeps attempt (attempt.elapsedTime + duration) = some seconds →
    attempt.elapsedTime + duration + seconds ≤ timeout

theorem pauseEndsInTime_iff {attempt : RetryAttempt} (sameTimeout : attempt.timeout = retry.timeout)
    (free : ¬ attempt.AtLimit) (duration : ℚ≥0) :
    retry.PauseEndsInTime attempt duration ↔ retry.BodyFits attempt duration := by
  have left : ∀ timeout : ℚ≥0, retry.timeout = some timeout →
      attempt.timeLeft = some (timeout - attempt.elapsedTime) := by
    intro timeout limited
    have positive : attempt.elapsedTime < timeout := by
      by_contra reached
      exact free (.inr ⟨timeout, sameTimeout.trans limited, not_lt.mp reached⟩)
    rw [RetryAttempt.timeLeft, sameTimeout, limited, Option.map_some,
      max_eq_right (sub_nonneg.mpr positive.le)]
  constructor
  · intro inTime timeLeft pause some_left due
    obtain ⟨timeout, limited⟩ : ∃ timeout, retry.timeout = some timeout := by
      rw [← sameTimeout]
      cases limited : attempt.timeout with
      | none => simp [RetryAttempt.timeLeft, limited] at some_left
      | some timeout => exact ⟨timeout, rfl⟩
    rw [left timeout limited] at some_left
    obtain rfl := Option.some.inj some_left
    cases sleeps : retry.sleeps attempt (attempt.elapsedTime + duration) with
    | none =>
        rcases sleeps_eq_none sleeps with ⟨skipped, timeLeft, same, found, -, longer⟩ | short
        · obtain rfl := Option.some.inj (due.symm.trans same)
          rw [left timeout limited] at found
          obtain rfl := Option.some.inj found
          exact .inr (.inl longer)
        · exact .inl (short pause due)
    | some seconds =>
        obtain ⟨same, -, -⟩ := sleeps_eq_some sleeps
        obtain rfl := Option.some.inj (due.symm.trans same)
        have ends := inTime timeout seconds limited sleeps
        exact .inr (.inr (by linarith))
  · intro fits timeout seconds limited sleeps
    obtain ⟨due, positive, shorter⟩ := sleeps_eq_some sleeps
    have some_left := left timeout limited
    have less := shorter _ some_left
    rcases fits _ _ some_left due with none_ | skipped | enough
    · exact absurd (NNRat.coe_pos.mpr positive) (not_lt.mpr none_)
    · exact absurd less (not_lt.mpr skipped)
    · linarith

/-- The elapsed time of the next attempt is beyond the timeout only if the body ended beyond it. -/
def OnlyBodyOverruns (Exc : Type) (retry : Retry) (durations : Nat → ℚ≥0) (start : ℚ) (index : Nat)
    (attempt : RetryAttempt) : Prop :=
  ∀ next later (timeout : ℚ≥0),
    idealIterate Exc retry durations start (index + 1) = (.yielded next, later) →
    retry.timeout = some timeout → timeout < next.attempt.elapsedTime →
    timeout < attempt.elapsedTime + durations index

theorem onlyBodyOverruns_of_inTime
    (yielded : idealIterate Exc retry durations start index = (.yielded frame, moment))
    (inTime : retry.PauseEndsInTime frame.attempt (durations index)) :
    retry.OnlyBodyOverruns Exc durations start index frame.attempt := by
  intro next later timeout again limited beyond
  have ended : elapsedAfter Clock.ideal frame ((Clock.lasting (durations index)).run moment) =
      frame.attempt.elapsedTime + durations index := by
    rw [ideal_moment yielded]
    simp only [elapsedAfter, Clock.ideal, Clock.lasting]
    ring
  have resumed := (timed_succ yielded).symm.trans again
  obtain ⟨-, -, ⟨seconds, sleeps, elapsedTime, -⟩ | ⟨-, elapsedTime, -⟩⟩ := resume_timing resumed
  · rw [ended] at sleeps
    have ends := inTime timeout seconds limited sleeps
    have woken : next.attempt.elapsedTime =
        frame.attempt.elapsedTime + durations index + seconds := by
      rw [elapsedTime, ← ended]
      simp only [elapsedAfter, Clock.ideal]
      ring
    rw [woken] at beyond
    exact absurd beyond (not_lt.mpr ends)
  · rw [elapsedTime, ended] at beyond
    exact beyond

/-- **Pauses and the deadline.** All the pauses of an iteration end in time, so
that only a body overruns the deadline, exactly when after each attempt but the
last one either no pause is made or the body leaves enough time for it. -/
theorem pauses_end_in_time_iff (Exc : Type) (retry : Retry) (durations : Nat → ℚ≥0) (start : ℚ) :
    (∀ index frame moment,
      idealIterate Exc retry durations start index = (.yielded frame, moment) →
      frame.attempt.isLast (none : Option Exc) = false →
      retry.PauseEndsInTime frame.attempt (durations index) ∧
        retry.OnlyBodyOverruns Exc durations start index frame.attempt) ↔
    ∀ index frame moment,
      idealIterate Exc retry durations start index = (.yielded frame, moment) →
      frame.attempt.isLast (none : Option Exc) = false →
      retry.BodyFits frame.attempt (durations index) := by
  have exact : ∀ index frame moment,
      idealIterate Exc retry durations start index = (.yielded frame, moment) →
      frame.attempt.isLast (none : Option Exc) = false →
      (retry.PauseEndsInTime frame.attempt (durations index) ↔
        retry.BodyFits frame.attempt (durations index)) := by
    intro index frame moment yielded notLast
    rw [← Bool.not_eq_true, RetryAttempt.isLast_iff] at notLast
    exact pauseEndsInTime_iff (iterate_follows yielded).timeout_eq notLast _
  constructor
  · intro inTime index frame moment yielded notLast
    exact (exact index frame moment yielded notLast).mp
      (inTime index frame moment yielded notLast).1
  · intro fits index frame moment yielded notLast
    have ends := (exact index frame moment yielded notLast).mpr
      (fits index frame moment yielded notLast)
    exact ⟨ends, onlyBodyOverruns_of_inTime yielded ends⟩

end Ideal

/-- With a timeout of 10 seconds and a sleep time of 5, a first body of 8 seconds
is followed by a pause that ends after 13. -/
theorem pause_ends_late :
    ¬ ∀ (retry : Retry) (durations : Nat → ℚ≥0) (start : ℚ) index frame moment,
      idealIterate Unit retry durations start index = (.yielded frame, moment) →
      frame.attempt.isLast (none : Option Unit) = false →
      retry.PauseEndsInTime frame.attempt (durations index) := by
  intro inTime
  let retry : Retry := ⟨none, some 10, some 5, none⟩
  have started : idealIterate Unit retry (fun _ => 8) 0 0 =
      (.yielded (retry.firstFrame 0), 0) := by
    rw [idealIterate, timedIterate, iterate, start_eq]
    rfl
  have free : ¬ (retry.firstFrame 0).attempt.AtLimit := by
    simp [RetryAttempt.AtLimit, firstFrame, retry]
  have notLast : (retry.firstFrame 0).attempt.isLast (none : Option Unit) = false := by
    rw [← Bool.not_eq_true, RetryAttempt.isLast_iff]
    exact free
  have sleeps : retry.sleeps (retry.firstFrame 0).attempt
      ((retry.firstFrame 0).attempt.elapsedTime + ((8 : ℚ≥0) : ℚ)) = some 5 := by
    norm_num [Retry.sleeps, Retry.pause, retry, firstFrame, RetryAttempt.timeLeft]
    exact_mod_cast toSecondsFloat_coe 5
  have ends := inTime retry (fun _ => 8) 0 0 _ 0 started notLast 10 5 rfl sleeps
  norm_num [firstFrame] at ends

end Tobiko.Common.Retry
