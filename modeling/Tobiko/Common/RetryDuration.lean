import Tobiko.Common.RetryLoop
import Tobiko.Common.RetryTiming

/-!
Contract: loops over a retry end in time.

Owns: the bound on the turns of a loop whose retry has a timeout and whose body takes some time.

Does not own: what the loop does.

The pauses of a retry are left out when they would end too late, so that near the deadline only
the body makes the time pass.
-/

namespace Tobiko.Common.Retry

open Tobiko.Common.Time Tobiko.Foundation

/-- The turns are more than two, and enough for bodies of that duration to fill the rest of the
time. -/
structure EnoughTurns (timeout duration elapsedTime : ℚ) (turns : Nat) : Prop where
  two : 2 ≤ turns
  fills : timeout - elapsedTime + 2 * duration ≤ turns * duration

/-- Below the timeout a turn can be spent. -/
theorem EnoughTurns.next {timeout duration elapsedTime later : ℚ} {turns : Nat}
    (enough : EnoughTurns timeout duration elapsedTime (turns + 1)) (positive : 0 < duration)
    (free : elapsedTime < timeout) (passed : elapsedTime + duration ≤ later) :
    EnoughTurns timeout duration later turns := by
  have fills := enough.fills
  push_cast at fills
  have spare : timeout - elapsedTime + duration ≤ turns * duration := by linarith
  refine ⟨?_, by linarith⟩
  by_contra few
  have one : (turns : ℚ) ≤ 1 := by
    have atMost : turns ≤ 1 := by omega
    exact_mod_cast atMost
  have short : (turns : ℚ) * duration ≤ 1 * duration :=
    mul_le_mul_of_nonneg_right one positive.le
  linarith

section Timed

variable {Error State Local Value : Type} {retry : Retry} {clock : Clock State}
  {errors : LoopErrors Error}
  {body : RetryAttempt → Local → Effect Error State (Turn Local Value)}
  {timeout duration : ℚ}

/-- Each turn of the body comes to an end, after that time at least. -/
def Lasts (clock : Clock State)
    (body : RetryAttempt → Local → Effect Error State (Turn Local Value)) (duration : ℚ) : Prop :=
  ∀ attempt locals state, ∃ result after, body attempt locals state = some (result, after) ∧
    clock.now state + duration ≤ clock.now after

/-- The attempt of the generator knows no more than the time that has passed. -/
structure Frame.Timely (clock : Clock State) (frame : Frame) (state : State) : Prop where
  passed : frame.startTime + frame.attempt.elapsedTime ≤ clock.now state

/-- The next attempt knows of the time that the body took. -/
theorem resume_timely {frame next : Frame} {ended after : State}
    (yielded : (retry.resume clock (none : Option Error) frame ended : Resumed Error × State) =
      (.yielded next, after)) :
    next.Timely clock after ∧ next.startTime = frame.startTime ∧
      clock.now ended - frame.startTime ≤ next.attempt.elapsedTime := by
  obtain ⟨same, -, timing⟩ := resume_timing yielded
  have read := clock.time_after ended
  rcases timing with ⟨seconds, -, elapsed, rfl⟩ | ⟨-, elapsed, rfl⟩
  · have slept := clock.sleep_after seconds (clock.time ended).2
    have before := clock.time_before ended
    have again := clock.time_after (clock.sleep seconds (clock.time ended).2)
    have known := clock.time_before (clock.sleep seconds (clock.time ended).2)
    have pause := seconds.coe_nonneg
    refine ⟨⟨?_⟩, same, ?_⟩
    · rw [same, elapsed]
      linarith
    · rw [elapsed]
      linarith
  · have known := clock.time_before ended
    refine ⟨⟨?_⟩, same, ?_⟩
    · rw [same, elapsed, elapsedAfter]
      linarith
    · rw [elapsed, elapsedAfter]
      linarith

variable (limited : ∃ limit : ℚ≥0, retry.timeout = some limit ∧ (limit : ℚ) = timeout)
  (positive : 0 < duration) (lasts : Lasts clock body duration)
include limited positive lasts

theorem loopFrom_ends_timed (turns : Nat) (locals : Local) {frame : Frame} {number : Int}
    {state : State} (follows : frame.Follows retry number) (timely : frame.Timely clock state)
    (enough : EnoughTurns timeout duration frame.attempt.elapsedTime turns) :
    (retry.loopFrom clock errors body turns locals (.yielded frame) state).isSome := by
  induction turns generalizing locals frame number state with
  | zero =>
      have two := enough.two
      omega
  | succ turns inductionHypothesis =>
      obtain ⟨result, after, ran, lasted⟩ := lasts frame.attempt locals state
      have unfolded : retry.loopFrom clock errors body (turns + 1) locals (.yielded frame) state =
          Effect.bind (body frame.attempt locals) _ state := rfl
      rw [unfolded, Effect.bind, ran]
      rcases result with error | ⟨⟨locals⟩ | value⟩
      · rfl
      · change (retry.loopFrom clock errors body turns locals
          (retry.resume clock (none : Option Error) frame after).1
          (retry.resume clock (none : Option Error) frame after).2).isSome
        by_cases last : frame.attempt.AtLimit
        · obtain ⟨raised, failed, -⟩ := resume_error retry clock (none : Option Error) after last
          rw [failed]
          have two := enough.two
          cases turns with
          | zero => omega
          | succ turns => rfl
        · obtain ⟨limit, bounded, rfl⟩ := limited
          have free : frame.attempt.elapsedTime < limit := by
            by_contra reached
            apply last
            right
            exact ⟨limit, by rw [follows.timeout_eq, bounded], not_lt.mp reached⟩
          obtain ⟨elapsedTime, later, passed⟩ :=
            resume_yielded retry clock (none : Option Error) after last
          obtain ⟨next, yielded, nextFollows⟩ :=
            @nextAttempt_yielded Error retry frame.startTime elapsedTime frame.numbers
          rw [yielded] at passed
          obtain ⟨nextTimely, -, known⟩ := resume_timely passed
          rw [passed]
          have waited : frame.attempt.elapsedTime + duration ≤ next.attempt.elapsedTime := by
            have before := timely.passed
            linarith
          exact inductionHypothesis locals nextFollows nextTimely
            (enough.next positive free waited)
      · rfl

/-- **A loop ends** within the timeout, when each turn of its body takes some time. -/
theorem loop_ends_timed (turns : Nat) (locals : Local) (state : State)
    (enough : EnoughTurns timeout duration 0 turns) :
    (retry.loop clock errors body turns locals state).isSome := by
  change (retry.loopFrom clock errors body turns locals
    (retry.start clock state : Resumed Error × State).1
    (retry.start clock state : Resumed Error × State).2).isSome
  rw [start_eq]
  apply loopFrom_ends_timed limited positive lasts turns locals (firstFrame_follows retry _)
  · constructor
    have before := clock.time_before state
    simpa [firstFrame] using before
  · exact enough

end Timed

end Tobiko.Common.Retry
