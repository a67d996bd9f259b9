import Tobiko.Common.Time
import Mathlib.Tactic.NormNum

/-!
Contract: the attempts of `tobiko/common/_retry.py` and the generator that makes them.

Owns: the limits of an attempt, the suspended generator of `Retry.__iter__` with
its resumption, the loops of the callers, and the theorem that says which
attempts an iteration makes and how it ends.

Does not own: when the attempts are made (`RetryTiming`), and the texts of the
errors, which are made from the attempt that each error carries.
-/

namespace Tobiko.Common

open Tobiko.Common.Time

/-! ### Attempts -/

structure RetryAttempt where
  number : Int
  startTime : ℚ
  elapsedTime : ℚ
  count : Option Int
  timeout : Seconds
  sleepTime : Seconds
  interval : Seconds
deriving DecidableEq

/-- `retry_attempt(...)` -/
def retryAttempt (number : Int) (startTime elapsedTime : ℚ) (count : Option Int)
    (timeout sleepTime interval : Option ℚ) : RetryAttempt where
  number := number
  startTime := startTime
  elapsedTime := elapsedTime
  count := count
  timeout := toSeconds timeout
  sleepTime := toSeconds sleepTime
  interval := toSeconds interval

/-- `RetryCountLimitError` and `RetryTimeLimitError` -/
inductive RetryLimitError where
  | count (attempt : RetryAttempt)
  | time (attempt : RetryAttempt)
deriving DecidableEq

/-- What a check raises: the exception that is being handled, or its own error.
`Exc` are the exceptions derived from `Exception`. -/
inductive RetryAttempt.Raised (Exc : Type) where
  | active (exception : Exc)
  | limit (error : RetryLimitError)
deriving DecidableEq

namespace RetryAttempt

variable {Exc : Type} (attempt : RetryAttempt)

/-- `exc_info().reraise()` does nothing when no exception is being handled. -/
def reraise : Option Exc → Except (Raised Exc) Unit
  | none => .ok ()
  | some exception => .error (.active exception)

def countLeft : Option Int := attempt.count.map fun count => max 0 (count - attempt.number)

def timeLeft : Option ℚ :=
  attempt.timeout.map fun (timeout : ℚ≥0) => max 0 ((timeout : ℚ) - attempt.elapsedTime)

def checkCountLeft (active : Option Exc) : Except (Raised Exc) (Option Int) := do
  if attempt.countLeft = some 0 then
    reraise active
    throw (.limit (.count attempt))
  return attempt.countLeft

def checkTimeLeft (active : Option Exc) : Except (Raised Exc) (Option ℚ) := do
  if attempt.timeLeft = some 0 then
    reraise active
    throw (.limit (.time attempt))
  return attempt.timeLeft

def checkLimits (active : Option Exc) : Except (Raised Exc) Unit := do
  let _ ← attempt.checkCountLeft active
  let _ ← attempt.checkTimeLeft active
  return ()

def isLast (active : Option Exc) : Bool :=
  match attempt.checkLimits active with
  | .error _ => true
  | .ok () => false

/-- The number has reached the count, or the elapsed time has reached the timeout. -/
def AtLimit : Prop :=
  (∃ count, attempt.count = some count ∧ count ≤ attempt.number) ∨
    ∃ timeout, attempt.timeout = some timeout ∧ timeout ≤ attempt.elapsedTime

theorem countLeft_eq_zero :
    attempt.countLeft = some 0 ↔ ∃ count, attempt.count = some count ∧ count ≤ attempt.number := by
  unfold countLeft
  cases attempt.count with
  | none => simp
  | some count =>
      simp only [Option.map_some, Option.some.injEq]
      constructor
      · intro none_left
        exact ⟨count, rfl, by omega⟩
      · rintro ⟨_, rfl, reached⟩
        omega

theorem timeLeft_eq_zero :
    attempt.timeLeft = some 0 ↔
      ∃ timeout, attempt.timeout = some timeout ∧ timeout ≤ attempt.elapsedTime := by
  unfold timeLeft
  cases attempt.timeout with
  | none => simp
  | some timeout =>
      simp only [Option.map_some, Option.some.injEq, max_eq_left_iff, sub_nonpos]
      constructor
      · exact fun reached => ⟨timeout, rfl, reached⟩
      · rintro ⟨_, rfl, reached⟩
        exact reached

variable {attempt} {active : Option Exc}

/-- The checks pass exactly when no limit is reached. -/
theorem checkLimits_ok (free : ¬ attempt.AtLimit) : attempt.checkLimits active = .ok () := by
  unfold AtLimit at free
  rw [not_or, ← countLeft_eq_zero, ← timeLeft_eq_zero] at free
  simp [checkLimits, checkCountLeft, checkTimeLeft, free.1, free.2]
  rfl

theorem checkLimits_active (exception : Exc) (reached : attempt.AtLimit) :
    attempt.checkLimits (some exception) = .error (.active exception) := by
  unfold AtLimit at reached
  rw [← countLeft_eq_zero, ← timeLeft_eq_zero] at reached
  by_cases counted : attempt.countLeft = some 0
  · simp [checkLimits, checkCountLeft, counted, reraise]
    rfl
  · simp [checkLimits, checkCountLeft, checkTimeLeft, counted, reached.resolve_left counted,
      reraise]
    rfl

/-- A check that fails raises the exception that is being handled; if there is
none it raises a limit error of the attempt. -/
theorem checkLimits_error (active : Option Exc) (reached : attempt.AtLimit) :
    ∃ raised, attempt.checkLimits active = .error raised ∧
      (active = none → raised = .limit (.count attempt) ∨ raised = .limit (.time attempt)) := by
  cases active with
  | some exception =>
      exact ⟨_, checkLimits_active exception reached, fun none_ => by contradiction⟩
  | none =>
      unfold AtLimit at reached
      rw [← countLeft_eq_zero, ← timeLeft_eq_zero] at reached
      by_cases counted : attempt.countLeft = some 0
      · refine ⟨_, ?_, fun _ => .inl rfl⟩
        simp [checkLimits, checkCountLeft, counted, reraise]
        rfl
      · refine ⟨_, ?_, fun _ => .inr rfl⟩
        simp [checkLimits, checkCountLeft, checkTimeLeft, counted, reached.resolve_left counted,
          reraise]
        rfl

/-- `is_last` does not depend on the exception that is being handled. -/
theorem isLast_iff : attempt.isLast active = true ↔ attempt.AtLimit := by
  unfold isLast
  by_cases reached : attempt.AtLimit
  · obtain ⟨raised, failed, -⟩ := checkLimits_error active reached
    simp [failed, reached]
  · simp [checkLimits_ok reached, reached]

end RetryAttempt

/-! ### The generator -/

structure Retry where
  count : Option Int
  timeout : Seconds
  sleepTime : Seconds
  interval : Seconds
deriving DecidableEq

/-- `Retry(...)` -/
def Retry.init (count : Option Int) (timeout sleepTime interval : Option ℚ) : Retry where
  count := count
  timeout := toSeconds timeout
  sleepTime := toSeconds sleepTime
  interval := toSeconds interval

namespace Retry

open RetryAttempt (Raised)

/-- `itertools.count(number)`: the next number, and the iterator after it. -/
def countNext (number : Int) : Option (Int × Int) := some (number, number + 1)

/-- The generator where it is suspended, with the attempt it has yielded. -/
structure Frame where
  startTime : ℚ
  numbers : Int
  attempt : RetryAttempt

/-- How a resumption of the generator ends. -/
inductive Resumed (Exc : Type) where
  | yielded (frame : Frame)
  | raised (error : Raised Exc)
  | stopIteration

variable {Exc World : Type} (retry : Retry) (clock : Clock World)

/-- The next turn of the `for` loop, up to the `yield`. -/
def nextAttempt (startTime elapsedTime : ℚ) (numbers : Int) : Resumed Exc :=
  match countNext numbers with
  | none => .stopIteration
  | some (number, numbers) =>
      .yielded ⟨startTime, numbers, retryAttempt number startTime elapsedTime retry.count
        (retry.timeout.map (↑)) (retry.sleepTime.map (↑)) (retry.interval.map (↑))⟩

/-- The first `next(iterator)` -/
def start (world : World) : Resumed Exc × World :=
  let (startTime, world) := clock.time world
  (retry.nextAttempt startTime 0 1, world)

/-- The pause that is due before the next attempt. -/
def pause (attempt : RetryAttempt) (elapsedTime : ℚ) : Option ℚ :=
  match retry.sleepTime, retry.interval with
  | some sleepTime, _ => some sleepTime
  | none, some interval => some (attempt.number * interval - elapsedTime)
  | none, none => none

/-- The pause that is made: a positive one, and shorter than the time that was
left when the attempt started. -/
def sleeps (attempt : RetryAttempt) (elapsedTime : ℚ) : Option ℚ≥0 :=
  match retry.pause attempt elapsedTime with
  | none => none
  | some pause =>
      if 0 < pause then
        match attempt.timeLeft with
        | none => some (toSecondsFloat pause)
        | some timeLeft => if pause < timeLeft then some (toSecondsFloat pause) else none
      else none

/-- A later `next(iterator)`, while the given exception is being handled. -/
def resume (active : Option Exc) (frame : Frame) (world : World) : Resumed Exc × World :=
  match frame.attempt.checkLimits active with
  | .error error => (.raised error, world)
  | .ok () =>
      let (now, world) := clock.time world
      let elapsedTime := now - frame.startTime
      match retry.sleeps frame.attempt elapsedTime with
      | none => (retry.nextAttempt frame.startTime elapsedTime frame.numbers, world)
      | some seconds =>
          let (now, world) := clock.time (clock.sleep seconds world)
          (retry.nextAttempt frame.startTime (now - frame.startTime) frame.numbers, world)

/-- The iteration up to the attempt with the given index. Between two attempts
the body of the caller's loop runs, and no exception is being handled. -/
def iterate (bodies : Nat → World → World) (world : World) : Nat → Resumed Exc × World
  | 0 => retry.start clock world
  | index + 1 =>
      match iterate bodies world index with
      | (.yielded frame, world) => retry.resume clock none frame (bodies index world)
      | ended => ended

/-! ### The loops of the callers -/

/-- How the body of a loop ends. -/
inductive BodyEnd (Exc Value : Type) where
  | next
  | leave (value : Value)
  | raise (exception : Exc)

/-- How a loop ends: left by its body, with an error of the iterator, with an
exception of its body, or through its `else` clause, which raises
`RuntimeError("Broken retry loop")`. -/
inductive LoopEnd (Exc Value : Type) where
  | left (value : Value)
  | iteratorRaised (error : Raised Exc)
  | bodyRaised (exception : Exc)
  | brokenRetryLoop

variable {Value : Type}

/-- The `for` loop from where the iterator has been resumed, for so many turns. -/
def forEach (body : RetryAttempt → World → BodyEnd Exc Value × World) :
    Nat → Resumed Exc × World → Option (LoopEnd Exc Value)
  | 0, _ => none
  | turns + 1, (resumed, world) =>
      match resumed with
      | .stopIteration => some .brokenRetryLoop
      | .raised error => some (.iteratorRaised error)
      | .yielded frame =>
          match body frame.attempt world with
          | (.next, world) => forEach body turns (retry.resume clock none frame world)
          | (.leave value, _) => some (.left value)
          | (.raise exception, _) => some (.bodyRaised exception)

/-! ### Which attempts are made -/

variable {retry clock}

theorem nextAttempt_eq (startTime elapsedTime : ℚ) (numbers : Int) :
    (retry.nextAttempt startTime elapsedTime numbers : Resumed Exc) =
      .yielded ⟨startTime, numbers + 1, ⟨numbers, startTime, elapsedTime, retry.count,
        retry.timeout, retry.sleepTime, retry.interval⟩⟩ := by
  simp [nextAttempt, countNext, retryAttempt]

/-- The frame that the first call of `next` leaves. -/
def firstFrame (retry : Retry) (startTime : ℚ) : Frame where
  startTime := startTime
  numbers := 2
  attempt := ⟨1, startTime, 0, retry.count, retry.timeout, retry.sleepTime, retry.interval⟩

theorem start_eq (world : World) : (retry.start clock world : Resumed Exc × World) =
    (.yielded (retry.firstFrame (clock.time world).1), (clock.time world).2) := by
  simp [start, nextAttempt_eq, firstFrame]

/-- What a suspended generator of the retry has yielded. -/
structure Frame.Follows (retry : Retry) (frame : Frame) (number : Int) : Prop where
  number_eq : frame.attempt.number = number
  numbers_eq : frame.numbers = number + 1
  startTime_eq : frame.attempt.startTime = frame.startTime
  count_eq : frame.attempt.count = retry.count
  timeout_eq : frame.attempt.timeout = retry.timeout

theorem firstFrame_follows (retry : Retry) (startTime : ℚ) :
    (retry.firstFrame startTime).Follows retry 1 :=
  ⟨rfl, rfl, rfl, rfl, rfl⟩

theorem resume_error (retry : Retry) (clock : Clock World) (active : Option Exc) {frame : Frame}
    (world : World)
    (last : frame.attempt.AtLimit) :
    ∃ raised, retry.resume clock active frame world = (.raised raised, world) ∧
      (active = none → raised = .limit (.count frame.attempt) ∨
        raised = .limit (.time frame.attempt)) := by
  obtain ⟨raised, failed, limit⟩ := RetryAttempt.checkLimits_error active last
  exact ⟨raised, by simp [resume, failed], limit⟩

/-- Below the limits the generator goes on with the next number, at once after it has read the
clock. -/
theorem resume_reading (retry : Retry) (clock : Clock World) (active : Option Exc) {frame : Frame}
    (world : World) (free : ¬ frame.attempt.AtLimit) :
    ∃ moment, retry.resume clock active frame world =
      (retry.nextAttempt frame.startTime ((clock.time moment).1 - frame.startTime) frame.numbers,
        (clock.time moment).2) := by
  unfold resume
  rw [RetryAttempt.checkLimits_ok free]
  dsimp only
  split
  · exact ⟨world, rfl⟩
  · exact ⟨clock.sleep _ (clock.time world).2, rfl⟩

theorem resume_yielded (retry : Retry) (clock : Clock World) (active : Option Exc) {frame : Frame}
    (world : World)
    (free : ¬ frame.attempt.AtLimit) :
    ∃ elapsedTime later, retry.resume clock active frame world =
      (retry.nextAttempt frame.startTime elapsedTime frame.numbers, later) := by
  obtain ⟨moment, resumed⟩ := resume_reading retry clock active world free
  exact ⟨_, _, resumed⟩

/-- Which exception is being handled makes no difference to a generator that goes on. -/
theorem resume_active (retry : Retry) (clock : Clock World) (active : Option Exc) {frame : Frame}
    (world : World) (free : ¬ frame.attempt.AtLimit) :
    retry.resume clock active frame world = retry.resume clock none frame world := by
  unfold resume
  rw [RetryAttempt.checkLimits_ok free, RetryAttempt.checkLimits_ok free]

theorem nextAttempt_follows {startTime elapsedTime : ℚ} {numbers : Int} {frame : Frame}
    (yielded : (retry.nextAttempt startTime elapsedTime numbers : Resumed Exc) = .yielded frame) :
    frame.Follows retry numbers := by
  rw [nextAttempt_eq] at yielded
  obtain rfl := Resumed.yielded.inj yielded
  exact ⟨rfl, rfl, rfl, rfl, rfl⟩

/-! ### The iteration -/

section Iterate

variable {bodies : Nat → World → World} {world later : World} {index : Nat} {frame : Frame}

theorem iterate_succ
    (yielded : (retry.iterate clock bodies world index : Resumed Exc × World) =
      (.yielded frame, later)) :
    (retry.iterate clock bodies world (index + 1) : Resumed Exc × World) =
      retry.resume clock none frame (bodies index later) := by
  rw [iterate, yielded]

theorem iterate_succ_yielded {next : Frame}
    (yielded : (retry.iterate clock bodies world (index + 1) : Resumed Exc × World) =
      (.yielded next, later)) :
    ∃ frame before, (retry.iterate clock bodies world index : Resumed Exc × World) =
      (.yielded frame, before) ∧
      (retry.resume clock none frame (bodies index before) : Resumed Exc × World) =
        (.yielded next, later) := by
  rw [iterate] at yielded
  split at yielded
  · rename_i frame before earlier
    exact ⟨frame, before, earlier, yielded⟩
  · rename_i ended
    exact absurd yielded (ended _ _)

theorem iterate_follows
    (yielded : (retry.iterate clock bodies world index : Resumed Exc × World) =
      (.yielded frame, later)) : frame.Follows retry (index + 1) := by
  induction index generalizing frame later with
  | zero =>
      have first := congrArg Prod.fst yielded
      exact nextAttempt_follows first
  | succ index inductionHypothesis =>
      obtain ⟨previous, before, earlier, resumed⟩ := iterate_succ_yielded yielded
      have follows := inductionHypothesis earlier
      by_cases last : previous.attempt.AtLimit
      · obtain ⟨raised, failed, -⟩ :=
          resume_error retry clock (none : Option Exc) (bodies index before) last
        rw [failed] at resumed
        cases congrArg Prod.fst resumed
      · obtain ⟨elapsedTime, after, passed⟩ :=
          resume_yielded retry clock (none : Option Exc) (bodies index before) last
        rw [passed] at resumed
        have next := nextAttempt_follows (congrArg Prod.fst resumed)
        rw [follows.numbers_eq] at next
        exact_mod_cast next

/-- The elapsed time of an attempt is the last reading of the clock before it, less the first
reading of all. -/
theorem iterate_elapsed
    (yielded : (retry.iterate clock bodies world index : Resumed Exc × World) =
      (.yielded frame, later)) :
    frame.startTime = (clock.time world).1 ∧ ∃ moment, later = (clock.time moment).2 ∧
      frame.attempt.elapsedTime = (clock.time moment).1 - (clock.time world).1 := by
  induction index generalizing frame later with
  | zero =>
      rw [iterate, start_eq] at yielded
      obtain ⟨first, rfl⟩ := Prod.mk.inj yielded
      obtain rfl := Resumed.yielded.inj first
      exact ⟨rfl, world, rfl, (sub_self _).symm⟩
  | succ index inductionHypothesis =>
      obtain ⟨previous, before, earlier, resumed⟩ := iterate_succ_yielded yielded
      obtain ⟨startTime, -⟩ := inductionHypothesis earlier
      by_cases last : previous.attempt.AtLimit
      · obtain ⟨raised, failed, -⟩ :=
          resume_error retry clock (none : Option Exc) (bodies index before) last
        rw [failed] at resumed
        cases congrArg Prod.fst resumed
      · obtain ⟨moment, passed⟩ :=
          resume_reading retry clock (none : Option Exc) (bodies index before) last
        rw [passed, nextAttempt_eq] at resumed
        obtain ⟨next, rfl⟩ := Prod.mk.inj resumed
        obtain rfl := Resumed.yielded.inj next
        exact ⟨startTime, moment, rfl, by rw [startTime]⟩

/-- The resumption after an attempt raises a limit error, if it is the last one,
and yields the next attempt otherwise. -/
theorem iterate_next
    (yielded : (retry.iterate clock bodies world index : Resumed Exc × World) =
      (.yielded frame, later)) :
    (frame.attempt.isLast (none : Option Exc) = true ∧ ∃ error,
      (retry.iterate clock bodies world (index + 1)).1 = (.raised (.limit error) : Resumed Exc)) ∨
    (frame.attempt.isLast (none : Option Exc) = false ∧ ∃ next after,
      (retry.iterate clock bodies world (index + 1) : Resumed Exc × World) =
        (.yielded next, after)) := by
  rw [iterate_succ yielded]
  by_cases last : frame.attempt.AtLimit
  · obtain ⟨raised, failed, limit⟩ :=
      resume_error retry clock (none : Option Exc) (bodies index later) last
    refine .inl ⟨RetryAttempt.isLast_iff.mpr last, ?_⟩
    rw [failed]
    rcases limit rfl with rfl | rfl
    · exact ⟨_, rfl⟩
    · exact ⟨_, rfl⟩
  · obtain ⟨elapsedTime, after, passed⟩ :=
      resume_yielded retry clock (none : Option Exc) (bodies index later) last
    refine .inr ⟨?_, ?_⟩
    · rw [← Bool.not_eq_true, RetryAttempt.isLast_iff]
      exact last
    · rw [passed, nextAttempt_eq]
      exact ⟨_, _, rfl⟩

theorem iterate_ne_stopIteration :
    (retry.iterate clock bodies world index).1 ≠ (.stopIteration : Resumed Exc) := by
  induction index with
  | zero => simp [iterate, start, nextAttempt_eq]
  | succ index inductionHypothesis =>
      cases ended : (retry.iterate clock bodies world index : Resumed Exc × World) with
      | mk resumed later =>
          cases resumed with
          | yielded frame =>
              rcases iterate_next ended with ⟨-, error, failed⟩ | ⟨-, next, after, passed⟩
              · simp [failed]
              · simp [passed]
          | raised error => simp [iterate, ended]
          | stopIteration => simp [ended] at inductionHypothesis

end Iterate

/-! ### The ends of the loops -/

section Loop

variable {body : RetryAttempt → World → BodyEnd Exc Value × World}

theorem resume_ne_stopIteration (active : Option Exc) (frame : Frame) (world : World) :
    (retry.resume clock active frame world).1 ≠ .stopIteration := by
  by_cases last : frame.attempt.AtLimit
  · obtain ⟨raised, failed, -⟩ := resume_error retry clock active world last
    simp [failed]
  · obtain ⟨elapsedTime, later, passed⟩ := resume_yielded retry clock active world last
    simp [passed, nextAttempt_eq]

/-- No loop over a retry comes to its `else` clause. -/
theorem forEach_ne_broken (turns : Nat) {resumed : Resumed Exc} (world : World)
    (going : resumed ≠ .stopIteration) :
    retry.forEach clock body turns (resumed, world) ≠ some .brokenRetryLoop := by
  induction turns generalizing resumed world with
  | zero => simp [forEach]
  | succ turns inductionHypothesis =>
      cases resumed with
      | stopIteration => contradiction
      | raised error => simp [forEach]
      | yielded frame =>
          unfold forEach
          dsimp only
          split
          · exact inductionHypothesis _ (resume_ne_stopIteration none frame _)
          · simp
          · simp

/-- A loop that is left in the last attempt ends with no error of the iterator. -/
theorem forEach_ne_iteratorRaised
    (leaves : ∀ attempt world, attempt.isLast (none : Option Exc) = true →
      (body attempt world).1 ≠ .next) (turns : Nat) {resumed : Resumed Exc} (world : World)
    (going : ∀ error, resumed ≠ .raised error) (error : Raised Exc) :
    retry.forEach clock body turns (resumed, world) ≠ some (.iteratorRaised error) := by
  induction turns generalizing resumed world with
  | zero => simp [forEach]
  | succ turns inductionHypothesis =>
      cases resumed with
      | stopIteration => simp [forEach]
      | raised error => exact absurd rfl (going error)
      | yielded frame =>
          unfold forEach
          dsimp only
          split
          · rename_i after ended
            have free : ¬ frame.attempt.AtLimit := fun last =>
              leaves frame.attempt world (RetryAttempt.isLast_iff.mpr last) (by rw [ended])
            obtain ⟨elapsedTime, later, passed⟩ :=
              resume_yielded retry clock (none : Option Exc) after free
            rw [passed, nextAttempt_eq]
            exact inductionHypothesis _ (by simp)
          · simp
          · simp

end Loop

/-- **The attempts of a retry.** They are numbered from 1, and carry the time that the clock has
told since the start; after an attempt the iterator raises a limit error exactly when `is_last`
holds of the attempt, and otherwise yields the next one. It never stops, so that the `else` clause
of a loop is not reached, and a loop that is left in the last attempt sees no error. -/
theorem attempts_until_last (Exc Value : Type) (retry : Retry) (clock : Clock World)
    (bodies : Nat → World → World) (world : World) :
    (∃ frame later, (retry.iterate clock bodies world 0 : Resumed Exc × World) =
      (.yielded frame, later)) ∧
    (∀ index frame later, (retry.iterate clock bodies world index : Resumed Exc × World) =
        (.yielded frame, later) →
      frame.attempt.number = index + 1 ∧
      (∃ moment, later = (clock.time moment).2 ∧
        frame.attempt.elapsedTime = (clock.time moment).1 - (clock.time world).1) ∧
      (∀ active : Option Exc, frame.attempt.isLast active = true ↔
        (∃ count, retry.count = some count ∧ count ≤ frame.attempt.number) ∨
          ∃ timeout, retry.timeout = some timeout ∧ timeout ≤ frame.attempt.elapsedTime) ∧
      (frame.attempt.isLast (none : Option Exc) = true ↔ ∃ error,
        (retry.iterate clock bodies world (index + 1)).1 =
          (.raised (.limit error) : Resumed Exc)) ∧
      (frame.attempt.isLast (none : Option Exc) = false → ∃ next after,
        (retry.iterate clock bodies world (index + 1) : Resumed Exc × World) =
          (.yielded next, after) ∧ next.attempt.number = index + 2)) ∧
    (∀ index, (retry.iterate clock bodies world index).1 ≠ (.stopIteration : Resumed Exc)) ∧
    (∀ (body : RetryAttempt → World → BodyEnd Exc Value × World) turns,
      retry.forEach clock body turns (retry.start clock world) ≠ some .brokenRetryLoop) ∧
    ∀ (body : RetryAttempt → World → BodyEnd Exc Value × World) turns,
      (∀ attempt world, attempt.isLast (none : Option Exc) = true →
        (body attempt world).1 ≠ .next) →
      ∀ error, retry.forEach clock body turns (retry.start clock world) ≠
        some (.iteratorRaised error) := by
  refine ⟨⟨_, _, start_eq world⟩, ?_, fun index => iterate_ne_stopIteration, ?_, ?_⟩
  · intro index frame later yielded
    have follows := iterate_follows yielded
    refine ⟨follows.number_eq, (iterate_elapsed yielded).2, fun active => ?_, ?_, ?_⟩
    · rw [RetryAttempt.isLast_iff, RetryAttempt.AtLimit, follows.count_eq, follows.timeout_eq]
    · rcases iterate_next yielded with ⟨last, error, failed⟩ | ⟨notLast, next, after, passed⟩
      · exact ⟨fun _ => ⟨error, failed⟩, fun _ => last⟩
      · simp [notLast, passed]
    · intro notLast
      rcases iterate_next yielded with ⟨last, -⟩ | ⟨-, next, after, passed⟩
      · rw [last] at notLast
        contradiction
      · have number := (iterate_follows passed).number_eq
        refine ⟨next, after, passed, ?_⟩
        push_cast at number
        omega
  · intro body turns
    rw [start_eq]
    exact forEach_ne_broken turns _ (by simp)
  · intro body turns leaves error
    rw [start_eq]
    exact forEach_ne_iteratorRaised leaves turns _ (by simp) error

end Retry

end Tobiko.Common
