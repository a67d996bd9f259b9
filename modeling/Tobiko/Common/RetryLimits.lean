import Tobiko.Common.Retry

/-!
Contract: the limits that a call of `retry` in `tobiko/common/_retry.py` is given, and the
ones that its attempts obey.

Owns: the merge of the given values with those of another retry and with the default ones,
what the attempts of a retry make of its count and timeout, and which given values are obeyed.

Does not own: the attempts themselves, and when they are made.

The values are merged by their truth, so that a given zero counts as not given.
-/

namespace Tobiko.Common

open Tobiko.Common.Time

/-! ### The merge -/

/-- `value or other` -/
def orOther {Value : Type} [DecidableEq Value] [Zero Value] (value other : Option Value) :
    Option Value :=
  match value with
  | none => other
  | some value => if value = 0 then other else some value

/-- The arguments of `retry`. -/
structure RetryArguments where
  otherRetry : Option Retry
  count : Option Int
  timeout : Option ℚ
  sleepTime : Option ℚ
  interval : Option ℚ
  defaultCount : Option Int
  defaultTimeout : Option ℚ
  defaultSleepTime : Option ℚ
  defaultInterval : Option ℚ

/-- The arguments after the values of the other retry have been applied. -/
def RetryArguments.applyOther (arguments : RetryArguments) : RetryArguments :=
  match arguments.otherRetry with
  | none => arguments
  | some other =>
      { arguments with
        count := orOther arguments.count other.count
        timeout := orOther arguments.timeout (other.timeout.map (↑))
        sleepTime := orOther arguments.sleepTime (other.sleepTime.map (↑))
        interval := orOther arguments.interval (other.interval.map (↑)) }

def retry (arguments : RetryArguments) : Retry :=
  let merged := arguments.applyOther
  .init (orOther merged.count merged.defaultCount) (orOther merged.timeout merged.defaultTimeout)
    (orOther merged.sleepTime merged.defaultSleepTime)
    (orOther merged.interval merged.defaultInterval)

section Merge

variable {Value : Type} [DecidableEq Value] [Zero Value]

/-- Python's truth of a value that may be `None`. -/
def Falsy (value : Option Value) : Prop := value = none ∨ value = some 0

theorem orOther_of_falsy {value : Option Value} (falsy : Falsy value) (other : Option Value) :
    orOther value other = other := by
  rcases falsy with rfl | rfl
  · rfl
  · exact if_pos rfl

theorem orOther_of_ne_zero {value : Value} (nonzero : value ≠ 0) (other : Option Value) :
    orOther (some value) other = some value :=
  if_neg nonzero

/-- A value is merged with the one of the other retry, if there is another retry, and with
the default one. -/
def merged (value other default : Option Value) : Option Value :=
  orOther (orOther value other) default

theorem merged_of_ne_zero {value : Value} (nonzero : value ≠ 0) (other default : Option Value) :
    merged (some value) other default = some value := by
  unfold merged
  rw [orOther_of_ne_zero nonzero, orOther_of_ne_zero nonzero]

/-- A zero is merged as if it were not given. -/
theorem merged_zero (other default : Option Value) :
    merged (some 0) other default = orOther other default := by
  unfold merged
  rw [orOther_of_falsy (.inr rfl)]

end Merge

theorem Falsy.coe {value : Seconds} (falsy : Falsy value) :
    Falsy (value.map ((↑) : ℚ≥0 → ℚ)) := by
  rcases falsy with rfl | rfl
  · exact .inl rfl
  · exact .inr rfl

/-- The values of the other retry, where there is one. -/
def RetryArguments.other {Value : Type} (arguments : RetryArguments)
    (value : Retry → Option Value) : Option Value :=
  arguments.otherRetry.bind value

theorem retry_eq (arguments : RetryArguments) :
    retry arguments =
      .init (merged arguments.count (arguments.other (·.count)) arguments.defaultCount)
        (merged arguments.timeout (arguments.other (·.timeout.map (↑))) arguments.defaultTimeout)
        (merged arguments.sleepTime (arguments.other (·.sleepTime.map (↑)))
          arguments.defaultSleepTime)
        (merged arguments.interval (arguments.other (·.interval.map (↑)))
          arguments.defaultInterval) := by
  have none_other : ∀ {Value : Type} [DecidableEq Value] [Zero Value]
      (value default : Option Value), merged value none default = orOther value default := by
    intro Value _ _ value default
    by_cases falsy : Falsy value
    · unfold merged
      rw [orOther_of_falsy falsy none, orOther_of_falsy falsy default]
      rfl
    · cases value with
      | none => exact absurd (.inl rfl) falsy
      | some value =>
          have nonzero : value ≠ 0 := fun zero => falsy (.inr (congrArg some zero))
          rw [merged_of_ne_zero nonzero, orOther_of_ne_zero nonzero]
  cases others : arguments.otherRetry with
  | none =>
      simp only [retry, RetryArguments.applyOther, RetryArguments.other, others, Option.bind_none,
        none_other]
  | some other =>
      simp only [retry, RetryArguments.applyOther, RetryArguments.other, others, Option.bind_some,
        merged]

/-! ### What the attempts make of the limits -/

namespace Retry

variable {Exc World : Type} {retry : Retry} {clock : Clock World} {bodies : Nat → World → World}
  {world later : World} {index : Nat} {frame : Frame}

theorem iterate_yielded_of_le {earlier : Nat} (before : earlier ≤ index)
    (yielded : (retry.iterate clock bodies world index : Resumed Exc × World) =
      (.yielded frame, later)) :
    ∃ previous between, (retry.iterate clock bodies world earlier : Resumed Exc × World) =
      (.yielded previous, between) := by
  induction index generalizing frame later with
  | zero =>
      obtain rfl := Nat.le_zero.mp before
      exact ⟨frame, later, yielded⟩
  | succ index inductionHypothesis =>
      by_cases here : earlier = index + 1
      · subst here
        exact ⟨frame, later, yielded⟩
      · obtain ⟨previous, between, sooner, -⟩ := iterate_succ_yielded yielded
        exact inductionHypothesis (by omega) sooner

/-- No attempt is made after one that has reached a limit. -/
theorem iterate_ends {later' : World} {next : Frame} {after : Nat}
    (yielded : (retry.iterate clock bodies world index : Resumed Exc × World) =
      (.yielded frame, later))
    (last : frame.attempt.AtLimit) (follows : index < after) :
    (retry.iterate clock bodies world after : Resumed Exc × World) ≠ (.yielded next, later') := by
  intro again
  obtain ⟨following, between, resumed⟩ := iterate_yielded_of_le follows again
  rcases iterate_next yielded with ⟨-, error, failed⟩ | ⟨notLast, -⟩
  · rw [resumed] at failed
    cases failed
  · rw [RetryAttempt.isLast_iff.mpr last] at notLast
    contradiction

/-- A count limits the number of attempts, of which there is at least one. -/
theorem iterate_within_count {count : Int} (counted : retry.count = some count)
    (yielded : (retry.iterate clock bodies world index : Resumed Exc × World) =
      (.yielded frame, later)) :
    (index : Int) + 1 ≤ max 1 count := by
  cases index with
  | zero => exact le_max_left 1 count
  | succ index =>
      obtain ⟨previous, between, earlier, -⟩ := iterate_succ_yielded yielded
      have follows := iterate_follows earlier
      have below : ¬ count ≤ (index : Int) + 1 := by
        intro reached
        refine iterate_ends earlier (.inl ⟨count, ?_, ?_⟩) (Nat.lt_succ_self index) yielded
        · rw [follows.count_eq, counted]
        · rw [follows.number_eq]
          exact reached
      push_cast
      omega

/-- No attempt is made after one whose elapsed time has reached the timeout. -/
theorem iterate_within_timeout {timeout : ℚ≥0} {later' : World} {next : Frame} {after : Nat}
    (limited : retry.timeout = some timeout)
    (yielded : (retry.iterate clock bodies world index : Resumed Exc × World) =
      (.yielded frame, later))
    (reached : timeout ≤ frame.attempt.elapsedTime) (follows : index < after) :
    (retry.iterate clock bodies world after : Resumed Exc × World) ≠ (.yielded next, later') :=
  iterate_ends yielded
    (.inr ⟨timeout, (iterate_follows yielded).timeout_eq.trans limited, reached⟩) follows

/-- Without limits there is always another attempt. -/
theorem iterate_unlimited (uncounted : retry.count = none) (unlimited : retry.timeout = none)
    (index : Nat) :
    ∃ frame later, (retry.iterate clock bodies world index : Resumed Exc × World) =
      (.yielded frame, later) := by
  induction index with
  | zero => exact ⟨_, _, start_eq world⟩
  | succ index inductionHypothesis =>
      obtain ⟨frame, later, yielded⟩ := inductionHypothesis
      have follows := iterate_follows yielded
      rcases iterate_next yielded with ⟨last, -⟩ | ⟨-, next, after, passed⟩
      · rw [RetryAttempt.isLast_iff, RetryAttempt.AtLimit, follows.count_eq, follows.timeout_eq,
          uncounted, unlimited] at last
        rcases last with ⟨_, counted, -⟩ | ⟨_, limited, -⟩
        · cases counted
        · cases limited
      · exact ⟨next, after, passed⟩

end Retry

/-! ### The limits that are obeyed -/

namespace RetryArguments

variable (arguments : RetryArguments)

/-- With a count no more attempts are made, apart from the first one. -/
def CountObeyed (Exc World : Type) : Prop :=
  ∀ count, arguments.count = some count → 0 ≤ count →
    ∀ (clock : Clock World) (bodies : Nat → World → World) (world : World) index frame later,
      ((retry arguments).iterate clock bodies world index : Retry.Resumed Exc × World) =
        (.yielded frame, later) →
      (index : Int) + 1 ≤ max 1 count

/-- With a timeout no attempt is made after one whose elapsed time has reached it. -/
def TimeoutObeyed (Exc World : Type) : Prop :=
  ∀ timeout, arguments.timeout = some timeout → 0 ≤ timeout →
    ∀ (clock : Clock World) (bodies : Nat → World → World) (world : World) index frame later,
      ((retry arguments).iterate clock bodies world index : Retry.Resumed Exc × World) =
        (.yielded frame, later) →
      timeout ≤ frame.attempt.elapsedTime →
      ∀ after next later', index < after →
        ((retry arguments).iterate clock bodies world after : Retry.Resumed Exc × World) ≠
          (.yielded next, later')

/-- The given values are those of the retry, whatever the other retry and the defaults are. -/
structure TakePrecedence : Prop where
  count : ∀ count, arguments.count = some count → (retry arguments).count = some count
  timeout : ∀ timeout, arguments.timeout = some timeout →
    (retry arguments).timeout = some (toSecondsFloat timeout)
  sleepTime : ∀ sleepTime, arguments.sleepTime = some sleepTime →
    (retry arguments).sleepTime = some (toSecondsFloat sleepTime)
  interval : ∀ interval, arguments.interval = some interval →
    (retry arguments).interval = some (toSecondsFloat interval)

structure LimitsObeyed : Prop where
  count : ∀ Exc World : Type, arguments.CountObeyed Exc World
  timeout : ∀ Exc World : Type, arguments.TimeoutObeyed Exc World
  precedence : arguments.TakePrecedence

/-- A given zero is what the values that replace it come to. Seconds below zero are zero. -/
structure ZerosReplaced : Prop where
  count : arguments.count = some 0 →
    Falsy (arguments.other (·.count)) ∧ arguments.defaultCount = some 0
  timeout : arguments.timeout = some 0 →
    Falsy (arguments.other (·.timeout)) ∧ ∃ default ≤ 0, arguments.defaultTimeout = some default
  sleepTime : arguments.sleepTime = some 0 →
    Falsy (arguments.other (·.sleepTime)) ∧
      ∃ default ≤ 0, arguments.defaultSleepTime = some default
  interval : arguments.interval = some 0 →
    Falsy (arguments.other (·.interval)) ∧ ∃ default ≤ 0, arguments.defaultInterval = some default

variable {arguments}

theorem toSecondsFloat_eq_zero {value : ℚ} : toSecondsFloat value = 0 ↔ value ≤ 0 := by
  rw [← NNRat.coe_inj, coe_toSecondsFloat, NNRat.coe_zero, max_eq_right_iff]

/-- One parameter of seconds: the given value is the one of the retry exactly if it is not
zero, or the values that replace it come to zero. -/
theorem seconds_precede_iff (given default : Option ℚ) (other : Seconds) :
    (∀ value, given = some value →
      toSeconds (merged given (other.map (↑)) default) = some (toSecondsFloat value)) ↔
    (given = some 0 → Falsy other ∧ ∃ value ≤ 0, default = some value) := by
  constructor
  · rintro precedes rfl
    have zero := precedes 0 rfl
    rw [merged_zero] at zero
    have zero_eq : toSecondsFloat 0 = 0 := toSecondsFloat_eq_zero.mpr (le_refl 0)
    rw [zero_eq] at zero
    have falsy : Falsy other := by
      cases other with
      | none => exact .inl rfl
      | some value =>
          by_contra truthy
          have nonzero : (value : ℚ) ≠ 0 := fun same =>
            truthy (.inr (congrArg some (NNRat.coe_eq_zero.mp same)))
          rw [Option.map_some, orOther_of_ne_zero nonzero] at zero
          simp only [toSeconds, Option.map_some, toSecondsFloat_coe, Option.some.injEq] at zero
          exact truthy (.inr (congrArg some zero))
    rw [orOther_of_falsy falsy.coe] at zero
    refine ⟨falsy, ?_⟩
    cases default with
    | none => cases zero
    | some value => exact ⟨value, toSecondsFloat_eq_zero.mp (Option.some.inj zero), rfl⟩
  · rintro replaced value rfl
    by_cases zero : value = 0
    · subst zero
      obtain ⟨falsy, default, below, rfl⟩ := replaced rfl
      rw [merged_zero, orOther_of_falsy falsy.coe]
      exact congrArg some
        ((toSecondsFloat_eq_zero.mpr below).trans (toSecondsFloat_eq_zero.mpr (le_refl 0)).symm)
    · rw [merged_of_ne_zero zero]
      rfl

theorem count_precedes_iff (given other default : Option Int) :
    (∀ value, given = some value → merged given other default = some value) ↔
    (given = some 0 → Falsy other ∧ default = some 0) := by
  constructor
  · rintro precedes rfl
    have zero := precedes 0 rfl
    rw [merged_zero] at zero
    cases other with
    | none => exact ⟨.inl rfl, zero⟩
    | some value =>
        by_cases nonzero : value = 0
        · subst nonzero
          rw [orOther_of_falsy (.inr rfl)] at zero
          exact ⟨.inr rfl, zero⟩
        · rw [orOther_of_ne_zero nonzero] at zero
          exact absurd (Option.some.inj zero) nonzero
  · rintro replaced value rfl
    by_cases zero : value = 0
    · subst zero
      obtain ⟨falsy, rfl⟩ := replaced rfl
      rw [merged_zero, orOther_of_falsy falsy]
    · rw [merged_of_ne_zero zero]

theorem other_map (value : Retry → Seconds) :
    arguments.other (fun retry => (value retry).map ((↑) : ℚ≥0 → ℚ)) =
      (arguments.other value).map (↑) := by
  unfold other
  cases arguments.otherRetry with
  | none => rfl
  | some retry => rfl

/-- The given values take precedence exactly if every zero among them is made again. -/
theorem takePrecedence_iff : arguments.TakePrecedence ↔ arguments.ZerosReplaced := by
  have fields : arguments.TakePrecedence ↔ _ ∧ _ ∧ _ ∧ _ :=
    ⟨fun precedence => ⟨precedence.count, precedence.timeout, precedence.sleepTime,
      precedence.interval⟩, fun ⟨count, timeout, sleepTime, interval⟩ =>
        ⟨count, timeout, sleepTime, interval⟩⟩
  rw [fields, retry_eq]
  simp only [Retry.init, other_map]
  rw [count_precedes_iff, seconds_precede_iff, seconds_precede_iff, seconds_precede_iff]
  exact ⟨fun ⟨count, timeout, sleepTime, interval⟩ => ⟨count, timeout, sleepTime, interval⟩,
    fun replaced => ⟨replaced.count, replaced.timeout, replaced.sleepTime, replaced.interval⟩⟩

theorem TakePrecedence.countObeyed (precedence : arguments.TakePrecedence) (Exc World : Type) :
    arguments.CountObeyed Exc World :=
  fun count given _ _ _ _ _ _ _ yielded =>
    Retry.iterate_within_count (precedence.count count given) yielded

theorem TakePrecedence.timeoutObeyed (precedence : arguments.TakePrecedence) (Exc World : Type) :
    arguments.TimeoutObeyed Exc World := by
  intro timeout given positive clock bodies world index frame later yielded reached after next
    later' follows
  refine Retry.iterate_within_timeout (precedence.timeout timeout given) yielded ?_ follows
  rw [coe_toSecondsFloat, max_eq_left positive]
  exact reached

/-- **Given limits are obeyed exactly if every given zero is what replaces it.** -/
theorem limitsObeyed_iff (arguments : RetryArguments) :
    arguments.LimitsObeyed ↔ arguments.ZerosReplaced := by
  rw [← takePrecedence_iff]
  exact ⟨LimitsObeyed.precedence, fun precedence =>
    ⟨precedence.countObeyed, precedence.timeoutObeyed, precedence⟩⟩

/-- `retry(count=0)` -/
def countZero : RetryArguments := ⟨none, some 0, none, none, none, none, none, none, none⟩

/-- With a count of zero, which is one attempt, there is no limit at all. -/
theorem countZero_unlimited :
    ¬ countZero.LimitsObeyed ∧
      ∀ index, ∃ frame later,
        ((retry countZero).iterate Clock.ideal (fun _ => id) 0 index : Retry.Resumed Unit × ℚ) =
          (.yielded frame, later) := by
  have unlimited : ∀ index, ∃ frame later,
      ((retry countZero).iterate Clock.ideal (fun _ => id) 0 index : Retry.Resumed Unit × ℚ) =
        (.yielded frame, later) := Retry.iterate_unlimited rfl rfl
  refine ⟨fun obeyed => ?_, unlimited⟩
  obtain ⟨frame, later, second⟩ := unlimited 1
  have atMostOne := obeyed.count Unit ℚ 0 rfl (le_refl 0) Clock.ideal (fun _ => id) 0 1 frame later
    second
  norm_num at atMostOne

end RetryArguments

end Tobiko.Common
