import Tobiko.Common.RetryLimits

/-!
Contract: the functions that `retry_on_exception` in `tobiko/common/_retry.py` decorates.

Owns: the wrapper of a function with the record of its calls, and what the wrapper calls and
how it ends, in terms of what the function does.

Does not own: which attempts are made, and the arguments of the function.

The check in the `except` clause is the one that ends the loop: it raises the exception that
is being handled. The iterator makes the same check of the same attempt once more, which
then passes.
-/

namespace Tobiko.Common.RetryOnException

open Tobiko.Common.Time
open RetryAttempt (Raised)
open Retry (Resumed Frame)

/-! ### The wrapper -/

/-- How a call of the decorated function ends. -/
inductive Outcome (Exc Value : Type) where
  | value (value : Value)
  | raises (exception : Exc)

inductive Event (Exc Value : Type) where
  /-- `func(...)` is called, in the given attempt, and ends so. -/
  | called (attempt : RetryAttempt) (outcome : Outcome Exc Value)
  /-- `on_exception(attempt, ...)` is called. -/
  | reported (attempt : RetryAttempt)

inductive WrapperEnd (Exc Value : Type) where
  | returned (value : Value)
  /-- The end of the wrapper is reached. -/
  | returnedNone
  | raised (exception : Exc)
  | limitError (error : RetryLimitError)

def WrapperEnd.ofRaised {Exc Value : Type} : Raised Exc → WrapperEnd Exc Value
  | .active exception => .raised exception
  | .limit error => .limitError error

/-- What `retry_on_exception` is given, and the function that it decorates. -/
structure Decorated (Exc Value World : Type) where
  arguments : RetryArguments
  /-- The exception is an instance of one of `exceptions`. -/
  listed : Exc → Bool
  /-- What `on_exception` raises, if anything. -/
  onException : Option (RetryAttempt → World → Option Exc × World)
  func : World → Outcome Exc Value × World

variable {Exc Value World : Type} (decorated : Decorated Exc Value World) (clock : Clock World)
  (ambient : Option Exc)

namespace Decorated

def retryObject : Retry := retry decorated.arguments

/-- The call of `on_exception`, unless it is `None`. -/
def report (attempt : RetryAttempt) (world : World) :
    List (Event Exc Value) × Option (WrapperEnd Exc Value) × World :=
  match decorated.onException with
  | none => ([], none, world)
  | some onException =>
      match onException attempt world with
      | (none, world) => ([.reported attempt], none, world)
      | (some exception, world) => ([.reported attempt], some (.raised exception), world)

/-- The body of the loop, which either ends the wrapper or goes on. -/
def body (attempt : RetryAttempt) (world : World) :
    List (Event Exc Value) × Option (WrapperEnd Exc Value) × World :=
  match decorated.func world with
  | (.value value, world) => ([.called attempt (.value value)], some (.returned value), world)
  | (.raises exception, world) =>
      if decorated.listed exception then
        match attempt.checkLimits (some exception) with
        | .error raised =>
            ([.called attempt (.raises exception)], some (.ofRaised raised), world)
        | .ok () =>
            match decorated.report attempt world with
            | (events, ended, world) =>
                (.called attempt (.raises exception) :: events, ended, world)
      else ([.called attempt (.raises exception)], some (.raised exception), world)

/-- The loop from where the iterator has been resumed, for so many turns, with the events of
these turns. The caller of the wrapper may be handling an exception itself. -/
def wrapperFrom : Nat → Resumed Exc × World →
    List (Event Exc Value) × Option (WrapperEnd Exc Value)
  | 0, _ => ([], none)
  | turns + 1, (resumed, world) =>
      match resumed with
      | .stopIteration => ([], some .returnedNone)
      | .raised error => ([], some (.ofRaised error))
      | .yielded frame =>
          match decorated.body frame.attempt world with
          | (events, some ended, _) => (events, some ended)
          | (events, none, world) =>
              match wrapperFrom turns
                  (decorated.retryObject.resume clock ambient frame world) with
              | (later, ended) => (events ++ later, ended)

def wrapper (turns : Nat) (world : World) :
    List (Event Exc Value) × Option (WrapperEnd Exc Value) :=
  decorated.wrapperFrom clock ambient turns (decorated.retryObject.start clock world)

/-! ### The reference -/

/-- A call of the function: where the generator was suspended then, and the worlds in which the
function was called and in which it ended. -/
structure Call (Exc Value World : Type) where
  frame : Frame
  before : World
  outcome : Outcome Exc Value
  after : World

abbrev Call.attempt {Exc Value World : Type} (call : Call Exc Value World) : RetryAttempt :=
  call.frame.attempt

/-- A call that is not to be the last one: it raises a listed exception, in an attempt that is not
the last one. -/
def Failed (call : Call Exc Value World) : Prop :=
  ∃ exception, call.outcome = .raises exception ∧ decorated.listed exception = true ∧
    call.attempt.isLast (none : Option Exc) = false

/-- The call fails, and `on_exception` raises nothing then. -/
structure Retried (call : Call Exc Value World) : Prop where
  failed : decorated.Failed call
  quiet : ∀ onException, decorated.onException = some onException →
    (onException call.attempt call.after).1 = none

/-- The call and its report. -/
def eventsOf (call : Call Exc Value World) : List (Event Exc Value) :=
  match decorated.onException with
  | none => [.called call.attempt call.outcome]
  | some _ => [.called call.attempt call.outcome, .reported call.attempt]

/-- The world after the report of a call. -/
def reported (call : Call Exc Value World) : World :=
  match decorated.onException with
  | none => call.after
  | some onException => (onException call.attempt call.after).2

/-- How the last call ends the wrapper, with its events. -/
inductive Ends (call : Call Exc Value World) :
    List (Event Exc Value) → WrapperEnd Exc Value → Prop where
  | value {value : Value} (returns : call.outcome = .value value) :
      Ends call [.called call.attempt call.outcome] (.returned value)
  | notListed {exception : Exc} (raises : call.outcome = .raises exception)
      (other : decorated.listed exception = false) :
      Ends call [.called call.attempt call.outcome] (.raised exception)
  | last {exception : Exc} (raises : call.outcome = .raises exception)
      (listed : decorated.listed exception = true)
      (isLast : call.attempt.isLast (none : Option Exc) = true) :
      Ends call [.called call.attempt call.outcome] (.raised exception)
  | reportRaises {onException : RetryAttempt → World → Option Exc × World} {exception : Exc}
      (failed : decorated.Failed call) (given : decorated.onException = some onException)
      (raises : (onException call.attempt call.after).1 = some exception) :
      Ends call (decorated.eventsOf call) (.raised exception)

/-- The function is called in the attempt with the given number and the limits of the retry, and
this is what it does in the world of the call. -/
structure MadeIn (number : Int) (call : Call Exc Value World) : Prop where
  number_eq : call.attempt.number = number
  count_eq : call.attempt.count = decorated.retryObject.count
  timeout_eq : call.attempt.timeout = decorated.retryObject.timeout
  func_eq : decorated.func call.before = (call.outcome, call.after)

/-- The calls are made in successive attempts: each in the world in which the generator has yielded
its attempt, and the generator goes on from the world that the call and its report have left. -/
def Successive : Int → Resumed Exc × World → List (Call Exc Value World) → Prop
  | _, _, [] => True
  | number, resumed, call :: calls =>
      resumed = (.yielded call.frame, call.before) ∧ decorated.MadeIn number call ∧
        Successive (number + 1)
          (decorated.retryObject.resume clock none call.frame (decorated.reported call)) calls

/-- What the wrapper does in so many turns, from where the generator has been resumed on. -/
def FollowsReference (number : Int) (resumed : Resumed Exc × World) (turns : Nat)
    (run : List (Event Exc Value) × Option (WrapperEnd Exc Value)) : Prop :=
  ∃ calls : List (Call Exc Value World),
    (∀ call ∈ calls, decorated.Retried call) ∧
    ((calls.length = turns ∧ decorated.Successive clock number resumed calls ∧
        run = (calls.flatMap decorated.eventsOf, none)) ∨
      ∃ last events ended, calls.length < turns ∧
        decorated.Successive clock number resumed (calls ++ [last]) ∧
        decorated.Ends last events ended ∧
        run = (calls.flatMap decorated.eventsOf ++ events, some ended))

variable {decorated clock ambient}

theorem report_cases {call : Call Exc Value World} (failed : decorated.Failed call) :
    (decorated.Retried call ∧
      .called call.attempt call.outcome :: (decorated.report call.attempt call.after).1 =
        decorated.eventsOf call ∧
      (decorated.report call.attempt call.after).2 = (none, decorated.reported call)) ∨
    ∃ ended, decorated.Ends call
        (.called call.attempt call.outcome :: (decorated.report call.attempt call.after).1) ended ∧
      (decorated.report call.attempt call.after).2.1 = some ended := by
  cases given : decorated.onException with
  | none =>
      have quiet : ∀ onException, decorated.onException = some onException →
          (onException call.attempt call.after).1 = none := by simp [given]
      refine .inl ⟨⟨failed, quiet⟩, ?_, ?_⟩
      · simp only [report, eventsOf, given]
      · simp only [report, reported, given]
  | some onException =>
      have events : decorated.eventsOf call =
          [.called call.attempt call.outcome, .reported call.attempt] := by
        simp only [eventsOf, given]
      cases reports : onException call.attempt call.after with
      | mk raises after =>
          cases raises with
          | none =>
              have quiet : ∀ other, decorated.onException = some other →
                  (other call.attempt call.after).1 = none := by
                intro other same
                rw [given] at same
                cases same
                rw [reports]
              refine .inl ⟨⟨failed, quiet⟩, ?_, ?_⟩
              · simp only [report, given, reports, events]
              · simp only [report, reported, given, reports]
          | some raised =>
              have raises : (onException call.attempt call.after).1 = some raised := by
                rw [reports]
              refine .inr ⟨.raised raised, ?_, ?_⟩
              · simp only [report, given, reports, ← events]
                exact .reportRaises failed given raises
              · simp only [report, given, reports]

/-- One turn: the call is retried, with the events of a retried call, or it is the last one. -/
theorem body_cases {call : Call Exc Value World}
    (made : decorated.func call.before = (call.outcome, call.after)) :
    (decorated.Retried call ∧ decorated.body call.attempt call.before =
        (decorated.eventsOf call, none, decorated.reported call)) ∨
    ∃ ended, decorated.Ends call (decorated.body call.attempt call.before).1 ended ∧
      (decorated.body call.attempt call.before).2.1 = some ended := by
  cases ends : call.outcome with
  | value value =>
      have turn : decorated.body call.attempt call.before =
          ([.called call.attempt call.outcome], some (.returned value), call.after) := by
        simp only [body, made, ends]
      rw [turn]
      exact .inr ⟨_, .value ends, rfl⟩
  | raises exception =>
      cases listed : decorated.listed exception with
      | false =>
          have turn : decorated.body call.attempt call.before =
              ([.called call.attempt call.outcome], some (.raised exception), call.after) := by
            simp only [body, made, ends, listed, Bool.false_eq_true, if_false]
          rw [turn]
          exact .inr ⟨_, .notListed ends listed, rfl⟩
      | true =>
          by_cases last : call.attempt.AtLimit
          · have turn : decorated.body call.attempt call.before =
                ([.called call.attempt call.outcome], some (.raised exception), call.after) := by
              simp only [body, made, ends, listed, if_true,
                RetryAttempt.checkLimits_active exception last, WrapperEnd.ofRaised]
            rw [turn]
            exact .inr ⟨_, .last ends listed (RetryAttempt.isLast_iff.mpr last), rfl⟩
          · have turn : decorated.body call.attempt call.before =
                (.called call.attempt call.outcome ::
                  (decorated.report call.attempt call.after).1,
                  (decorated.report call.attempt call.after).2) := by
              simp only [body, made, ends, listed, if_true, RetryAttempt.checkLimits_ok last]
            have failed : decorated.Failed call := by
              refine ⟨exception, ends, listed, ?_⟩
              rw [← Bool.not_eq_true, RetryAttempt.isLast_iff]
              exact last
            rw [turn]
            obtain ⟨retried, events, goesOn⟩ | ended := report_cases failed
            · rw [events, goesOn]
              exact .inl ⟨retried, rfl⟩
            · exact .inr ended

/-- A retried call before a run. -/
theorem FollowsReference.cons {number : Int} {turns : Nat}
    {run : List (Event Exc Value) × Option (WrapperEnd Exc Value)}
    {call : Call Exc Value World} (retried : decorated.Retried call)
    (made : decorated.MadeIn number call)
    (follows : decorated.FollowsReference clock (number + 1)
      (decorated.retryObject.resume clock none call.frame (decorated.reported call)) turns run) :
    decorated.FollowsReference clock number (.yielded call.frame, call.before) (turns + 1)
      (decorated.eventsOf call ++ run.1, run.2) := by
  obtain ⟨calls, allRetried, ⟨length, successive, rfl⟩ |
    ⟨last, events, ended, length, successive, ends, rfl⟩⟩ := follows
  · refine ⟨call :: calls, List.forall_mem_cons.mpr ⟨retried, allRetried⟩, .inl ⟨?_, ?_, rfl⟩⟩
    · rw [List.length_cons, length]
    · exact ⟨rfl, made, successive⟩
  · refine ⟨call :: calls, List.forall_mem_cons.mpr ⟨retried, allRetried⟩,
      .inr ⟨last, events, ended, ?_, ⟨rfl, made, successive⟩, ends, ?_⟩⟩
    · exact Nat.succ_lt_succ length
    · rw [List.flatMap_cons, List.append_assoc]

/-- The last call of a run. -/
theorem FollowsReference.last {number : Int} {turns : Nat} {events : List (Event Exc Value)}
    {ended : WrapperEnd Exc Value} {call : Call Exc Value World}
    (ends : decorated.Ends call events ended) (made : decorated.MadeIn number call) :
    decorated.FollowsReference clock number (.yielded call.frame, call.before) (turns + 1)
      (events, some ended) :=
  ⟨[], List.forall_mem_nil _,
    .inr ⟨call, events, ended, Nat.succ_pos turns, ⟨rfl, made, trivial⟩, ends, rfl⟩⟩

theorem Failed.free {call : Call Exc Value World} (failed : decorated.Failed call) :
    ¬ call.attempt.AtLimit := by
  obtain ⟨exception, -, -, notLast⟩ := failed
  intro last
  rw [RetryAttempt.isLast_iff.mpr last] at notLast
  cases notLast

theorem wrapperFrom_follows (turns : Nat) {number : Int} {frame : Frame} (world : World)
    (follows : frame.Follows decorated.retryObject number) :
    decorated.FollowsReference clock number (.yielded frame, world) turns
      (decorated.wrapperFrom clock ambient turns (.yielded frame, world)) := by
  induction turns generalizing number frame world with
  | zero => exact ⟨[], List.forall_mem_nil _, .inl ⟨rfl, trivial, rfl⟩⟩
  | succ turns inductionHypothesis =>
      have made : decorated.MadeIn number
          ⟨frame, world, (decorated.func world).1, (decorated.func world).2⟩ :=
        ⟨follows.number_eq, follows.count_eq, follows.timeout_eq, rfl⟩
      obtain ⟨retried, turn⟩ | ⟨last, ends, isEnded⟩ := body_cases made.func_eq
      · -- the check of the iterator is the one that the body has passed
        have free := retried.failed.free
        have resumed := Retry.resume_active decorated.retryObject clock ambient
          (decorated.reported ⟨frame, world, (decorated.func world).1, (decorated.func world).2⟩)
          free
        obtain ⟨elapsedTime, later, yielded⟩ := Retry.resume_yielded decorated.retryObject clock none
          (decorated.reported ⟨frame, world, (decorated.func world).1, (decorated.func world).2⟩)
          free
        have next := @Retry.nextAttempt_follows Exc decorated.retryObject _ _ _ _
          (Retry.nextAttempt_eq frame.startTime elapsedTime frame.numbers)
        rw [follows.numbers_eq] at next
        simp only [wrapperFrom, turn, resumed]
        apply FollowsReference.cons retried made
        rw [yielded, Retry.nextAttempt_eq, follows.numbers_eq]
        exact inductionHypothesis later next
      · cases turn : decorated.body frame.attempt world with
        | mk events rest =>
            obtain ⟨ended, after⟩ := rest
            rw [turn] at ends isEnded
            dsimp only at ends isEnded
            subst isEnded
            simp only [wrapperFrom, turn]
            exact .last ends made

/-- The last call is made in the attempt that its place tells. -/
theorem Successive.last {number : Int} {resumed : Resumed Exc × World}
    {calls : List (Call Exc Value World)} {last : Call Exc Value World}
    (successive : decorated.Successive clock number resumed (calls ++ [last])) :
    decorated.MadeIn (number + calls.length) last := by
  induction calls generalizing number resumed with
  | nil => simpa using successive.2.1
  | cons call calls inductionHypothesis =>
      have made := inductionHypothesis successive.2.2
      rw [List.length_cons]
      push_cast
      rw [add_comm (calls.length : Int) 1, ← add_assoc]
      exact made

variable (decorated clock ambient) in
theorem wrapper_follows (turns : Nat) (world : World) :
    decorated.FollowsReference clock 1 (decorated.retryObject.start clock world) turns
      (decorated.wrapper clock ambient turns world) := by
  unfold wrapper
  rw [Retry.start_eq]
  exact wrapperFrom_follows turns _ (Retry.firstFrame_follows _ _)

/-- With a count the wrapper ends within so many turns. -/
theorem wrapper_ends {count : Int} (counted : decorated.retryObject.count = some count)
    (world : World) :
    ∃ ended, (decorated.wrapper clock ambient (max 1 count).toNat world).2 = some ended := by
  obtain ⟨calls, allRetried, ⟨length, successive, -⟩ | ⟨last, events, ended, -, -, -, run⟩⟩ :=
    decorated.wrapper_follows clock ambient (max 1 count).toNat world
  · rcases List.eq_nil_or_concat calls with rfl | ⟨calls, last, rfl⟩
    · rw [List.length_nil] at length
      omega
    · rw [List.concat_eq_append] at length successive allRetried
      have made := successive.last
      have free := (allRetried last (by simp)).failed.free
      refine absurd (.inl ⟨count, made.count_eq.trans counted, ?_⟩) free
      rw [made.number_eq]
      rw [List.length_append, List.length_singleton] at length
      omega
  · rw [run]
    exact ⟨ended, rfl⟩

theorem Ends.isFunctionEnd {call : Call Exc Value World}
    {events : List (Event Exc Value)} {ended : WrapperEnd Exc Value}
    (ends : decorated.Ends call events ended) :
    ended ≠ .returnedNone ∧ ∀ error, ended ≠ .limitError error := by
  cases ends with
  | value _ => exact ⟨by simp, by simp⟩
  | notListed _ _ => exact ⟨by simp, by simp⟩
  | last _ _ _ => exact ⟨by simp, by simp⟩
  | reportRaises _ _ _ => exact ⟨by simp, by simp⟩

/-- **The reference semantics of `retry_on_exception`.** In every run the calls but the last one
raise listed exceptions in attempts that are not last, each with its report; the last one
returns its value or raises its exception. Each call is made in the world that the one before it,
its report and the clock have left. With a count the wrapper ends, and it ends with neither an error
of the limits nor without a value. -/
theorem wrapper_follows_reference (Exc Value World : Type)
    (decorated : Decorated Exc Value World) (clock : Clock World) (ambient : Option Exc)
    (world : World) :
    (∀ turns, decorated.FollowsReference clock 1 (decorated.retryObject.start clock world) turns
      (decorated.wrapper clock ambient turns world)) ∧
    (∀ count, decorated.retryObject.count = some count →
      ∃ ended, (decorated.wrapper clock ambient (max 1 count).toNat world).2 = some ended) ∧
    ∀ turns ended, (decorated.wrapper clock ambient turns world).2 = some ended →
      ended ≠ .returnedNone ∧ ∀ error, ended ≠ .limitError error := by
  refine ⟨fun turns => decorated.wrapper_follows clock ambient turns world,
    fun count counted => wrapper_ends counted world, fun turns ended isEnded => ?_⟩
  obtain ⟨calls, -, ⟨-, -, run⟩ | ⟨last, events, lastEnded, -, -, ends, run⟩⟩ :=
    decorated.wrapper_follows clock ambient turns world
  · rw [run] at isEnded
    cases isEnded
  · rw [run] at isEnded
    cases isEnded
    exact ends.isFunctionEnd

end Decorated

end Tobiko.Common.RetryOnException
