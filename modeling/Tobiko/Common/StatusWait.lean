import Tobiko.Common.RetryDuration

/-!
Contract: loops that wait until a resource has a status.

Owns: the loop, with the statuses that it takes as passing, and what its end tells of the
statuses that it has read.

Does not own: how a resource is read, and which statuses are passing.

What has been read so far is known by a relation between the resources and the state.
-/

namespace Tobiko.Common

open Tobiko.Common.Time Tobiko.Foundation

/-- A wait for a status. Any status but that one and the transient ones ends it. -/
structure StatusWait (Error State Resource : Type) where
  read : Effect Error State Resource
  status : Resource → String
  expected : String
  transient : List String
  notChanging : Resource → Error
  expired : RetryAttempt → Bool
  timedOut : Resource → Error

namespace StatusWait

section Wait

variable {Error State Resource : Type} (wait : StatusWait Error State Resource)

/-- The body of the loop. -/
def turn (attempt : RetryAttempt) (_locals : Unit) :
    Effect Error State (Retry.Turn Unit Resource) := do
  let resource ← wait.read
  if wait.status resource = wait.expected then
    pure (.leave resource)
  else if wait.status resource ∉ wait.transient then
    Effect.raise (wait.notChanging resource)
  else if wait.expired attempt then
    Effect.raise (wait.timedOut resource)
  else
    pure (.next ())

def run (retry : Retry) (clock : Clock State) (errors : Retry.LoopErrors Error) (turns : Nat) :
    Effect Error State Resource :=
  retry.loop clock errors wait.turn turns ()

/-! ### What a wait reads -/

/-- The wait goes on after each of them. -/
def Passing (resources : List Resource) : Prop :=
  ∀ resource ∈ resources, wait.status resource ≠ wait.expected ∧
    wait.status resource ∈ wait.transient

variable (observed : List Resource → State → Prop) (unread : Error → Prop)

/-- The wait has returned what it has read last. -/
def Met (resource : Resource) (state : State) : Prop :=
  ∃ passed, wait.Passing passed ∧ wait.status resource = wait.expected ∧
    observed (passed ++ [resource]) state

/-- Why a wait fails: a read failed, or the last status is not one to wait for, or it still is
when the time is up. -/
inductive Unmet (error : Error) (state : State) : Prop where
  | unread (passed : List Resource) (passing : wait.Passing passed) (failed : unread error)
      (seen : observed passed state)
  | notChanging (passed : List Resource) (last : Resource) (passing : wait.Passing passed)
      (different : wait.status last ≠ wait.expected) (stuck : wait.status last ∉ wait.transient)
      (same : error = wait.notChanging last) (seen : observed (passed ++ [last]) state)
  | timedOut (passed : List Resource) (last : Resource) (passing : wait.Passing (passed ++ [last]))
      (same : error = wait.timedOut last) (seen : observed (passed ++ [last]) state)

variable {wait observed unread} {retry : Retry} {clock : Clock State}
  {errors : Retry.LoopErrors Error}

theorem Passing.concat {passed : List Resource} {resource : Resource} (passing : wait.Passing passed)
    (different : wait.status resource ≠ wait.expected)
    (going : wait.status resource ∈ wait.transient) : wait.Passing (passed ++ [resource]) := by
  intro other member
  rcases List.mem_append.mp member with earlier | last
  · exact passing other earlier
  · rw [List.mem_singleton.mp last]
    exact ⟨different, going⟩

/-- A read adds to what has been observed, if it does not fail. -/
def Reads (read : Effect Error State Resource) (observed : List Resource → State → Prop)
    (unread : Error → Prop) : Prop :=
  ∀ seen, Effect.Ensures (observed seen) read
    (fun resource state => observed (seen ++ [resource]) state)
    fun error state => unread error ∧ observed seen state

/-- The wait raises in the last attempt at the latest. -/
def Guarded (wait : StatusWait Error State Resource) (retry : Retry) : Prop :=
  ∀ (frame : Retry.Frame) number, frame.Reached retry number →
    wait.expired frame.attempt = false → ¬frame.attempt.AtLimit

theorem turn_ensures (reads : Reads wait.read observed unread) (guarded : wait.Guarded retry) :
    Retry.KeepsGuarded retry wait.turn
      (fun _ _ state => ∃ passed, wait.Passing passed ∧ observed passed state)
      (wait.Met observed) (wait.Unmet observed unread) := by
  rintro frame number locals reached state ⟨passed, passing, seen⟩
  refine Effect.ensures_bind (fun resource state => observed (passed ++ [resource]) state)
    ((reads passed).mono (fun _ same => same) (fun _ _ same => same)
      fun error state failed => .unread passed passing failed.1 failed.2)
    (fun resource => ?_) state seen
  split
  · rename_i reached
    apply Effect.ensures_pure
    intro state seen
    exact ⟨passed, passing, reached, seen⟩
  · rename_i different
    split
    · rename_i stuck
      apply Effect.ensures_raise
      intro state seen
      exact .notChanging passed resource passing different stuck rfl seen
    · rename_i going
      have longer := passing.concat different (not_not.mp going)
      split
      · apply Effect.ensures_raise
        intro state seen
        exact .timedOut passed resource longer rfl seen
      · rename_i free
        apply Effect.ensures_pure
        intro state seen
        refine ⟨guarded frame number reached ?_, passed ++ [resource], longer, seen⟩
        simpa using free

/-- **The end of a wait.** A wait returns a resource with the expected status, and fails for a
status that is not transient, for the time, or for a read; all that it has read before was
transient. -/
theorem run_ensures (untimed : ∀ seen, Retry.Untimed clock (observed seen))
    (reads : Reads wait.read observed unread) (guarded : wait.Guarded retry) (turns : Nat) :
    Effect.Ensures (observed []) (wait.run retry clock errors turns) (wait.Met observed)
      (wait.Unmet observed unread) := by
  have kept : ∀ (_number : Int) (_locals : Unit), Retry.Untimed clock
      (fun state => ∃ passed, wait.Passing passed ∧ observed passed state) := by
    intro _ _
    constructor
    · rintro state ⟨passed, passing, seen⟩
      exact ⟨passed, passing, (untimed passed).time state seen⟩
    · rintro seconds state ⟨passed, passing, seen⟩
      exact ⟨passed, passing, (untimed passed).sleep seconds state seen⟩
  intro state start
  apply Retry.loop_ensures_guarded kept (turn_ensures reads guarded) turns () state
  exact ⟨[], fun _ member => absurd member List.not_mem_nil, start⟩

/-- A wait ends in time, when each of its reads takes some time. -/
theorem run_ends {timeout duration : ℚ} {turns : Nat}
    (limited : ∃ limit : ℚ≥0, retry.timeout = some limit ∧ (limit : ℚ) = timeout)
    (positive : 0 < duration)
    (lasts : ∀ state, ∃ result after, wait.read state = some (result, after) ∧
      clock.now state + duration ≤ clock.now after)
    (enough : Retry.EnoughTurns timeout duration 0 turns) (state : State) :
    (wait.run retry clock errors turns state).isSome := by
  apply Retry.loop_ends_timed limited positive _ turns () state enough
  intro attempt locals state
  obtain ⟨result, after, ran, lasted⟩ := lasts state
  cases result with
  | error error => exact ⟨.error error, after, Effect.bind_of_error ran, lasted⟩
  | ok resource =>
      unfold turn
      rw [Effect.bind_of_ok ran]
      split
      · exact ⟨_, after, rfl, lasted⟩
      · split
        · exact ⟨_, after, rfl, lasted⟩
        · split
          · exact ⟨_, after, rfl, lasted⟩
          · exact ⟨_, after, rfl, lasted⟩

end Wait

end StatusWait

end Tobiko.Common
