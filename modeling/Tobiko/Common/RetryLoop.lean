import Tobiko.Common.Retry
import Tobiko.Foundation.Effect

/-!
Contract: `for` loops over a retry whose body has effects.

Owns: the loop with the variables of its function, the errors that the iterator adds, the
rules by which an invariant of the body is one of the loop, and by which a loop ends.

Does not own: which attempts the iterator makes.
-/

namespace Tobiko.Common.Retry

open Tobiko.Common.Time Tobiko.Foundation
open RetryAttempt (Raised)

/-- How the body ends: with the variables for the next turn, or by leaving the loop. -/
inductive Turn (Local Value : Type) where
  | next (locals : Local)
  | leave (value : Value)

/-- What holds after a turn, according to how it ended. -/
def Turn.Holds {Local Value State : Type} (next : Local → State → Prop)
    (leave : Value → State → Prop) : Turn Local Value → State → Prop
  | .next locals => next locals
  | .leave value => leave value

/-- The errors of a loop besides those of its body. -/
structure LoopErrors (Error : Type) where
  limit : RetryLimitError → Error
  broken : Error

def LoopErrors.ofRaised {Error : Type} (errors : LoopErrors Error) : Raised Error → Error
  | .active error => error
  | .limit error => errors.limit error

section Loop

variable {Error State Local Value : Type} (retry : Retry) (clock : Clock State)
  (errors : LoopErrors Error)
  (body : RetryAttempt → Local → Effect Error State (Turn Local Value))

/-- The loop from where the iterator has been resumed, for so many turns. -/
def loopFrom : Nat → Local → Resumed Error → Effect Error State Value
  | 0, _, _ => Effect.diverge
  | _ + 1, _, .stopIteration => Effect.raise errors.broken
  | _ + 1, _, .raised error => Effect.raise (errors.ofRaised error)
  | turns + 1, locals, .yielded frame => do
      match ← body frame.attempt locals with
      | .leave value => pure value
      | .next locals =>
          let resumed ← Effect.update (retry.resume clock none frame)
          loopFrom turns locals resumed

/-- `for attempt in retry: ...` -/
def loop (turns : Nat) (locals : Local) : Effect Error State Value := do
  let resumed ← Effect.update (retry.start clock)
  retry.loopFrom clock errors body turns locals resumed

variable {retry clock errors body} {invariant : Local → State → Prop}
  {returns : Value → State → Prop} {raises : Error → State → Prop}

/-- Nothing but the body changes what the invariant is about. -/
structure Untimed (clock : Clock State) (invariant : State → Prop) : Prop where
  time : ∀ state, invariant state → invariant (clock.time state).2
  sleep : ∀ seconds state, invariant state → invariant (clock.sleep seconds state)

theorem Untimed.resume {kept : State → Prop} (untimed : Untimed clock kept)
    {frame : Frame} {state : State} (holds : kept state) :
    kept (retry.resume clock (none : Option Error) frame state).2 := by
  unfold Retry.resume
  split
  · exact holds
  · have timed := untimed.time _ holds
    dsimp only
    split
    · exact timed
    · exact untimed.time _ (untimed.sleep _ _ timed)

/-- The iterator has not stopped, and raises no error but its own. -/
def OwnError {Error : Type} (resumed : Resumed Error) : Prop :=
  resumed ≠ .stopIteration ∧ ∀ raised, resumed = .raised raised → ∃ error, raised = .limit error

theorem resume_ownError (retry : Retry) (clock : Clock State) (frame : Frame) (state : State) :
    OwnError (retry.resume clock (none : Option Error) frame state).1 := by
  refine ⟨resume_ne_stopIteration none frame state, fun raised same => ?_⟩
  by_cases last : frame.attempt.AtLimit
  · obtain ⟨error, failed, limit⟩ := resume_error retry clock (none : Option Error) state last
    rw [failed] at same
    cases same
    rcases limit rfl with rfl | rfl
    · exact ⟨_, rfl⟩
    · exact ⟨_, rfl⟩
  · obtain ⟨elapsedTime, later, passed⟩ :=
      resume_yielded retry clock (none : Option Error) state last
    rw [passed, nextAttempt_eq] at same
    cases same

theorem loopFrom_ensures (untimed : ∀ locals, Untimed clock (invariant locals))
    (keeps : ∀ attempt locals, Effect.Ensures (invariant locals) (body attempt locals)
      (Turn.Holds invariant returns) raises)
    (limit : ∀ locals error state, invariant locals state → raises (errors.limit error) state)
    (turns : Nat) (locals : Local) {resumed : Resumed Error}
    (going : OwnError resumed) :
    Effect.Ensures (invariant locals)
      (retry.loopFrom clock errors body turns locals resumed) returns raises := by
  induction turns generalizing locals resumed with
  | zero =>
      intro state _ result after ended
      cases ended
  | succ turns inductionHypothesis =>
      cases resumed with
      | stopIteration => exact absurd rfl going.1
      | raised raised =>
          obtain ⟨error, rfl⟩ := going.2 raised rfl
          exact Effect.ensures_raise (limit locals error)
      | yielded frame =>
          refine Effect.ensures_bind _ (keeps frame.attempt locals) fun turn => ?_
          cases turn with
          | leave value => exact Effect.ensures_pure fun _ left => left
          | next locals =>
              intro state holds
              exact Effect.ensures_bind
                (fun resumed after => invariant locals after ∧ OwnError resumed)
                (Effect.ensures_update fun state kept =>
                  ⟨(untimed locals).resume kept, resume_ownError retry clock frame state⟩)
                (fun resumed state kept => inductionHypothesis locals kept.2 state kept.1)
                state holds

/-- The rule of the loop: what each turn of the body keeps and what it ensures when it
leaves or raises is ensured of the loop. -/
theorem loop_ensures (invariant : Local → State → Prop)
    (untimed : ∀ locals, Untimed clock (invariant locals))
    (keeps : ∀ attempt locals, Effect.Ensures (invariant locals) (body attempt locals)
      (Turn.Holds invariant returns) raises)
    (limit : ∀ locals error state, invariant locals state → raises (errors.limit error) state)
    (turns : Nat) (locals : Local) :
    Effect.Ensures (invariant locals) (retry.loop clock errors body turns locals)
      returns raises := by
  refine Effect.ensures_bind
    (fun resumed after => invariant locals after ∧ OwnError resumed)
    (Effect.ensures_update fun state holds => ?_)
    (fun resumed state kept =>
      loopFrom_ensures untimed keeps limit turns locals kept.2 state kept.1)
  rw [start_eq]
  exact ⟨(untimed locals).time _ holds, by simp [OwnError]⟩

/-- The rule of a loop whose first turn starts from something else than the later ones. -/
theorem loop_ensures_first (initial invariant : Local → State → Prop)
    (starts : ∀ locals, Untimed clock (initial locals))
    (untimed : ∀ locals, Untimed clock (invariant locals))
    (first : ∀ attempt locals, Effect.Ensures (initial locals) (body attempt locals)
      (Turn.Holds invariant returns) raises)
    (keeps : ∀ attempt locals, Effect.Ensures (invariant locals) (body attempt locals)
      (Turn.Holds invariant returns) raises)
    (limit : ∀ locals error state, invariant locals state → raises (errors.limit error) state)
    (turns : Nat) (locals : Local) :
    Effect.Ensures (initial locals) (retry.loop clock errors body turns locals)
      returns raises := by
  intro state holds result after ended
  have started : initial locals (clock.time state).2 := (starts locals).time _ holds
  have ran : retry.loopFrom clock errors body turns locals
      (retry.start clock state : Resumed Error × State).1
      (retry.start clock state : Resumed Error × State).2 = some (result, after) := ended
  rw [start_eq] at ran
  cases turns with
  | zero => cases ran
  | succ turns =>
      refine Effect.ensures_bind _ (first _ locals) (fun turn => ?_) _ started result after ran
      cases turn with
      | leave value => exact Effect.ensures_pure fun _ left => left
      | next locals =>
          intro state holds
          exact Effect.ensures_bind
            (fun resumed after => invariant locals after ∧ OwnError resumed)
            (Effect.ensures_update fun state kept =>
              ⟨(untimed locals).resume kept, resume_ownError retry clock _ state⟩)
            (fun resumed state kept =>
              loopFrom_ensures untimed keeps limit turns locals kept.2 state kept.1)
            state holds

theorem untimed_paired {World Rest : Type} (clock : Clock World) (kept : Rest → Prop) :
    Untimed (clock.paired Rest) fun state => kept state.2 :=
  ⟨fun _ holds => holds, fun _ _ holds => holds⟩

/-! ### Loops that are left in the last attempt -/

/-- The generator is at the attempt with the given number; no time has passed in the first. -/
structure Frame.Reached (retry : Retry) (frame : Frame) (number : Int) : Prop
    extends frame.Follows retry number where
  positive : 1 ≤ number
  first : number = 1 → frame.attempt.elapsedTime = 0

theorem firstFrame_reached (retry : Retry) (startTime : ℚ) :
    (retry.firstFrame startTime).Reached retry 1 :=
  ⟨firstFrame_follows retry startTime, Int.le_refl 1, fun _ => rfl⟩

theorem nextAttempt_yielded (retry : Retry) (startTime elapsedTime : ℚ) (numbers : Int) :
    ∃ next, (retry.nextAttempt startTime elapsedTime numbers : Resumed Error) = .yielded next ∧
      next.Follows retry numbers :=
  ⟨_, nextAttempt_eq _ _ _, nextAttempt_follows (nextAttempt_eq _ _ _ :
    (retry.nextAttempt startTime elapsedTime numbers : Resumed Error) = _)⟩

/-- The next attempt of a retry, below the limits. -/
theorem resume_next (retry : Retry) (clock : Clock State) {frame : Frame} {number : Int}
    (reached : frame.Reached retry number) (free : ¬frame.attempt.AtLimit) (state : State) :
    ∃ next, (retry.resume clock (none : Option Error) frame state).1 = .yielded next ∧
      next.Reached retry (number + 1) := by
  obtain ⟨elapsedTime, later, passed⟩ :=
    resume_yielded retry clock (none : Option Error) state free
  have positive := reached.positive
  rw [passed, ← reached.numbers_eq]
  obtain ⟨next, yielded, follows⟩ :=
    @nextAttempt_yielded Error retry frame.startTime elapsedTime frame.numbers
  refine ⟨next, yielded, follows, ?_, fun first => ?_⟩
  · rw [reached.numbers_eq]
    omega
  · rw [reached.numbers_eq] at first
    omega

/-- What a body keeps that does not go on in the last attempt. The invariant may tell of the
number of the attempt. -/
def KeepsGuarded (retry : Retry)
    (body : RetryAttempt → Local → Effect Error State (Turn Local Value))
    (invariant : Int → Local → State → Prop) (returns : Value → State → Prop)
    (raises : Error → State → Prop) : Prop :=
  ∀ (frame : Frame) number locals, frame.Reached retry number →
    Effect.Ensures (invariant number locals) (body frame.attempt locals)
      (Turn.Holds (fun locals state => ¬frame.attempt.AtLimit ∧
        invariant (number + 1) locals state) returns) raises

section Guarded

variable {invariant : Int → Local → State → Prop}
  (untimed : ∀ number locals, Untimed clock (invariant number locals))
  (keeps : KeepsGuarded retry body invariant returns raises)
include untimed keeps

theorem loopFrom_ensures_guarded (turns : Nat) (locals : Local) {frame : Frame} {number : Int}
    (reached : frame.Reached retry number) :
    Effect.Ensures (invariant number locals)
      (retry.loopFrom clock errors body turns locals (.yielded frame)) returns raises := by
  induction turns generalizing locals frame number with
  | zero =>
      intro state _ result after ended
      cases ended
  | succ turns inductionHypothesis =>
      refine Effect.ensures_bind _ (keeps frame number locals reached) fun turn => ?_
      cases turn with
      | leave value => exact Effect.ensures_pure fun _ left => left
      | next locals =>
          rintro state ⟨free, holds⟩ result after ended
          obtain ⟨next, resumed, nextReached⟩ :=
            @resume_next Error _ retry clock _ _ reached free state
          have later : invariant (number + 1) locals
              (retry.resume clock (none : Option Error) frame state).2 :=
            (untimed (number + 1) locals).resume holds
          refine inductionHypothesis locals nextReached _ later result after ?_
          rw [← resumed]
          exact ended

/-- The rule of a loop that is left in the last attempt. -/
theorem loop_ensures_guarded (turns : Nat) (locals : Local) :
    Effect.Ensures (invariant 1 locals) (retry.loop clock errors body turns locals)
      returns raises := by
  intro state holds result after ended
  have started : invariant 1 locals (clock.time state).2 := (untimed 1 locals).time _ holds
  have ran : retry.loopFrom clock errors body turns locals
      (retry.start clock state : Resumed Error × State).1
      (retry.start clock state : Resumed Error × State).2 = some (result, after) := ended
  rw [start_eq] at ran
  exact loopFrom_ensures_guarded untimed keeps turns locals
    (firstFrame_reached retry (clock.time state).1) _ started result after ran

variable {bound : Nat}
  (bounded : ∀ number locals state, invariant number locals state → number ≤ bound)
  (total : ∀ attempt locals, (body attempt locals).Ends)
include bounded total

theorem loopFrom_ends_guarded {turns : Nat} (locals : Local) {frame : Frame} {number : Int}
    (reached : frame.Reached retry number) (enough : bound + 1 ≤ turns + number) {state : State}
    (holds : invariant number locals state) :
    (retry.loopFrom clock errors body turns locals (.yielded frame) state).isSome := by
  induction turns generalizing locals frame number state with
  | zero =>
      have within := bounded number locals state holds
      omega
  | succ turns inductionHypothesis =>
      obtain ⟨⟨result, after⟩, ran⟩ := Option.isSome_iff_exists.mp (total frame.attempt locals state)
      have kept := (keeps frame number locals reached state holds result after ran).1
      have unfolded : retry.loopFrom clock errors body (turns + 1) locals (.yielded frame) state =
          Effect.bind (body frame.attempt locals) _ state := rfl
      rw [unfolded, Effect.bind, ran]
      cases result with
      | error error => rfl
      | ok turn =>
          cases turn with
          | leave value => rfl
          | next locals =>
              obtain ⟨free, later⟩ := kept _ rfl
              obtain ⟨next, resumed, nextReached⟩ :=
                @resume_next Error _ retry clock _ _ reached free after
              change (retry.loopFrom clock errors body turns locals
                (retry.resume clock (none : Option Error) frame after).1
                (retry.resume clock (none : Option Error) frame after).2).isSome
              rw [resumed]
              refine inductionHypothesis locals nextReached ?_
                ((untimed (number + 1) locals).resume later)
              push_cast at enough
              omega

/-- A loop ends whose invariant bounds the numbers of the attempts. -/
theorem loop_ends_guarded {turns : Nat} (enough : bound ≤ turns) (locals : Local) {state : State}
    (holds : invariant 1 locals state) :
    (retry.loop clock errors body turns locals state).isSome := by
  change (retry.loopFrom clock errors body turns locals
    (retry.start clock state : Resumed Error × State).1
    (retry.start clock state : Resumed Error × State).2).isSome
  rw [start_eq]
  apply loopFrom_ends_guarded untimed keeps bounded total locals (firstFrame_reached retry _)
  · omega
  · exact (untimed 1 locals).time _ holds

end Guarded

end Loop

end Tobiko.Common.Retry
