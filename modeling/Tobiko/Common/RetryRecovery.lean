import Tobiko.Common.RetryLimits
import Tobiko.Common.RetryLoop

/-!
Contract: loops over a retry that recover from an error before they try again.

Owns: the loop, and what it ensures from what one try and one recovery ensure.

Does not own: what is tried, and how it is recovered.

The last error is raised as it is, without a recovery: a recovery is made only where the count allows
for another attempt.
-/

namespace Tobiko.Common

open Tobiko.Common.Time Tobiko.Foundation

/-- What a loop tries, and what it does after an error that it recovers from. -/
structure Recovery (Error State Value : Type) where
  attempt : RetryAttempt → Effect Error State Value
  recoverable : Error → Bool
  recover : Effect Error State Unit

/-- The count allows for an attempt of that number. -/
def Retry.Allows (retry : Retry) (number : Int) : Prop :=
  ∀ count, retry.count = some count → number ≤ max 1 count

theorem Retry.Allows.next {retry : Retry} {frame : Retry.Frame} {number : Int}
    (reached : frame.Reached retry number) (free : ¬frame.attempt.AtLimit) :
    retry.Allows (number + 1) := by
  intro count counted
  by_contra beyond
  apply free
  left
  refine ⟨count, by rw [reached.count_eq, counted], ?_⟩
  rw [reached.number_eq]
  omega

namespace Recovery

section Recovery

variable {Error State Value : Type} (recovery : Recovery Error State Value)

/-- The body of the loop; `errors` are those of its iterator. -/
def turn (errors : Retry.LoopErrors Error) (attempt : RetryAttempt) (_locals : Unit) :
    Effect Error State (Retry.Turn Unit Value) := do
  match ← (recovery.attempt attempt).attempt with
  | .ok value => pure (.leave value)
  | .error error =>
      if recovery.recoverable error then
        Effect.ofExcept ((attempt.checkLimits (some error)).mapError errors.ofRaised)
        recovery.recover
        pure (.next ())
      else
        Effect.raise error

def run (retry : Retry) (clock : Clock State) (errors : Retry.LoopErrors Error) (turns : Nat) :
    Effect Error State Value :=
  retry.loop clock errors (recovery.turn errors) turns ()

/-- What one try and one recovery do to what is known before each attempt. -/
structure Steps (recovery : Recovery Error State Value) (retry : Retry) (ready : Int → State → Prop)
    (failed : Int → Error → State → Prop) (returns : Value → State → Prop)
    (raises : Error → State → Prop) : Prop where
  attempt : ∀ number attempt, retry.Allows number →
    Effect.Ensures (ready number) (recovery.attempt attempt) returns
      fun error state => if recovery.recoverable error then failed number error state
        else raises error state
  recover : ∀ number error, retry.Allows (number + 1) →
    Effect.Ensures (failed number error) recovery.recover
      (fun _ state => ready (number + 1) state) raises

variable {recovery} {ready : Int → State → Prop} {failed : Int → Error → State → Prop}
  {returns : Value → State → Prop} {raises : Error → State → Prop} {retry : Retry}
  {clock : Clock State} {errors : Retry.LoopErrors Error}

/-- The last try has failed, and no other one is made. -/
def GaveUp (recovery : Recovery Error State Value) (retry : Retry)
    (failed : Int → Error → State → Prop) (error : Error) (state : State) : Prop :=
  recovery.recoverable error = true ∧ ∃ (frame : Retry.Frame) (number : Int),
    frame.Reached retry number ∧ retry.Allows number ∧ frame.attempt.AtLimit ∧
      failed number error state

theorem turn_keeps (steps : recovery.Steps retry ready failed returns raises) :
    Retry.KeepsGuarded retry (recovery.turn errors)
      (fun number _ state => retry.Allows number ∧ ready number state) returns
      (fun error state => raises error state ∨ recovery.GaveUp retry failed error state) := by
  rintro frame number locals reached state ⟨allowed, holds⟩
  refine Effect.ensures_bind _ (Effect.ensures_attempt
    (steps.attempt number frame.attempt allowed)) (fun result => ?_) state holds
  cases result with
  | ok value => exact Effect.ensures_pure fun state tried => tried.1 value rfl
  | error error =>
      dsimp only
      split
      · rename_i recoverable
        have handled : ∀ state, ((∀ value, Except.error error = .ok value → returns value state) ∧
            ∀ other, (Except.error error : Except Error Value) = .error other →
              if recovery.recoverable other then failed number other state
              else raises other state) → failed number error state := by
          intro state tried
          have known := tried.2 error rfl
          rwa [if_pos recoverable] at known
        by_cases last : frame.attempt.AtLimit
        · rw [RetryAttempt.checkLimits_active error last]
          intro state tried result after ended
          cases ended
          refine ⟨fun _ same => (by cases same), fun other same => ?_⟩
          cases same
          exact .inr ⟨recoverable, frame, number, reached, allowed, last, handled _ tried⟩
        · rw [RetryAttempt.checkLimits_ok last]
          apply Effect.ensures_bind (fun _ state => failed number error state)
          · exact Effect.ensures_pure handled
          · intro _
            apply Effect.ensures_bind (fun _ state => ready (number + 1) state)
            · apply (steps.recover number error (Retry.Allows.next reached last)).mono
              · exact fun _ known => known
              · exact fun _ _ known => known
              · exact fun _ _ raised => .inl raised
            · exact fun _ => Effect.ensures_pure fun _ known =>
                ⟨last, Retry.Allows.next reached last, known⟩
      · rename_i fatal
        apply Effect.ensures_raise
        intro state tried
        have known := tried.2 error rfl
        rw [if_neg fatal] at known
        exact .inl known

/-- **The rule of recovery.** What each try keeps, with the recovery after it, is kept by the loop;
an error that is recovered from is raised in the last attempt only. -/
theorem run_ensures (untimed : ∀ number, Retry.Untimed clock (ready number))
    (steps : recovery.Steps retry ready failed returns raises) (turns : Nat) :
    Effect.Ensures (ready 1) (recovery.run retry clock errors turns) returns
      (fun error state => raises error state ∨ recovery.GaveUp retry failed error state) := by
  have kept : ∀ (number : Int) (_locals : Unit), Retry.Untimed clock
      (fun state => retry.Allows number ∧ ready number state) := by
    intro number _
    constructor
    · exact fun state holds => ⟨holds.1, (untimed number).time state holds.2⟩
    · exact fun seconds state holds => ⟨holds.1, (untimed number).sleep seconds state holds.2⟩
  intro state holds
  apply Retry.loop_ensures_guarded kept (turn_keeps steps) turns () state
  exact ⟨fun count _ => le_max_left 1 count, holds⟩

end Recovery

end Recovery

end Tobiko.Common
