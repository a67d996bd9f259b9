import Tobiko.Foundation.Effect

/-!
Contract: sequences of calls on one object.

Owns: the states that such sequences lead to, whatever each call raises, and the rule that what
each call keeps is kept by all of them.
-/

namespace Tobiko.Foundation

namespace Effect

variable {Call Error State : Type}

/-- The state after calls one after the other, unless one of them does not end. -/
def runCalls (effect : Call → Effect Error State Unit) : List Call → State → Option State
  | [], state => some state
  | call :: calls, state =>
      match effect call state with
      | none => none
      | some (_, after) => runCalls effect calls after

/-- What holds after each call, however it ends, holds after all of them. -/
theorem runCalls_kept {effect : Call → Effect Error State Unit} {holds : State → Prop}
    (kept : ∀ call, Ensures holds (effect call) (fun _ => holds) fun _ => holds)
    (calls : List Call) {state after : State} (start : holds state)
    (ran : runCalls effect calls state = some after) : holds after := by
  induction calls generalizing state with
  | nil =>
      cases ran
      exact start
  | cons call calls inductionHypothesis =>
      unfold runCalls at ran
      split at ran
      · cases ran
      · rename_i result middle called
        obtain ⟨returns, raises⟩ := kept call state start result middle called
        apply inductionHypothesis _ ran
        cases result with
        | ok value => exact returns value rfl
        | error error => exact raises error rfl

end Effect

end Tobiko.Foundation
