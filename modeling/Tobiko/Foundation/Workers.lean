import Mathlib.Logic.Function.Basic
import Mathlib.Logic.Relation

/-!
Contract: named workers that take steps on something they share, one at a time.

Owns: the runs in which the steps of all the workers are interleaved, with the
history of what they showed, the rule for what holds in every reached state
(`Reachable.invariant`), and the rule for what holds of each entry of the history
and the entries before it (`Reachable.inOrder`).

Does not own: what one worker does in a step, and which steps are allowed.
-/

namespace Tobiko.Foundation.Workers

open Relation

variable {Name Event Local Shared : Type}

/-- What every worker showed, the last step first. -/
abbrev History (Name Event : Type) := List (Name × Event)

/-- All the workers, what they share, and what they did. -/
structure State (Name Event Local Shared : Type) where
  workers : Name → Local
  shared : Shared
  history : History Name Event

/-- What a step of one worker shows, and the worker and the shared part before and after it. -/
abbrev LocalStep (Event Local Shared : Type) :=
  Event → Local × Shared → Local × Shared → Prop

def State.start (workers : Name → Local) (shared : Shared) : State Name Event Local Shared :=
  ⟨workers, shared, []⟩

/-- Each entry of the history is fine after the entries before it. -/
def InOrder (fine : History Name Event → Name → Event → Prop)
    (history : History Name Event) : Prop :=
  ∀ name event before, (name, event) :: before <:+ history → fine before name event

section InOrder

variable {fine : History Name Event → Name → Event → Prop} {history : History Name Event}
  {name : Name} {event : Event}

theorem InOrder.nil : InOrder fine [] := by
  intro name event before reached
  simp at reached

theorem InOrder.cons (ordered : InOrder fine history) (last : fine history name event) :
    InOrder fine ((name, event) :: history) := by
  intro other earlierEvent before reached
  rcases List.suffix_cons_iff.mp reached with now | earlier
  · obtain ⟨⟨rfl, rfl⟩, rfl⟩ := by
      simpa only [List.cons.injEq, Prod.mk.injEq] using now
    exact last
  · exact ordered other earlierEvent before earlier

end InOrder

variable [DecidableEq Name]

/-- The state after a step of one worker. -/
def State.moved (state : State Name Event Local Shared) (name : Name) (event : Event)
    (worker : Local) (shared : Shared) : State Name Event Local Shared :=
  ⟨Function.update state.workers name worker, shared, (name, event) :: state.history⟩

/-- One step of the named worker. -/
inductive StepBy (step : LocalStep Event Local Shared) (name : Name) (event : Event) :
    State Name Event Local Shared → State Name Event Local Shared → Prop
  | step (state worker shared)
      (local_ : step event (state.workers name, state.shared) (worker, shared)) :
      StepBy step name event state (state.moved name event worker shared)

/-- The states of the runs all whose steps are allowed. -/
def Reachable (step : LocalStep Event Local Shared)
    (allowed : State Name Event Local Shared → Name → Event → Prop)
    (start state : State Name Event Local Shared) : Prop :=
  ReflTransGen (fun before after => ∃ name event, allowed before name event ∧
    StepBy step name event before after) start state

section Moved

variable {state : State Name Event Local Shared} {name other : Name} {event : Event}
  {worker : Local} {shared : Shared}

@[simp] theorem moved_self : (state.moved name event worker shared).workers name = worker := by
  simp [State.moved]

@[simp] theorem moved_other (different : other ≠ name) :
    (state.moved name event worker shared).workers other = state.workers other := by
  simp [State.moved, different]

/-- What a step establishes of its worker and leaves of the others holds of all of them. -/
theorem forall_moved (holds : Name → Local → Prop) (mover : holds name worker)
    (others : ∀ other, other ≠ name → holds other (state.workers other)) (other : Name) :
    holds other ((state.moved name event worker shared).workers other) := by
  by_cases same : other = name
  · subst same
    rw [moved_self]
    exact mover
  · rw [moved_other same]
    exact others other same

end Moved

section Runs

variable {step : LocalStep Event Local Shared}
  {allowed : State Name Event Local Shared → Name → Event → Prop}
  {start state : State Name Event Local Shared}

theorem Reachable.next (reachable : Reachable step allowed start state) (name : Name)
    {event : Event} {worker : Local} {shared : Shared}
    (moves : step event (state.workers name, state.shared) (worker, shared))
    (allows : allowed state name event) :
    Reachable step allowed start (state.moved name event worker shared) :=
  reachable.tail ⟨name, event, allows, .step _ _ _ moves⟩

/-- What holds at the start and is kept by every allowed step holds in every reached state. -/
theorem Reachable.invariant {holds : State Name Event Local Shared → Prop}
    (reachable : Reachable step allowed start state) (starts : holds start)
    (keeps : ∀ state name event worker shared, holds state → allowed state name event →
      step event (state.workers name, state.shared) (worker, shared) →
      holds (state.moved name event worker shared)) : holds state := by
  induction reachable with
  | refl => exact starts
  | tail _ last inductionHypothesis =>
      obtain ⟨name, event, allows, moves⟩ := last
      cases moves with
      | step worker shared moves =>
          exact keeps _ name event worker shared inductionHypothesis allows moves

/-- When every allowed step from a state with the invariant is fine after the history of the
state, the history of every reached state is in order. -/
theorem Reachable.inOrder {holds : State Name Event Local Shared → Prop}
    {fine : History Name Event → Name → Event → Prop}
    (reachable : Reachable step allowed start state) (begins : start.history = [])
    (invariant : ∀ state, Reachable step allowed start state → holds state)
    (keeps : ∀ state name event worker shared, holds state → allowed state name event →
      step event (state.workers name, state.shared) (worker, shared) →
      fine state.history name event) : InOrder fine state.history := by
  induction reachable with
  | refl => exact begins ▸ InOrder.nil
  | tail earlier last inductionHypothesis =>
      obtain ⟨name, event, allows, moves⟩ := last
      cases moves with
      | step worker shared moves =>
          exact inductionHypothesis.cons
            (keeps _ name event worker shared (invariant _ earlier) allows moves)

end Runs

end Tobiko.Foundation.Workers
