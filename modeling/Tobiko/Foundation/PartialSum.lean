import Mathlib.Algebra.Free
import Mathlib.Data.List.Chain

/-!
Contract: sums that are not defined for all pairs, and how they are grouped.

Owns: sums which agree with an associative total where every mark is set on one side, the
evaluation of a grouping, and when all groupings of a list have one and the same result.

Does not own: what the marks are, and where a sum is not defined because of its result.
-/

namespace Tobiko.Foundation

/-- A sum that is defined where each mark is set on one of the two sides; the mark is then set in
the sum. -/
structure PartialSum (Value Error Mark : Type) where
  sum : Value → Value → Except Error Value
  total : Value → Value → Value
  Has : Mark → Value → Prop
  total_assoc : ∀ first second third,
    total (total first second) third = total first (total second third)
  has_total : ∀ mark left right, Has mark (total left right) ↔ Has mark left ∨ Has mark right
  sum_eq : ∀ left right, (∀ mark, Has mark left ∨ Has mark right) →
    sum left right = .ok (total left right)
  has_of_sum : ∀ left right value, sum left right = .ok value →
    ∀ mark, Has mark left ∨ Has mark right

namespace PartialSum

variable {Value Error Mark : Type}

/-- The values of a grouping, from left to right. -/
def leaves : FreeAddMagma Value → List Value
  | .of value => [value]
  | .add left right => leaves left ++ leaves right

def evaluate (sum : Value → Value → Except Error Value) :
    FreeAddMagma Value → Except Error Value
  | .of value => .ok value
  | .add left right => do sum (← evaluate sum left) (← evaluate sum right)

/-- All groupings of the values have the same result. -/
def OneResult (sum : Value → Value → Except Error Value) (values : List Value) : Prop :=
  ∃ result, ∀ grouping, leaves grouping = values → evaluate sum grouping = .ok result

variable (partialSum : PartialSum Value Error Mark)

def Joins (left right : Value) : Prop :=
  ∀ mark, partialSum.Has mark left ∨ partialSum.Has mark right

/-- The total of a list that begins with `first`. -/
def totalFrom (first : Value) : List Value → Value
  | [] => first
  | next :: rest => totalFrom (partialSum.total first next) rest

/-! ### The result of a grouping -/

theorem totalFrom_total (first next : Value) (rest : List Value) :
    partialSum.totalFrom (partialSum.total first next) rest =
      partialSum.total first (partialSum.totalFrom next rest) := by
  induction rest generalizing next with
  | nil => rfl
  | cons other rest inductionHypothesis =>
      rw [totalFrom, partialSum.total_assoc, inductionHypothesis, totalFrom]

theorem totalFrom_append (first next : Value) (left right : List Value) :
    partialSum.totalFrom first (left ++ next :: right) =
      partialSum.total (partialSum.totalFrom first left) (partialSum.totalFrom next right) := by
  induction left generalizing first with
  | nil => exact partialSum.totalFrom_total first next right
  | cons other left inductionHypothesis => exact inductionHypothesis _

theorem has_totalFrom (mark : Mark) (first : Value) (rest : List Value) :
    partialSum.Has mark (partialSum.totalFrom first rest) ↔
      ∃ value ∈ first :: rest, partialSum.Has mark value := by
  induction rest generalizing first with
  | nil => simp [totalFrom]
  | cons next rest inductionHypothesis =>
      rw [totalFrom, inductionHypothesis, List.exists_mem_cons_iff, partialSum.has_total,
        List.exists_mem_cons_iff, List.exists_mem_cons_iff, or_assoc]

theorem leaves_eq_cons (grouping : FreeAddMagma Value) :
    ∃ first rest, leaves grouping = first :: rest := by
  induction grouping using FreeAddMagma.rec with
  | of value => exact ⟨value, [], rfl⟩
  | add left right leftLeaves rightLeaves =>
      obtain ⟨first, rest, shape⟩ := leftLeaves
      exact ⟨first, rest ++ leaves right, by rw [leaves, shape, List.cons_append]⟩

/-- The induction is on the grouping: the values at the border of its two sides are neighbours in
the list. -/
theorem evaluate_eq_total {grouping : FreeAddMagma Value} {first : Value} {rest : List Value}
    (shape : leaves grouping = first :: rest)
    (joined : (first :: rest).IsChain partialSum.Joins) :
    evaluate partialSum.sum grouping = .ok (partialSum.totalFrom first rest) := by
  induction grouping using FreeAddMagma.rec generalizing first rest with
  | of value =>
      obtain ⟨rfl, rfl⟩ := List.cons.inj shape
      rfl
  | add left right leftResult rightResult =>
      obtain ⟨leftFirst, leftRest, leftShape⟩ := leaves_eq_cons left
      obtain ⟨rightFirst, rightRest, rightShape⟩ := leaves_eq_cons right
      rw [leaves, leftShape, rightShape, List.cons_append] at shape
      rw [← shape, ← List.cons_append] at joined
      obtain ⟨rfl, rfl⟩ := List.cons.inj shape
      have border : partialSum.Joins (partialSum.totalFrom leftFirst leftRest)
          (partialSum.totalFrom rightFirst rightRest) := by
        intro mark
        rw [has_totalFrom, has_totalFrom]
        rcases joined.rel_getLast_head_of_append (List.cons_ne_nil _ _) (List.cons_ne_nil _ _) mark
          with onLeft | onRight
        · exact .inl ⟨_, List.getLast_mem _, onLeft⟩
        · exact .inr ⟨_, List.head_mem _, onRight⟩
      rw [evaluate, leftResult leftShape joined.left_of_append,
        rightResult rightShape joined.right_of_append, totalFrom_append]
      exact partialSum.sum_eq _ _ border

/-! ### Groupings around two neighbours -/

def surround (before : List Value) (inner : FreeAddMagma Value) (after : List Value) :
    FreeAddMagma Value :=
  before.foldr (fun value grouping => .add (.of value) grouping)
    (after.foldl (fun grouping value => .add grouping (.of value)) inner)

theorem leaves_surround (before : List Value) (inner : FreeAddMagma Value) (after : List Value) :
    leaves (surround before inner after) = before ++ leaves inner ++ after := by
  have inside : ∀ (after : List Value) (inner : FreeAddMagma Value),
      leaves (after.foldl (fun grouping value => .add grouping (.of value)) inner) =
        leaves inner ++ after := by
    intro after
    induction after with
    | nil => intro inner; exact (List.append_nil _).symm
    | cons value after inductionHypothesis =>
        intro inner
        rw [List.foldl_cons, inductionHypothesis, leaves, leaves, List.append_assoc]
        rfl
  induction before with
  | nil => exact inside after inner
  | cons value before inductionHypothesis =>
      rw [surround, List.foldr_cons, leaves]
      rw [surround] at inductionHypothesis
      rw [inductionHypothesis]
      rfl

theorem evaluate_add {sum : Value → Value → Except Error Value} {left right : FreeAddMagma Value}
    {result : Value} (evaluated : evaluate sum (.add left right) = .ok result) :
    ∃ leftResult rightResult, evaluate sum left = .ok leftResult ∧
      evaluate sum right = .ok rightResult ∧ sum leftResult rightResult = .ok result := by
  rw [evaluate] at evaluated
  cases leftEnd : evaluate sum left with
  | error error =>
      rw [leftEnd] at evaluated
      cases evaluated
  | ok leftResult =>
      cases rightEnd : evaluate sum right with
      | error error =>
          rw [leftEnd, rightEnd] at evaluated
          cases evaluated
      | ok rightResult =>
          rw [leftEnd, rightEnd] at evaluated
          exact ⟨leftResult, rightResult, rfl, rfl, evaluated⟩

/-- What is surrounded is evaluated as well. -/
theorem evaluate_of_surround {sum : Value → Value → Except Error Value} {before after : List Value}
    {inner : FreeAddMagma Value} {result : Value}
    (evaluated : evaluate sum (surround before inner after) = .ok result) :
    ∃ innerResult, evaluate sum inner = .ok innerResult := by
  have inside : ∀ (after : List Value) (inner : FreeAddMagma Value) (result : Value),
      evaluate sum (after.foldl (fun grouping value => .add grouping (.of value)) inner) =
        .ok result → ∃ innerResult, evaluate sum inner = .ok innerResult := by
    intro after
    induction after with
    | nil => intro inner result evaluated; exact ⟨result, evaluated⟩
    | cons value after inductionHypothesis =>
        intro inner result evaluated
        obtain ⟨middle, ends⟩ := inductionHypothesis _ result evaluated
        obtain ⟨innerResult, -, innerEnd, -⟩ := evaluate_add ends
        exact ⟨innerResult, innerEnd⟩
  induction before generalizing result with
  | nil => exact inside after inner result evaluated
  | cons value before inductionHypothesis =>
      obtain ⟨-, rightResult, -, rightEnd, -⟩ := evaluate_add evaluated
      exact inductionHypothesis rightEnd

/-- **All groupings have one result exactly where every two neighbours can be summed.** -/
theorem oneResult_iff (first : Value) (rest : List Value) :
    OneResult partialSum.sum (first :: rest) ↔ (first :: rest).IsChain partialSum.Joins := by
  constructor
  · rintro ⟨result, evaluates⟩
    refine (List.isChain_isInfix (first :: rest)).imp fun left right neighbours => ?_
    obtain ⟨before, after, around⟩ := neighbours
    have shape : leaves (surround before (.add (.of left) (.of right)) after) = first :: rest := by
      rw [leaves_surround]
      exact around
    obtain ⟨inner, innerEnd⟩ := evaluate_of_surround (evaluates _ shape)
    exact partialSum.has_of_sum left right inner innerEnd
  · intro joined
    exact ⟨partialSum.totalFrom first rest,
      fun grouping shape => partialSum.evaluate_eq_total shape joined⟩

end PartialSum

end Tobiko.Foundation
