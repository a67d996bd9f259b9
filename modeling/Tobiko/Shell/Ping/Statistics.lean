import Tobiko.Foundation.PartialSum
import Mathlib.Algebra.Order.Ring.Rat

/-!
Contract: the statistics of ping executions and their sum.

Owns: `PingStatistics` with its `__add__`, and exactly which statistics obey the laws of a monoid
under it.

Does not own: where the statistics come from. The truth of an address is that of the type the
addresses have.
-/

namespace Tobiko.Shell.Ping

open Tobiko.Foundation

/-- What `min()` and `max()` raise for an empty sequence, a `ValueError`. -/
inductive SumError where
  | minOfEmptySequence
  | maxOfEmptySequence
  deriving DecidableEq

structure PingStatistics (Address : Type) where
  source : Option Address := none
  destination : Option Address := none
  transmitted : ℤ := 0
  received : ℤ := 0
  undelivered : ℤ := 0
  beginInterval : Option ℚ := none
  endInterval : Option ℚ := none
  deriving DecidableEq

/-- `[i for i in bounds if i]` -/
def present (bounds : List (Option ℚ)) : List ℚ := bounds.reduceOption.filter (· ≠ 0)

def minimum (bounds : List ℚ) : Except SumError ℚ :=
  match bounds.min? with
  | some bound => .ok bound
  | none => .error .minOfEmptySequence

def maximum (bounds : List ℚ) : Except SumError ℚ :=
  match bounds.max? with
  | some bound => .ok bound
  | none => .error .maxOfEmptySequence

/-- `left or right`, of addresses that may be missing and may be false. -/
def orElse {Address : Type} (isTrue : Address → Bool) (left right : Option Address) :
    Option Address :=
  if left.any isTrue then left else right

namespace PingStatistics

variable {Address : Type} (isTrue : Address → Bool)

/-- `PingStatistics.__add__` -/
def add (self other : PingStatistics Address) : Except SumError (PingStatistics Address) := do
  let beginInterval ← minimum (present [self.beginInterval, other.beginInterval])
  let endInterval ← maximum (present [self.endInterval, other.endInterval])
  return {
    source := orElse isTrue self.source other.source
    destination := orElse isTrue self.destination other.destination
    transmitted := self.transmitted + other.transmitted
    received := self.received + other.received
    undelivered := self.undelivered + other.undelivered
    beginInterval := some beginInterval
    endInterval := some endInterval }

/-! ### The total of two statistics -/

/-- A bound that counts. -/
def truthy (bound : Option ℚ) : Option ℚ := bound.filter (· ≠ 0)

/-- The chosen one of the bounds that count, if there is one. -/
def extreme (choose : ℚ → ℚ → ℚ) (left right : Option ℚ) : Option ℚ :=
  (truthy left).merge choose (truthy right)

/-- What the sum is where it is defined, with the bounds that are there. -/
def total (self other : PingStatistics Address) : PingStatistics Address where
  source := orElse isTrue self.source other.source
  destination := orElse isTrue self.destination other.destination
  transmitted := self.transmitted + other.transmitted
  received := self.received + other.received
  undelivered := self.undelivered + other.undelivered
  beginInterval := extreme min self.beginInterval other.beginInterval
  endInterval := extreme max self.endInterval other.endInterval

theorem orElse_assoc (first second third : Option Address) :
    orElse isTrue (orElse isTrue first second) third =
      orElse isTrue first (orElse isTrue second third) := by
  unfold orElse
  by_cases firstTrue : first.any isTrue = true
  · rw [if_pos firstTrue, if_pos firstTrue, if_pos firstTrue]
  · rw [if_neg firstTrue, if_neg firstTrue]

theorem truthy_extreme {choose : ℚ → ℚ → ℚ}
    (selects : ∀ left right, choose left right = left ∨ choose left right = right)
    (left right : Option ℚ) : truthy (extreme choose left right) = extreme choose left right := by
  have stable : ∀ bound : Option ℚ, truthy (truthy bound) = truthy bound := by
    intro bound
    simp [truthy, Option.filter_filter]
  rcases Option.merge_eq_or_eq selects (truthy left) (truthy right) with same | same
  · rw [extreme, same, stable]
  · rw [extreme, same, stable]

theorem extreme_assoc {choose : ℚ → ℚ → ℚ} [associative : Std.Associative choose]
    (selects : ∀ left right, choose left right = left ∨ choose left right = right)
    (first second third : Option ℚ) :
    extreme choose (extreme choose first second) third =
      extreme choose first (extreme choose second third) := by
  rw [extreme, truthy_extreme selects, extreme, extreme, truthy_extreme selects, extreme]
  exact (Option.associative_merge choose).assoc _ _ _

theorem total_assoc (first second third : PingStatistics Address) :
    total isTrue (total isTrue first second) third =
      total isTrue first (total isTrue second third) := by
  simp only [total, orElse_assoc, add_assoc, extreme_assoc min_choice, extreme_assoc max_choice]

theorem present_pair (left right : Option ℚ) :
    present [left, right] = (truthy left).toList ++ (truthy right).toList := by
  have reduced : [left, right].reduceOption = left.toList ++ right.toList := by
    cases left <;> cases right <;> rfl
  rw [present, reduced, List.filter_append, truthy, truthy, Option.toList_filter,
    Option.toList_filter]

theorem min?_present (left right : Option ℚ) :
    (present [left, right]).min? = extreme min left right := by
  rw [present_pair, extreme]
  cases truthy left <;> cases truthy right <;> simp

theorem max?_present (left right : Option ℚ) :
    (present [left, right]).max? = extreme max left right := by
  rw [present_pair, extreme]
  cases truthy left <;> cases truthy right <;> simp

/-! ### Where the sum is defined -/

inductive IntervalBound where
  | opening
  | closing
  deriving DecidableEq

def bound (self : PingStatistics Address) : IntervalBound → Option ℚ
  | .opening => self.beginInterval
  | .closing => self.endInterval

/-- A bound that is there and is not zero. -/
def Counts (bound : Option ℚ) : Prop := (truthy bound).isSome = true

instance (bound : Option ℚ) : Decidable (Counts bound) := inferInstanceAs (Decidable (_ = _))

theorem isSome_extreme {choose : ℚ → ℚ → ℚ} (left right : Option ℚ) :
    (extreme choose left right).isSome = true ↔ Counts left ∨ Counts right := by
  rw [extreme, Option.isSome_merge, Bool.or_eq_true]
  rfl

theorem counts_extreme {choose : ℚ → ℚ → ℚ}
    (selects : ∀ left right, choose left right = left ∨ choose left right = right)
    (left right : Option ℚ) :
    Counts (extreme choose left right) ↔ Counts left ∨ Counts right := by
  rw [Counts, truthy_extreme selects, isSome_extreme]

/-- `add` with the bounds of the total, where both of them are there. -/
theorem add_eq (self other : PingStatistics Address) :
    add isTrue self other =
      match (total isTrue self other).beginInterval, (total isTrue self other).endInterval with
      | none, _ => .error .minOfEmptySequence
      | some _, none => .error .maxOfEmptySequence
      | some _, some _ => .ok (total isTrue self other) := by
  unfold add minimum maximum
  rw [min?_present, max?_present]
  simp only [total]
  cases extreme min self.beginInterval other.beginInterval with
  | none => rfl
  | some beginInterval =>
      cases extreme max self.endInterval other.endInterval with
      | none => rfl
      | some endInterval => rfl

theorem add_eq_total {self other : PingStatistics Address}
    (joins : ∀ mark, Counts (self.bound mark) ∨ Counts (other.bound mark)) :
    add isTrue self other = .ok (total isTrue self other) := by
  obtain ⟨beginInterval, opening⟩ :=
    Option.isSome_iff_exists.mp ((@isSome_extreme min _ _).mpr (joins .opening))
  obtain ⟨endInterval, closing⟩ :=
    Option.isSome_iff_exists.mp ((@isSome_extreme max _ _).mpr (joins .closing))
  have begins : (total isTrue self other).beginInterval = some beginInterval := opening
  have ends : (total isTrue self other).endInterval = some endInterval := closing
  rw [add_eq, begins, ends]

theorem counts_of_add {self other result : PingStatistics Address}
    (added : add isTrue self other = .ok result) (mark : IntervalBound) :
    Counts (self.bound mark) ∨ Counts (other.bound mark) := by
  rw [add_eq] at added
  split at added
  · cases added
  · cases added
  · rename_i beginInterval endInterval begins ends
    cases mark with
    | opening => exact (@isSome_extreme min _ _).mp (Option.isSome_of_eq_some begins)
    | closing => exact (@isSome_extreme max _ _).mp (Option.isSome_of_eq_some ends)

theorem eq_total_of_add {self other result : PingStatistics Address}
    (added : add isTrue self other = .ok result) : result = total isTrue self other := by
  rw [add_eq_total isTrue (counts_of_add isTrue added)] at added
  exact (Except.ok.inj added).symm

/-- The sum of statistics, with the bounds that have to count on one side. -/
def partialSum : PartialSum (PingStatistics Address) SumError IntervalBound where
  sum := add isTrue
  total := total isTrue
  Has mark self := Counts (self.bound mark)
  total_assoc := total_assoc isTrue
  has_total mark left right := by
    cases mark with
    | opening => exact counts_extreme min_choice _ _
    | closing => exact counts_extreme max_choice _ _
  sum_eq left right joins := add_eq_total isTrue joins
  has_of_sum left right value added := counts_of_add isTrue added

/-! ### The laws of a monoid -/

structure MonoidLaws (first second third : PingStatistics Address) : Prop where
  defined : ∃ result, add isTrue first second = .ok result
  counters : ∀ result, add isTrue first second = .ok result →
    result.transmitted = first.transmitted + second.transmitted ∧
      result.received = first.received + second.received ∧
      result.undelivered = first.undelivered + second.undelivered
  assoc : ∃ result, (add isTrue first second >>= fun both => add isTrue both third) = .ok result ∧
    (add isTrue second third >>= fun both => add isTrue first both) = .ok result
  left_identity : add isTrue {} first = .ok first
  right_identity : add isTrue first {} = .ok first

/-- An address that is not lost as a false one. -/
def Kept (address : Option Address) : Prop := ∀ value, address = some value → isTrue value = true

/-- Statistics with both bounds, and with addresses that are kept. -/
structure Complete (statistics : PingStatistics Address) : Prop where
  counts : ∀ mark, Counts (statistics.bound mark)
  source : Kept isTrue statistics.source
  destination : Kept isTrue statistics.destination

theorem truthy_of_counts {bound : Option ℚ} (counts : Counts bound) : truthy bound = bound := by
  obtain ⟨value, kept⟩ := Option.isSome_iff_exists.mp counts
  rw [kept]
  exact (Option.filter_eq_some_iff.mp kept).1.symm

theorem orElse_none_iff (address : Option Address) :
    orElse isTrue address none = address ↔ Kept isTrue address := by
  cases address with
  | none => exact ⟨fun _ => nofun, fun _ => rfl⟩
  | some value =>
      have choice : orElse isTrue (some value) none = if isTrue value then some value else none :=
        rfl
      have kept : Kept isTrue (some value) ↔ isTrue value = true :=
        ⟨fun kept => kept value rfl, fun isKept other same => Option.some.inj same ▸ isKept⟩
      rw [choice, kept]
      by_cases isKept : isTrue value = true
      · rw [if_pos isKept]
        exact ⟨fun _ => isKept, fun _ => rfl⟩
      · rw [if_neg isKept]
        exact ⟨nofun, fun impossible => absurd impossible isKept⟩

theorem total_default_left {statistics : PingStatistics Address}
    (counts : ∀ mark, Counts (statistics.bound mark)) :
    total isTrue {} statistics = statistics := by
  have opening : truthy statistics.beginInterval = statistics.beginInterval :=
    truthy_of_counts (counts .opening)
  have closing : truthy statistics.endInterval = statistics.endInterval :=
    truthy_of_counts (counts .closing)
  have first : ∀ address : Option Address, orElse isTrue none address = address := fun _ => rfl
  have neutral : truthy none = none := rfl
  simp only [total, extreme, neutral, Option.merge_none_left, opening, closing, zero_add, first]

theorem total_default_right {statistics : PingStatistics Address}
    (complete : Complete isTrue statistics) : total isTrue statistics {} = statistics := by
  have opening : truthy statistics.beginInterval = statistics.beginInterval :=
    truthy_of_counts (complete.counts .opening)
  have closing : truthy statistics.endInterval = statistics.endInterval :=
    truthy_of_counts (complete.counts .closing)
  have source := (orElse_none_iff isTrue _).mpr complete.source
  have destination := (orElse_none_iff isTrue _).mpr complete.destination
  have neutral : truthy none = none := rfl
  simp only [total, extreme, neutral, Option.merge_none_right, opening, closing, add_zero, source,
    destination]

/-- The sum with the neutral statistics needs what the other side alone has. -/
theorem add_default_iff (self : PingStatistics Address) :
    (add isTrue {} self = .ok self ∧ add isTrue self {} = .ok self) ↔ Complete isTrue self := by
  constructor
  · rintro ⟨left, right⟩
    have same := eq_total_of_add isTrue right
    refine ⟨fun mark => ?_, ?_, ?_⟩
    · rcases counts_of_add isTrue left mark with neutral | counts
      · cases mark <;> cases neutral
      · exact counts
    · exact (orElse_none_iff isTrue _).mp (congrArg source same).symm
    · exact (orElse_none_iff isTrue _).mp (congrArg destination same).symm
  · intro complete
    constructor
    · rw [add_eq_total isTrue fun mark => .inr (complete.counts mark),
        total_default_left isTrue complete.counts]
    · rw [add_eq_total isTrue fun mark => .inl (complete.counts mark),
        total_default_right isTrue complete]

theorem monoidLaws_iff (first second third : PingStatistics Address) :
    MonoidLaws isTrue first second third ↔
      Complete isTrue first ∧
        ∀ mark, Counts (second.bound mark) ∨ Counts (third.bound mark) := by
  constructor
  · intro laws
    refine ⟨(add_default_iff isTrue first).mp ⟨laws.left_identity, laws.right_identity⟩, ?_⟩
    obtain ⟨result, -, right⟩ := laws.assoc
    cases added : add isTrue second third with
    | error error =>
        rw [added] at right
        cases right
    | ok both => exact counts_of_add isTrue added
  · rintro ⟨complete, joins⟩
    obtain ⟨left, right⟩ := (add_default_iff isTrue first).mpr complete
    have firstCounts : ∀ mark other, Counts (first.bound mark) ∨ Counts other :=
      fun mark other => .inl (complete.counts mark)
    have added : ∀ other, add isTrue first other = .ok (total isTrue first other) :=
      fun other => add_eq_total isTrue fun mark => firstCounts mark _
    refine ⟨⟨_, added second⟩, ?_, ?_, left, right⟩
    · intro result sum
      rw [added second] at sum
      cases sum
      exact ⟨rfl, rfl, rfl⟩
    · refine ⟨total isTrue first (total isTrue second third), ?_, ?_⟩
      · rw [added second, ← total_assoc]
        refine add_eq_total isTrue fun mark => .inl ?_
        exact ((partialSum isTrue).has_total mark first second).mpr (.inl (complete.counts mark))
      · rw [add_eq_total isTrue joins]
        exact added _

/-- **The laws of a monoid hold of three statistics exactly where the first ones are complete and
the other two have each bound on one side; all groupings of a list have one result exactly where
its neighbours have each bound on one side.** -/
theorem add_laws_iff :
    (∀ first second third : PingStatistics Address,
      MonoidLaws isTrue first second third ↔
        Complete isTrue first ∧
          ∀ mark, Counts (second.bound mark) ∨ Counts (third.bound mark)) ∧
    ∀ (first : PingStatistics Address) (rest : List (PingStatistics Address)),
      PartialSum.OneResult (add isTrue) (first :: rest) ↔
        (first :: rest).IsChain fun left right =>
          ∀ mark, Counts (left.bound mark) ∨ Counts (right.bound mark) :=
  ⟨monoidLaws_iff isTrue, (partialSum isTrue).oneResult_iff⟩

/-- The statistics without bounds have no sum, so that they obey none of the laws. -/
theorem add_default_default : ¬∀ first second third : PingStatistics Bool,
    MonoidLaws id first second third := by
  intro claimed
  obtain ⟨result, added⟩ := (claimed {} {} {}).defined
  cases added

end PingStatistics

end Tobiko.Shell.Ping
