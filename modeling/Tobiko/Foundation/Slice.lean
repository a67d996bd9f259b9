import Mathlib.Data.List.Basic

/-!
Contract: indices and slices of Python lists.

Owns: the positions that an index or a slice designates, the assignment to a slice and
its deletion, and which elements of a list stay.
-/

namespace Tobiko.Foundation

/-! ### Indices -/

/-- A negative index counts from the end. -/
def fromEnd (length : Nat) (index : Int) : Int := if index < 0 then index + length else index

/-- The position of `items[index]`, if there is one. -/
def itemPosition (length : Nat) (index : Int) : Option Nat :=
  if 0 ≤ fromEnd length index ∧ fromEnd length index < length then
    some (fromEnd length index).toNat
  else none

/-- The position at which `items.insert(index, item)` inserts. -/
def insertPosition (length : Nat) (index : Int) : Nat :=
  min (fromEnd length index).toNat length

theorem itemPosition_lt {length position : Nat} {index : Int}
    (designates : itemPosition length index = some position) : position < length := by
  unfold itemPosition at designates
  split at designates
  · rename_i inside
    simp only [Option.some.injEq] at designates
    omega
  · cases designates

theorem insertPosition_le (length : Nat) (index : Int) : insertPosition length index ≤ length :=
  Nat.min_le_right _ _

/-! ### Slices -/

/-- `start:stop:step` -/
structure Slice where
  start : Option Int
  stop : Option Int
  step : Option Int
deriving DecidableEq, Repr

def Slice.stride (slice : Slice) : Int := slice.step.getD 1

/-- A bound of a slice, moved into the list. -/
def adjustBound (length : Nat) (step bound : Int) : Int :=
  if fromEnd length bound < 0 then (if step < 0 then -1 else 0)
  else if length ≤ fromEnd length bound then (if step < 0 then length - 1 else length)
  else fromEnd length bound

/-- The first two values of `slice.indices(length)`. -/
def Slice.bounds (slice : Slice) (length : Nat) : Int × Int :=
  let step := slice.stride
  (match slice.start with
    | some start => adjustBound length step start
    | none => if step < 0 then length - 1 else 0,
   match slice.stop with
    | some stop => adjustBound length step stop
    | none => if step < 0 then -1 else length)

/-- `len(range(start, stop, step))`, unless it is negative. -/
def rangeCount (start stop step : Int) : Int :=
  if 0 < step then (stop - start + step - 1) / step
  else if step < 0 then (start - stop - step - 1) / (-step)
  else 0

/-- `range(start, stop, step)` -/
def rangePositions (start stop step : Int) : List Nat :=
  (List.range (rangeCount start stop step).toNat).map fun (index : Nat) =>
    (start + index * step).toNat

def Slice.positions (slice : Slice) (length : Nat) : List Nat :=
  rangePositions (slice.bounds length).1 (slice.bounds length).2 slice.stride

section Lists

variable {α : Type}

/-- The elements that a slice does not designate. -/
def Slice.kept (slice : Slice) (items : List α) : List α :=
  (items.zipIdx.filter fun pair => pair.2 ∉ slice.positions items.length).map Prod.fst

/-- `del items[slice]`, which raises for a step of zero. -/
def Slice.delete (slice : Slice) (items : List α) : Option (List α) :=
  if slice.stride = 0 then none else some (slice.kept items)

def setPositions : List (Nat × α) → List α → List α
  | [], items => items
  | (position, item) :: pairs, items => setPositions pairs (items.set position item)

/-- `items[slice] = values`. A slice with a step other than one takes as many values as
it has positions. -/
def Slice.assign (slice : Slice) (values items : List α) : Option (List α) :=
  if slice.stride = 0 then none
  else if slice.stride = 1 then
    let (start, stop) := slice.bounds items.length
    some (items.take start.toNat ++ values ++ items.drop (max start stop).toNat)
  else
    if (slice.positions items.length).length = values.length then
      some (setPositions ((slice.positions items.length).zip values) items)
    else none

theorem Slice.mem_kept {slice : Slice} {items : List α} {item : α} :
    item ∈ slice.kept items ↔
      ∃ position, position ∉ slice.positions items.length ∧ items[position]? = some item := by
  unfold Slice.kept
  constructor
  · intro member
    obtain ⟨⟨other, position⟩, filtered, rfl⟩ := List.mem_map.mp member
    obtain ⟨indexed, outside⟩ := List.mem_filter.mp filtered
    exact ⟨position, of_decide_eq_true outside, List.mem_zipIdx_iff_getElem?.mp indexed⟩
  · rintro ⟨position, outside, present⟩
    refine List.mem_map.mpr ⟨(item, position), List.mem_filter.mpr ⟨?_, ?_⟩, rfl⟩
    · exact List.mem_zipIdx_iff_getElem?.mpr present
    · exact decide_eq_true outside

theorem Slice.kept_subset (slice : Slice) (items : List α) : slice.kept items ⊆ items := by
  intro item member
  obtain ⟨position, -, present⟩ := Slice.mem_kept.mp member
  exact List.mem_of_getElem? present

theorem getElem?_setPositions {pairs : List (Nat × α)} {items : List α} {position : Nat}
    (untouched : position ∉ pairs.map Prod.fst) :
    (setPositions pairs items)[position]? = items[position]? := by
  induction pairs generalizing items with
  | nil => rfl
  | cons head tail inductionHypothesis =>
      obtain ⟨first, item⟩ := head
      simp only [List.map_cons, List.mem_cons, not_or] at untouched
      rw [setPositions, inductionHypothesis untouched.2, List.getElem?_set_ne]
      exact fun same => untouched.1 same.symm

/-- What is in a list after an assignment was assigned or was at another position. -/
theorem mem_setPositions {pairs : List (Nat × α)} {items : List α} {item : α}
    (member : item ∈ setPositions pairs items) :
    item ∈ pairs.map Prod.snd ∨
      ∃ position, position ∉ pairs.map Prod.fst ∧ items[position]? = some item := by
  induction pairs generalizing items with
  | nil =>
      obtain ⟨position, present⟩ := List.mem_iff_getElem?.mp member
      exact .inr ⟨position, List.not_mem_nil, present⟩
  | cons head tail inductionHypothesis =>
      obtain ⟨first, value⟩ := head
      rcases inductionHypothesis member with assigned | ⟨position, untouched, present⟩
      · exact .inl (List.mem_cons_of_mem _ assigned)
      · by_cases same : first = position
        · left
          subst same
          rw [List.getElem?_set_self'] at present
          obtain ⟨_, _, rfl⟩ := Option.map_eq_some_iff.mp present
          exact List.mem_cons_self
        · rw [List.getElem?_set_ne same] at present
          refine .inr ⟨position, ?_, present⟩
          simp only [List.map_cons, List.mem_cons, not_or]
          exact ⟨fun other => same other.symm, untouched⟩

theorem adjustBound_nonneg {length : Nat} {bound : Int} : 0 ≤ adjustBound length 1 bound := by
  unfold adjustBound
  split
  · simp
  · split
    · simp
    · omega

theorem Slice.start_nonneg {slice : Slice} (length : Nat) (one : slice.stride = 1) :
    0 ≤ (slice.bounds length).1 := by
  unfold Slice.bounds
  simp only [one]
  cases slice.start with
  | none => simp
  | some start => exact adjustBound_nonneg

theorem Slice.mem_positions_one {slice : Slice} {length position : Nat}
    (one : slice.stride = 1) :
    position ∈ slice.positions length ↔
      (slice.bounds length).1.toNat ≤ position ∧
        position < (max (slice.bounds length).1 (slice.bounds length).2).toNat := by
  have start := Slice.start_nonneg length one
  unfold Slice.positions rangePositions
  generalize (slice.bounds length).1 = first at *
  generalize (slice.bounds length).2 = last at *
  have count : rangeCount first last slice.stride = last - first := by
    rw [one, rangeCount, if_pos (by decide), Int.ediv_one]
    omega
  rw [count]
  simp only [one, Int.mul_one, List.mem_map, List.mem_range]
  constructor
  · rintro ⟨index, below, rfl⟩
    omega
  · rintro ⟨lower, upper⟩
    exact ⟨position - first.toNat, by omega, by omega⟩

/-- After the assignment of a slice the list has the assigned values and what is kept. -/
theorem Slice.mem_assign {slice : Slice} {values items after : List α} {item : α}
    (assigns : slice.assign values items = some after) :
    (item ∈ after → item ∈ values ∨ item ∈ slice.kept items) ∧
      (item ∈ slice.kept items → item ∈ after) := by
  unfold Slice.assign at assigns
  split at assigns
  · cases assigns
  · split at assigns
    · rename_i one
      simp only [Option.some.injEq] at assigns
      subst assigns
      simp only [List.mem_append, Slice.mem_kept, Slice.mem_positions_one one]
      have start := Slice.start_nonneg items.length one
      generalize (slice.bounds items.length).1 = first at *
      generalize (slice.bounds items.length).2 = last at *
      constructor
      · rintro ((before | assigned) | behind)
        · obtain ⟨position, present⟩ := List.mem_iff_getElem?.mp before
          rw [List.getElem?_take] at present
          split at present
          · exact .inr ⟨position, by omega, present⟩
          · cases present
        · exact .inl assigned
        · obtain ⟨position, present⟩ := List.mem_iff_getElem?.mp behind
          rw [List.getElem?_drop] at present
          exact .inr ⟨_, by omega, present⟩
      · rintro ⟨position, outside, present⟩
        by_cases before : position < first.toNat
        · refine .inl (.inl (List.mem_iff_getElem?.mpr ⟨position, ?_⟩))
          rw [List.getElem?_take, if_pos before, present]
        · refine .inr (List.mem_iff_getElem?.mpr ⟨position - (max first last).toNat, ?_⟩)
          rw [List.getElem?_drop, Nat.add_sub_cancel' (by omega), present]
    · split at assigns
      · rename_i sameLength
        cases assigns
        have first : ((slice.positions items.length).zip values).map Prod.fst =
            slice.positions items.length := List.map_fst_zip (Nat.le_of_eq sameLength)
        have second : ((slice.positions items.length).zip values).map Prod.snd = values :=
          List.map_snd_zip (Nat.le_of_eq sameLength.symm)
        constructor
        · intro member
          rcases mem_setPositions member with assigned | ⟨position, untouched, present⟩
          · rw [second] at assigned
            exact .inl assigned
          · rw [first] at untouched
            exact .inr (Slice.mem_kept.mpr ⟨position, untouched, present⟩)
        · intro member
          obtain ⟨position, outside, present⟩ := Slice.mem_kept.mp member
          rw [← first] at outside
          refine List.mem_iff_getElem?.mpr ⟨position, ?_⟩
          rw [getElem?_setPositions outside, present]
      · cases assigns

end Lists

example : (Slice.mk (some (-2)) none none).assign [7] [1, 2, 3] = some [1, 7] := by decide

example : (Slice.mk none none (some (-2))).assign [7, 8] [1, 2, 3] = some [8, 2, 7] := by decide

end Tobiko.Foundation
