import Mathlib.Data.List.DropRight

/-!
Contract: the maximal runs of chosen items in a list.

Owns: what a maximal run is, the run at the end of a list, and how the maximal runs change when an
item is put behind the list.

Does not own: what the items are, and what is measured on a run.
-/

namespace Tobiko.Foundation

variable {Item : Type}

/-- Consecutive items that are chosen, between items that are not or the ends of the list. -/
structure MaximalRun (chosen : Item → Bool) (items before run after : List Item) : Prop where
  split : items = before ++ run ++ after
  nonempty : run ≠ []
  all : ∀ item ∈ run, chosen item = true
  before : ∀ item, before.getLast? = some item → chosen item = false
  after : ∀ item, after.head? = some item → chosen item = false

namespace MaximalRun

variable {chosen : Item → Bool} {items before run after : List Item} {item : Item}

theorem rtakeWhile_append (all : ∀ item ∈ run, chosen item = true) :
    (before ++ run).rtakeWhile chosen = before.rtakeWhile chosen ++ run := by
  unfold List.rtakeWhile
  rw [List.reverse_append, List.takeWhile_append_of_pos fun item member =>
    all item (List.mem_reverse.mp member)]
  rw [List.reverse_append, List.reverse_reverse]

/-- The run that no item follows is the one at the end. -/
theorem eq_trailing (maximal : MaximalRun chosen items before run []) :
    run = items.rtakeWhile chosen := by
  have noneBefore : before.rtakeWhile chosen = [] := by
    rw [List.rtakeWhile_eq_nil_iff]
    intro nonempty isChosen
    have notChosen := maximal.before _ (List.getLast?_eq_some_getLast nonempty)
    rw [isChosen] at notChosen
    cases notChosen
  rw [maximal.split, List.append_nil, rtakeWhile_append maximal.all, noneBefore, List.nil_append]

theorem trailing (nonempty : items.rtakeWhile chosen ≠ []) :
    MaximalRun chosen items (items.rdropWhile chosen) (items.rtakeWhile chosen) [] where
  split := by rw [List.append_nil, List.rdropWhile_append_rtakeWhile]
  nonempty := nonempty
  all := fun _ member => List.mem_rtakeWhile_imp member
  before := by
    intro item last
    have someItem : items.rdropWhile chosen ≠ [] := by
      intro none_
      rw [none_] at last
      cases last
    have notChosen := List.rdropWhile_last_not chosen items someItem
    rw [List.getLast?_eq_some_getLast someItem] at last
    cases last
    exact Bool.eq_false_iff.mpr notChosen
  after := by
    intro item first
    cases first

/-- A run stays maximal behind which there is an item that is not chosen. -/
theorem concat (maximal : MaximalRun chosen items before run after)
    (ended : after ≠ [] ∨ chosen item = false) :
    MaximalRun chosen (items ++ [item]) before run (after ++ [item]) where
  split := by rw [maximal.split, List.append_assoc _ after]
  nonempty := maximal.nonempty
  all := maximal.all
  before := maximal.before
  after := by
    intro first isFirst
    cases after with
    | nil =>
        cases isFirst
        exact ended.resolve_left fun nonempty => nonempty rfl
    | cons next after => exact maximal.after first isFirst

/-- A maximal run of the longer list is the one at its end, or it was there before. -/
theorem of_concat (maximal : MaximalRun chosen (items ++ [item]) before run after) :
    (after = [] ∧ chosen item = true) ∨
      ∃ earlier, after = earlier ++ [item] ∧ MaximalRun chosen items before run earlier ∧
        (chosen item = true → earlier ≠ []) := by
  have split := maximal.split
  rcases List.eq_nil_or_concat' after with rfl | ⟨earlier, last, rfl⟩
  · refine .inl ⟨rfl, maximal.all item ?_⟩
    rcases List.eq_nil_or_concat' run with rfl | ⟨front, last, rfl⟩
    · exact absurd rfl maximal.nonempty
    · rw [List.append_nil, ← List.append_assoc] at split
      obtain ⟨-, sameLast⟩ := List.append_inj' split rfl
      cases sameLast
      exact List.mem_append_right _ (List.mem_singleton_self _)
  · rw [← List.append_assoc] at split
    obtain ⟨sameItems, sameLast⟩ := List.append_inj' split rfl
    cases sameLast
    refine .inr ⟨earlier, rfl, ⟨sameItems, maximal.nonempty, maximal.all, maximal.before,
      fun first isFirst => maximal.after first ?_⟩, ?_⟩
    · rw [List.head?_append, isFirst]
      rfl
    · rintro isChosen rfl
      have notChosen := maximal.after item rfl
      rw [isChosen] at notChosen
      cases notChosen

end MaximalRun

end Tobiko.Foundation
