import Mathlib.Data.List.TakeWhile
import Tobiko.Foundation.ClassHierarchy

/-!
Contract: method resolution orders of Python classes, and where `super()` looks in them.

Owns: the orders of the classes of a hierarchy, the classes after one of them, and what is
after which class.

Does not own: the attributes that are looked up.
-/

namespace Tobiko.Foundation

variable {Cls : Type}

/-- The `__mro__` of each class. It keeps the order of every class in it. -/
structure Linearization (Cls : Type) where
  mro : Cls → List Cls
  head : ∀ cls, ∃ bases, mro cls = cls :: bases
  nodup : ∀ cls, (mro cls).Nodup
  sublist : ∀ cls other, other ∈ mro cls → (mro other).Sublist (mro cls)

section After

variable [DecidableEq Cls] {cls other : Cls} {mro before rest : List Cls}

/-- Where `super(cls, self)` looks, for an instance of a class with the given order. -/
def classesAfter (cls : Cls) (mro : List Cls) : List Cls :=
  (mro.dropWhile fun other => other ≠ cls).tail

theorem classesAfter_append (absent : cls ∉ before) :
    classesAfter cls (before ++ cls :: rest) = rest := by
  unfold classesAfter
  rw [List.dropWhile_append_of_pos]
  · simp
  · intro other member
    simp only [ne_eq, decide_not, Bool.not_eq_eq_eq_not, Bool.not_true, decide_eq_false_iff_not]
    rintro rfl
    exact absent member

theorem exists_classesAfter (member : cls ∈ mro) :
    ∃ before, cls ∉ before ∧ mro = before ++ cls :: classesAfter cls mro := by
  obtain ⟨before, rest, rfl, absent⟩ := List.eq_append_cons_of_mem member
  exact ⟨before, absent, by rw [classesAfter_append absent]⟩

theorem not_mem_classesAfter (nodup : mro.Nodup) (member : cls ∈ mro) :
    cls ∉ classesAfter cls mro := by
  obtain ⟨before, -, same⟩ := exists_classesAfter member
  rw [same] at nodup
  exact (List.nodup_cons.mp (List.nodup_append.mp nodup).2.1).1

theorem mem_of_mem_classesAfter (member : other ∈ classesAfter cls mro) : other ∈ mro :=
  (List.dropWhile_sublist _).mem (List.mem_of_mem_tail member)

/-- What is after a later class is after the earlier one. -/
theorem classesAfter_subset (nodup : mro.Nodup) (later : other ∈ classesAfter cls mro) :
    classesAfter other mro ⊆ classesAfter cls mro := by
  have member : cls ∈ mro := by
    by_contra absent
    have all : mro.dropWhile (fun third => third ≠ cls) = [] := by
      rw [List.dropWhile_eq_nil_iff]
      intro third inside
      refine decide_eq_true fun same => ?_
      rw [same] at inside
      exact absent inside
    unfold classesAfter at later
    rw [all] at later
    cases later
  obtain ⟨before, -, same⟩ := exists_classesAfter member
  obtain ⟨between, rest, split, absent⟩ := List.eq_append_cons_of_mem later
  rw [split] at same
  have whole : mro = (before ++ cls :: between) ++ other :: rest := by
    rw [same, List.append_assoc, List.cons_append]
  have absentBefore : other ∉ before ++ cls :: between := by
    intro early
    rw [whole] at nodup
    exact (List.nodup_append.mp nodup).2.2 other early other List.mem_cons_self rfl
  have after : classesAfter other mro = rest := by
    rw [whole]
    exact classesAfter_append absentBefore
  rw [after, split]
  exact fun third inside => List.mem_append_right _ (List.mem_cons_of_mem _ inside)

/-- What is in the order of a class is the class, or after it in the order of another. -/
theorem Linearization.eq_or_mem_classesAfter (order : Linearization Cls) {derived third : Cls}
    (member : other ∈ order.mro derived) (base : third ∈ order.mro other) :
    third = other ∨ third ∈ classesAfter other (order.mro derived) := by
  obtain ⟨before, absent, same⟩ := exists_classesAfter member
  obtain ⟨bases, own⟩ := order.head other
  have sublist := order.sublist derived other member
  rw [own] at sublist base
  rw [same] at sublist
  obtain ⟨early, late, split, inBefore, inRest⟩ := List.sublist_append_iff.mp sublist
  have noneEarly : early = [] := by
    cases early with
    | nil => rfl
    | cons first others =>
        obtain ⟨rfl, -⟩ := List.cons.inj split
        exact absurd (inBefore.mem List.mem_cons_self) absent
  rw [noneEarly, List.nil_append] at split
  rw [← split] at inRest
  exact (List.mem_cons.mp base).imp_right fun inside =>
    (List.cons_sublist_cons.mp inRest).mem inside

end After

end Tobiko.Foundation
