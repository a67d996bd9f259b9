import Mathlib.Logic.Function.Basic
import Tobiko.Foundation.Dictionary

/-!
Contract: attributes of Python classes.

Owns: the inheriting lookup of an attribute along a method resolution order, what it finds after
an assignment, and the members of a class as a dictionary that is updated from the last base
class to the first one.
-/

namespace Tobiko.Foundation

section Classes

variable {Cls Name Member : Type}

/-- `getattr(cls, ...)`, for what each class has of its own. -/
def getAttribute (mro : List Cls) (own : Cls → Option Member) : Option Member :=
  mro.findSome? own

theorem getAttribute_cons {mro : List Cls} {own : Cls → Option Member} {head : Cls} :
    getAttribute (head :: mro) own = (own head).or (getAttribute mro own) := by
  unfold getAttribute
  rw [List.findSome?_cons]
  cases own head with
  | none => rfl
  | some member => rfl

theorem getAttribute_eq_none {mro : List Cls} {own : Cls → Option Member} :
    getAttribute mro own = none ↔ ∀ cls ∈ mro, own cls = none :=
  List.findSome?_eq_none_iff

section Lookup

variable [DecidableEq Cls] {mro : List Cls} {own later : Cls → Option Member} {cls : Cls}
  {member : Member}

/-- No class before `cls` has the attribute, so that the lookup finds what `cls` has. -/
def LookupReaches (mro : List Cls) (own : Cls → Option Member) (cls : Cls) : Prop :=
  mro.find? (fun other => other = cls ∨ (own other).isSome) = some cls

instance : Decidable (LookupReaches mro own cls) := inferInstanceAs (Decidable (_ = _))

theorem lookupReaches_cons {head : Cls} :
    LookupReaches (head :: mro) own cls ↔
      head = cls ∨ own head = none ∧ LookupReaches mro own cls := by
  unfold LookupReaches
  by_cases same : head = cls
  · simp [same]
  · cases present : own head with
    | none => simp [same, present]
    | some member => simp [same, present]

theorem LookupReaches.mem (reaches : LookupReaches mro own cls) : cls ∈ mro :=
  List.mem_of_find?_eq_some reaches

theorem lookupReaches_self : LookupReaches (cls :: mro) own cls :=
  lookupReaches_cons.mpr (.inl rfl)

/-- A lookup reaches a class as long as no other class gets the attribute. -/
theorem LookupReaches.mono (reaches : LookupReaches mro own cls)
    (fewer : ∀ other, own other = none → later other = none) : LookupReaches mro later cls := by
  induction mro with
  | nil => cases reaches
  | cons head tail inductionHypothesis =>
      rw [lookupReaches_cons] at reaches ⊢
      exact reaches.imp_right fun later => ⟨fewer _ later.1, inductionHypothesis later.2⟩

theorem LookupReaches.getAttribute_eq (reaches : LookupReaches mro own cls)
    (present : own cls = some member) : getAttribute mro own = some member := by
  induction mro with
  | nil => cases reaches
  | cons head tail inductionHypothesis =>
      rw [getAttribute_cons]
      rcases lookupReaches_cons.mp reaches with rfl | ⟨absent, later⟩
      · rw [present]
        rfl
      · rw [absent, inductionHypothesis later]
        rfl

/-- What the lookup finds is what some class has. -/
theorem exists_lookupReaches (found : getAttribute mro own = some member) :
    ∃ cls, LookupReaches mro own cls ∧ own cls = some member := by
  induction mro with
  | nil => cases found
  | cons head tail inductionHypothesis =>
      rw [getAttribute_cons] at found
      cases absent : own head with
      | some other =>
          rw [absent] at found
          cases found
          exact ⟨head, lookupReaches_self, absent⟩
      | none =>
          rw [absent] at found
          obtain ⟨cls, reaches, present⟩ := inductionHypothesis found
          exact ⟨cls, lookupReaches_cons.mpr (.inr ⟨absent, reaches⟩), present⟩

/-- The lookup after an assignment. -/
theorem getAttribute_update :
    getAttribute mro (Function.update own cls (some member)) =
      if LookupReaches mro own cls then some member else getAttribute mro own := by
  induction mro with
  | nil => rfl
  | cons head tail inductionHypothesis =>
      rw [getAttribute_cons, getAttribute_cons, inductionHypothesis]
      simp only [lookupReaches_cons]
      by_cases same : head = cls
      · subst same
        simp
      · rw [Function.update_of_ne same]
        cases present : own head with
        | some old => simp [same]
        | none => simp [same]

end Lookup

/-- `members.update(base_class.__dict__)` for the classes in reverse order. -/
def inheritedMembers [DecidableEq Name] (dict : Cls → Dict Name Member) (classes : List Cls) :
    Dict Name Member :=
  classes.reverse.foldl (fun members cls => members.update (dict cls)) Dict.empty

/-- The members are what the lookup finds. -/
theorem get?_inheritedMembers [DecidableEq Name] {dict : Cls → Dict Name Member}
    {classes : List Cls} {name : Name} :
    (inheritedMembers dict classes).get? name =
      getAttribute classes fun cls => (dict cls).get? name := by
  induction classes with
  | nil => rfl
  | cons cls classes inductionHypothesis =>
      have step : inheritedMembers dict (cls :: classes) =
          (inheritedMembers dict classes).update (dict cls) := by
        simp [inheritedMembers]
      rw [step, Dict.get?_update, inductionHypothesis]
      unfold getAttribute
      rw [List.findSome?_cons]
      cases (dict cls).get? name with
      | none => rfl
      | some member => rfl

end Classes

end Tobiko.Foundation
