import Tobiko.Common.Operation.RunsOperations

/-!
Contract: what is declared on a class, and when the attributes of the loaded code say so.

Owns: the names that are declared on classes and methods, the names that are declared for a
class by itself, by its members and by its methods, and the state in which every query gives
them.

Does not own: which declarations and queries keep such a state.
-/

namespace Tobiko.Common.RunsOperations

open Tobiko.Foundation

/-! ### Declared names -/

/-- The names that were declared on each class and on each method so far. -/
abbrev Declared (Cls Func Obj : Type) := Holder Cls Func Obj → Finset String

def Declared.start {Cls Func Obj : Type} : Declared Cls Func Obj := fun _ => ∅

/-- The names that a member declares. Neither strings nor classes nor other objects do. -/
def Value.declares {Cls Func Obj : Type} (declared : Declared Cls Func Obj) :
    Value Cls Func Obj → Finset String
  | .operation name => {name}
  | .held (.function function) => declared (.function function)
  | _ => ∅

/-- The sorted tuple of the given names. -/
def Answers (names : List String) (Declares : String → Prop) : Prop :=
  names.Pairwise (· < ·) ∧ ∀ name, name ∈ names ↔ Declares name

theorem Answers.unique {first second : List String} {Declares : String → Prop}
    (one : Answers first Declares) (other : Answers second Declares) : first = second := by
  have same : first.Perm second :=
    (List.perm_ext_iff_of_nodup (one.1.imp ne_of_lt) (other.1.imp ne_of_lt)).mpr fun name =>
      (one.2 name).trans (other.2 name).symm
  exact same.eq_of_pairwise' (one.1.imp le_of_lt) (other.1.imp le_of_lt)

theorem Answers.congr {names : List String} {Declares Other : String → Prop}
    (answers : Answers names Declares) (same : ∀ name, Declares name ↔ Other name) :
    Answers names Other :=
  ⟨answers.1, fun name => (answers.2 name).trans (same name)⟩

theorem answers_sort {names : Finset String} {Declares : String → Prop}
    (same : ∀ name, name ∈ names ↔ Declares name) : Answers names.sort Declares :=
  ⟨names.sortedLT_sort.pairwise, fun name => (Finset.mem_sort _).trans (same name)⟩

section Accuracy

variable {Cls Func Obj : Type} [DecidableEq Cls] [DecidableEq Func] [DecidableEq Obj]
  (code : Code Cls Func Obj) (state : State Cls Func Obj) (declared : Declared Cls Func Obj)

/-- The name is declared on the class or on one of its base classes, by one of its members or
by one of its methods. -/
def State.Declares (cls : Cls) (name : String) : Prop :=
  (∃ base ∈ code.mro cls, name ∈ declared (.cls base)) ∨
    ∃ place member, state.lookup code cls place = some member ∧
      name ∈ member.declares declared

/-- The names of the holder are not frozen. -/
def State.Open (holder : Holder Cls Func Obj) : Prop :=
  ∀ names, state.getattr code holder ≠ some (.tuple names)

/-- The names that the query takes from a member. -/
def State.direct : Value Cls Func Obj → Finset String
  | .operation name => {name}
  | .held (.function function) => state.names (state.kept (.function function))
  | _ => ∅

/-- The names that the query may get from a value. -/
def State.Runs : Value Cls Func Obj → String → Prop
  | .operation operation, name => name = operation
  | .text _, _ => False
  | .held (.function function), name => name ∈ state.names (state.kept (.function function))
  | .held (.cls cls), name => state.Declares code declared cls name
  | .held (.object object), name => state.kept (.object object) = none ∧
      code.builtin (code.typeOf object) = false ∧
      state.Declares code declared (code.typeOf object) name

/-- The query of the value meets no built-in class that it has to freeze. -/
def Code.Askable : Value Cls Func Obj → Prop
  | .held (.cls cls) => code.builtin cls = false
  | .held (.object object) =>
      code.builtin (code.typeOf object) = false ∨ code.slotted object = true
  | _ => True

def Code.MayAsk (asked : Value Cls Func Obj) : Prop :=
  ∀ value, code.resolve asked = some value → code.Askable value

/-- The member of the class can be asked, and has no names that are not declared for the
class. -/
def State.Harmless (cls : Cls) (member : Value Cls Func Obj) : Prop :=
  ∃ value, code.resolve member = some value ∧ code.Askable value ∧
    ∀ name, state.Runs code declared value name → state.Declares code declared cls name

/-- The attributes say what is declared. A class is one that is not built in. -/
structure State.Accurate : Prop where
  classSets : ∀ cls id, state.kept (.cls cls) = some (.set id) → id < state.sets.length ∧
    ∀ holder, state.kept holder = some (.set id) → holder = .cls cls
  functionSets : ∀ function id, state.kept (.function function) = some (.set id) →
    id < state.sets.length
  objects : ∀ object kept, state.kept (.object object) = some kept → kept = .tuple []
  builtins : ∀ cls, code.builtin cls = true → state.kept (.cls cls) = none
  namedClasses : ∀ cls, code.builtin cls = false → code.named (.held (.cls cls)) = true
  namedObjects : ∀ object, code.builtin (code.typeOf object) = false →
    code.named (.held (.object object)) = true
  frozen : ∀ cls, code.builtin cls = false → ∀ names,
    state.getattr code (.cls cls) = some (.tuple names) →
    Answers names (state.Declares code declared cls)
  contents : ∀ cls, code.builtin cls = false → state.Open code (.cls cls) → ∀ name,
    state.Declares code declared cls name ↔
      name ∈ state.names (state.getattr code (.cls cls)) ∨
        ∃ member ∈ state.searched code cls, name ∈ state.direct member
  attributes : ∀ cls, code.builtin cls = false → state.Open code (.cls cls) →
    ∀ member ∈ state.searched code cls, state.Harmless code declared cls member
  instances : ∀ object, code.builtin (code.typeOf object) = false →
    state.kept (.object object) ≠ none ∨
      code.slotted object = true ∧ state.Open code (.cls (code.typeOf object)) →
    ∀ name, ¬ state.Declares code declared (code.typeOf object) name

/-- Every class and every instance of a class is answered with the sorted tuple of the names
that are declared for the class. -/
def State.Answered [Fintype Cls] [Fintype Obj] : Prop :=
  ∀ cls, code.builtin cls = false → ∃ names,
    Answers names (state.Declares code declared cls) ∧
    (code.getRunsOperationNames state (.held (.cls cls))).2 = .ok names ∧
    ∀ object, code.typeOf object = cls →
      (code.getRunsOperationNames state (.held (.object object))).2 = .ok names

/-! ### Queries -/

/-- The query of the holder searches the members of the class. -/
def State.Opens (holder : Holder Cls Func Obj) (cls : Cls) : Prop :=
  state.Open code holder ∧ code.refusal holder = none ∧ code.classOf holder = some cls

/-- The values that the query of a value leads to. -/
inductive State.Visits (asked : Value Cls Func Obj) : Value Cls Func Obj → Prop
  | start {value} (found : code.resolve asked = some value) : Visits asked value
  | member {holder cls member value} (visits : Visits asked (.held holder))
      (opens : state.Opens code holder cls) (inClass : member ∈ state.searched code cls)
      (found : code.resolve member = some value) : Visits asked value

/-- The query does not raise, the classes that it freezes have the names of all the classes
that find these frozen, and the objects that it freezes have none. -/
structure State.QueryFits (asked : Value Cls Func Obj) : Prop where
  askable : code.MayAsk asked
  classes : ∀ holder cls, state.Visits code asked (.held holder) →
    state.Opens code holder cls → ∀ other, code.builtin other = false →
    LookupReaches (code.mro other) (fun cls => state.kept (.cls cls)) cls →
    ∀ name, state.Declares code declared other name ↔ state.Declares code declared cls name
  objects : ∀ object, state.Visits code asked (.held (.object object)) →
    state.Opens code (.object object) (code.typeOf object) →
    ∀ name, ¬ state.Declares code declared (code.typeOf object) name

end Accuracy

/-! ### What changes with the attributes -/

section Changes

variable {Cls Func Obj : Type} {code : Code Cls Func Obj} {before after : State Cls Func Obj}
  {first second : Declared Cls Func Obj}

theorem State.Open.of_eq {first second : Holder Cls Func Obj} (isOpen : after.Open code first)
    (same : after.getattr code first = before.getattr code second) : before.Open code second := by
  unfold State.Open
  rwa [← same]

theorem not_open {holder : Holder Cls Func Obj} (closed : ¬ before.Open code holder) :
    ∃ names, before.getattr code holder = some (.tuple names) := by
  unfold State.Open at closed
  push Not at closed
  exact closed

theorem declares_of_dict (same : after.dict = before.dict) {cls : Cls} {name : String} :
    after.Declares code first cls name ↔ before.Declares code first cls name := by
  unfold State.Declares State.lookup
  rw [same]

theorem mem_searched [DecidableEq Cls] {cls : Cls} {member : Value Cls Func Obj} :
    member ∈ before.searched code cls ↔ ∃ place, isDunder place = false ∧
      (getAttribute (code.baseClasses cls) fun base => (before.dict base).get? place) =
        some member := by
  unfold State.searched
  simp only [List.mem_map, List.mem_filter, List.mem_insertionSort, Prod.exists,
    Dict.mem_entries_iff, get?_inheritedMembers]
  constructor
  · rintro ⟨place, other, ⟨found, visible⟩, rfl⟩
    exact ⟨place, by simpa using visible, found⟩
  · rintro ⟨place, visible, found⟩
    exact ⟨place, member, ⟨found, by simpa using visible⟩, rfl⟩

theorem searched_of_dict [DecidableEq Cls] (same : after.dict = before.dict) {cls : Cls} :
    after.searched code cls = before.searched code cls := by
  unfold State.searched
  rw [same]

theorem resolve_held_eq {holder : Holder Cls Func Obj} {value : Value Cls Func Obj}
    (found : code.resolve (.held holder) = some value) : value = .held holder := by
  unfold Code.resolve at found
  simp only at found
  split at found
  · cases found
    rfl
  · cases found

theorem resolve_operation_eq {name : String} {value : Value Cls Func Obj}
    (found : code.resolve (.operation name) = some value) : value = .operation name := by
  unfold Code.resolve at found
  simp only at found
  split at found
  · cases found
    rfl
  · cases found

/-- The names that are taken from members are those of the methods. -/
theorem direct_of_functions
    (same : ∀ function, after.names (after.kept (.function function)) =
      before.names (before.kept (.function function))) (member : Value Cls Func Obj) :
    after.direct member = before.direct member := by
  cases member with
  | operation name => rfl
  | text text => rfl
  | held holder =>
      cases holder with
      | cls cls => rfl
      | function function => exact same function
      | object object => rfl

theorem runs_of_functions
    (functions : ∀ function, after.names (after.kept (.function function)) =
      before.names (before.kept (.function function)))
    (objects : ∀ object, after.kept (.object object) = none →
      before.kept (.object object) = none)
    (declares : ∀ cls name, after.Declares code first cls name →
      before.Declares code second cls name)
    {value : Value Cls Func Obj} {name : String} (runs : after.Runs code first value name) :
    before.Runs code second value name := by
  cases value with
  | operation operation => exact runs
  | text text => exact runs
  | held holder =>
      cases holder with
      | cls cls => exact declares cls name runs
      | function function =>
          rw [State.Runs, functions] at runs
          exact runs
      | object object =>
          obtain ⟨absent, python, has⟩ := runs
          exact ⟨objects object absent, python, declares _ name has⟩

end Changes

end Tobiko.Common.RunsOperations
