import Tobiko.Common.Operation.DeclarationSteps
import Tobiko.Common.Operation.Queries
import Tobiko.Common.Operation.Wrappers

/-!
Contract: what `get_runs_operation_names` answers in every history of declarations and queries.

Owns: the histories, and that every class and every instance is answered with the declared
names as long as every step of the history fits the class hierarchy.

Does not own: when the methods and the classes that the decorators are applied to are defined.
-/

namespace Tobiko.Common.RunsOperations

open Tobiko.Foundation

section Histories

variable {Cls Func Obj : Type} [DecidableEq Cls] [DecidableEq Func] [DecidableEq Obj]
  [Fintype Cls] [Fintype Obj]

/-- `before_operation` and `after_operation` wrap a method or the `setUp` of a class, and then
declare a name on the wrapper or on the class. `with_operation` only declares the name. -/
inductive Action (Cls Func Obj : Type) where
  | query (value : Value Cls Func Obj)
  | declareOnClass (cls : Cls) (name : String)
  | declareOnMethod (function : Func) (name : String)
  | wrapMethod (cls : Cls) (place : String) (wrapped wrapper : Func)
  | wrapSetUp (cls : Cls) (wrapper : Func)

inductive Step (code : Code Cls Func Obj) (state : State Cls Func Obj)
    (declared : Declared Cls Func Obj) :
    Action Cls Func Obj → State Cls Func Obj → Declared Cls Func Obj → Prop
  | query (value) :
      Step code state declared (.query value) (code.getRunsOperationNames state value).1 declared
  | declareOnClass (cls name after)
      (added : state.addRunsOperationName code (.cls cls) name = .ok after) :
      Step code state declared (.declareOnClass cls name) after (declared.add (.cls cls) name)
  | declareOnMethod (function name after)
      (added : state.addRunsOperationName code (.function function) name = .ok after) :
      Step code state declared (.declareOnMethod function name) after
        (declared.add (.function function) name)
  | wrapMethod (cls place wrapped wrapper) (python : code.builtin cls = false)
      (fresh : state.Fresh code declared wrapper)
      (named : code.functionName wrapper = code.functionName wrapped) :
      Step code state declared (.wrapMethod cls place wrapped wrapper)
        (state.decorate cls place (some wrapped) wrapper) (declared.wrap (some wrapped) wrapper)
  | wrapSetUp (cls wrapped wrapper) (python : code.builtin cls = false)
      (fresh : state.Fresh code declared wrapper)
      (method : skipMethod (state.lookup code cls "setUp") = some wrapped)
      (named : code.functionName wrapper = wrapped.elim "setUp" code.functionName) :
      Step code state declared (.wrapSetUp cls wrapper)
        (state.decorate cls (wrapped.elim "setUp" code.functionName) wrapped wrapper)
        (declared.wrap wrapped wrapper)

/-- The histories of declarations and queries whose steps are allowed. -/
inductive Reached (code : Code Cls Func Obj)
    (allowed : State Cls Func Obj → Declared Cls Func Obj → Action Cls Func Obj → Prop) :
    State Cls Func Obj → Declared Cls Func Obj → Prop
  | start : Reached code allowed code.start .start
  | step (state declared action after later) (reached : Reached code allowed state declared)
      (allows : allowed state declared action)
      (goes : Step code state declared action after later) : Reached code allowed after later

/-- Before any declaration, the members of classes that are no operations run none, and the
operations of a class are among the members that are searched. -/
structure Code.Fits (code : Code Cls Func Obj) : Prop where
  namedClasses : ∀ cls, code.builtin cls = false → code.named (.held (.cls cls)) = true
  namedObjects : ∀ object, code.builtin (code.typeOf object) = false →
    code.named (.held (.object object)) = true
  operations : ∀ cls, code.builtin cls = false → ∀ place name,
    code.start.lookup code cls place = some (.operation name) →
    .operation name ∈ code.start.searched code cls
  attributes : ∀ cls, code.builtin cls = false → ∀ member ∈ code.start.searched code cls,
    code.start.Harmless code .start cls member
  instances : ∀ object, code.builtin (code.typeOf object) = false →
    code.slotted object = true → ∀ name,
    ¬ code.start.Declares code .start (code.typeOf object) name

/-- The step fits the class hierarchy. -/
def Action.Fits (code : Code Cls Func Obj) (state : State Cls Func Obj)
    (declared : Declared Cls Func Obj) : Action Cls Func Obj → Prop
  | .query value => state.QueryFits code declared value
  | .declareOnClass cls name => state.ClassFits code declared cls name
  | .declareOnMethod function name => state.MethodFits code declared function name
  | .wrapMethod cls place wrapped wrapper =>
      state.DecorationFits code declared cls place (some wrapped) wrapper
  | .wrapSetUp cls wrapper => ∀ wrapped,
      skipMethod (state.lookup code cls "setUp") = some wrapped →
      state.DecorationFits code declared cls (wrapped.elim "setUp" code.functionName) wrapped
        wrapper

/-- The step declares a name for the class. -/
def Action.DeclaresFor (code : Code Cls Func Obj) (state : State Cls Func Obj) :
    Action Cls Func Obj → Cls → Prop
  | .declareOnClass cls _, other => cls ∈ code.mro other
  | .declareOnMethod function _, other => state.HasMethod code function other
  | _, _ => False

variable {code : Code Cls Func Obj} {state after : State Cls Func Obj}
  {declared later : Declared Cls Func Obj} {action : Action Cls Func Obj}

omit [DecidableEq Func] [DecidableEq Obj] [Fintype Cls] [Fintype Obj] in
theorem Code.Fits.accurate (fits : code.Fits) : code.start.Accurate code .start := by
  have nothing : ∀ holder, code.start.getattr code holder = none := by
    intro holder
    cases holder with
    | cls cls => exact getAttribute_eq_none.mpr fun _ _ => rfl
    | function function => rfl
    | object object => exact getAttribute_eq_none.mpr fun _ _ => rfl
  refine ⟨nofun, nofun, nofun, fun _ _ => rfl, fits.namedClasses, fits.namedObjects,
    fun cls python names found => ?_, fun cls python isOpen name => ?_,
    fun cls python _ => fits.attributes cls python, fun object python silent => ?_⟩
  · rw [nothing] at found
    cases found
  · rw [nothing]
    constructor
    · rintro (⟨base, _, has⟩ | ⟨place, member, found, has⟩)
      · cases has
      · cases member with
        | operation operation =>
            exact .inr ⟨_, fits.operations cls python place operation found, has⟩
        | text text => cases has
        | held holder =>
            cases holder with
            | cls base => cases has
            | function function => cases has
            | object object => cases has
    · rintro (has | ⟨member, inClass, has⟩)
      · cases has
      · cases member with
        | operation operation =>
            obtain ⟨value, found, _, harmless⟩ := fits.attributes cls python _ inClass
            obtain rfl := resolve_operation_eq found
            exact harmless name (Finset.mem_singleton.mp has)
        | text text => cases has
        | held holder =>
            cases holder with
            | cls base => cases has
            | function function => cases has
            | object object => cases has
  · rcases silent with present | ⟨slots, _⟩
    · exact absurd rfl present
    · exact fits.instances object python slots

/-- A fitting step keeps an accurate state accurate. -/
theorem Step.accurate (goes : Step code state declared action after later)
    (accurate : state.Accurate code declared) (fits : action.Fits code state declared) :
    after.Accurate code later := by
  cases goes with
  | query value => exact query_accurate accurate fits
  | declareOnClass cls name after added =>
      exact (classDeclared accurate added).accurate accurate fits
  | declareOnMethod function name after added =>
      exact (methodDeclared accurate added).accurate accurate fits
  | wrapMethod cls place wrapped wrapper python fresh named =>
      exact decorate_accurate accurate fresh fits
  | wrapSetUp cls wrapped wrapper python fresh method named =>
      exact decorate_accurate accurate fresh (fits wrapped method)

theorem Reached.accurate (fits : code.Fits) (reached : Reached code
      (fun state declared action => action.Fits code state declared) state declared) :
    state.Accurate code declared := by
  induction reached with
  | start => exact fits.accurate
  | step state declared action after later reached allows goes inductionHypothesis =>
      exact goes.accurate inductionHypothesis allows

/-- A step that declares nothing for a class leaves its names. -/
theorem Step.declares_iff (goes : Step code state declared action after later)
    (accurate : state.Accurate code declared) (fits : action.Fits code state declared)
    {cls : Cls} (python : code.builtin cls = false)
    (silent : ¬ action.DeclaresFor code state cls) (name : String) :
    after.Declares code later cls name ↔ state.Declares code declared cls name := by
  cases goes with
  | query value => exact declares_of_dict (query_goes accurate fits.askable).course.dict
  | declareOnClass base other after added =>
      rw [declares_of_dict (classDeclared accurate added).dict, declares_add_class]
      exact or_iff_left fun both => silent both.2
  | declareOnMethod function other after added =>
      rw [declares_of_dict (methodDeclared accurate added).dict, declares_add_method]
      exact or_iff_left fun both => silent both.2
  | wrapMethod base place wrapped wrapper _ fresh named => exact declares_decorate fresh fits python
  | wrapSetUp base wrapped wrapper _ fresh method named =>
      exact declares_decorate fresh (fits wrapped method) python

/-- **In every history whose steps fit the class hierarchy, every class and every instance is
answered with the sorted tuple of the declared names**, and a step leaves the answers for the
classes that it declares nothing for. -/
theorem runs_operation_names_declared (code : Code Cls Func Obj) (fits : code.Fits)
    (reached : Reached code (fun state declared action => action.Fits code state declared)
      state declared) :
    state.Answered code declared ∧
      ∀ action after later, action.Fits code state declared →
        Step code state declared action after later →
        ∀ cls, code.builtin cls = false → ¬ action.DeclaresFor code state cls →
          (code.getRunsOperationNames after (.held (.cls cls))).2 =
            (code.getRunsOperationNames state (.held (.cls cls))).2 := by
  have accurate := reached.accurate fits
  refine ⟨accurate.answered, fun action after later stepFits goes cls python silent => ?_⟩
  obtain ⟨names, answers, result, _⟩ := accurate.answered cls python
  obtain ⟨others, answersAfter, resultAfter, _⟩ :=
    (goes.accurate accurate stepFits).answered cls python
  have stays := goes.declares_iff accurate stepFits python silent
  have same := (answersAfter.congr stays).unique answers
  rw [result, resultAfter, same]

end Histories

/-! ### A class and the class that it is derived from -/

inductive Level where
  | testCase
  | base
  | derived
deriving DecidableEq

instance : Fintype Level := ⟨{.testCase, .base, .derived}, fun level => by cases level <;> decide⟩

/-- Only the derived class has an operation. -/
def twoLevels : Code Level Empty Empty where
  bases
    | .derived => [.base]
    | _ => []
  testCase := .testCase
  sharedFixture := .testCase
  builtin _ := false
  builtin_bases := nofun
  typeOf := Empty.elim
  slotted := Empty.elim
  dict
    | .derived => Dict.empty.set "operation" (.operation "create")
    | _ => .empty
  loadObject _ := none
  named _ := true
  functionName := Empty.elim

theorem twoLevels_lookup (level : Level) (place : String) :
    twoLevels.start.lookup twoLevels level place =
      if level = .derived ∧ place = "operation" then some (.operation "create") else none := by
  cases level with
  | testCase => rfl
  | base => rfl
  | derived =>
      have own : twoLevels.start.lookup twoLevels .derived place =
          ((Dict.empty.set "operation" (.operation "create")).get? place).or none := by
        unfold State.lookup
        rw [Code.mro, getAttribute_cons]
        rfl
      rw [own, Dict.get?_set]
      by_cases same : place = "operation"
      · simp [same]
      · simp [same]

theorem twoLevels_searched (level : Level) : twoLevels.start.searched twoLevels level =
    if level = .derived then [.operation "create"] else [] := by
  cases level with
  | testCase => rfl
  | base => rfl
  | derived => rfl

theorem twoLevels_declares {level : Level} {declared : Declared Level Empty Empty}
    {member : Value Level Empty Empty}
    (inClass : member ∈ twoLevels.start.searched twoLevels level) :
    twoLevels.start.Harmless twoLevels declared level member := by
  rw [twoLevels_searched] at inClass
  split at inClass
  · rename_i isDerived
    subst isDerived
    obtain rfl := List.mem_singleton.mp inClass
    refine ⟨.operation "create", rfl, trivial, fun name runs => .inr ⟨"operation", _, rfl, ?_⟩⟩
    exact Finset.mem_singleton.mpr runs
  · cases inClass

theorem twoLevels_fits : twoLevels.Fits where
  namedClasses _ _ := rfl
  namedObjects := nofun
  operations level _ place name found := by
    rw [twoLevels_lookup] at found
    split at found
    · rename_i here
      rw [twoLevels_searched, if_pos here.1, Value.operation.inj (Option.some.inj found)]
      exact List.mem_cons_self
    · cases found
  attributes _ _ _ := twoLevels_declares
  instances := nofun

theorem twoLevels_receives {level : Level} :
    twoLevels.start.Receives twoLevels .derived level ↔ level = .derived := by
  cases level with
  | testCase => exact iff_of_false nofun nofun
  | base => exact iff_of_false nofun nofun
  | derived => exact iff_of_true rfl rfl

theorem twoLevels_declaration_fits :
    twoLevels.start.ClassFits twoLevels .start .derived "upgrade" := by
  refine ⟨fun level python receives each => ?_, fun level python inMro => ?_,
    fun level python _ member => twoLevels_declares, nofun⟩
  · obtain rfl := twoLevels_receives.mp receives
    rw [declares_add_class, twoLevels_fits.accurate.contents .derived rfl nofun each, or_comm]
    exact or_congr_left (and_iff_left List.mem_cons_self)
  · refine .inl (twoLevels_receives.mpr ?_)
    cases level with
    | testCase => exact absurd inMro (by decide)
    | base => exact absurd inMro (by decide)
    | derived => rfl

def upgraded : State Level Empty Empty :=
  { twoLevels.start with sets := [{"upgrade"}] }.setattr (.cls .derived) (.set 0)

theorem upgraded_visits {value : Value Level Empty Empty}
    (visits : upgraded.Visits twoLevels (.held (.cls .derived)) value) :
    value = .held (.cls .derived) ∨ value = .operation "create" := by
  induction visits with
  | start found => exact .inl (resolve_held_eq found)
  | member visits opens inClass found inductionHypothesis =>
      rcases inductionHypothesis with same | same
      · cases same
        cases opens.2.2
        have searched : upgraded.searched twoLevels .derived = [.operation "create"] := rfl
        rw [searched] at inClass
        obtain rfl := List.mem_singleton.mp inClass
        exact .inr (resolve_operation_eq found)
      · cases same

theorem upgraded_query_fits :
    upgraded.QueryFits twoLevels (Declared.start.add (.cls .derived) "upgrade")
      (.held (.cls .derived)) := by
  refine ⟨fun value found => ?_, fun holder level visits opens other _ reaches name => ?_, nofun⟩
  · obtain rfl := resolve_held_eq found
    rfl
  · rcases upgraded_visits visits with same | same
    · cases same
      cases opens.2.2
      cases other with
      | testCase => exact absurd reaches.mem (by decide)
      | base => exact absurd reaches.mem (by decide)
      | derived => exact Iff.rfl
    · cases same

/-- A declaration on the derived class and then a query of it. -/
theorem derived_declared_then_queried :
    State.Answered twoLevels
      (twoLevels.getRunsOperationNames upgraded (.held (.cls .derived))).1
      (Declared.start.add (.cls .derived) "upgrade") :=
  (runs_operation_names_declared twoLevels twoLevels_fits
    (.step upgraded _ (.query (.held (.cls .derived))) _ _
      (.step twoLevels.start .start (.declareOnClass .derived "upgrade") _ _ .start
        twoLevels_declaration_fits (.declareOnClass _ _ _ rfl))
      upgraded_query_fits (.query _))).1

/-- After a query of the base class, the derived class has lost its operation. -/
theorem base_query_hides_derived :
    let state := (twoLevels.getRunsOperationNames twoLevels.start (.held (.cls .base))).1
    Reached twoLevels (fun _ _ _ => True) state .start ∧
      (twoLevels.getRunsOperationNames state (.held (.cls .derived))).2 = .ok [] ∧
      state.Declares twoLevels .start .derived "create" ∧
      ¬ state.Answered twoLevels .start := by
  have nothing : (twoLevels.getRunsOperationNames
      (twoLevels.getRunsOperationNames twoLevels.start (.held (.cls .base))).1
      (.held (.cls .derived))).2 = .ok (∅ ∪ ∅ : Finset String).sort := rfl
  rw [Finset.union_empty, Finset.sort_empty] at nothing
  have declares : (twoLevels.getRunsOperationNames twoLevels.start
      (.held (.cls .base))).1.Declares twoLevels .start .derived "create" :=
    .inr ⟨"operation", .operation "create", rfl, Finset.mem_singleton_self _⟩
  refine ⟨.step _ _ _ _ _ .start trivial (.query _), nothing, declares, fun answered => ?_⟩
  obtain ⟨names, answers, result, _⟩ := answered .derived rfl
  obtain rfl := Except.ok.inj (nothing.symm.trans result)
  cases (answers.2 "create").mpr declares

end Tobiko.Common.RunsOperations
