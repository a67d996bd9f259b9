import Tobiko.Common.Operation.Declarations

/-!
Contract: what a declaration does to a state whose attributes are accurate.

Owns: the declarations of `add_runs_operation_name` on classes and on methods, and when each of
them keeps the attributes accurate.

Does not own: the wrappers of the skip decorator, and what queries do.
-/

namespace Tobiko.Common.RunsOperations

open Tobiko.Foundation

section Declaring

variable {Cls Func Obj : Type} [DecidableEq Cls] (code : Code Cls Func Obj)

/-! ### Sets -/

/-- A class finds the set that a name declared on `cls` is added to. -/
def State.Receives (state : State Cls Func Obj) (cls other : Cls) : Prop :=
  match state.getattr code (.cls cls) with
  | some (.set id) => state.getattr code (.cls other) = some (.set id)
  | _ => LookupReaches (code.mro other) (fun cls => state.kept (.cls cls)) cls

/-- Two methods have one set, as a method has with what it wraps. -/
def State.Shares (state : State Cls Func Obj) (function other : Func) : Prop :=
  other = function ∨ ∃ id, state.kept (.function function) = some (.set id) ∧
    state.kept (.function other) = some (.set id)

variable {code} {state after : State Cls Func Obj} {declared : Declared Cls Func Obj}

theorem getD_modify {sets : List (Finset String)} {id : Nat} {name : String}
    (inSets : id < sets.length) (other : Nat) : (sets.modify id (insert name)).getD other ∅ =
      if other = id then insert name (sets.getD id ∅) else sets.getD other ∅ := by
  simp only [List.getD_eq_getElem?_getD, List.getElem?_modify]
  by_cases same : other = id
  · subst same
    simp [inSets]
  · simp [same, Ne.symm same]

theorem getD_concat {sets : List (Finset String)} {id : Nat} {names : Finset String}
    (inSets : id < sets.length) : (sets ++ [names]).getD id ∅ = sets.getD id ∅ := by
  simp [List.getD_eq_getElem?_getD, List.getElem?_append_left inSets]

/-- The set that a class finds is the set of one class only. -/
theorem classSet_of_getattr (accurate : state.Accurate code declared) {cls : Cls} {id : Nat}
    (found : state.getattr code (.cls cls) = some (.set id)) :
    id < state.sets.length ∧ (∃ base, state.kept (.cls base) = some (.set id)) ∧
      ∀ function, state.kept (.function function) ≠ some (.set id) := by
  obtain ⟨base, _, has⟩ := exists_lookupReaches found
  obtain ⟨inSets, only⟩ := accurate.classSets base id has
  refine ⟨inSets, ⟨base, has⟩, fun function other => ?_⟩
  cases only _ other

variable [DecidableEq Func] [DecidableEq Obj]

/-- A name goes to the set that is found, or to a new one. -/
theorem addRunsOperationName_cases {holder : Holder Cls Func Obj} {name : String}
    (added : state.addRunsOperationName code holder name = .ok after) :
    (∃ id, state.getattr code holder = some (.set id) ∧
      after = { state with sets := state.sets.modify id (insert name) }) ∨
    (∀ id, state.getattr code holder ≠ some (.set id)) ∧ code.refusal holder = none ∧
      after = { state with
        sets := state.sets ++ [insert name (state.names (state.getattr code holder))]
      }.setattr holder (.set state.sets.length) := by
  unfold State.addRunsOperationName at added
  split at added
  · rename_i id found
    cases added
    exact .inl ⟨id, found, rfl⟩
  · rename_i missing
    split at added
    · cases added
    · rename_i accepts
      cases added
      exact .inr ⟨missing, accepts, rfl⟩

/-! ### Declarations on classes -/

/-- What a declaration on a class does to the attributes. -/
structure State.ClassDeclared (code : Code Cls Func Obj) (state : State Cls Func Obj) (cls : Cls)
    (name : String) (after : State Cls Func Obj) : Prop where
  dict : after.dict = state.dict
  functions : ∀ function, after.kept (.function function) = state.kept (.function function)
  functionNames : ∀ function, after.names (state.kept (.function function)) =
    state.names (state.kept (.function function))
  objects : ∀ object, after.kept (.object object) = state.kept (.object object)
  sets : state.sets.length ≤ after.sets.length
  builtins : ∀ other, code.builtin other = true → after.kept (.cls other) = none
  classSets : ∀ other id, after.kept (.cls other) = some (.set id) → id < after.sets.length ∧
    ∀ holder, after.kept holder = some (.set id) → holder = .cls other
  receiving : ∀ other, state.Receives code cls other → after.Open code (.cls other) ∧
    after.names (after.getattr code (.cls other)) =
      insert name (state.names (state.getattr code (.cls cls)))
  others : ∀ other, ¬ state.Receives code cls other →
    after.getattr code (.cls other) = state.getattr code (.cls other) ∧
    after.names (state.getattr code (.cls other)) = state.names (state.getattr code (.cls other))

omit [DecidableEq Func] [DecidableEq Obj] in
/-- A name that is added to a set that is there. -/
theorem classDeclared_modify (accurate : state.Accurate code declared) {cls : Cls}
    {name : String} {id : Nat} (found : state.getattr code (.cls cls) = some (.set id)) :
    state.ClassDeclared code cls name
      { state with sets := state.sets.modify id (insert name) } := by
  obtain ⟨inSets, ⟨base, has⟩, noFunction⟩ := classSet_of_getattr accurate found
  have receives : ∀ other, state.Receives code cls other ↔
      state.getattr code (.cls other) = some (.set id) := by
    intro other
    unfold State.Receives
    rw [found]
  have names : ∀ kept, kept ≠ some (.set id) →
      State.names { state with sets := state.sets.modify id (insert name) } kept =
        state.names kept := by
    intro kept different
    cases kept with
    | none => rfl
    | some value =>
        cases value with
        | tuple names => rfl
        | set other =>
            have apart : other ≠ id := fun same => different (by rw [same])
            simpa [State.names, apart] using getD_modify inSets other
  refine ⟨rfl, fun _ => rfl, fun function => names _ (noFunction function), fun _ => rfl,
    by simp, accurate.builtins, fun other place set => ?_, fun other receiving => ?_,
    fun other different => ?_⟩
  · obtain ⟨within, only⟩ := accurate.classSets other place set
    exact ⟨by simpa using within, only⟩
  · rw [receives] at receiving
    refine ⟨fun names tuple => ?_, ?_⟩
    · cases receiving.symm.trans tuple
    · have same : State.getattr code { state with sets := state.sets.modify id (insert name) }
          (.cls other) = some (.set id) := receiving
      rw [same, found]
      simpa [State.names] using getD_modify inSets id
  · rw [receives] at different
    exact ⟨rfl, names _ different⟩

omit [DecidableEq Cls] [DecidableEq Func] [DecidableEq Obj] in
/-- The sets that were there keep their names when there is a new one. -/
theorem names_concat {sets : List (Finset String)} {names : Finset String} {kept : Option Kept}
    {kept' : Holder Cls Func Obj → Option Kept}
    (inSets : ∀ id, kept = some (.set id) → id < state.sets.length)
    (grown : sets = state.sets ++ [names]) :
    State.names { state with kept := kept', sets := sets } kept = state.names kept := by
  subst grown
  cases kept with
  | none => rfl
  | some value =>
      cases value with
      | tuple names => rfl
      | set id => exact getD_concat (inSets id rfl)

theorem classes_setattr {cls : Cls} {kept : Kept} :
    (fun other => (state.setattr (.cls cls) kept).kept (.cls other)) =
      Function.update (fun other => state.kept (.cls other)) cls (some kept) := by
  funext other
  rw [kept_setattr, Function.update_apply]
  simp only [Holder.cls.injEq]

omit [DecidableEq Func] [DecidableEq Obj] in
/-- A new set is found by the classes that find nothing before `cls`. -/
theorem receives_of_missing {cls other : Cls}
    (missing : ∀ id, state.getattr code (.cls cls) ≠ some (.set id)) :
    state.Receives code cls other ↔
      LookupReaches (code.mro other) (fun cls => state.kept (.cls cls)) cls := by
  unfold State.Receives
  split
  · rename_i id found
    exact absurd found (missing id)
  · exact Iff.rfl

theorem getattr_setattr_class {cls other : Cls} {kept : Kept} :
    (state.setattr (.cls cls) kept).getattr code (.cls other) =
      if LookupReaches (code.mro other) (fun cls => state.kept (.cls cls)) cls then some kept
      else state.getattr code (.cls other) := by
  unfold State.getattr
  simp only [classes_setattr]
  exact getAttribute_update

omit [DecidableEq Func] [DecidableEq Obj] in
theorem set_lt_length (accurate : state.Accurate code declared)
    {holder : Holder Cls Func Obj} {id : Nat} (has : state.kept holder = some (.set id)) :
    id < state.sets.length := by
  cases holder with
  | cls other => exact (accurate.classSets other id has).1
  | function function => exact accurate.functionSets function id has
  | object object => cases accurate.objects object _ has

/-- A name that is the first one of a new set. -/
theorem classDeclared_new (accurate : state.Accurate code declared) {cls : Cls} {name : String}
    (missing : ∀ id, state.getattr code (.cls cls) ≠ some (.set id))
    (python : code.builtin cls = false) :
    state.ClassDeclared code cls name ({ state with
      sets := state.sets ++ [insert name (state.names (state.getattr code (.cls cls)))]
    }.setattr (.cls cls) (.set state.sets.length)) := by
  have classSet : ∀ other id, state.getattr code (.cls other) = some (.set id) →
      id < state.sets.length := fun other id found => (classSet_of_getattr accurate found).1
  refine ⟨rfl, fun function => ?_,
    fun function => names_concat (fun id has => set_lt_length accurate has) rfl,
    fun object => ?_, by simp [State.setattr], fun other builtin => ?_, fun other id set => ?_,
    fun other receiving => ?_, fun other different => ?_⟩
  · rw [kept_setattr, if_neg (by simp)]
  · rw [kept_setattr, if_neg (by simp)]
  · have different : other ≠ cls := by
      rintro rfl
      rw [python] at builtin
      cases builtin
    rw [kept_setattr, if_neg (by simpa using different)]
    exact accurate.builtins other builtin
  · rw [kept_setattr] at set
    split at set
    · rename_i same
      cases set
      refine ⟨by simp [State.setattr], fun holder has => ?_⟩
      rw [kept_setattr] at has
      split at has
      · rename_i here
        rw [here, same]
      · exact absurd (set_lt_length accurate has) (Nat.lt_irrefl _)
    · obtain ⟨within, only⟩ := accurate.classSets other id set
      refine ⟨by simpa [State.setattr] using Nat.lt_succ_of_lt within, fun holder has => ?_⟩
      rw [kept_setattr] at has
      split at has
      · cases has
        exact absurd within (Nat.lt_irrefl _)
      · exact only holder has
  · rw [receives_of_missing missing] at receiving
    refine ⟨fun names tuple => ?_, ?_⟩
    · rw [getattr_setattr_class, if_pos receiving] at tuple
      cases tuple
    · rw [getattr_setattr_class, if_pos receiving]
      simp [State.names, State.setattr, List.getD_eq_getElem?_getD]
  · rw [receives_of_missing missing] at different
    rw [getattr_setattr_class, if_neg different]
    exact ⟨rfl, names_concat (classSet other) rfl⟩

theorem classDeclared (accurate : state.Accurate code declared) {cls : Cls} {name : String}
    (added : state.addRunsOperationName code (.cls cls) name = .ok after) :
    state.ClassDeclared code cls name after := by
  rcases addRunsOperationName_cases added with ⟨id, found, rfl⟩ | ⟨missing, accepts, rfl⟩
  · exact classDeclared_modify accurate found
  · refine classDeclared_new accurate missing ?_
    simpa [Code.refusal] using accepts

/-! ### When a declaration on a class is right -/

def Declared.add (declared : Declared Cls Func Obj) (holder : Holder Cls Func Obj)
    (name : String) : Declared Cls Func Obj :=
  Function.update declared holder (insert name (declared holder))

/-- The set that gets the name has the names of every class that finds it, which includes
those derived from `cls` but for those that have the name already. No other member of these
classes runs an operation that they do not declare, and none of their instances is frozen. -/
structure State.ClassFits (code : Code Cls Func Obj) (state : State Cls Func Obj)
    (declared : Declared Cls Func Obj) (cls : Cls) (name : String) : Prop where
  contents : ∀ other, code.builtin other = false → state.Receives code cls other → ∀ each,
    state.Declares code (declared.add (.cls cls) name) other each ↔
      each = name ∨ each ∈ state.names (state.getattr code (.cls cls)) ∨
        ∃ member ∈ state.searched code other, each ∈ state.direct member
  received : ∀ other, code.builtin other = false → cls ∈ code.mro other →
    state.Receives code cls other ∨ state.Declares code declared other name
  attributes : ∀ other, code.builtin other = false →
    state.Receives code cls other ∨ state.Open code (.cls other) →
    ∀ member ∈ state.searched code other,
      state.Harmless code (declared.add (.cls cls) name) other member
  instances : ∀ object, code.builtin (code.typeOf object) = false →
    state.Receives code cls (code.typeOf object) →
    state.kept (.object object) = none ∧ code.slotted object = false

theorem declares_add_class {cls other : Cls} {name each : String} :
    state.Declares code (declared.add (.cls cls) name) other each ↔
      state.Declares code declared other each ∨ each = name ∧ cls ∈ code.mro other := by
  have members : ∀ member : Value Cls Func Obj,
      member.declares (declared.add (.cls cls) name) = member.declares declared := by
    intro member
    cases member with
    | operation operation => rfl
    | text text => rfl
    | held holder =>
        cases holder with
        | cls base => rfl
        | function function => simp [Value.declares, Declared.add]
        | object object => rfl
  unfold State.Declares
  simp only [members]
  simp only [Declared.add, Function.update_apply, Holder.cls.injEq]
  constructor
  · rintro (⟨base, inMro, has⟩ | byMember)
    · split at has
      · rename_i same
        subst same
        rcases Finset.mem_insert.mp has with rfl | has
        · exact .inr ⟨rfl, inMro⟩
        · exact .inl (.inl ⟨base, inMro, has⟩)
      · exact .inl (.inl ⟨base, inMro, has⟩)
    · exact .inl (.inr byMember)
  · rintro ((⟨base, inMro, has⟩ | byMember) | ⟨rfl, inMro⟩)
    · refine .inl ⟨base, inMro, ?_⟩
      split
      · rename_i same
        subst same
        exact Finset.mem_insert_of_mem has
      · exact has
    · exact .inr byMember
    · exact .inl ⟨cls, inMro, by simp⟩

theorem State.ClassDeclared.accurate {cls : Cls} {name : String}
    (step : state.ClassDeclared code cls name after) (accurate : state.Accurate code declared)
    (fits : state.ClassFits code declared cls name) :
    after.Accurate code (declared.add (.cls cls) name) := by
  have declares : ∀ other each, after.Declares code (declared.add (.cls cls) name) other each ↔
      state.Declares code (declared.add (.cls cls) name) other each :=
    fun other each => declares_of_dict step.dict
  have unchanged : ∀ other, code.builtin other = false → ¬ state.Receives code cls other →
      ∀ each, state.Declares code (declared.add (.cls cls) name) other each ↔
        state.Declares code declared other each := by
    intro other python different each
    rw [declares_add_class]
    refine ⟨fun either => either.elim id ?_, .inl⟩
    rintro ⟨rfl, inMro⟩
    exact (fits.received other python inMro).resolve_left different
  have functions : ∀ function, after.names (after.kept (.function function)) =
      state.names (state.kept (.function function)) := by
    intro function
    rw [step.functions, step.functionNames]
  have stays : ∀ other, after.Open code (.cls other) → ¬ state.Receives code cls other →
      state.Open code (.cls other) := by
    intro other isOpen different
    exact isOpen.of_eq (step.others other different).1
  refine ⟨step.classSets, fun function id has => ?_, fun object kept has => ?_, step.builtins,
    accurate.namedClasses, accurate.namedObjects, fun other python names found => ?_,
    fun other python isOpen each => ?_, fun other python isOpen member inClass => ?_,
    fun object python silent each has => ?_⟩
  · rw [step.functions] at has
    exact Nat.lt_of_lt_of_le (accurate.functionSets function id has) step.sets
  · rw [step.objects] at has
    exact accurate.objects object kept has
  · have different : ¬ state.Receives code cls other :=
      fun receiving => (step.receiving other receiving).1 names found
    rw [(step.others other different).1] at found
    refine (accurate.frozen other python names found).congr fun each => ?_
    rw [declares, unchanged other python different]
  · rw [declares, searched_of_dict step.dict]
    simp only [direct_of_functions functions]
    by_cases receiving : state.Receives code cls other
    · rw [(step.receiving other receiving).2, fits.contents other python receiving,
        Finset.mem_insert, or_assoc]
    · obtain ⟨same, sameNames⟩ := step.others other receiving
      rw [same, sameNames, unchanged other python receiving,
        accurate.contents other python (stays other isOpen receiving)]
  · rw [searched_of_dict step.dict] at inClass
    have searched : state.Receives code cls other ∨ state.Open code (.cls other) := by
      by_cases receiving : state.Receives code cls other
      · exact .inl receiving
      · exact .inr (stays other isOpen receiving)
    obtain ⟨value, found, askable, harmless⟩ :=
      fits.attributes other python searched member inClass
    refine ⟨value, found, askable, fun each runs => (declares other each).mpr (harmless each ?_)⟩
    refine runs_of_functions functions (fun object absent => ?_)
      (fun base each => (declares base each).mp) runs
    rwa [step.objects] at absent
  · rw [step.objects] at silent
    by_cases receiving : state.Receives code cls (code.typeOf object)
    · obtain ⟨absent, assignable⟩ := fits.instances object python receiving
      rcases silent with present | ⟨slots, _⟩
      · exact present absent
      · rw [assignable] at slots
        cases slots
    · rw [declares, unchanged _ python receiving] at has
      exact accurate.instances object python
        (silent.imp_right fun slotted => ⟨slotted.1, stays _ slotted.2 receiving⟩) each has

/-! ### Declarations on methods -/

/-- What a declaration on a method does to the attributes. -/
structure State.MethodDeclared (code : Code Cls Func Obj) (state : State Cls Func Obj)
    (function : Func) (name : String) (after : State Cls Func Obj) : Prop where
  dict : after.dict = state.dict
  classes : ∀ cls, after.kept (.cls cls) = state.kept (.cls cls)
  objects : ∀ object, after.kept (.object object) = state.kept (.object object)
  sets : state.sets.length ≤ after.sets.length
  functionSets : ∀ other id, after.kept (.function other) = some (.set id) →
    id < after.sets.length ∧ ∀ cls, state.kept (.cls cls) ≠ some (.set id)
  classNames : ∀ cls, after.names (state.getattr code (.cls cls)) =
    state.names (state.getattr code (.cls cls))
  functionNames : ∀ other each, each ∈ after.names (after.kept (.function other)) ↔
    each ∈ state.names (state.kept (.function other)) ∨
      each = name ∧ state.Shares function other

omit [DecidableEq Func] [DecidableEq Obj] in
theorem methodDeclared_modify (accurate : state.Accurate code declared) {function : Func}
    {name : String} {id : Nat} (found : state.kept (.function function) = some (.set id)) :
    state.MethodDeclared code function name
      { state with sets := state.sets.modify id (insert name) } := by
  have inSets := accurate.functionSets function id found
  have noClass : ∀ cls, state.kept (.cls cls) ≠ some (.set id) := by
    intro cls has
    cases (accurate.classSets cls id has).2 _ found
  refine ⟨rfl, fun _ => rfl, fun _ => rfl, by simp, fun other place set => ⟨?_, fun cls has => ?_⟩,
    fun cls => ?_, fun other each => ?_⟩
  · simpa using accurate.functionSets other place set
  · cases (accurate.classSets cls place has).2 _ set
  · cases kept : state.getattr code (.cls cls) with
    | none => rfl
    | some value =>
        cases value with
        | tuple names => rfl
        | set place =>
            have apart : place ≠ id := by
              rintro rfl
              exact (classSet_of_getattr accurate kept).2.2 function found
            simpa [State.names, apart] using getD_modify inSets place
  · have shares : state.Shares function other ↔
        state.kept (.function other) = some (.set id) := by
      constructor
      · rintro (rfl | ⟨place, own, has⟩)
        · exact found
        · cases found.symm.trans own
          exact has
      · exact fun has => .inr ⟨id, found, has⟩
    rw [shares]
    cases kept : state.kept (.function other) with
    | none => simp [State.names]
    | some value =>
        cases value with
        | tuple names => simp [State.names]
        | set place =>
            have read : (state.sets.modify id (insert name)).getD place ∅ = _ :=
              getD_modify inSets place
            by_cases same : place = id
            · subst same
              simp only [State.names]
              rw [read, if_pos rfl, Finset.mem_insert, or_comm]
              simp
            · simp only [State.names]
              rw [read, if_neg same]
              simp [same]

theorem methodDeclared_new (accurate : state.Accurate code declared) {function : Func}
    {name : String} (missing : ∀ id, state.kept (.function function) ≠ some (.set id)) :
    state.MethodDeclared code function name ({ state with
      sets := state.sets ++ [insert name (state.names (state.kept (.function function)))]
    }.setattr (.function function) (.set state.sets.length)) := by
  refine ⟨rfl, fun cls => ?_, fun object => ?_, by simp [State.setattr], fun other id set => ?_,
    fun cls => names_concat (fun id found => (classSet_of_getattr accurate found).1) rfl,
    fun other each => ?_⟩
  · rw [kept_setattr, if_neg (by simp)]
  · rw [kept_setattr, if_neg (by simp)]
  · rw [kept_setattr] at set
    split at set
    · cases set
      refine ⟨by simp [State.setattr], fun cls has => ?_⟩
      exact absurd (accurate.classSets cls _ has).1 (Nat.lt_irrefl _)
    · have within := accurate.functionSets other id set
      refine ⟨by simpa [State.setattr] using Nat.lt_succ_of_lt within, fun cls has => ?_⟩
      cases (accurate.classSets cls id has).2 _ set
  · have shares : state.Shares function other ↔ other = function := by
      refine ⟨fun either => either.resolve_right ?_, .inl⟩
      rintro ⟨id, own, _⟩
      exact missing id own
    rw [kept_setattr, shares]
    by_cases same : other = function
    · subst same
      simp [State.names, State.setattr, List.getD_eq_getElem?_getD, or_comm]
    · rw [if_neg (by simpa using same)]
      refine (Iff.of_eq (congrArg (each ∈ ·) (names_concat (fun id has => ?_) rfl))).trans
        (by simp [same])
      exact accurate.functionSets other id has

theorem methodDeclared (accurate : state.Accurate code declared) {function : Func}
    {name : String}
    (added : state.addRunsOperationName code (.function function) name = .ok after) :
    state.MethodDeclared code function name after := by
  rcases addRunsOperationName_cases added with ⟨id, found, rfl⟩ | ⟨missing, _, rfl⟩
  · exact methodDeclared_modify accurate found
  · exact methodDeclared_new accurate missing

/-- The method is a method of the class. -/
def State.HasMethod (code : Code Cls Func Obj) (state : State Cls Func Obj) (function : Func)
    (cls : Cls) : Prop :=
  ∃ place, state.lookup code cls place = some (.held (.function function))

/-- The classes that the method belongs to search it and are not frozen, but for those that have
the name already. The methods that share its set, and the other members of classes, run no
operation that their classes do not declare, and no instance of a class that gets the name is
frozen. -/
structure State.MethodFits (code : Code Cls Func Obj) (state : State Cls Func Obj)
    (declared : Declared Cls Func Obj) (function : Func) (name : String) : Prop where
  shared : ∀ cls, code.builtin cls = false → state.Open code (.cls cls) →
    ∀ member ∈ state.searched code cls, ∀ other,
      code.resolve member = some (.held (.function other)) → state.Shares function other →
      state.Declares code (declared.add (.function function) name) cls name
  received : ∀ cls, code.builtin cls = false → state.HasMethod code function cls →
    state.Declares code declared cls name ∨
      state.Open code (.cls cls) ∧ .held (.function function) ∈ state.searched code cls
  attributes : ∀ cls, code.builtin cls = false → state.Open code (.cls cls) →
    ∀ member ∈ state.searched code cls,
      state.Harmless code (declared.add (.function function) name) cls member
  instances : ∀ object, code.builtin (code.typeOf object) = false →
    state.HasMethod code function (code.typeOf object) →
    state.Declares code declared (code.typeOf object) name ∨
      state.kept (.object object) = none ∧ code.slotted object = false

theorem mem_declares_add {function : Func} {name each : String}
    {member : Value Cls Func Obj} :
    each ∈ member.declares (declared.add (.function function) name) ↔
      each ∈ member.declares declared ∨ each = name ∧ member = .held (.function function) := by
  cases member with
  | operation operation => simp [Value.declares]
  | text text => simp [Value.declares]
  | held holder =>
      cases holder with
      | cls base => simp [Value.declares]
      | object object => simp [Value.declares]
      | function other =>
          by_cases same : other = function
          · subst same
            simp [Value.declares, Declared.add, or_comm]
          · simp [Value.declares, Declared.add, same]

theorem declares_add_method {function : Func} {cls : Cls} {name each : String} :
    state.Declares code (declared.add (.function function) name) cls each ↔
      state.Declares code declared cls each ∨
        each = name ∧ state.HasMethod code function cls := by
  have classes : ∀ base, declared.add (.function function) name (.cls base) =
      declared (.cls base) := by
    intro base
    simp [Declared.add]
  unfold State.Declares
  simp only [classes, mem_declares_add]
  constructor
  · rintro (byClass | ⟨place, member, found, has | ⟨rfl, rfl⟩⟩)
    · exact .inl (.inl byClass)
    · exact .inl (.inr ⟨place, member, found, has⟩)
    · exact .inr ⟨rfl, place, found⟩
  · rintro ((byClass | ⟨place, member, found, has⟩) | ⟨rfl, place, found⟩)
    · exact .inl byClass
    · exact .inr ⟨place, member, found, .inl has⟩
    · exact .inr ⟨place, _, found, .inr ⟨rfl, rfl⟩⟩

omit [DecidableEq Cls] [DecidableEq Func] [DecidableEq Obj] in
theorem State.MethodDeclared.getattr {function : Func} {name : String}
    (step : state.MethodDeclared code function name after) (cls : Cls) :
    after.getattr code (.cls cls) = state.getattr code (.cls cls) := by
  unfold State.getattr
  simp only [step.classes]

omit [DecidableEq Cls] [DecidableEq Func] [DecidableEq Obj] in
/-- The methods that have the set give the name too. -/
theorem State.MethodDeclared.mem_direct {function : Func} {name : String}
    (step : state.MethodDeclared code function name after) {member : Value Cls Func Obj}
    {each : String} : each ∈ after.direct member ↔ each ∈ state.direct member ∨
      each = name ∧ ∃ other, member = .held (.function other) ∧ state.Shares function other := by
  cases member with
  | operation operation => simp [State.direct]
  | text text => simp [State.direct]
  | held holder =>
      cases holder with
      | cls base => simp [State.direct]
      | function other => simpa [State.direct] using step.functionNames other each
      | object object => simp [State.direct]

theorem State.MethodDeclared.contents {function : Func} {name : String}
    (step : state.MethodDeclared code function name after)
    (accurate : state.Accurate code declared)
    (fits : state.MethodFits code declared function name) {cls : Cls}
    (python : code.builtin cls = false) (isOpen : state.Open code (.cls cls)) (each : String) :
    state.Declares code (declared.add (.function function) name) cls each ↔
      each ∈ state.names (state.getattr code (.cls cls)) ∨
        ∃ member ∈ state.searched code cls, each ∈ after.direct member := by
  have contents := accurate.contents cls python isOpen
  have grows : state.Declares code declared cls each →
      each ∈ state.names (state.getattr code (.cls cls)) ∨
        ∃ member ∈ state.searched code cls, each ∈ after.direct member := by
    intro has
    refine ((contents each).mp has).imp_right fun ⟨member, inClass, has⟩ => ?_
    exact ⟨member, inClass, step.mem_direct.mpr (.inl has)⟩
  constructor
  · intro has
    rcases declares_add_method.mp has with old | ⟨rfl, method⟩
    · exact grows old
    · rcases fits.received cls python method with old | ⟨_, inClass⟩
      · exact grows old
      · exact .inr ⟨_, inClass, step.mem_direct.mpr (.inr ⟨rfl, function, rfl, .inl rfl⟩)⟩
  · rintro (own | ⟨member, inClass, has⟩)
    · exact declares_add_method.mpr (.inl ((contents each).mpr (.inl own)))
    · rcases step.mem_direct.mp has with old | ⟨rfl, other, rfl, shares⟩
      · exact declares_add_method.mpr (.inl ((contents each).mpr (.inr ⟨member, inClass, old⟩)))
      · obtain ⟨value, found, _⟩ := accurate.attributes cls python isOpen _ inClass
        rw [resolve_held_eq found] at found
        exact fits.shared cls python isOpen _ inClass other found shares

/-- A declared method leaves what the decorators declare for the classes. -/
theorem State.MethodDeclared.declares {function : Func} {name : String}
    (step : state.MethodDeclared code function name after) (cls : Cls) (each : String) :
    after.Declares code (declared.add (.function function) name) cls each ↔
      state.Declares code (declared.add (.function function) name) cls each :=
  declares_of_dict step.dict

theorem State.MethodDeclared.harmless {function : Func} {name : String}
    (step : state.MethodDeclared code function name after)
    (fits : state.MethodFits code declared function name) {cls : Cls}
    (python : code.builtin cls = false) (isOpen : state.Open code (.cls cls))
    {member : Value Cls Func Obj} (inClass : member ∈ state.searched code cls) :
    after.Harmless code (declared.add (.function function) name) cls member := by
  obtain ⟨value, found, askable, harmless⟩ := fits.attributes cls python isOpen member inClass
  refine ⟨value, found, askable, fun each runs => (step.declares cls each).mpr ?_⟩
  cases value with
  | operation operation => exact harmless each runs
  | text text => exact harmless each runs
  | held holder =>
      cases holder with
      | cls base => exact harmless each ((step.declares base each).mp runs)
      | function other =>
          rcases (step.functionNames other each).mp runs with old | ⟨rfl, shares⟩
          · exact harmless each old
          · exact fits.shared cls python isOpen member inClass other found shares
      | object object =>
          obtain ⟨absent, pythonObject, has⟩ := runs
          rw [step.objects] at absent
          exact harmless each ⟨absent, pythonObject, (step.declares _ each).mp has⟩

theorem State.MethodDeclared.accurate {function : Func} {name : String}
    (step : state.MethodDeclared code function name after)
    (accurate : state.Accurate code declared)
    (fits : state.MethodFits code declared function name) :
    after.Accurate code (declared.add (.function function) name) := by
  have stays : ∀ cls, after.Open code (.cls cls) → state.Open code (.cls cls) :=
    fun cls isOpen => isOpen.of_eq (step.getattr cls)
  refine ⟨fun cls id has => ?_, fun other id has => (step.functionSets other id has).1,
    fun object kept has => ?_, fun cls builtin => ?_, accurate.namedClasses,
    accurate.namedObjects, fun cls python names found => ?_, fun cls python isOpen each => ?_,
    fun cls python isOpen member inClass => ?_, fun object python silent each has => ?_⟩
  · rw [step.classes] at has
    obtain ⟨within, only⟩ := accurate.classSets cls id has
    refine ⟨Nat.lt_of_lt_of_le within step.sets, fun holder other => ?_⟩
    cases holder with
    | cls base =>
        rw [step.classes] at other
        exact only _ other
    | function function => exact absurd has ((step.functionSets function id other).2 cls)
    | object object =>
        rw [step.objects] at other
        exact only _ other
  · rw [step.objects] at has
    exact accurate.objects object kept has
  · rw [step.classes]
    exact accurate.builtins cls builtin
  · rw [step.getattr] at found
    refine (accurate.frozen cls python names found).congr fun each => ?_
    rw [step.declares, declares_add_method]
    refine ⟨.inl, fun has => has.elim id ?_⟩
    rintro ⟨rfl, method⟩
    exact (fits.received cls python method).resolve_right fun still => still.1 names found
  · rw [step.declares, searched_of_dict step.dict, step.getattr, step.classNames]
    exact step.contents accurate fits python (stays cls isOpen) each
  · rw [searched_of_dict step.dict] at inClass
    exact step.harmless fits python (stays cls isOpen) inClass
  · rw [step.objects] at silent
    have before := accurate.instances object python
      (silent.imp_right fun slotted => ⟨slotted.1, stays _ slotted.2⟩)
    rcases declares_add_method.mp ((step.declares _ each).mp has) with old | ⟨rfl, method⟩
    · exact before each old
    · rcases fits.instances object python method with old | ⟨absent, assignable⟩
      · exact before each old
      · rcases silent with present | ⟨slots, _⟩
        · exact present absent
        · rw [assignable] at slots
          cases slots

end Declaring

end Tobiko.Common.RunsOperations
