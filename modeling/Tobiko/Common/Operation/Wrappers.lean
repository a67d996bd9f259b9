import Tobiko.Common.Operation.Declarations

/-!
Contract: what the skip decorator of `before_operation` and `after_operation` does to a state
whose attributes are accurate.

Owns: the wrapper that takes the place of a method, and when it keeps the attributes accurate.

Does not own: the declaration that follows it.
-/

namespace Tobiko.Common.RunsOperations

open Tobiko.Foundation

section Wrapping

variable {Cls Func Obj : Type} [DecidableEq Cls] [DecidableEq Func] [DecidableEq Obj]
  {code : Code Cls Func Obj} {state : State Cls Func Obj} {declared : Declared Cls Func Obj}

def State.wrappedNames (state : State Cls Func Obj) (wrapped : Option Func) : Finset String :=
  wrapped.elim ∅ fun function => state.names (state.kept (.function function))

def Declared.ofWrapped (declared : Declared Cls Func Obj) (wrapped : Option Func) :
    Finset String :=
  wrapped.elim ∅ fun function => declared (.function function)

/-- A wrapper is a method in the place of what it wraps. -/
def Declared.wrap (declared : Declared Cls Func Obj) (wrapped : Option Func) (wrapper : Func) :
    Declared Cls Func Obj :=
  Function.update declared (.function wrapper) (declared.ofWrapped wrapped)

/-- A new function, which nothing refers to. -/
structure State.Fresh (code : Code Cls Func Obj) (state : State Cls Func Obj)
    (declared : Declared Cls Func Obj) (wrapper : Func) : Prop where
  kept : state.kept (.function wrapper) = none
  declared : declared (.function wrapper) = ∅
  members : ∀ cls place, (state.dict cls).get? place ≠ some (.held (.function wrapper))
  loaded : ∀ text, code.loadObject text ≠ some (.held (.function wrapper))

/-- What the wrapper replaces in a class has the names of what it wraps. -/
structure State.DecorationFits (code : Code Cls Func Obj) (state : State Cls Func Obj)
    (declared : Declared Cls Func Obj) (cls : Cls) (place : String) (wrapped : Option Func)
    (wrapper : Func) : Prop where
  named : code.named (.held (.function wrapper)) = true
  declared : ∀ other, code.builtin other = false →
    LookupReaches (code.mro other) (fun base => (state.dict base).get? place) cls →
    (state.lookup code other place).elim ∅ (Value.declares declared) = declared.ofWrapped wrapped
  kept : isDunder place = false → ∀ other, code.builtin other = false →
    LookupReaches (code.baseClasses other) (fun base => (state.dict base).get? place) cls →
    (getAttribute (code.baseClasses other) fun base => (state.dict base).get? place).elim ∅
      state.direct = state.wrappedNames wrapped

theorem getAttribute_decorate {classes : List Cls} {cls : Cls} {place other : String}
    {wrapped : Option Func} {wrapper : Func} :
    getAttribute classes (fun base =>
        ((state.decorate cls place wrapped wrapper).dict base).get? other) =
      if other = place ∧ LookupReaches classes (fun base => (state.dict base).get? place) cls then
        some (.held (.function wrapper))
      else getAttribute classes fun base => (state.dict base).get? other := by
  by_cases same : other = place
  · subst same
    have updated : (fun base => ((state.decorate cls other wrapped wrapper).dict base).get? other) =
        Function.update (fun base => (state.dict base).get? other) cls
          (some (.held (.function wrapper))) := by
      funext base
      by_cases here : base = cls
      · subst here
        simp [State.decorate, Dict.get?_set]
      · simp [State.decorate, here]
    rw [updated, getAttribute_update]
    simp
  · have untouched : (fun base =>
        ((state.decorate cls place wrapped wrapper).dict base).get? other) =
        fun base => (state.dict base).get? other := by
      funext base
      by_cases here : base = cls
      · subst here
        simp [State.decorate, Dict.get?_set, same]
      · simp [State.decorate, here]
    rw [untouched, if_neg fun both => same both.1]

variable {cls : Cls} {place : String} {wrapped : Option Func} {wrapper : Func}

omit [DecidableEq Cls] [DecidableEq Func] [DecidableEq Obj] in
theorem not_member_of_fresh (fresh : state.Fresh code declared wrapper) {classes : List Cls}
    {other : String} :
    (getAttribute classes fun base => (state.dict base).get? other) ≠
      some (.held (.function wrapper)) := by
  intro found
  obtain ⟨base, _, has⟩ := List.exists_of_findSome?_eq_some found
  exact fresh.members base other has

theorem declares_wrap {member : Value Cls Func Obj}
    (different : member ≠ .held (.function wrapper)) :
    member.declares (declared.wrap wrapped wrapper) = member.declares declared := by
  cases member with
  | operation operation => rfl
  | text text => rfl
  | held holder =>
      cases holder with
      | cls base => rfl
      | object object => rfl
      | function other =>
          have apart : other ≠ wrapper := fun same => different (by rw [same])
          simp [Value.declares, Declared.wrap, apart]

theorem kept_decorate {holder : Holder Cls Func Obj} (different : holder ≠ .function wrapper) :
    (state.decorate cls place wrapped wrapper).kept holder = state.kept holder :=
  Function.update_of_ne different _ _

theorem kept_wrapper : (state.decorate cls place wrapped wrapper).kept (.function wrapper) =
    wrapped.bind fun function => state.kept (.function function) :=
  Function.update_self _ _ _

theorem names_wrapper :
    (state.decorate cls place wrapped wrapper).names
        ((state.decorate cls place wrapped wrapper).kept (.function wrapper)) =
      state.wrappedNames wrapped := by
  rw [kept_wrapper]
  cases wrapped with
  | none => rfl
  | some function => rfl

theorem direct_decorate {member : Value Cls Func Obj}
    (different : member ≠ .held (.function wrapper)) :
    (state.decorate cls place wrapped wrapper).direct member = state.direct member := by
  cases member with
  | operation operation => rfl
  | text text => rfl
  | held holder =>
      cases holder with
      | cls base => rfl
      | object object => rfl
      | function other =>
          have apart : Holder.function other ≠ (.function wrapper : Holder Cls Func Obj) :=
            fun same => different (by rw [same])
          unfold State.direct
          simp only
          rw [kept_decorate apart]
          rfl

/-- A wrapper changes no name that is declared for a class. -/
theorem declares_decorate (fresh : state.Fresh code declared wrapper)
    (fits : state.DecorationFits code declared cls place wrapped wrapper) {other : Cls}
    (python : code.builtin other = false) {each : String} :
    (state.decorate cls place wrapped wrapper).Declares code (declared.wrap wrapped wrapper)
        other each ↔ state.Declares code declared other each := by
  have classes : ∀ base, declared.wrap wrapped wrapper (.cls base) = declared (.cls base) := by
    intro base
    simp [Declared.wrap]
  have ofWrapper : (Value.held (.function wrapper) : Value Cls Func Obj).declares
      (declared.wrap wrapped wrapper) = declared.ofWrapped wrapped := by
    simp [Value.declares, Declared.wrap]
  unfold State.Declares
  simp only [classes]
  refine or_congr_right ⟨?_, ?_⟩
  · rintro ⟨name, member, found, has⟩
    unfold State.lookup at found
    rw [getAttribute_decorate] at found
    split at found
    · rename_i here
      obtain ⟨rfl, reaches⟩ := here
      cases found
      rw [ofWrapper, ← fits.declared other python reaches] at has
      cases old : state.lookup code other name with
      | none => simp [old] at has
      | some member => exact ⟨name, member, old, by simpa [old] using has⟩
    · have different : member ≠ .held (.function wrapper) :=
        fun same => not_member_of_fresh fresh (same ▸ found)
      rw [declares_wrap different] at has
      exact ⟨name, member, found, has⟩
  · rintro ⟨name, member, found, has⟩
    have different : member ≠ .held (.function wrapper) :=
      fun same => not_member_of_fresh fresh (same ▸ found)
    by_cases here : name = place ∧
        LookupReaches (code.mro other) (fun base => (state.dict base).get? place) cls
    · refine ⟨name, .held (.function wrapper), ?_, ?_⟩
      · unfold State.lookup
        rw [getAttribute_decorate, if_pos here]
      · obtain ⟨rfl, reaches⟩ := here
        rw [ofWrapper, ← fits.declared other python reaches, found]
        exact has
    · refine ⟨name, member, ?_, by rwa [declares_wrap different]⟩
      unfold State.lookup
      rw [getAttribute_decorate, if_neg here]
      exact found

/-- A wrapper changes no name that the query takes from the members of a class. -/
theorem direct_searched_decorate (fresh : state.Fresh code declared wrapper)
    (fits : state.DecorationFits code declared cls place wrapped wrapper) {other : Cls}
    (python : code.builtin other = false) {each : String} :
    (∃ member ∈ (state.decorate cls place wrapped wrapper).searched code other,
        each ∈ (state.decorate cls place wrapped wrapper).direct member) ↔
      ∃ member ∈ state.searched code other, each ∈ state.direct member := by
  constructor
  · rintro ⟨member, inClass, has⟩
    obtain ⟨name, visible, found⟩ := mem_searched.mp inClass
    rw [getAttribute_decorate] at found
    split at found
    · rename_i here
      obtain ⟨rfl, reaches⟩ := here
      cases found
      have own := fits.kept visible other python reaches
      unfold State.direct at has
      simp only at has
      rw [names_wrapper, ← own] at has
      cases old : getAttribute (code.baseClasses other) fun base => (state.dict base).get? name with
      | none => simp [old] at has
      | some member =>
          exact ⟨member, mem_searched.mpr ⟨name, visible, old⟩, by simpa [old] using has⟩
    · have different : member ≠ .held (.function wrapper) :=
        fun same => not_member_of_fresh fresh (same ▸ found)
      rw [direct_decorate different] at has
      exact ⟨member, mem_searched.mpr ⟨name, visible, found⟩, has⟩
  · rintro ⟨member, inClass, has⟩
    obtain ⟨name, visible, found⟩ := mem_searched.mp inClass
    have different : member ≠ .held (.function wrapper) :=
      fun same => not_member_of_fresh fresh (same ▸ found)
    by_cases here : name = place ∧
        LookupReaches (code.baseClasses other) (fun base => (state.dict base).get? place) cls
    · refine ⟨.held (.function wrapper), mem_searched.mpr ⟨name, visible, ?_⟩, ?_⟩
      · rw [getAttribute_decorate, if_pos here]
      · obtain ⟨rfl, reaches⟩ := here
        unfold State.direct
        simp only
        rw [names_wrapper, ← fits.kept visible other python reaches, found]
        exact has
    · refine ⟨member, mem_searched.mpr ⟨name, visible, ?_⟩, by rwa [direct_decorate different]⟩
      rw [getAttribute_decorate, if_neg here]
      exact found

theorem getattr_decorate (base : Cls) :
    (state.decorate cls place wrapped wrapper).getattr code (.cls base) =
      state.getattr code (.cls base) := by
  have kept : ∀ base, (state.decorate cls place wrapped wrapper).kept (.cls base) =
      state.kept (.cls base) := fun base => kept_decorate (by simp)
  unfold State.getattr
  simp only [kept]

/-- A wrapper has the set of what it wraps. -/
theorem exists_kept_set_of_decorate {function : Func} {id : Nat}
    (has : (state.decorate cls place wrapped wrapper).kept (.function function) =
      some (.set id)) : ∃ other, state.kept (.function other) = some (.set id) := by
  by_cases same : function = wrapper
  · subst same
    rw [kept_wrapper] at has
    obtain ⟨other, _, own⟩ := Option.bind_eq_some_iff.mp has
    exact ⟨other, own⟩
  · rw [kept_decorate (by simpa using same)] at has
    exact ⟨function, has⟩

omit [DecidableEq Cls] [DecidableEq Func] [DecidableEq Obj] in
/-- No member leads to a new function. -/
theorem resolve_ne_of_fresh (fresh : state.Fresh code declared wrapper) {classes : List Cls}
    {name : String} {member value : Value Cls Func Obj}
    (found : (getAttribute classes fun base => (state.dict base).get? name) = some member)
    (resolved : code.resolve member = some value) : value ≠ .held (.function wrapper) := by
  rintro rfl
  cases member with
  | operation operation => cases resolve_operation_eq resolved
  | text text => exact fresh.loaded text resolved
  | held holder =>
      have same := resolve_held_eq resolved
      exact not_member_of_fresh fresh (found.trans (congrArg some same.symm))

theorem harmless_decorate (accurate : state.Accurate code declared)
    (fresh : state.Fresh code declared wrapper)
    (fits : state.DecorationFits code declared cls place wrapped wrapper) {base : Cls}
    (python : code.builtin base = false) (isOpen : state.Open code (.cls base))
    {member : Value Cls Func Obj}
    (inClass : member ∈ (state.decorate cls place wrapped wrapper).searched code base) :
    (state.decorate cls place wrapped wrapper).Harmless code (declared.wrap wrapped wrapper) base
      member := by
  obtain ⟨name, visible, found⟩ := mem_searched.mp inClass
  rw [getAttribute_decorate] at found
  split at found
  · cases found
    refine ⟨.held (.function wrapper), by simp [Code.resolve, fits.named], trivial,
      fun each runs => (declares_decorate fresh fits python).mpr ?_⟩
    refine (accurate.contents base python isOpen each).mpr (.inr ?_)
    exact (direct_searched_decorate fresh fits python).mp ⟨_, inClass, runs⟩
  · obtain ⟨value, resolved, askable, harmless⟩ := accurate.attributes base python isOpen
      member (mem_searched.mpr ⟨name, visible, found⟩)
    have different := resolve_ne_of_fresh fresh found resolved
    refine ⟨value, resolved, askable, fun each runs =>
      (declares_decorate fresh fits python).mpr (harmless each ?_)⟩
    cases value with
    | operation operation => exact runs
    | text text => exact runs
    | held holder =>
        cases holder with
        | cls other => exact (declares_decorate fresh fits askable).mp runs
        | function other =>
            rw [State.Runs, kept_decorate fun same => different (by rw [same])] at runs
            exact runs
        | object object =>
            obtain ⟨absent, pythonObject, has⟩ := runs
            rw [kept_decorate (by simp)] at absent
            exact ⟨absent, pythonObject, (declares_decorate fresh fits pythonObject).mp has⟩

/-- A fitting wrapper keeps an accurate state accurate. -/
theorem decorate_accurate (accurate : state.Accurate code declared)
    (fresh : state.Fresh code declared wrapper)
    (fits : state.DecorationFits code declared cls place wrapped wrapper) :
    (state.decorate cls place wrapped wrapper).Accurate code (declared.wrap wrapped wrapper) := by
  have kept : ∀ base, (state.decorate cls place wrapped wrapper).kept (.cls base) =
      state.kept (.cls base) := fun base => kept_decorate (by simp)
  have objects : ∀ object, (state.decorate cls place wrapped wrapper).kept (.object object) =
      state.kept (.object object) := fun object => kept_decorate (by simp)
  have stays : ∀ base, (state.decorate cls place wrapped wrapper).Open code (.cls base) →
      state.Open code (.cls base) := fun base isOpen => isOpen.of_eq (getattr_decorate base)
  refine ⟨fun base id has => ?_, fun function id has => ?_, fun object value has => ?_,
    fun base builtin => ?_, accurate.namedClasses, accurate.namedObjects,
    fun base python names found => ?_, fun base python isOpen each => ?_,
    fun base python isOpen member inClass => ?_, fun object python silent each has => ?_⟩
  · rw [kept] at has
    obtain ⟨within, only⟩ := accurate.classSets base id has
    refine ⟨within, fun holder other => ?_⟩
    cases holder with
    | cls same =>
        rw [kept] at other
        exact only _ other
    | function function =>
        obtain ⟨source, own⟩ := exists_kept_set_of_decorate other
        cases only _ own
    | object object =>
        rw [objects] at other
        exact only _ other
  · obtain ⟨source, own⟩ := exists_kept_set_of_decorate has
    exact accurate.functionSets source id own
  · rw [objects] at has
    exact accurate.objects object value has
  · rw [kept]
    exact accurate.builtins base builtin
  · rw [getattr_decorate] at found
    exact (accurate.frozen base python names found).congr fun each =>
      (declares_decorate fresh fits python).symm
  · rw [declares_decorate fresh fits python, direct_searched_decorate fresh fits python,
      getattr_decorate, accurate.contents base python (stays base isOpen)]
    rfl
  · exact harmless_decorate accurate fresh fits python (stays base isOpen) inClass
  · rw [objects] at silent
    rw [declares_decorate fresh fits python] at has
    exact accurate.instances object python
      (silent.imp_right fun slotted => ⟨slotted.1, stays _ slotted.2⟩) each has

end Wrapping

end Tobiko.Common.RunsOperations
