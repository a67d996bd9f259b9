import Tobiko.Common.Operation.Declarations

/-!
Contract: the course of a query of `get_runs_operation_names`.

Owns: what the attributes are while a query goes from class to class, that it ends, and the
names that each part of it gives.

Does not own: what the answer of the whole query is, and what the query leaves behind.
-/

namespace Tobiko.Common.RunsOperations

open Tobiko.Foundation

section Course

variable {Cls Func Obj : Type} [DecidableEq Cls] (code : Code Cls Func Obj)
  (start : State Cls Func Obj) (declared : Declared Cls Func Obj) (asked : Value Cls Func Obj)

/-! ### The course of a query -/

/-- The query searches the members of the class. -/
def State.Reads (cls : Cls) : Prop :=
  ∃ holder, start.Visits code asked (.held holder) ∧ start.Opens code holder cls

/-- The query may get the name from something that it visits. -/
def State.MayGet (name : String) : Prop :=
  ∃ value, start.Visits code asked value ∧ start.Runs code declared value name

/-- The query has frozen the names of the class, and these are right if it fits. -/
def State.Finished (state : State Cls Func Obj) (cls : Cls) : Prop :=
  ∃ names, state.kept (.cls cls) = some (.tuple names) ∧ start.Reads code asked cls ∧
    (∀ name ∈ names, start.MayGet code declared asked name) ∧
    (start.QueryFits code declared asked → Answers names (start.Declares code declared cls))

/-- What the attributes are while a query goes on: those of the classes that it is still
searching are empty tuples. -/
structure State.Course (state : State Cls Func Obj) : Prop where
  dict : state.dict = start.dict
  sets : state.sets = start.sets
  functions : ∀ function, state.names (state.kept (.function function)) =
    start.names (start.kept (.function function))
  functionSets : ∀ function id, state.kept (.function function) = some (.set id) →
    start.kept (.function function) = some (.set id)
  objects : ∀ object, state.kept (.object object) = start.kept (.object object) ∨
    state.kept (.object object) = some (.tuple []) ∧
      start.Visits code asked (.held (.object object)) ∧
      start.Opens code (.object object) (code.typeOf object)
  classes : ∀ cls, state.kept (.cls cls) = start.kept (.cls cls) ∨
    state.kept (.cls cls) = some (.tuple []) ∨ start.Finished code declared asked state cls

/-- What a part of the query does to the attributes. -/
structure State.Goes (before after : State Cls Func Obj) : Prop where
  course : start.Course code declared asked after
  classes : ∀ cls, after.kept (.cls cls) = before.kept (.cls cls) ∨
    start.Finished code declared asked after cls
  objects : ∀ object, before.kept (.object object) ≠ none → after.kept (.object object) ≠ none

variable {code start declared asked} {before middle after state : State Cls Func Obj}

theorem State.Course.start_self : start.Course code declared asked start :=
  ⟨rfl, rfl, fun _ => rfl, fun _ _ same => same, fun _ => .inl rfl, fun _ => .inl rfl⟩

theorem State.Course.goes_self (course : start.Course code declared asked state) :
    start.Goes code declared asked state state :=
  ⟨course, fun _ => .inl rfl, fun _ present => present⟩

theorem State.Finished.of_kept {cls : Cls}
    (finished : start.Finished code declared asked before cls)
    (same : after.kept (.cls cls) = before.kept (.cls cls)) :
    start.Finished code declared asked after cls := by
  obtain ⟨names, kept, rest⟩ := finished
  exact ⟨names, same.trans kept, rest⟩

theorem State.Goes.trans (first : start.Goes code declared asked before middle)
    (second : start.Goes code declared asked middle after) :
    start.Goes code declared asked before after := by
  refine ⟨second.course, fun cls => ?_, fun object present =>
    second.objects object (first.objects object present)⟩
  rcases second.classes cls with same | finished
  · rcases first.classes cls with before | finished
    · exact .inl (same.trans before)
    · exact .inr (finished.of_kept same)
  · exact .inr finished

/-! ### How long a query goes on -/

/-- The names are a tuple. -/
def frozen : Option Kept → Bool
  | some (.tuple _) => true
  | _ => false

/-- The classes and the objects that the query may still search. -/
def State.unsettled [Fintype Cls] [Fintype Obj] (state : State Cls Func Obj) : Nat :=
  (Finset.univ.filter fun cls => frozen (state.kept (.cls cls)) = false).card +
    (Finset.univ.filter fun object => state.kept (.object object) = none).card

omit [DecidableEq Cls] in
theorem unsettled_le [Fintype Cls] [Fintype Obj]
    (classes : ∀ cls, frozen (before.kept (.cls cls)) = true →
      frozen (after.kept (.cls cls)) = true)
    (objects : ∀ object, before.kept (.object object) ≠ none →
      after.kept (.object object) ≠ none) :
    after.unsettled ≤ before.unsettled := by
  refine Nat.add_le_add (Finset.card_le_card fun cls => ?_)
    (Finset.card_le_card fun object => ?_)
  · simp only [Finset.mem_filter, Finset.mem_univ, true_and, Bool.eq_false_iff]
    exact mt (classes cls)
  · simp only [Finset.mem_filter, Finset.mem_univ, true_and]
    exact not_imp_not.mp (objects object)

theorem State.Goes.unsettled_le [Fintype Cls] [Fintype Obj]
    (goes : start.Goes code declared asked before after) :
    after.unsettled ≤ before.unsettled := by
  refine RunsOperations.unsettled_le (fun cls settled => ?_) goes.objects
  rcases goes.classes cls with same | ⟨names, kept, _⟩
  · rw [same]
    exact settled
  · rw [kept]
    rfl

theorem card_filter_lt {Element : Type} [Fintype Element] {few many : Element → Prop}
    [DecidablePred few] [DecidablePred many] (fewer : ∀ element, few element → many element)
    {element : Element} (more : many element) (less : ¬ few element) :
    (Finset.univ.filter few).card < (Finset.univ.filter many).card := by
  refine Finset.card_lt_card ((Finset.ssubset_iff_of_subset fun other member => ?_).mpr
    ⟨element, by simpa using more, by simpa using less⟩)
  simp only [Finset.mem_filter, Finset.mem_univ, true_and] at member ⊢
  exact fewer other member

variable [DecidableEq Func] [DecidableEq Obj]

theorem unsettled_setattr_class [Fintype Cls] [Fintype Obj] {cls : Cls} {names : List String}
    (fresh : frozen (state.kept (.cls cls)) = false) :
    (state.setattr (.cls cls) (.tuple names)).unsettled < state.unsettled := by
  refine Nat.add_lt_add_of_lt_of_le (card_filter_lt (fun other open' => ?_) fresh ?_)
    (Finset.card_le_card fun object => ?_)
  · rw [kept_setattr] at open'
    split at open'
    · cases open'
    · exact open'
  · rw [kept_setattr, if_pos rfl]
    simp [frozen]
  · simp [kept_setattr]

theorem unsettled_setattr_object [Fintype Cls] [Fintype Obj] {object : Obj} {kept : Kept}
    (fresh : state.kept (.object object) = none) :
    (state.setattr (.object object) kept).unsettled < state.unsettled := by
  refine Nat.add_lt_add_of_le_of_lt (Finset.card_le_card fun cls => ?_)
    (card_filter_lt (fun other open' => ?_) fresh ?_)
  · simp [kept_setattr]
  · rw [kept_setattr] at open'
    split at open'
    · cases open'
    · exact open'
  · simp [kept_setattr]

end Course

/-! ### Queries in an accurate state -/

section Query

variable {Cls Func Obj : Type} [DecidableEq Cls] {code : Code Cls Func Obj}
  {start state : State Cls Func Obj} {declared : Declared Cls Func Obj}
  {asked : Value Cls Func Obj} {cls : Cls} {object : Obj}

theorem getattr_object_of_open (accurate : start.Accurate code declared)
    (isOpen : start.Open code (.object object)) :
    start.kept (.object object) = none ∧
      start.getattr code (.object object) = start.getattr code (.cls (code.typeOf object)) := by
  cases present : start.kept (.object object) with
  | none => exact ⟨rfl, by simp [State.getattr, present]⟩
  | some kept =>
      obtain rfl := accurate.objects object kept present
      exact absurd (by simp [State.getattr, present]) (isOpen [])

/-- What is read for a holder is what its class has. -/
theorem opens_class (accurate : start.Accurate code declared) {holder : Holder Cls Func Obj}
    (opens : start.Opens code holder cls) (askable : code.Askable (.held holder)) :
    code.builtin cls = false ∧ start.Open code (.cls cls) ∧
      start.getattr code holder = start.getattr code (.cls cls) ∧
      ∀ name, start.Runs code declared (.held holder) name ↔
        start.Declares code declared cls name := by
  obtain ⟨isOpen, accepts, ofClass⟩ := opens
  cases holder with
  | cls other =>
      cases ofClass
      exact ⟨askable, isOpen, rfl, fun _ => Iff.rfl⟩
  | function function => cases ofClass
  | object object =>
      cases ofClass
      obtain ⟨absent, same⟩ := getattr_object_of_open accurate isOpen
      have assignable : ¬ code.slotted object = true := by
        simpa [Code.refusal] using accepts
      have python := askable.resolve_right assignable
      exact ⟨python, isOpen.of_eq same, same, fun name => by simp [State.Runs, absent, python]⟩

theorem visits_askable (accurate : start.Accurate code declared)
    (askable : code.MayAsk asked)
    {value : Value Cls Func Obj} (visits : start.Visits code asked value) :
    code.Askable value := by
  induction visits with
  | start found => exact askable _ found
  | member visits opens inClass found inductionHypothesis =>
      obtain ⟨python, isOpen, _⟩ := opens_class accurate opens inductionHypothesis
      obtain ⟨other, resolved, askable, _⟩ := accurate.attributes _ python isOpen _ inClass
      obtain rfl := Option.some.inj (found.symm.trans resolved)
      exact askable

/-- Nothing that the query leads to has a name that is not declared for the class whose members
it is asked for. -/
theorem mayGet_declares (accurate : start.Accurate code declared)
    (askable : code.MayAsk asked)
    (within : ∀ value name, code.resolve asked = some value →
      start.Runs code declared value name → start.Declares code declared cls name)
    {name : String} (mayGet : start.MayGet code declared asked name) :
    start.Declares code declared cls name := by
  obtain ⟨value, visits, runs⟩ := mayGet
  induction visits with
  | start found => exact within _ name found runs
  | member visits opens inClass found inductionHypothesis =>
      have holds := visits_askable accurate askable visits
      obtain ⟨python, isOpen, _, same⟩ := opens_class accurate opens holds
      obtain ⟨other, resolved, _, harmless⟩ := accurate.attributes _ python isOpen _ inClass
      obtain rfl := Option.some.inj (found.symm.trans resolved)
      exact inductionHypothesis ((same name).mpr (harmless name runs))

/-! ### What is found along the way -/

theorem State.Course.kept_none (course : start.Course code declared asked state)
    (absent : state.kept (.cls cls) = none) : start.kept (.cls cls) = none := by
  rcases course.classes cls with same | searching | ⟨_, finished, _⟩
  · rw [← same]
    exact absent
  · rw [absent] at searching
    cases searching
  · rw [absent] at finished
    cases finished

theorem State.Course.reaches (course : start.Course code declared asked state) {base : Cls}
    (reaches : LookupReaches (code.mro cls) (fun cls => state.kept (.cls cls)) base) :
    LookupReaches (code.mro cls) (fun cls => start.kept (.cls cls)) base :=
  reaches.mono fun _ absent => course.kept_none absent

/-- What is still open was open at the start, with the same names. -/
theorem State.Course.getattr_of_open (course : start.Course code declared asked state)
    (isOpen : state.Open code (.cls cls)) :
    state.getattr code (.cls cls) = start.getattr code (.cls cls) := by
  cases found : state.getattr code (.cls cls) with
  | none =>
      refine (getAttribute_eq_none.mpr fun base inMro => course.kept_none ?_).symm
      exact getAttribute_eq_none.mp found base inMro
  | some kept =>
      obtain ⟨base, reaches, has⟩ := exists_lookupReaches found
      refine ((course.reaches reaches).getAttribute_eq ?_).symm
      rcases course.classes base with same | searching | ⟨names, finished, _⟩
      · exact same.symm.trans has
      · obtain rfl := Option.some.inj (has.symm.trans searching)
        exact absurd found (isOpen _)
      · obtain rfl := Option.some.inj (has.symm.trans finished)
        exact absurd found (isOpen _)

theorem State.Course.names (course : start.Course code declared asked state)
    (kept : Option Kept) : state.names kept = start.names kept := by
  unfold State.names
  rw [course.sets]

/-- A tuple that a class finds has no names but those that are declared for the class, if the
query fits. -/
theorem State.Course.found_names (course : start.Course code declared asked state)
    (accurate : start.Accurate code declared) (python : code.builtin cls = false)
    {names : List String} (found : state.getattr code (.cls cls) = some (.tuple names))
    {name : String} (member : name ∈ names) :
    (start.Declares code declared cls name ∨ start.MayGet code declared asked name) ∧
      (start.QueryFits code declared asked → start.Declares code declared cls name) := by
  obtain ⟨base, reaches, has⟩ := exists_lookupReaches found
  have reached := course.reaches reaches
  rcases course.classes base with same | searching | ⟨others, finished, reads, mayGet, right⟩
  · have old := reached.getAttribute_eq (same.symm.trans has)
    have declares := ((accurate.frozen cls python names old).2 name).mp member
    exact ⟨.inl declares, fun _ => declares⟩
  · obtain rfl := Kept.tuple.inj (Option.some.inj (has.symm.trans searching))
    cases member
  · obtain rfl := Kept.tuple.inj (Option.some.inj (has.symm.trans finished))
    refine ⟨.inr (mayGet name member), fun fits => ?_⟩
    obtain ⟨holder, visits, opens⟩ := reads
    exact (fits.classes holder base visits opens cls python reached name).mpr
      (((right fits).2 name).mp member)

/-- A built-in class has no names. -/
theorem State.Course.found_builtin (course : start.Course code declared asked state)
    (accurate : start.Accurate code declared)
    (askable : code.MayAsk asked)
    (builtin : code.builtin cls = true) {names : List String}
    (found : state.getattr code (.cls cls) = some (.tuple names)) : names = [] := by
  obtain ⟨base, reaches, has⟩ := exists_lookupReaches found
  have builtinBase : code.builtin base = true := by
    rcases List.mem_cons.mp reaches.mem with rfl | inBases
    · exact builtin
    · exact code.builtin_bases cls builtin base inBases
  rcases course.classes base with same | searching | ⟨_, _, ⟨holder, visits, opens⟩, _⟩
  · rw [same, accurate.builtins base builtinBase] at has
    cases has
  · exact Kept.tuple.inj (Option.some.inj (has.symm.trans searching))
  · obtain ⟨python, _⟩ := opens_class accurate opens (visits_askable accurate askable visits)
    rw [builtinBase] at python
    cases python

theorem State.Course.searched (course : start.Course code declared asked state) :
    state.searched code cls = start.searched code cls := by
  unfold State.searched
  rw [course.dict]

omit [DecidableEq Cls] in
theorem direct_resolve {member value : Value Cls Func Obj}
    (found : code.resolve member = some value) {name : String}
    (has : name ∈ start.direct member) : name ∈ start.direct value := by
  cases member with
  | text text => cases has
  | operation operation =>
      unfold Code.resolve at found
      simp only at found
      split at found
      · cases found
        exact has
      · cases found
  | held holder =>
      unfold Code.resolve at found
      simp only at found
      split at found
      · cases found
        exact has
      · cases found

/-! ### The answers -/

section Answers

variable [DecidableEq Func] [DecidableEq Obj]

/-- How a part of the query answers: with names that the value runs, if the query fits, and
with those that it has itself. -/
def State.Replies (code : Code Cls Func Obj) (start : State Cls Func Obj)
    (declared : Declared Cls Func Obj) (asked value : Value Cls Func Obj)
    (before : State Cls Func Obj) (answer : Answer Cls Func Obj (List String)) : Prop :=
  ∃ after names, answer = (after, .ok names) ∧ start.Goes code declared asked before after ∧
    (∀ name ∈ names, start.MayGet code declared asked name ∧
      (start.QueryFits code declared asked → start.Runs code declared value name)) ∧
    ∀ name ∈ start.direct value, name ∈ names

/-- How the parts of the query answer when few enough classes and objects are left. -/
def State.RepliesWithin [Fintype Cls] [Fintype Obj] (code : Code Cls Func Obj)
    (start : State Cls Func Obj) (declared : Declared Cls Func Obj) (asked : Value Cls Func Obj)
    (ask : State Cls Func Obj → Value Cls Func Obj → Answer Cls Func Obj (List String))
    (depth : Nat) : Prop :=
  ∀ state member value, start.Course code declared asked state → state.unsettled < depth →
    code.resolve member = some value → start.Visits code asked value →
    start.Replies code declared asked value state (ask state member)

/-- While the members of a class are searched, its attribute is an empty tuple. -/
theorem State.Course.begin (course : start.Course code declared asked state)
    {holder : Holder Cls Func Obj} (visits : start.Visits code asked (.held holder))
    (opens : start.Opens code holder cls) :
    start.Course code declared asked (state.setattr holder (.tuple [])) := by
  have isClass : ∀ function, holder ≠ .function function := by
    rintro function rfl
    cases opens.2.2
  refine ⟨course.dict, course.sets, fun function => ?_, fun function id => ?_, fun object => ?_,
    fun other => ?_⟩
  · rw [kept_setattr, if_neg (isClass function).symm]
    exact course.functions function
  · rw [kept_setattr, if_neg (isClass function).symm]
    exact course.functionSets function id
  · rw [kept_setattr]
    split
    · rename_i same
      subst same
      obtain rfl := Option.some.inj opens.2.2
      exact .inr ⟨rfl, visits, opens⟩
    · exact course.objects object
  · by_cases same : Holder.cls other = holder
    · rw [kept_setattr, if_pos same]
      exact .inr (.inl rfl)
    · have kept : (state.setattr holder (.tuple [])).kept (.cls other) =
          state.kept (.cls other) := by
        rw [kept_setattr, if_neg same]
      rw [kept]
      exact (course.classes other).imp_right fun rest =>
        rest.imp_right fun finished => finished.of_kept kept

/-- A class whose names are right may be frozen. -/
theorem State.Course.finish (course : start.Course code declared asked state)
    (reads : start.Reads code asked cls) {names : List String}
    (mayGet : ∀ name ∈ names, start.MayGet code declared asked name)
    (right : start.QueryFits code declared asked →
      Answers names (start.Declares code declared cls)) :
    start.Goes code declared asked state (state.setattr (.cls cls) (.tuple names)) ∧
      start.Finished code declared asked (state.setattr (.cls cls) (.tuple names)) cls := by
  have finished : start.Finished code declared asked
      (state.setattr (.cls cls) (.tuple names)) cls :=
    ⟨names, by rw [kept_setattr, if_pos rfl], reads, mayGet, right⟩
  have others : ∀ other, (state.setattr (.cls cls) (.tuple names)).kept (.cls other) =
      state.kept (.cls other) ∨
      start.Finished code declared asked (state.setattr (.cls cls) (.tuple names)) other := by
    intro other
    by_cases same : other = cls
    · subst same
      exact .inr finished
    · exact .inl (by rw [kept_setattr, if_neg (by simpa using same)])
  refine ⟨⟨⟨course.dict, course.sets, fun function => ?_, fun function id => ?_, fun object => ?_,
    fun other => ?_⟩, others, fun object present => ?_⟩, finished⟩
  · rw [kept_setattr, if_neg (by simp)]
    exact course.functions function
  · rw [kept_setattr, if_neg (by simp)]
    exact course.functionSets function id
  · rw [kept_setattr, if_neg (by simp)]
    exact course.objects object
  · rcases others other with same | finished
    · rw [same]
      exact (course.classes other).imp_right fun rest =>
        rest.imp_right fun finished => finished.of_kept same
    · exact .inr (.inr finished)
  · rw [kept_setattr, if_neg (by simp)]
    exact present

/-- A function gives its own names, and keeps them. -/
theorem State.Course.finish_function (course : start.Course code declared asked state)
    {function : Func} :
    start.Goes code declared asked state (state.setattr (.function function)
      (.tuple (state.names (state.kept (.function function))).sort)) := by
  have classes : ∀ other, (state.setattr (.function function)
      (.tuple (state.names (state.kept (.function function))).sort)).kept (.cls other) =
      state.kept (.cls other) := by
    intro other
    rw [kept_setattr, if_neg (by simp)]
  refine ⟨⟨course.dict, course.sets, fun other => ?_, fun other id => ?_, fun object => ?_,
    fun other => ?_⟩, fun other => .inl (classes other), fun object present => ?_⟩
  · rw [kept_setattr]
    split
    · rename_i same
      cases same
      rw [← course.functions function]
      exact Finset.sort_toFinset _ _
    · exact course.functions other
  · rw [kept_setattr]
    split
    · exact fun set => by cases set
    · exact course.functionSets other id
  · rw [kept_setattr, if_neg (by simp)]
    exact course.objects object
  · rw [classes]
    exact (course.classes other).imp_right fun rest =>
      rest.imp_right fun finished => finished.of_kept (classes other)
  · rw [kept_setattr, if_neg (by simp)]
    exact present

variable {ask : State Cls Func Obj → Value Cls Func Obj → Answer Cls Func Obj (List String)}
  [Fintype Cls] [Fintype Obj] {depth : Nat}

omit [DecidableEq Func] [DecidableEq Obj] in
theorem askMembers_replies
    (asks : start.RepliesWithin code declared asked ask depth)
    (members : List (Value Cls Func Obj))
    (visits : ∀ member ∈ members, ∃ value, code.resolve member = some value ∧
      start.Visits code asked value)
    (state : State Cls Func Obj) (course : start.Course code declared asked state)
    (enough : state.unsettled < depth) :
    ∃ after names, askMembers ask state members = (after, .ok names) ∧
      start.Goes code declared asked state after ∧
      (∀ name ∈ names, start.MayGet code declared asked name ∧
        (start.QueryFits code declared asked → ∃ member ∈ members, ∃ value,
          code.resolve member = some value ∧ start.Runs code declared value name)) ∧
      ∀ member ∈ members, ∀ name ∈ start.direct member, name ∈ names := by
  induction members generalizing state with
  | nil => exact ⟨state, ∅, rfl, course.goes_self, by simp, by simp⟩
  | cons head tail inductionHypothesis =>
      obtain ⟨value, found, visited⟩ := visits head List.mem_cons_self
      obtain ⟨middle, names, answer, goes, sound, complete⟩ :=
        asks state head value course enough found visited
      obtain ⟨after, more, later, goesOn, soundLater, completeLater⟩ :=
        inductionHypothesis (fun member inTail => visits member (List.mem_cons_of_mem _ inTail))
          middle goes.course (Nat.lt_of_le_of_lt goes.unsettled_le enough)
      refine ⟨after, names.toFinset ∪ more, ?_, goes.trans goesOn, fun name member => ?_,
        fun member inMembers name has => ?_⟩
      · simp only [askMembers, answer, later]
      · rcases Finset.mem_union.mp member with here | there
        · obtain ⟨mayGet, runs⟩ := sound name (List.mem_toFinset.mp here)
          exact ⟨mayGet, fun fits => ⟨head, List.mem_cons_self, value, found, runs fits⟩⟩
        · obtain ⟨mayGet, runs⟩ := soundLater name there
          refine ⟨mayGet, fun fits => ?_⟩
          obtain ⟨member, inTail, rest⟩ := runs fits
          exact ⟨member, List.mem_cons_of_mem _ inTail, rest⟩
      · rcases List.mem_cons.mp inMembers with rfl | inTail
        · exact Finset.mem_union_left _
            (List.mem_toFinset.mpr (complete name (direct_resolve found has)))
        · exact Finset.mem_union_right _ (completeLater member inTail name has)

omit [DecidableEq Func] [DecidableEq Obj] [Fintype Cls] [Fintype Obj] in
/-- The names that a class has by itself and those that its members give are the declared ones,
and no others if the query fits. -/
theorem search_names (accurate : start.Accurate code declared)
    (askable : code.MayAsk asked) {holder : Holder Cls Func Obj}
    (visits : start.Visits code asked (.held holder)) (opens : start.Opens code holder cls)
    {more : Finset String}
    (sound : ∀ name ∈ more, start.MayGet code declared asked name ∧
      (start.QueryFits code declared asked → ∃ member ∈ start.searched code cls, ∃ value,
        code.resolve member = some value ∧ start.Runs code declared value name))
    (complete : ∀ member ∈ start.searched code cls, ∀ name ∈ start.direct member, name ∈ more)
    (name : String) :
    (name ∈ start.names (start.getattr code holder) ∪ more →
      start.MayGet code declared asked name) ∧
    (start.Declares code declared cls name →
      name ∈ start.names (start.getattr code holder) ∪ more) ∧
    (start.QueryFits code declared asked →
      name ∈ start.names (start.getattr code holder) ∪ more →
      start.Declares code declared cls name) := by
  obtain ⟨python, isOpen, same, runs⟩ :=
    opens_class accurate opens (visits_askable accurate askable visits)
  have contents := accurate.contents cls python isOpen name
  rw [← same] at contents
  have own : name ∈ start.names (start.getattr code holder) →
      start.Declares code declared cls name := fun member => contents.mpr (.inl member)
  refine ⟨fun member => ?_, fun declares => ?_, fun fits member => ?_⟩
  · rcases Finset.mem_union.mp member with here | there
    · exact ⟨_, visits, (runs name).mpr (own here)⟩
    · exact (sound name there).1
  · rcases contents.mp declares with here | ⟨member, inClass, has⟩
    · exact Finset.mem_union_left _ here
    · exact Finset.mem_union_right _ (complete member inClass name has)
  · rcases Finset.mem_union.mp member with here | there
    · exact own here
    · obtain ⟨member, inClass, value, found, has⟩ := (sound name there).2 fits
      obtain ⟨other, resolved, _, harmless⟩ :=
        accurate.attributes cls python isOpen member inClass
      obtain rfl := Option.some.inj (found.symm.trans resolved)
      exact harmless name has

/-- The search of a class gives the names that are declared for it and what the query gets from
its other members, and freezes the names of the class. -/
theorem discover_replies (accurate : start.Accurate code declared)
    (askable : code.MayAsk asked)
    (asks : start.RepliesWithin code declared asked ask depth)
    {holder : Holder Cls Func Obj} (visits : start.Visits code asked (.held holder))
    (opens : start.Opens code holder cls) (course : start.Course code declared asked state)
    (enough : state.unsettled < depth) :
    ∃ after names, code.discover ask state holder (start.names (start.getattr code holder)) =
        (after, .ok names) ∧
      start.Goes code declared asked state after ∧
      start.Finished code declared asked after cls ∧
      names.Pairwise (· < ·) ∧ (∀ name ∈ names, start.MayGet code declared asked name) ∧
      (∀ name, start.Declares code declared cls name → name ∈ names) ∧
      (start.QueryFits code declared asked →
        Answers names (start.Declares code declared cls)) := by
  obtain ⟨python, isOpen, _⟩ :=
    opens_class accurate opens (visits_askable accurate askable visits)
  have visited : ∀ member ∈ start.searched code cls, ∃ value,
      code.resolve member = some value ∧ start.Visits code asked value := by
    intro member inClass
    obtain ⟨value, found, _⟩ := accurate.attributes cls python isOpen member inClass
    exact ⟨value, found, .member visits opens inClass found⟩
  obtain ⟨middle, more, answer, goes, sound, complete⟩ :=
    askMembers_replies asks (start.searched code cls) visited state course enough
  have found := search_names accurate askable visits opens sound complete
  let names := start.names (start.getattr code holder) ∪ more
  have gets : ∀ name ∈ names.sort, start.MayGet code declared asked name :=
    fun name member => (found name).1 ((Finset.mem_sort _).mp member)
  have right : start.QueryFits code declared asked →
      Answers names.sort (start.Declares code declared cls) :=
    fun fits => answers_sort fun name => ⟨(found name).2.2 fits, (found name).2.1⟩
  obtain ⟨finishes, finished⟩ := goes.course.finish ⟨holder, visits, opens⟩ gets right
  refine ⟨_, names.sort, ?_, goes.trans finishes, finished, names.sortedLT_sort.pairwise, gets,
    fun name declares => (Finset.mem_sort _).mpr ((found name).2.1 declares), right⟩
  have accepts : code.refusal (Holder.cls cls : Holder Cls Func Obj) = none := by
    simp [Code.refusal, python]
  unfold Code.discover
  rw [opens.2.2]
  simp only [course.searched, answer]
  unfold Code.freeze
  rw [accepts]

omit [DecidableEq Func] [DecidableEq Obj] [Fintype Cls] [Fintype Obj] in
theorem State.Course.kept_object (course : start.Course code declared asked state)
    (accurate : start.Accurate code declared) {kept : Kept}
    (present : state.kept (.object object) = some kept) : kept = .tuple [] := by
  rcases course.objects object with same | ⟨searching, _⟩
  · exact accurate.objects object kept (same.symm.trans present)
  · exact Option.some.inj (present.symm.trans searching)

omit [DecidableEq Func] [DecidableEq Obj] [Fintype Cls] [Fintype Obj] in
theorem State.Course.object_none (course : start.Course code declared asked state)
    (absent : state.kept (.object object) = none) : start.kept (.object object) = none := by
  rcases course.objects object with same | ⟨searching, _⟩
  · exact same.symm.trans absent
  · rw [absent] at searching
    cases searching

omit [DecidableEq Func] [DecidableEq Obj] [Fintype Cls] [Fintype Obj] in
theorem State.Course.object_of_open (course : start.Course code declared asked state)
    (accurate : start.Accurate code declared) (isOpen : state.Open code (.object object)) :
    state.kept (.object object) = none := by
  cases present : state.kept (.object object) with
  | none => rfl
  | some kept =>
      obtain rfl := course.kept_object accurate present
      exact absurd (by simp [State.getattr, present]) (isOpen [])

omit [DecidableEq Func] [DecidableEq Obj] [Fintype Cls] [Fintype Obj] in
/-- What is searched now could be searched at the start, with the same names. -/
theorem State.Course.opens (course : start.Course code declared asked state)
    (accurate : start.Accurate code declared) {holder : Holder Cls Func Obj}
    (opens : state.Opens code holder cls) :
    start.Opens code holder cls ∧ state.getattr code holder = start.getattr code holder := by
  obtain ⟨isOpen, accepts, ofClass⟩ := opens
  have same : state.getattr code holder = start.getattr code holder := by
    cases holder with
    | cls other => exact course.getattr_of_open isOpen
    | function function => cases ofClass
    | object object =>
        have now := course.object_of_open accurate isOpen
        have before := course.object_none now
        have classOpen : state.Open code (.cls (code.typeOf object)) := by
          intro names found
          exact isOpen names (by simpa [State.getattr, now] using found)
        simpa [State.getattr, now, before] using course.getattr_of_open classOpen
  exact ⟨⟨isOpen.of_eq same, accepts, ofClass⟩, same⟩

/-- The search of a holder, from the moment that its own attribute is frozen. -/
theorem opened_replies (accurate : start.Accurate code declared)
    (askable : code.MayAsk asked)
    (asks : start.RepliesWithin code declared asked ask depth)
    {holder : Holder Cls Func Obj} (visits : start.Visits code asked (.held holder))
    (opens : state.Opens code holder cls) (course : start.Course code declared asked state)
    (enough : state.unsettled < depth + 1) :
    ∃ after names, code.discover ask (state.setattr holder (.tuple [])) holder
        (state.names (state.getattr code holder)) = (after, .ok names) ∧
      start.Goes code declared asked state after ∧
      names.Pairwise (· < ·) ∧ (∀ name ∈ names, start.MayGet code declared asked name) ∧
      (∀ name, start.Declares code declared cls name → name ∈ names) ∧
      (start.QueryFits code declared asked →
        Answers names (start.Declares code declared cls)) := by
  obtain ⟨opensStart, same⟩ := course.opens accurate opens
  have sameNames : state.names (state.getattr code holder) =
      start.names (start.getattr code holder) := by
    rw [same, course.names]
  have fewer : (state.setattr holder (.tuple [])).unsettled < state.unsettled := by
    cases holder with
    | cls other =>
        refine unsettled_setattr_class (Bool.eq_false_iff.mpr fun settled => ?_)
        cases kept : state.kept (.cls other) with
        | none => simp [kept, frozen] at settled
        | some value =>
            cases value with
            | set id => simp [kept, frozen] at settled
            | tuple names =>
                exact opens.1 names (lookupReaches_self.getAttribute_eq kept)
    | function function => cases opens.2.2
    | object object =>
        exact unsettled_setattr_object (course.object_of_open accurate opens.1)
  obtain ⟨after, names, answer, goes, finished, sorted, rest⟩ := discover_replies accurate askable
    asks visits opensStart (course.begin visits opensStart)
    (Nat.lt_of_lt_of_le fewer (Nat.le_of_lt_succ enough))
  rw [← sameNames] at answer
  refine ⟨after, names, answer, ⟨goes.course, fun other => ?_, fun object present => ?_⟩, sorted,
    rest⟩
  · by_cases here : Holder.cls other = holder
    · subst here
      obtain rfl := Option.some.inj opens.2.2
      exact .inr finished
    · have kept := goes.classes other
      rwa [kept_setattr, if_neg here] at kept
  · refine goes.objects object ?_
    rw [kept_setattr]
    split
    · simp
    · exact present

omit [Fintype Cls] [Fintype Obj] [DecidableEq Func] [DecidableEq Obj] in
/-- A holder that is frozen answers at once. -/
theorem found_replies (accurate : start.Accurate code declared)
    (askable : code.MayAsk asked)
    {holder : Holder Cls Func Obj} (visits : start.Visits code asked (.held holder))
    (course : start.Course code declared asked state) {names : List String}
    (found : state.getattr code holder = some (.tuple names)) :
    start.Replies code declared asked (.held holder) state (state, .ok names) := by
  have mayAsk := visits_askable accurate askable visits
  refine ⟨state, names, rfl, course.goes_self, fun name member => ?_, fun name has => ?_⟩
  · cases holder with
    | function function =>
        have own := course.functions function
        have kept : state.kept (.function function) = some (.tuple names) := found
        rw [kept] at own
        have runs : start.Runs code declared (.held (.function function)) name := by
          rw [State.Runs, ← own]
          exact List.mem_toFinset.mpr member
        exact ⟨⟨_, visits, runs⟩, fun _ => runs⟩
    | cls cls =>
        obtain ⟨possible, right⟩ := course.found_names accurate mayAsk found member
        exact ⟨possible.elim (fun declares => ⟨_, visits, declares⟩) id, right⟩
    | object object =>
        cases kept : state.kept (.object object) with
        | some other =>
            obtain rfl := course.kept_object accurate kept
            have own : state.getattr code (.object object) = some (.tuple []) := by
              simp [State.getattr, kept]
            obtain rfl := Kept.tuple.inj (Option.some.inj (own.symm.trans found))
            cases member
        | none =>
            have before := course.object_none kept
            have classFound : state.getattr code (.cls (code.typeOf object)) =
                some (.tuple names) := by
              simpa [State.getattr, kept] using found
            cases python : code.builtin (code.typeOf object) with
            | true =>
                obtain rfl := course.found_builtin accurate askable python classFound
                cases member
            | false =>
                obtain ⟨possible, right⟩ :=
                  course.found_names accurate python classFound member
                exact ⟨possible.elim (fun declares => ⟨_, visits, before, python, declares⟩) id,
                  fun fits => ⟨before, python, right fits⟩⟩
  · cases holder with
    | function function =>
        have own := course.functions function
        have kept : state.kept (.function function) = some (.tuple names) := found
        rw [kept] at own
        rw [State.direct, ← own] at has
        exact List.mem_toFinset.mp has
    | cls cls => cases has
    | object object => cases has

omit [Fintype Cls] [Fintype Obj] in
/-- A function answers with its own names. -/
theorem function_replies {function : Func}
    (visits : start.Visits code asked (.held (.function function)))
    (course : start.Course code declared asked state) :
    start.Replies code declared asked (.held (.function function)) state
      (code.discover ask (state.setattr (.function function) (.tuple [])) (.function function)
        (state.names (state.kept (.function function)))) := by
  have own := course.functions function
  refine ⟨_, _, rfl, ?_, fun name member => ?_, fun name has => ?_⟩
  · rw [setattr_setattr]
    exact course.finish_function
  · have runs : start.Runs code declared (.held (.function function)) name := by
      rw [State.Runs, ← own]
      exact (Finset.mem_sort _).mp member
    exact ⟨⟨_, visits, runs⟩, fun _ => runs⟩
  · rw [State.direct, ← own] at has
    exact (Finset.mem_sort _).mpr has

theorem askHolder_replies (accurate : start.Accurate code declared)
    (askable : code.MayAsk asked)
    (asks : start.RepliesWithin code declared asked ask depth)
    {holder : Holder Cls Func Obj} (visits : start.Visits code asked (.held holder))
    (course : start.Course code declared asked state) (enough : state.unsettled < depth + 1) :
    start.Replies code declared asked (.held holder) state (code.askHolder ask state holder) := by
  have mayAsk := visits_askable accurate askable visits
  have searches : ∀ cls, code.classOf holder = some cls → state.Open code holder →
      code.refusal holder = none → start.Replies code declared asked (.held holder) state
        (code.discover ask (state.setattr holder (.tuple [])) holder
          (state.names (state.getattr code holder))) := by
    intro cls ofClass isOpen accepts
    have opens : state.Opens code holder cls := ⟨isOpen, accepts, ofClass⟩
    obtain ⟨after, names, answer, goes, _, mayGet, _, right⟩ :=
      opened_replies accurate askable asks visits opens course enough
    obtain ⟨_, _, _, runs⟩ := opens_class accurate (course.opens accurate opens).1 mayAsk
    refine ⟨after, names, answer, goes, fun name member => ⟨mayGet name member, fun fits => ?_⟩, ?_⟩
    · exact (runs name).mpr (((right fits).2 name).mp member)
    · cases holder with
      | cls cls => simp [State.direct]
      | function function => cases ofClass
      | object object => simp [State.direct]
  unfold Code.askHolder
  split
  · rename_i names found
    exact found_replies accurate askable visits course found
  · rename_i isOpen
    split
    · rename_i refused
      refine ⟨state, [], rfl, course.goes_self, by simp, ?_⟩
      cases holder with
      | cls cls => simp [State.direct]
      | function function => cases refused
      | object object => simp [State.direct]
    · rename_i refused
      cases holder with
      | cls cls =>
          have python : code.builtin cls = false := mayAsk
          simp [Code.refusal, python] at refused
      | function function => cases refused
      | object object =>
          unfold Code.refusal at refused
          simp only at refused
          split at refused
          · cases refused
          · cases refused
    · rename_i accepts
      cases holder with
      | cls cls => exact searches cls rfl isOpen accepts
      | function function =>
          exact function_replies visits course
      | object object => exact searches (code.typeOf object) rfl isOpen accepts

theorem askWithin_replies (accurate : start.Accurate code declared)
    (askable : code.MayAsk asked) (depth : Nat) :
    start.RepliesWithin code declared asked (code.askWithin depth) depth := by
  induction depth with
  | zero =>
      intro state member value course enough
      exact absurd enough (Nat.not_lt_zero _)
  | succ depth inductionHypothesis =>
      intro state member value course enough found visits
      unfold Code.askWithin Code.askValue
      rw [found]
      cases value with
      | operation name =>
          have runs : start.Runs code declared (.operation name) name := rfl
          refine ⟨state, [name], rfl, course.goes_self, fun other member => ?_,
            fun other has => ?_⟩
          · obtain rfl := List.mem_singleton.mp member
            exact ⟨⟨_, visits, runs⟩, fun _ => runs⟩
          · exact List.mem_singleton.mpr (Finset.mem_singleton.mp has)
      | text text => exact ⟨state, [], rfl, course.goes_self, by simp, by simp [State.direct]⟩
      | held holder =>
          exact askHolder_replies accurate askable inductionHypothesis visits course enough

end Answers

end Query

end Tobiko.Common.RunsOperations
