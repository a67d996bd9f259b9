import Tobiko.Common.Operation.Discovery

/-!
Contract: queries of `get_runs_operation_names` in a state whose attributes are accurate.

Owns: that every class and every instance of a class is answered with the declared names, and
that a query that fits the hierarchy keeps the state accurate.

Does not own: which declarations keep a state accurate.
-/

namespace Tobiko.Common.RunsOperations

open Tobiko.Foundation

section Queries

variable {Cls Func Obj : Type} [DecidableEq Cls] [DecidableEq Func] [DecidableEq Obj]
  {code : Code Cls Func Obj} {start state : State Cls Func Obj}
  {declared : Declared Cls Func Obj} {asked : Value Cls Func Obj} {cls : Cls} {object : Obj}
  {ask : State Cls Func Obj → Value Cls Func Obj → Answer Cls Func Obj (List String)}
  [Fintype Cls] [Fintype Obj]

omit [DecidableEq Cls] [DecidableEq Func] [DecidableEq Obj] in
theorem unsettled_le_card : state.unsettled ≤ Fintype.card Cls + Fintype.card Obj :=
  Nat.add_le_add (Finset.card_le_univ _) (Finset.card_le_univ _)

omit [DecidableEq Cls] [DecidableEq Func] [DecidableEq Obj] [Fintype Cls] [Fintype Obj] in
theorem resolve_held {holder : Holder Cls Func Obj} (named : code.named (.held holder) = true) :
    code.resolve (.held holder) = some (.held holder) := by
  simp [Code.resolve, named]

theorem getRunsOperationNames_held {holder : Holder Cls Func Obj}
    (named : code.named (.held holder) = true) :
    code.getRunsOperationNames state (.held holder) =
      code.askHolder (code.askWithin (Fintype.card Cls + Fintype.card Obj)) state holder := by
  unfold Code.getRunsOperationNames Code.askWithin Code.askValue
  rw [resolve_held named]

omit [Fintype Cls] [Fintype Obj] in
theorem askHolder_tuple {holder : Holder Cls Func Obj} {names : List String}
    (found : state.getattr code holder = some (.tuple names)) :
    code.askHolder ask state holder = (state, .ok names) := by
  unfold Code.askHolder
  rw [found]

omit [Fintype Cls] [Fintype Obj] in
theorem askHolder_open {holder : Holder Cls Func Obj} (isOpen : state.Open code holder)
    (accepts : code.refusal holder = none) :
    code.askHolder ask state holder = code.discover ask (state.setattr holder (.tuple [])) holder
      (state.names (state.getattr code holder)) := by
  unfold Code.askHolder
  split
  · rename_i names found
    exact absurd found (isOpen names)
  · rw [accepts]

/-! ### Accurate states -/

/-- A class, or an object of a class, whose names are not frozen is answered with the declared
names. -/
theorem open_answers (accurate : state.Accurate code declared) {holder : Holder Cls Func Obj}
    (opens : state.Opens code holder cls) (askable : code.Askable (.held holder))
    (named : code.named (.held holder) = true) :
    ∃ names, Answers names (state.Declares code declared cls) ∧
      (code.getRunsOperationNames state (.held holder)).2 = .ok names := by
  have onlyHolder : ∀ value, code.resolve (.held holder) = some value → value = .held holder :=
    fun value found => Option.some.inj (found.symm.trans (resolve_held named))
  have mayAsk : code.MayAsk (.held holder) := by
    intro value found
    rw [onlyHolder value found]
    exact askable
  obtain ⟨_, _, _, runs⟩ := opens_class accurate opens askable
  obtain ⟨after, names, answer, _, sorted, mayGet, complete, _⟩ := opened_replies accurate mayAsk
    (askWithin_replies accurate mayAsk _) (.start (resolve_held named)) opens .start_self
    (Nat.lt_succ_of_le unsettled_le_card)
  refine ⟨names, ⟨sorted, fun name => ⟨fun member => ?_, complete name⟩⟩, ?_⟩
  · refine mayGet_declares accurate mayAsk (fun value other found has => ?_) (mayGet name member)
    rw [onlyHolder value found] at has
    exact (runs other).mp has
  · rw [getRunsOperationNames_held named, askHolder_open opens.1 opens.2.1, answer]

theorem class_answers (accurate : state.Accurate code declared)
    (python : code.builtin cls = false) :
    ∃ names, Answers names (state.Declares code declared cls) ∧
      (code.getRunsOperationNames state (.held (.cls cls))).2 = .ok names := by
  have named := accurate.namedClasses cls python
  by_cases isOpen : state.Open code (.cls cls)
  · exact open_answers accurate ⟨isOpen, by simp [Code.refusal, python], rfl⟩ python named
  · obtain ⟨names, found⟩ := not_open isOpen
    refine ⟨names, accurate.frozen cls python names found, ?_⟩
    rw [getRunsOperationNames_held named, askHolder_tuple found]

theorem object_answers (accurate : state.Accurate code declared)
    (python : code.builtin (code.typeOf object) = false) :
    ∃ names, Answers names (state.Declares code declared (code.typeOf object)) ∧
      (code.getRunsOperationNames state (.held (.object object))).2 = .ok names := by
  have named := accurate.namedObjects object python
  rw [getRunsOperationNames_held named]
  cases kept : state.kept (.object object) with
  | some attribute' =>
      obtain rfl := accurate.objects object attribute' kept
      have nothing := accurate.instances object python (.inl (by simp [kept]))
      have found : state.getattr code (.object object) = some (.tuple []) := by
        simp [State.getattr, kept]
      rw [askHolder_tuple found]
      exact ⟨[], ⟨.nil, by simpa using nothing⟩, rfl⟩
  | none =>
      have same : state.getattr code (.object object) =
          state.getattr code (.cls (code.typeOf object)) := by
        simp [State.getattr, kept]
      by_cases isOpen : state.Open code (.cls (code.typeOf object))
      · have objectOpen : state.Open code (.object object) := isOpen.of_eq same.symm
        cases slots : code.slotted object with
        | true =>
            have nothing := accurate.instances object python (.inr ⟨slots, isOpen⟩)
            refine ⟨[], ⟨.nil, by simpa using nothing⟩, ?_⟩
            unfold Code.askHolder
            split
            · rename_i names found
              exact absurd found (objectOpen names)
            · simp [Code.refusal, slots]
        | false =>
            rw [← getRunsOperationNames_held named]
            exact open_answers accurate ⟨objectOpen, by simp [Code.refusal, slots], rfl⟩
              (.inl python) named
      · obtain ⟨names, found⟩ := not_open isOpen
        refine ⟨names, accurate.frozen _ python names found, ?_⟩
        rw [askHolder_tuple (same.trans found)]

/-- **In an accurate state every class and every instance is answered with the declared
names.** -/
theorem State.Accurate.answered (accurate : state.Accurate code declared) :
    state.Answered code declared := by
  intro cls python
  obtain ⟨names, answers, result⟩ := class_answers accurate python
  refine ⟨names, answers, result, fun object instanceOf => ?_⟩
  subst instanceOf
  obtain ⟨others, same, result⟩ := object_answers accurate python
  rw [result, same.unique answers]

omit [DecidableEq Func] [DecidableEq Obj] [Fintype Cls] [Fintype Obj] in
/-- The query makes no sets. -/
theorem State.Goes.kept_set {after : State Cls Func Obj}
    (goes : start.Goes code declared asked start after) (accurate : start.Accurate code declared)
    {holder : Holder Cls Func Obj} {id : Nat} (has : after.kept holder = some (.set id)) :
    start.kept holder = some (.set id) := by
  cases holder with
  | cls cls =>
      rcases goes.classes cls with same | ⟨names, finished, _⟩
      · exact same.symm.trans has
      · rw [finished] at has
        cases has
  | function function => exact goes.course.functionSets function id has
  | object object => cases goes.course.kept_object accurate has

omit [DecidableEq Func] [DecidableEq Obj] [Fintype Cls] [Fintype Obj] in
theorem State.Goes.frozen {after : State Cls Func Obj}
    (goes : start.Goes code declared asked start after) (accurate : start.Accurate code declared)
    (fits : start.QueryFits code declared asked) (python : code.builtin cls = false)
    {names : List String} (found : after.getattr code (.cls cls) = some (.tuple names)) :
    Answers names (start.Declares code declared cls) := by
  obtain ⟨base, reaches, has⟩ := exists_lookupReaches found
  have reached := goes.course.reaches reaches
  rcases goes.classes base with same | ⟨others, finished, ⟨holder, visits, opens⟩, _, right⟩
  · exact accurate.frozen cls python names (reached.getAttribute_eq (same.symm.trans has))
  · obtain rfl := Kept.tuple.inj (Option.some.inj (has.symm.trans finished))
    exact (right fits).congr fun name =>
      (fits.classes holder base visits opens cls python reached name).symm

omit [DecidableEq Func] [DecidableEq Obj] [Fintype Cls] [Fintype Obj] in
/-- What a fitting query leaves behind is accurate. -/
theorem State.Goes.accurate {after : State Cls Func Obj}
    (goes : start.Goes code declared asked start after)
    (accurate : start.Accurate code declared)
    (fits : start.QueryFits code declared asked) : after.Accurate code declared := by
  have course := goes.course
  have declares : ∀ cls name, after.Declares code declared cls name ↔
      start.Declares code declared cls name :=
    fun cls name => declares_of_dict course.dict
  have functions : ∀ function, after.names (after.kept (.function function)) =
      start.names (start.kept (.function function)) := course.functions
  have stays : ∀ cls, after.Open code (.cls cls) → start.Open code (.cls cls) :=
    fun cls isOpen => isOpen.of_eq (course.getattr_of_open isOpen)
  refine ⟨fun cls id has => ?_, fun function id has => ?_, fun object kept => ?_,
    fun cls builtin => ?_, accurate.namedClasses, accurate.namedObjects,
    fun cls python names found => ?_, fun cls python isOpen name => ?_,
    fun cls python isOpen member inClass => ?_, fun object python silent name has => ?_⟩
  · obtain ⟨inSets, only⟩ := accurate.classSets cls id (goes.kept_set accurate has)
    rw [course.sets]
    exact ⟨inSets, fun holder other => only holder (goes.kept_set accurate other)⟩
  · rw [course.sets]
    exact accurate.functionSets function id (goes.kept_set accurate has)
  · exact course.kept_object accurate
  · rcases goes.classes cls with same | ⟨_, _, ⟨holder, visits, opens⟩, _⟩
    · rw [same]
      exact accurate.builtins cls builtin
    · have python := (opens_class accurate opens
        (visits_askable accurate fits.askable visits)).1
      rw [builtin] at python
      cases python
  · exact (goes.frozen accurate fits python found).congr fun name => (declares cls name).symm
  · rw [declares, course.getattr_of_open isOpen, course.names, course.searched,
      accurate.contents cls python (stays cls isOpen)]
    simp only [direct_of_functions functions]
  · rw [course.searched] at inClass
    obtain ⟨value, found, askable, harmless⟩ :=
      accurate.attributes cls python (stays cls isOpen) member inClass
    refine ⟨value, found, askable, fun name runs => (declares cls name).mpr (harmless name ?_)⟩
    exact runs_of_functions functions (fun object absent => course.object_none absent)
      (fun other name => (declares other name).mp) runs
  · rw [declares] at has
    rcases silent with present | ⟨slots, isOpen⟩
    · rcases course.objects object with same | ⟨_, visits, opens⟩
      · rw [same] at present
        exact accurate.instances object python (.inl present) name has
      · exact fits.objects object visits opens name has
    · exact accurate.instances object python (.inr ⟨slots, stays _ isOpen⟩) name has

theorem query_goes (accurate : state.Accurate code declared)
    (askable : code.MayAsk asked) :
    state.Goes code declared asked state (code.getRunsOperationNames state asked).1 := by
  cases found : code.resolve asked with
  | none =>
      have same : (code.getRunsOperationNames state asked).1 = state := by
        unfold Code.getRunsOperationNames Code.askWithin Code.askValue
        rw [found]
      rw [same]
      exact State.Course.start_self.goes_self
  | some value =>
      obtain ⟨after, names, answer, goes, _⟩ := askWithin_replies accurate askable
        (Fintype.card Cls + Fintype.card Obj + 1) state asked value .start_self
        (Nat.lt_succ_of_le unsettled_le_card) found (.start found)
      unfold Code.getRunsOperationNames
      rw [answer]
      exact goes

/-- **A fitting query keeps an accurate state accurate.** -/
theorem query_accurate (accurate : state.Accurate code declared)
    (fits : state.QueryFits code declared asked) :
    (code.getRunsOperationNames state asked).1.Accurate code declared :=
  (query_goes accurate fits.askable).accurate accurate fits

end Queries

end Tobiko.Common.RunsOperations
