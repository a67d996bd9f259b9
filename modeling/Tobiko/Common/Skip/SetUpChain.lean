import Mathlib.Data.List.Induction
import Tobiko.Common.Skip.ClassDecorators

/-!
Contract: the `setUp` methods that classes have once they are decorated.

Owns: what the wrappers and the bodies make of a call, the wrappers of a class with the method
that its first decorator has found, and the classes that a method comes from.

Does not own: which method is called after another.
-/

namespace Tobiko.Common.Skip

open Tobiko.Foundation

variable {Cls Exc : Type}

/-! ### Wrappers and bodies -/

/-- The method with the wrappers around it. -/
def wrapAll (indices : List Nat) (method : Method Cls) : Method Cls :=
  indices.foldr Method.wrapper method

/-- The wrappers with the given indices around a call, the first of them outermost. -/
def checks (decorators : Nat → Decorator Exc) (indices : List Nat) (call : Outcome Cls Exc) :
    Outcome Cls Exc :=
  indices.foldr (fun index call => (decorators index).arguments.wrapper call) call

theorem run_wrapAll (decorators : Nat → Decorator Exc) (super : Cls → Outcome Cls Exc)
    (indices : List Nat) (method : Method Cls) :
    (wrapAll indices method).run decorators super =
      checks decorators indices (method.run decorators super) := by
  induction indices with
  | nil => rfl
  | cons index indices inductionHypothesis =>
      exact congrArg (decorators index).arguments.wrapper inductionHypothesis

theorem wrapper_of_not_asks {decorator : Decorator Exc} (listed : decorator.RaisesListed)
    (quiet : ¬ decorator.Asks) (call : Outcome Cls Exc) :
    decorator.arguments.wrapper call = call := by
  cases decorator with
  | skipIf predicate =>
      cases predicate with
      | raises exception => exact absurd (listed exception rfl) (by simp [Decorator.arguments])
      | returns truth =>
          cases truth with
          | true => exact absurd rfl quiet
          | false => rfl
  | skipUnless predicate =>
      cases predicate with
      | raises exception => exact absurd (listed exception rfl) (by simp [Decorator.arguments])
      | returns truth =>
          cases truth with
          | true => rfl
          | false => exact absurd rfl quiet
  | skipOnError errorType predicate =>
      cases predicate with
      | raises exception => exact absurd (listed exception rfl) quiet
      | returns truth => simp [SkipArguments.wrapper, Decorator.arguments]

theorem wrapper_of_asks {decorator : Decorator Exc} (asks : decorator.Asks)
    (call : Outcome Cls Exc) : decorator.arguments.wrapper call = ⟨[], .skipTest⟩ := by
  cases decorator with
  | skipIf predicate =>
      cases predicate with
      | raises exception => exact asks.elim
      | returns truth =>
          obtain rfl : truth = true := asks
          rfl
  | skipUnless predicate =>
      cases predicate with
      | raises exception => exact asks.elim
      | returns truth =>
          obtain rfl : truth = false := asks
          rfl
  | skipOnError errorType predicate =>
      cases predicate with
      | returns truth => exact asks.elim
      | raises exception =>
          have isListed : errorType exception = true := asks
          simp [SkipArguments.wrapper, Decorator.arguments, isListed]

section Checks

variable {decorators : Nat → Decorator Exc} {indices : List Nat}

theorem checks_of_quiet (listed : ∀ index, (decorators index).RaisesListed)
    (quiet : ∀ index ∈ indices, ¬ (decorators index).Asks) (call : Outcome Cls Exc) :
    checks decorators indices call = call := by
  induction indices with
  | nil => rfl
  | cons index indices inductionHypothesis =>
      have rest := inductionHypothesis fun other member =>
        quiet other (List.mem_cons_of_mem _ member)
      unfold checks at rest ⊢
      rw [List.foldr_cons, rest]
      exact wrapper_of_not_asks (listed index) (quiet index List.mem_cons_self) call

theorem checks_of_asks (listed : ∀ index, (decorators index).RaisesListed) {asking : Nat}
    (member : asking ∈ indices) (asks : (decorators asking).Asks) (call : Outcome Cls Exc) :
    checks decorators indices call = ⟨[], .skipTest⟩ := by
  induction indices with
  | nil => cases member
  | cons index indices inductionHypothesis =>
      unfold checks at inductionHypothesis ⊢
      rw [List.foldr_cons]
      by_cases first : (decorators index).Asks
      · exact wrapper_of_asks first _
      · have later : asking ∈ indices := by
          rcases List.mem_cons.mp member with rfl | later
          · exact absurd asks first
          · exact later
        rw [inductionHypothesis later]
        exact wrapper_of_not_asks (listed index) first _

end Checks

theorem Body.run_ended_skipTest {body : Body} {cls : Cls} {super : Outcome Cls Exc}
    (skips : (body.run cls super).ended = .skipTest) : super.ended = .skipTest := by
  cases body with
  | callsNothing => cases skips
  | callsSuper =>
      obtain ⟨events, ended⟩ := super
      cases ended <;> first | rfl | cases skips

theorem Body.run_events {body : Body} {cls : Cls} {super : Outcome Cls Exc} {event : Event Cls}
    (member : event ∈ (body.run cls super).events) : event.cls = cls ∨ event ∈ super.events := by
  cases body with
  | callsNothing =>
      simp only [Body.run, List.mem_cons, List.not_mem_nil, or_false] at member
      rcases member with rfl | rfl
      · exact .inl rfl
      · exact .inl rfl
  | callsSuper =>
      obtain ⟨events, ended⟩ := super
      cases ended <;>
        simp only [Body.run, List.mem_cons, List.mem_append, List.not_mem_nil, or_false] at member
      · rcases member with rfl | inside | rfl
        · exact .inl rfl
        · exact .inr inside
        · exact .inl rfl
      all_goals
        rcases member with rfl | inside
        · exact .inl rfl
        · exact .inr inside

theorem Body.callsSuper_run {cls : Cls} (super : Outcome Cls Exc) :
    (Body.callsSuper.run cls super).ended = super.ended ∧
      ∀ event ∈ super.events, event ∈ (Body.callsSuper.run cls super).events := by
  obtain ⟨events, ended⟩ := super
  cases ended
  · exact ⟨rfl, fun event member => List.mem_cons_of_mem _ (List.mem_append_left _ member)⟩
  all_goals exact ⟨rfl, fun event member => List.mem_cons_of_mem _ member⟩

theorem Body.enters_mem {body : Body} {cls : Cls} (super : Outcome Cls Exc) :
    .enters cls ∈ (body.run cls super).events := by
  cases body with
  | callsNothing => exact List.mem_cons_self
  | callsSuper =>
      obtain ⟨events, ended⟩ := super
      cases ended <;> exact List.mem_cons_self

section Found

variable {decorators : Nat → Decorator Exc} {attributes : Cls → Option (Method Cls)}
  {super : Cls → Outcome Cls Exc} {cls : Cls} {rest : List Cls} {method : Method Cls}

theorem runFound_cons_some (found : attributes cls = some method) :
    runFound decorators attributes super (cls :: rest) = method.run decorators super := by
  unfold runFound
  rw [getAttribute_cons, found]
  rfl

theorem runFound_cons_none (absent : attributes cls = none) :
    runFound decorators attributes super (cls :: rest) =
      runFound decorators attributes super rest := by
  unfold runFound
  rw [getAttribute_cons, absent]
  rfl

theorem runFound_some (found : getAttribute rest attributes = some method) :
    runFound decorators attributes super rest = method.run decorators super := by
  unfold runFound
  rw [found]

end Found

/-- The class whose body, or dummy, a method ends with. -/
def Method.last : Method Cls → Cls
  | .body cls _ => cls
  | .dummy cls => cls
  | .wrapper _ method => method.last

/-- The wrappers of a method. -/
def Method.indices : Method Cls → List Nat
  | .body _ _ => []
  | .dummy _ => []
  | .wrapper index method => index :: method.indices

/-- The method comes from the given classes and their decorators. -/
structure Method.From (method : Method Cls) (classes decorated : List Cls) : Prop where
  last : method.last ∈ classes
  indices : ∀ index ∈ method.indices, ∃ cls ∈ classes, decorated[index]? = some cls

theorem Method.From.append {method : Method Cls} {classes decorated : List Cls}
    (from_ : method.From classes decorated) (later : List Cls) :
    method.From classes (decorated ++ later) where
  last := from_.last
  indices index member := by
    obtain ⟨cls, inside, found⟩ := from_.indices index member
    refine ⟨cls, inside, ?_⟩
    rw [List.getElem?_append_left (List.getElem?_eq_some_iff.mp found).1]
    exact found

/-! ### The attributes after the decorators -/

variable [DecidableEq Cls]

namespace Hierarchy

variable (hierarchy : Hierarchy Cls)

/-- What the first decorator of a class has found for it. -/
def firstFound (decorated : List Cls) (cls : Cls) : Option (Method Cls) :=
  getAttribute (hierarchy.mro cls)
    (hierarchy.attributes (decorated.takeWhile fun other => other ≠ cls))

/-- The decorators of a class, the latest one first. -/
def decoratorsOf (decorated : List Cls) (cls : Cls) : List Nat :=
  ((decorated.zipIdx.filter fun pair => pair.1 = cls).map Prod.snd).reverse

theorem decorateFrom_append (first second : List Cls) (index : Nat)
    (attributes : Cls → Option (Method Cls)) :
    hierarchy.decorateFrom index (first ++ second) attributes =
      hierarchy.decorateFrom (index + first.length) second
        (hierarchy.decorateFrom index first attributes) := by
  induction first generalizing index attributes with
  | nil => rfl
  | cons cls first inductionHypothesis =>
      rw [List.cons_append, decorateFrom, inductionHypothesis, decorateFrom, List.length_cons,
        Nat.add_right_comm, Nat.add_assoc]

theorem attributes_concat (decorated : List Cls) (cls : Cls) :
    hierarchy.attributes (decorated ++ [cls]) =
      hierarchy.decorate (hierarchy.attributes decorated) decorated.length cls := by
  unfold attributes
  rw [decorateFrom_append, Nat.zero_add]
  rfl

theorem decoratorsOf_concat (decorated : List Cls) (cls other : Cls) :
    decoratorsOf (decorated ++ [cls]) other =
      if cls = other then decorated.length :: decoratorsOf decorated other
      else decoratorsOf decorated other := by
  unfold decoratorsOf
  rw [List.zipIdx_append, List.filter_append, List.map_append, List.reverse_append]
  by_cases same : cls = other
  · simp [same]
  · simp [same]

theorem mem_decoratorsOf {decorated : List Cls} {cls : Cls} {index : Nat} :
    index ∈ decoratorsOf decorated cls ↔ decorated[index]? = some cls := by
  unfold decoratorsOf
  rw [List.mem_reverse, List.mem_map]
  constructor
  · rintro ⟨⟨other, position⟩, member, rfl⟩
    obtain ⟨inside, same⟩ := List.mem_filter.mp member
    rw [← of_decide_eq_true same]
    exact List.mem_zipIdx_iff_getElem?.mp inside
  · intro found
    exact ⟨(cls, index), List.mem_filter.mpr
      ⟨List.mem_zipIdx_iff_getElem?.mpr found, decide_eq_true rfl⟩, rfl⟩

section Attributes

variable {hierarchy : Hierarchy Cls} {decorated : List Cls} {cls other : Cls}
  {method : Method Cls}

/-- A class keeps its `setUp` while others are decorated. -/
theorem attributes_append_of_not_mem {later : List Cls} (absent : cls ∉ later) :
    hierarchy.attributes (decorated ++ later) cls = hierarchy.attributes decorated cls := by
  induction later using List.reverseRecOn with
  | nil => rw [List.append_nil]
  | append_singleton later last inductionHypothesis =>
      have others : cls ∉ later := fun inside => absent (List.mem_append_left _ inside)
      have apart : cls ≠ last := fun same => absent (by simp [same])
      rw [← List.append_assoc, attributes_concat, decorate, Function.update_of_ne apart]
      exact inductionHypothesis others

theorem attributes_of_not_mem (absent : cls ∉ decorated) :
    hierarchy.attributes decorated cls = hierarchy.undecorated cls := by
  have kept : hierarchy.attributes ([] ++ decorated) cls = hierarchy.attributes [] cls :=
    attributes_append_of_not_mem absent
  exact kept

theorem takeWhile_concat_of_mem (present : cls ∈ decorated) (last : Cls) :
    (decorated ++ [last]).takeWhile (fun other => other ≠ cls) =
      decorated.takeWhile fun other => other ≠ cls := by
  induction decorated with
  | nil => cases present
  | cons first decorated inductionHypothesis =>
      by_cases same : first = cls
      · simp [same]
      · have later : cls ∈ decorated :=
          (List.mem_cons.mp present).resolve_left fun equal => same equal.symm
        rw [List.cons_append, List.takeWhile_cons, List.takeWhile_cons, inductionHypothesis later]

theorem takeWhile_concat_self (absent : cls ∉ decorated) :
    (decorated ++ [cls]).takeWhile (fun other => other ≠ cls) = decorated := by
  have apart : ∀ other ∈ decorated, decide (other ≠ cls) = true := by
    intro other member
    exact decide_eq_true fun same => absent (same ▸ member)
  rw [List.takeWhile_append_of_pos apart]
  simp

/-- A decorated class has the wrappers of its decorators around what the first of them found. -/
theorem attributes_of_mem (present : cls ∈ decorated) :
    hierarchy.attributes decorated cls = some (wrapAll (decoratorsOf decorated cls)
      ((hierarchy.firstFound decorated cls).getD (.dummy cls))) := by
  induction decorated using List.reverseRecOn with
  | nil => cases present
  | append_singleton decorated last inductionHypothesis =>
      rw [attributes_concat, decorate, decoratorsOf_concat]
      by_cases again : cls ∈ decorated
      · have kept : hierarchy.firstFound (decorated ++ [last]) cls =
            hierarchy.firstFound decorated cls := by
          unfold firstFound
          rw [takeWhile_concat_of_mem again]
        rw [kept]
        by_cases same : last = cls
        · subst same
          obtain ⟨bases, own⟩ := hierarchy.head last
          rw [Function.update_self, if_pos rfl, getSkipMethod, own, getAttribute_cons,
            inductionHypothesis again]
          rfl
        · rw [Function.update_of_ne (Ne.symm same), if_neg same]
          exact inductionHypothesis again
      · have same : last = cls := by
          rcases List.mem_append.mp present with early | late
          · exact absurd early again
          · exact (List.mem_singleton.mp late).symm
        subst same
        have none_before : decoratorsOf decorated last = [] := by
          refine List.eq_nil_iff_forall_not_mem.mpr fun index member => again ?_
          exact List.mem_of_getElem? (mem_decoratorsOf.mp member)
        rw [Function.update_self, if_pos rfl, none_before, firstFound, takeWhile_concat_self again]
        rfl

/-- The `setUp` that a class has when it is first decorated. -/
theorem attributes_takeWhile (decorated : List Cls) (cls : Cls) :
    hierarchy.attributes (decorated.takeWhile fun other => other ≠ cls) cls =
      hierarchy.undecorated cls := by
  refine attributes_of_not_mem fun member => ?_
  have apart := List.mem_takeWhile_imp member
  simp at apart

/-- An own `setUp` is what the first decorator finds. -/
theorem firstFound_of_body {body : Body} (own : hierarchy.body cls = some body) :
    hierarchy.firstFound decorated cls = some (.body cls body) := by
  obtain ⟨bases, order⟩ := hierarchy.head cls
  rw [firstFound, order, getAttribute_cons, attributes_takeWhile, undecorated, own]
  rfl

/-- No class loses its `setUp`. -/
theorem attributes_append_isSome (present : (hierarchy.attributes decorated cls).isSome)
    (later : List Cls) : (hierarchy.attributes (decorated ++ later) cls).isSome := by
  by_cases again : cls ∈ decorated ++ later
  · rw [attributes_of_mem again]
    rfl
  · rw [attributes_append_of_not_mem fun inside => again (List.mem_append_right _ inside)]
    exact present

theorem mem_mro_self (hierarchy : Hierarchy Cls) (cls : Cls) : cls ∈ hierarchy.mro cls := by
  obtain ⟨bases, own⟩ := hierarchy.head cls
  rw [own]
  exact List.mem_cons_self

/-- The `setUp` of a class comes from the classes of its order. -/
theorem attributes_from (found : hierarchy.attributes decorated cls = some method) :
    method.From (hierarchy.mro cls) decorated := by
  induction decorated using List.reverseRecOn generalizing cls method with
  | nil =>
      obtain ⟨body, -, rfl⟩ := Option.map_eq_some_iff.mp found
      exact ⟨mem_mro_self hierarchy cls, nofun⟩
  | append_singleton decorated last inductionHypothesis =>
      rw [attributes_concat, decorate] at found
      by_cases same : cls = last
      · subst same
        rw [Function.update_self] at found
        cases found
        have inner : (hierarchy.getSkipMethod (hierarchy.attributes decorated) cls).From
            (hierarchy.mro cls) decorated := by
          unfold getSkipMethod
          cases finds : getAttribute (hierarchy.mro cls) (hierarchy.attributes decorated) with
          | none => exact ⟨mem_mro_self hierarchy cls, nofun⟩
          | some method =>
              obtain ⟨base, reaches, own⟩ := exists_lookupReaches finds
              have fromBase := inductionHypothesis own
              have within := hierarchy.sublist cls base reaches.mem
              refine ⟨within.mem fromBase.last, fun index member => ?_⟩
              obtain ⟨other, inside, applied⟩ := fromBase.indices index member
              exact ⟨other, within.mem inside, applied⟩
        have kept := inner.append [cls]
        refine ⟨kept.last, fun index member => ?_⟩
        rcases List.mem_cons.mp member with rfl | earlier
        · exact ⟨cls, mem_mro_self hierarchy cls, List.getElem?_concat_length⟩
        · exact kept.indices index earlier
      · rw [Function.update_of_ne same] at found
        exact (inductionHypothesis found).append [last]

end Attributes

end Hierarchy

end Tobiko.Common.Skip
