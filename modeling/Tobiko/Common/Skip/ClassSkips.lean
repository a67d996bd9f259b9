import Tobiko.Common.Skip.SetUpChain

/-!
Contract: what the decorators of `tobiko/common/_skip.py` on classes change.

Owns: the chain of calls of `setUp` along the classes of an instance, and the classes for which
the decorators change nothing but skipping.

Does not own: the methods that are called.

A class that defines no `setUp` calls, once it is decorated, the method that its first
decorator has found among its own bases. An instance of a derived class may have other classes
before that one.
-/

namespace Tobiko.Common.Skip

open Tobiko.Foundation

namespace Hierarchy

variable {Cls Exc : Type} [DecidableEq Cls] (hierarchy : Hierarchy Cls)

/-! ### The condition and the property -/

/-- What the first decorator of a class without `setUp` has found is what `super().setUp()` of
the class finds for an instance. -/
def SuperFinds (decorated : List Cls) (cls other : Cls) : Prop :=
  other ∈ decorated → hierarchy.body other = none →
    ∀ method, hierarchy.firstFound decorated other = some method →
      getAttribute (classesAfter other (hierarchy.mro cls)) (hierarchy.attributes decorated) =
        some method

/-- A decorator of a class in the order of `cls` asks to skip. -/
def SomeAsks (decorated : List Cls) (cls : Cls) (decorators : Nat → Decorator Exc) : Prop :=
  ∃ index other, decorated[index]? = some other ∧ other ∈ hierarchy.mro cls ∧
    (decorators index).Asks

/-- Whatever decorators there are and whatever their predicates answer, `setUp` of an instance
does what it does without them if none asks to skip, and skips if one does. -/
def OnlySkips (Exc : Type) (decorated : List Cls) (cls : Cls) : Prop :=
  ∀ decorators : Nat → Decorator Exc, (∀ index, (decorators index).RaisesListed) →
    (¬ hierarchy.SomeAsks decorated cls decorators →
      callSetUp decorators (hierarchy.attributes decorated) (hierarchy.mro cls) =
        callSetUp decorators hierarchy.undecorated (hierarchy.mro cls)) ∧
    (hierarchy.SomeAsks decorated cls decorators →
      (callSetUp decorators (hierarchy.attributes decorated) (hierarchy.mro cls)).ended =
        .skipTest)

/-! ### The chain -/

/-- The body of a class, if it has one, with the rest of the chain. -/
def withBody (other : Cls) (rest : Outcome Cls Exc) : Outcome Cls Exc :=
  match hierarchy.body other with
  | none => rest
  | some body => body.run other rest

/-- The wrappers and the body of a class, with the rest of the chain. -/
def link (decorated : List Cls) (decorators : Nat → Decorator Exc) (other : Cls)
    (rest : Outcome Cls Exc) : Outcome Cls Exc :=
  checks decorators (decoratorsOf decorated other) (hierarchy.withBody other rest)

variable {hierarchy} {decorated : List Cls} {cls : Cls} {decorators : Nat → Decorator Exc}

theorem decoratorsOf_of_not_mem {other : Cls} (absent : other ∉ decorated) :
    decoratorsOf decorated other = [] := by
  refine List.eq_nil_iff_forall_not_mem.mpr fun index member => absent ?_
  exact List.mem_of_getElem? (mem_decoratorsOf.mp member)

section Chain

variable {attributes : Cls → Option (Method Cls)} {mro before rest : List Cls} {other : Cls}

/-- `super(other, self).setUp()` for a class in the order goes on with the classes after it. -/
theorem superSetUp_split (split : mro = before ++ other :: rest) (absent : other ∉ before)
    (fuel : Nat) :
    superSetUp decorators attributes mro (fuel + 1) other =
      runFound decorators attributes (superSetUp decorators attributes mro fuel) rest := by
  rw [superSetUp, split, classesAfter_append absent]

theorem not_mem_before (split : hierarchy.mro cls = before ++ other :: rest) :
    other ∉ before := by
  intro early
  have nodup := hierarchy.nodup cls
  rw [split] at nodup
  exact (List.nodup_append.mp nodup).2.2 other early other List.mem_cons_self rfl

/-- A call that finds the `setUp` of a class, or passes it by, goes on with the classes after
it. -/
theorem runFound_link (split : hierarchy.mro cls = before ++ other :: rest)
    (finds : hierarchy.SuperFinds decorated cls other) (fuel : Nat) :
    ∃ left, fuel ≤ left ∧
      runFound decorators (hierarchy.attributes decorated)
          (superSetUp decorators (hierarchy.attributes decorated) (hierarchy.mro cls) (fuel + 1))
          (other :: rest) =
        hierarchy.link decorated decorators other
          (runFound decorators (hierarchy.attributes decorated)
            (superSetUp decorators (hierarchy.attributes decorated) (hierarchy.mro cls) left)
            rest) := by
  have absent := not_mem_before split
  have callsSuper := fun {attributes : Cls → Option (Method Cls)} =>
    @superSetUp_split Cls Exc _ decorators attributes _ _ _ _ split absent fuel
  by_cases present : other ∈ decorated
  · rw [runFound_cons_some (attributes_of_mem present), run_wrapAll]
    unfold link withBody
    cases own : hierarchy.body other with
    | some body =>
        refine ⟨fuel, Nat.le_refl _, ?_⟩
        rw [firstFound_of_body own, Option.getD_some, Method.run, callsSuper]
    | none =>
        cases found : hierarchy.firstFound decorated other with
        | none =>
            refine ⟨fuel, Nat.le_refl _, ?_⟩
            rw [Option.getD_none, Method.run, callsSuper]
        | some method =>
            have same := finds present own method found
            rw [split, classesAfter_append absent] at same
            refine ⟨fuel + 1, Nat.le_succ _, ?_⟩
            rw [Option.getD_some, runFound_some same]
  · unfold link withBody
    rw [decoratorsOf_of_not_mem present]
    cases own : hierarchy.body other with
    | some body =>
        have found : hierarchy.attributes decorated other = some (.body other body) := by
          rw [attributes_of_not_mem present, undecorated, own]
          rfl
        refine ⟨fuel, Nat.le_refl _, ?_⟩
        rw [runFound_cons_some found, Method.run, callsSuper]
        rfl
    | none =>
        have missing : hierarchy.attributes decorated other = none := by
          rw [attributes_of_not_mem present, undecorated, own]
          rfl
        exact ⟨fuel + 1, Nat.le_succ _, runFound_cons_none missing⟩

/-- **The chain.** Along classes that call what `super()` would find, the call goes from each
of them to the next. -/
theorem runFound_links {links : List Cls}
    (split : hierarchy.mro cls = before ++ (links ++ rest))
    (finds : ∀ other ∈ links, hierarchy.SuperFinds decorated cls other) {fuel : Nat}
    (enough : (links ++ rest).length ≤ fuel) :
    ∃ left, rest.length ≤ left ∧
      runFound decorators (hierarchy.attributes decorated)
          (superSetUp decorators (hierarchy.attributes decorated) (hierarchy.mro cls) fuel)
          (links ++ rest) =
        links.foldr (hierarchy.link decorated decorators)
          (runFound decorators (hierarchy.attributes decorated)
            (superSetUp decorators (hierarchy.attributes decorated) (hierarchy.mro cls) left)
            rest) := by
  induction links generalizing before fuel with
  | nil => exact ⟨fuel, enough, rfl⟩
  | cons other links inductionHypothesis =>
      have whole : hierarchy.mro cls = before ++ other :: (links ++ rest) := split
      have further : hierarchy.mro cls = (before ++ [other]) ++ (links ++ rest) := by
        rw [whole, List.append_assoc, List.singleton_append]
      cases fuel with
      | zero => exact absurd enough (Nat.not_succ_le_zero _)
      | succ fuel =>
          have enoughLater : (links ++ rest).length ≤ fuel := Nat.le_of_succ_le_succ enough
          obtain ⟨middle, more, first⟩ := @runFound_link Cls Exc _ hierarchy decorated cls
            decorators _ _ _ whole (finds other List.mem_cons_self) fuel
          obtain ⟨left, leftEnough, others⟩ := inductionHypothesis further
            (fun later member => finds later (List.mem_cons_of_mem _ member))
            (Nat.le_trans enoughLater more)
          refine ⟨left, leftEnough, ?_⟩
          rw [List.cons_append, first, others, List.foldr_cons]

/-- The chain of a whole call. -/
theorem callSetUp_links (finds : ∀ other ∈ hierarchy.mro cls,
      hierarchy.SuperFinds decorated cls other) :
    callSetUp decorators (hierarchy.attributes decorated) (hierarchy.mro cls) =
      (hierarchy.mro cls).foldr (hierarchy.link decorated decorators) ⟨[], .attributeError⟩ := by
  have split : hierarchy.mro cls = [] ++ (hierarchy.mro cls ++ []) := by simp
  obtain ⟨left, -, chain⟩ := @runFound_links Cls Exc _ hierarchy decorated cls decorators _ _ _
    split finds (hierarchy.mro cls).length (Nat.le_of_eq (by simp))
  rw [List.append_nil] at chain
  exact chain

end Chain

/-! ### Enough for the property -/

section Links

variable {others : List Cls} {last : Outcome Cls Exc}

theorem link_of_quiet (listed : ∀ index, (decorators index).RaisesListed) {other : Cls}
    (quiet : ∀ index, decorated[index]? = some other → ¬ (decorators index).Asks)
    (rest : Outcome Cls Exc) :
    hierarchy.link decorated decorators other rest = hierarchy.withBody other rest :=
  checks_of_quiet listed (fun index member => quiet index (mem_decoratorsOf.mp member)) _

/-- Wrappers that do not ask are as if they were not there. -/
theorem links_of_quiet (listed : ∀ index, (decorators index).RaisesListed)
    (quiet : ∀ other ∈ others, ∀ index, decorated[index]? = some other →
      ¬ (decorators index).Asks) :
    others.foldr (hierarchy.link decorated decorators) last =
      others.foldr hierarchy.withBody last := by
  induction others with
  | nil => rfl
  | cons other others inductionHypothesis =>
      rw [List.foldr_cons, List.foldr_cons, inductionHypothesis fun later member =>
        quiet later (List.mem_cons_of_mem _ member)]
      exact link_of_quiet listed (quiet other List.mem_cons_self) _

theorem withBody_skipTest {other : Cls} (goesOn : hierarchy.body other ≠ some .callsNothing)
    {rest : Outcome Cls Exc} (skips : rest.ended = .skipTest) :
    (hierarchy.withBody other rest).ended = .skipTest := by
  unfold withBody
  cases own : hierarchy.body other with
  | none => exact skips
  | some body =>
      cases body with
      | callsNothing => exact absurd own goesOn
      | callsSuper => exact (Body.callsSuper_run rest).1.trans skips

/-- One wrapper that asks is enough. -/
theorem links_of_asks (listed : ∀ index, (decorators index).RaisesListed) {before : List Cls}
    (split : hierarchy.mro cls = before ++ others) {index : Nat} {asked : Cls}
    (member : asked ∈ others) (applied : decorated[index]? = some asked)
    (asks : (decorators index).Asks) :
    (others.foldr (hierarchy.link decorated decorators) last).ended = .skipTest := by
  induction others generalizing before with
  | nil => cases member
  | cons other others inductionHypothesis =>
      rw [List.foldr_cons]
      by_cases quiet : ∀ index, decorated[index]? = some other → ¬ (decorators index).Asks
      · have later : asked ∈ others := by
          rcases List.mem_cons.mp member with rfl | later
          · exact absurd asks (quiet index applied)
          · exact later
        rw [link_of_quiet listed quiet]
        have further : hierarchy.mro cls = (before ++ [other]) ++ others := by
          rw [split, List.append_assoc, List.singleton_append]
        refine withBody_skipTest (fun base => ?_) (inductionHypothesis further later)
        -- a class whose body calls nothing is the last one
        have inside : other ∈ hierarchy.mro cls := by simp [split]
        have isLast := hierarchy.base_last cls other inside base
        rw [split, classesAfter_append (not_mem_before split)] at isLast
        rw [isLast] at later
        cases later
      · obtain ⟨early, here⟩ := not_forall.mp quiet
        obtain ⟨appliedHere, asksHere⟩ := Classical.not_imp.mp here
        have checked := checks_of_asks listed (mem_decoratorsOf.mpr appliedHere)
          (not_not.mp asksHere) (hierarchy.withBody other
            (others.foldr (hierarchy.link decorated decorators) last))
        exact congrArg Outcome.ended checked

end Links

theorem superFinds_nil (cls other : Cls) : hierarchy.SuperFinds [] cls other :=
  fun present => absurd present List.not_mem_nil

theorem onlySkips_of_superFinds
    (finds : ∀ other ∈ hierarchy.mro cls, hierarchy.SuperFinds decorated cls other) :
    hierarchy.OnlySkips Exc decorated cls := by
  intro decorators listed
  rw [callSetUp_links finds]
  refine ⟨fun quiet => ?_, fun ⟨index, other, applied, member, asks⟩ =>
    links_of_asks listed (List.nil_append _).symm member applied asks⟩
  have plain := @callSetUp_links Cls Exc _ hierarchy [] cls decorators
    fun other _ => superFinds_nil cls other
  have undecorated_eq : hierarchy.attributes [] = hierarchy.undecorated := rfl
  rw [undecorated_eq] at plain
  rw [plain, links_of_quiet listed fun other member index applied asks =>
    quiet ⟨index, other, applied, member, asks⟩,
    links_of_quiet listed fun other member index applied => by simp at applied]

/-! ### Necessary for the property -/

section Quiet

variable {attributes : Cls → Option (Method Cls)} {mro later : List Cls} {method : Method Cls}

/-- The outcome skips nothing, and enters and leaves only the given classes. -/
def QuietIn (classes : List Cls) (outcome : Outcome Cls Exc) : Prop :=
  outcome.ended ≠ .skipTest ∧ ∀ event ∈ outcome.events, event.cls ∈ classes

omit [DecidableEq Cls] in
theorem run_quiet (listed : ∀ index, (decorators index).RaisesListed)
    (quiet : ∀ index ∈ method.indices, ¬ (decorators index).Asks)
    {super : Cls → Outcome Cls Exc} (goesOn : QuietIn later (super method.last)) :
    QuietIn (method.last :: later) (method.run decorators super) := by
  induction method with
  | body cls own =>
      refine ⟨fun skips => goesOn.1 (Body.run_ended_skipTest skips), fun event member => ?_⟩
      rcases Body.run_events member with same | inside
      · exact List.mem_cons.mpr (.inl same)
      · exact List.mem_cons_of_mem _ (goesOn.2 event inside)
  | dummy cls =>
      exact ⟨goesOn.1, fun event member => List.mem_cons_of_mem _ (goesOn.2 event member)⟩
  | wrapper index method inductionHypothesis =>
      have inner := inductionHypothesis
        (fun other member => quiet other (List.mem_cons_of_mem _ member)) goesOn
      rw [Method.run, wrapper_of_not_asks (listed index) (quiet index List.mem_cons_self)]
      exact inner

/-- Calls of `super().setUp()` that stay among classes whose wrappers do not ask. -/
theorem superSetUp_quiet (listed : ∀ index, (decorators index).RaisesListed)
    (closed : ∀ other ∈ later, ∀ method, attributes other = some method →
      (∀ index ∈ method.indices, ¬ (decorators index).Asks) ∧ method.last ∈ later ∧
        classesAfter method.last mro ⊆ later) (fuel : Nat) {cls : Cls}
    (within : classesAfter cls mro ⊆ later) :
    QuietIn later (superSetUp decorators attributes mro fuel cls) := by
  induction fuel generalizing cls with
  | zero => exact ⟨nofun, fun _ member => absurd member List.not_mem_nil⟩
  | succ fuel inductionHypothesis =>
      rw [superSetUp]
      cases found : getAttribute (classesAfter cls mro) attributes with
      | none =>
          unfold runFound
          rw [found]
          exact ⟨nofun, fun _ member => absurd member List.not_mem_nil⟩
      | some method =>
          rw [runFound_some found]
          obtain ⟨other, reaches, own⟩ := exists_lookupReaches found
          obtain ⟨quiet, lastInside, further⟩ := closed other (within reaches.mem) method own
          have ran := run_quiet listed quiet (inductionHypothesis further)
          refine ⟨ran.1, fun event member => ?_⟩
          rcases List.mem_cons.mp (ran.2 event member) with same | inside
          · rw [same]
            exact lastInside
          · exact inside

theorem withBodies_quiet {others : List Cls} {last : Outcome Cls Exc}
    (quiet : QuietIn later last) :
    QuietIn (others ++ later) (others.foldr hierarchy.withBody last) := by
  induction others with
  | nil => exact quiet
  | cons other others inductionHypothesis =>
      rw [List.foldr_cons, List.cons_append]
      unfold withBody
      cases own : hierarchy.body other with
      | none =>
          exact ⟨inductionHypothesis.1, fun event member =>
            List.mem_cons_of_mem _ (inductionHypothesis.2 event member)⟩
      | some body =>
          refine ⟨fun skips => inductionHypothesis.1 (Body.run_ended_skipTest skips),
            fun event member => ?_⟩
          rcases Body.run_events member with same | inside
          · exact List.mem_cons.mpr (.inl same)
          · exact List.mem_cons_of_mem _ (inductionHypothesis.2 event inside)

end Quiet

/-- Without decorators every body of the order is entered. -/
theorem enters_mem_undecorated {body : Body} {first : Cls} (member : first ∈ hierarchy.mro cls)
    (own : hierarchy.body first = some body)
    (listed : ∀ index, (decorators index).RaisesListed) :
    .enters first ∈ (callSetUp decorators hierarchy.undecorated (hierarchy.mro cls)).events := by
  have plain := @callSetUp_links Cls Exc _ hierarchy [] cls decorators
    fun other _ => superFinds_nil cls other
  have undecorated_eq : hierarchy.attributes [] = hierarchy.undecorated := rfl
  rw [undecorated_eq, links_of_quiet listed fun other _ index applied => by simp at applied]
    at plain
  rw [plain]
  have entered : ∀ others before, hierarchy.mro cls = before ++ others → first ∈ others →
      .enters first ∈ (others.foldr hierarchy.withBody
        (⟨[], .attributeError⟩ : Outcome Cls Exc)).events := by
    intro others
    induction others with
    | nil => exact fun before _ none_ => absurd none_ List.not_mem_nil
    | cons other others inductionHypothesis =>
        intro before split inside
        rw [List.foldr_cons]
        by_cases same : first = other
        · subst same
          unfold withBody
          rw [own]
          exact Body.enters_mem _
        · have later : first ∈ others := (List.mem_cons.mp inside).resolve_left same
          have rest := inductionHypothesis (before ++ [other])
            (by rw [split, List.append_assoc, List.singleton_append]) later
          unfold withBody
          cases ownOther : hierarchy.body other with
          | none => exact rest
          | some otherBody =>
              cases otherBody with
              | callsSuper => exact (Body.callsSuper_run _).2 _ rest
              | callsNothing =>
                  have isLast := hierarchy.base_last cls other (by simp [split]) ownOther
                  rw [split, classesAfter_append (not_mem_before split)] at isLast
                  rw [isLast] at later
                  cases later
  exact entered _ [] rfl member

section Missed

variable {before rest : List Cls} {other base first : Cls} {method : Method Cls}

/-- What a class has found at a base, while another class comes before that base. -/
structure Misses (hierarchy : Hierarchy Cls) (decorated : List Cls) (cls : Cls)
    (before rest : List Cls) (other base first : Cls) (method : Method Cls) : Prop where
  split : hierarchy.mro cls = before ++ other :: rest
  present : other ∈ decorated
  found : hierarchy.firstFound decorated other = some method
  base_mem : base ∈ rest
  from_base : method.From (hierarchy.mro base) decorated
  first_mem : first ∈ rest
  first_not_mem : first ∉ classesAfter base (hierarchy.mro cls)

theorem Misses.base_mem_mro (misses : Misses hierarchy decorated cls before rest other base first
    method) : base ∈ hierarchy.mro cls := by
  rw [misses.split]
  exact List.mem_append_right _ (List.mem_cons_of_mem _ misses.base_mem)

/-- The method ends with the base, or with a class after it. -/
theorem Misses.last_cases (misses : Misses hierarchy decorated cls before rest other base first
    method) : method.last = base ∨ method.last ∈ classesAfter base (hierarchy.mro cls) :=
  hierarchy.eq_or_mem_classesAfter misses.base_mem_mro misses.from_base.last

/-- When only wrappers ask that belong to the class that is missed, and not to the method, the
call skips nothing and does not reach that class. -/
theorem Misses.call_quiet (misses : Misses hierarchy decorated cls before rest other base first
      method)
    (finds : ∀ early ∈ before, hierarchy.SuperFinds decorated cls early)
    (listed : ∀ index, (decorators index).RaisesListed)
    (quiet : ∀ index, (decorators index).Asks →
      decorated[index]? = some first ∧ index ∉ method.indices) :
    QuietIn (before ++ other :: method.last :: classesAfter base (hierarchy.mro cls))
      (callSetUp decorators (hierarchy.attributes decorated) (hierarchy.mro cls)) := by
  have nodup := hierarchy.nodup cls
  have apart : ∀ index, decorated[index]? = some other → ¬ (decorators index).Asks := by
    intro index applied asks
    obtain rfl := Option.some.inj ((quiet index asks).1.symm.trans applied)
    rw [misses.split] at nodup
    exact (List.nodup_cons.mp (List.nodup_append.mp nodup).2.1).1 misses.first_mem
  have apartBefore : ∀ early ∈ before, ∀ index, decorated[index]? = some early →
      ¬ (decorators index).Asks := by
    intro early member index applied asks
    obtain rfl := Option.some.inj ((quiet index asks).1.symm.trans applied)
    rw [misses.split] at nodup
    exact (List.nodup_append.mp nodup).2.2 first member first
      (List.mem_cons_of_mem _ misses.first_mem) rfl
  have afterLast : classesAfter method.last (hierarchy.mro cls) ⊆
      classesAfter base (hierarchy.mro cls) := by
    rcases misses.last_cases with same | later
    · rw [same]
      exact List.Subset.refl _
    · exact classesAfter_subset nodup later
  -- the classes after the base call nothing but classes after the base
  have closed : ∀ third ∈ classesAfter base (hierarchy.mro cls), ∀ own,
      hierarchy.attributes decorated third = some own →
      (∀ index ∈ own.indices, ¬ (decorators index).Asks) ∧
        own.last ∈ classesAfter base (hierarchy.mro cls) ∧
        classesAfter own.last (hierarchy.mro cls) ⊆ classesAfter base (hierarchy.mro cls) := by
    intro third inside own has
    have from_third := attributes_from has
    have within : ∀ fourth ∈ hierarchy.mro third,
        fourth ∈ classesAfter base (hierarchy.mro cls) := by
      intro fourth member
      rcases hierarchy.eq_or_mem_classesAfter (mem_of_mem_classesAfter inside) member with
        same | later
      · rw [same]
        exact inside
      · exact classesAfter_subset nodup inside later
    refine ⟨fun index member asks => ?_, within _ from_third.last,
      classesAfter_subset nodup (within _ from_third.last)⟩
    obtain ⟨fourth, ofThird, applied⟩ := from_third.indices index member
    obtain rfl := Option.some.inj ((quiet index asks).1.symm.trans applied)
    exact misses.first_not_mem (within _ ofThird)
  have split : hierarchy.mro cls = [] ++ (before ++ other :: rest) := misses.split
  obtain ⟨left, -, chain⟩ := @runFound_links Cls Exc _ hierarchy decorated cls decorators _ _ _
    split finds (hierarchy.mro cls).length (Nat.le_of_eq (congrArg List.length misses.split.symm))
  have ran : QuietIn (method.last :: classesAfter base (hierarchy.mro cls))
      (runFound decorators (hierarchy.attributes decorated)
        (superSetUp decorators (hierarchy.attributes decorated) (hierarchy.mro cls) left)
        (other :: rest)) := by
    rw [runFound_cons_some (attributes_of_mem misses.present), run_wrapAll, misses.found,
      Option.getD_some, checks_of_quiet listed fun index member =>
        apart index (mem_decoratorsOf.mp member)]
    exact run_quiet listed (fun index member asks => (quiet index asks).2 member)
      (superSetUp_quiet listed closed left afterLast)
  have call : callSetUp decorators (hierarchy.attributes decorated) (hierarchy.mro cls) =
      before.foldr hierarchy.withBody
        (runFound decorators (hierarchy.attributes decorated)
          (superSetUp decorators (hierarchy.attributes decorated) (hierarchy.mro cls) left)
          (other :: rest)) := by
    rw [← links_of_quiet listed apartBefore, ← chain, ← misses.split]
    rfl
  rw [call]
  have whole := @withBodies_quiet Cls Exc _ hierarchy _ before _ ran
  refine ⟨whole.1, fun event member => ?_⟩
  rcases List.mem_append.mp (whole.2 event member) with early | late
  · exact List.mem_append_left _ early
  · exact List.mem_append_right _ (List.mem_cons_of_mem _ late)

/-- The class that is missed has a wrapper that the method has not, or a body. -/
theorem Misses.not_onlySkips (misses : Misses hierarchy decorated cls before rest other base
      first method)
    (finds : ∀ early ∈ before, hierarchy.SuperFinds decorated cls early)
    (missed : (∃ index, decorated[index]? = some first ∧ index ∉ method.indices) ∨
      ∃ body, hierarchy.body first = some body ∧ first ≠ method.last) :
    ¬ hierarchy.OnlySkips Exc decorated cls := by
  intro onlySkips
  have firstInside : first ∈ hierarchy.mro cls := by
    rw [misses.split]
    exact List.mem_append_right _ (List.mem_cons_of_mem _ misses.first_mem)
  rcases missed with ⟨asking, applied, notInMethod⟩ | ⟨body, own, notLast⟩
  · -- only the wrapper that is missed asks
    let decorators : Nat → Decorator Exc := fun index => .skipIf (.returns (index = asking))
    have listed : ∀ index, (decorators index).RaisesListed := fun _ => nofun
    have quiet := misses.call_quiet finds listed fun index asks => by
      obtain rfl : index = asking := of_decide_eq_true asks
      exact ⟨applied, notInMethod⟩
    exact quiet.1 ((onlySkips decorators listed).2
      ⟨asking, first, applied, firstInside, decide_eq_true rfl⟩)
  · -- no wrapper asks, and the body that is missed is not entered
    let decorators : Nat → Decorator Exc := fun _ => .skipIf (.returns false)
    have listed : ∀ index, (decorators index).RaisesListed := fun _ => nofun
    have silent : ∀ index, ¬ (decorators index).Asks := fun _ => Bool.false_ne_true
    have quiet := misses.call_quiet finds listed fun index asks => absurd asks (silent index)
    have same := (onlySkips decorators listed).1 fun ⟨index, _, _, _, asks⟩ => silent index asks
    have entered := enters_mem_undecorated firstInside own listed
    rw [← same] at entered
    have inside : first ∈ before ++ other :: method.last ::
        classesAfter base (hierarchy.mro cls) := quiet.2 _ entered
    have nodup := hierarchy.nodup cls
    rw [misses.split] at nodup
    rcases List.mem_append.mp inside with early | late
    · exact (List.nodup_append.mp nodup).2.2 first early first
        (List.mem_cons_of_mem _ misses.first_mem) rfl
    · rcases List.mem_cons.mp late with same | later
      · rw [same] at misses
        exact (List.nodup_cons.mp (List.nodup_append.mp nodup).2.1).1 misses.first_mem
      · rcases List.mem_cons.mp later with same | after
        · exact notLast same
        · exact misses.first_not_mem after

end Missed

/-- What comes first in the classes after another one is before the rest of them. -/
theorem mem_classesAfter_of_reaches {attributes : Cls → Option (Method Cls)}
    {classes : List Cls} {first base : Cls} (reaches : LookupReaches classes attributes first)
    (member : base ∈ classes) (has : (attributes base).isSome) (apart : first ≠ base) :
    base ∈ classesAfter first classes := by
  induction classes with
  | nil => cases member
  | cons head tail inductionHypothesis =>
      rcases lookupReaches_cons.mp reaches with rfl | ⟨absent, later⟩
      · have after : classesAfter head (head :: tail) = tail :=
          @classesAfter_append Cls _ head [] tail List.not_mem_nil
        rw [after]
        exact (List.mem_cons.mp member).resolve_left (Ne.symm apart)
      · have inTail : base ∈ tail := by
          rcases List.mem_cons.mp member with rfl | inTail
          · rw [absent] at has
            cases has
          · exact inTail
        by_cases here : head = first
        · have after : classesAfter first (head :: tail) = tail := by
            rw [here]
            exact @classesAfter_append Cls _ first [] tail List.not_mem_nil
          rw [after]
          exact inTail
        · have after : classesAfter first (head :: tail) = classesAfter first tail := by
            simp [classesAfter, here]
          rw [after]
          exact inductionHypothesis later inTail

/-- The classes before one being as they should, the property makes that one so too. -/
theorem superFinds_of_onlySkips (onlySkips : hierarchy.OnlySkips Exc decorated cls)
    {before rest : List Cls} {other : Cls}
    (split : hierarchy.mro cls = before ++ other :: rest)
    (finds : ∀ early ∈ before, hierarchy.SuperFinds decorated cls early) :
    hierarchy.SuperFinds decorated cls other := by
  intro present noBody method found
  by_contra differs
  have after : classesAfter other (hierarchy.mro cls) = rest := by
    rw [split, classesAfter_append (not_mem_before split)]
  rw [after] at differs
  have nodup := hierarchy.nodup cls
  have inside : other ∈ hierarchy.mro cls := by simp [split]
  -- the base at which the first decorator has found the method
  obtain ⟨base, reaches, hadMethod⟩ := exists_lookupReaches found
  have notOther : base ≠ other := by
    rintro rfl
    rw [attributes_takeWhile, undecorated, noBody] at hadMethod
    cases hadMethod
  have base_mem : base ∈ rest := by
    rw [← after]
    exact (hierarchy.eq_or_mem_classesAfter inside reaches.mem).resolve_left notOther
  obtain ⟨earlier, later, whole, hadMethod⟩ : ∃ earlier later, decorated = earlier ++ later ∧
      hierarchy.attributes earlier base = some method :=
    ⟨_, _, List.takeWhile_append_dropWhile.symm, hadMethod⟩
  have from_earlier := attributes_from hadMethod
  have from_base : method.From (hierarchy.mro base) decorated := by
    rw [whole]
    exact from_earlier.append later
  have has : (hierarchy.attributes decorated base).isSome := by
    rw [whole]
    exact attributes_append_isSome (by rw [hadMethod]; rfl) later
  -- the class at which `super().setUp()` finds another method
  obtain ⟨other_method, foundFirst⟩ : ∃ other_method,
      getAttribute rest (hierarchy.attributes decorated) = some other_method := by
    refine Option.ne_none_iff_exists'.mp fun nothing => ?_
    rw [getAttribute_eq_none.mp nothing base base_mem] at has
    cases has
  obtain ⟨first, reachesFirst, ownFirst⟩ := exists_lookupReaches foundFirst
  have first_mem := reachesFirst.mem
  have first_not_mem : first ∉ classesAfter base (hierarchy.mro cls) := by
    have baseInside : base ∈ hierarchy.mro cls := by simp [split, base_mem]
    by_cases same : first = base
    · rw [same]
      exact not_mem_classesAfter nodup baseInside
    · intro behind
      have afterRest := mem_classesAfter_of_reaches reachesFirst base_mem has same
      obtain ⟨between, -, restSplit⟩ := exists_classesAfter first_mem
      have firstSplit : hierarchy.mro cls =
          (before ++ other :: between) ++ first :: classesAfter first rest := by
        rw [split, List.append_assoc, List.cons_append, ← restSplit]
      have afterFirst : base ∈ classesAfter first (hierarchy.mro cls) := by
        rw [firstSplit, classesAfter_append (not_mem_before firstSplit)]
        exact afterRest
      exact not_mem_classesAfter nodup baseInside (classesAfter_subset nodup behind afterFirst)
  have misses : Misses hierarchy decorated cls before rest other base first method :=
    ⟨split, present, found, base_mem, from_base, first_mem, first_not_mem⟩
  refine misses.not_onlySkips finds ?_ onlySkips
  by_cases same : first = base
  · -- the base itself has been decorated later
    subst same
    have decoratedLater : first ∈ later := by
      by_contra notLater
      rw [whole, attributes_append_of_not_mem notLater, hadMethod] at ownFirst
      rw [foundFirst, ownFirst] at differs
      exact differs rfl
    obtain ⟨position, bound, there⟩ := List.mem_iff_getElem.mp decoratedLater
    refine .inl ⟨earlier.length + position, ?_, fun member => ?_⟩
    · rw [whole, List.getElem?_append_right (Nat.le_add_right _ _), Nat.add_sub_cancel_left,
        List.getElem?_eq_getElem bound, there]
    · obtain ⟨third, -, applied⟩ := from_earlier.indices _ member
      exact Nat.not_lt.mpr (Nat.le_add_right _ _) (List.getElem?_eq_some_iff.mp applied).1
  · -- another class comes before the base
    have notOfBase : first ∉ hierarchy.mro base := fun member =>
      (hierarchy.eq_or_mem_classesAfter misses.base_mem_mro member).elim same first_not_mem
    by_cases isDecorated : first ∈ decorated
    · obtain ⟨position, applied⟩ := List.mem_iff_getElem?.mp isDecorated
      refine .inl ⟨position, applied, fun member => ?_⟩
      obtain ⟨third, ofBase, appliedThird⟩ := from_base.indices position member
      rw [Option.some.inj (applied.symm.trans appliedThird)] at notOfBase
      exact notOfBase ofBase
    · rw [attributes_of_not_mem isDecorated] at ownFirst
      obtain ⟨body, own, -⟩ := Option.map_eq_some_iff.mp ownFirst
      refine .inr ⟨body, own, fun isLast => notOfBase ?_⟩
      rw [isLast]
      exact from_base.last

/-- **Decorators on classes.** They change nothing but skipping for an instance exactly if, for
each decorated class in its order that defines no `setUp`, what the first decorator of the class
has found is what `super().setUp()` of the class finds in the end. -/
theorem onlySkips_iff (Cls Exc : Type) [DecidableEq Cls] (hierarchy : Hierarchy Cls)
    (decorated : List Cls) (cls : Cls) :
    hierarchy.OnlySkips Exc decorated cls ↔
      ∀ other ∈ hierarchy.mro cls, hierarchy.SuperFinds decorated cls other := by
  refine ⟨fun onlySkips => ?_, onlySkips_of_superFinds⟩
  have all : ∀ links rest, hierarchy.mro cls = links ++ rest →
      ∀ other ∈ links, hierarchy.SuperFinds decorated cls other := by
    intro links
    induction links using List.reverseRecOn with
    | nil => exact fun _ _ _ none_ => absurd none_ List.not_mem_nil
    | append_singleton links last inductionHypothesis =>
        intro rest split
        rw [List.append_assoc, List.singleton_append] at split
        have earlier := inductionHypothesis (last :: rest) split
        intro other member
        rcases List.mem_append.mp member with early | late
        · exact earlier other early
        · rw [List.mem_singleton.mp late]
          exact superFinds_of_onlySkips onlySkips split earlier
  exact all (hierarchy.mro cls) [] (List.append_nil _).symm

end Hierarchy

/-- `class Plain(Base)`, `class Mixin(Base)` and `class Derived(Plain, Mixin)`. -/
inductive Diamond where
  | base
  | plain
  | mixin
  | derived
  deriving DecidableEq

def Diamond.mro : Diamond → List Diamond
  | .base => [.base]
  | .plain => [.plain, .base]
  | .mixin => [.mixin, .base]
  | .derived => [.derived, .plain, .mixin, .base]

/-- `Mixin` and `Base` define `setUp`. -/
def Diamond.body : Diamond → Option Body
  | .base => some .callsNothing
  | .mixin => some .callsSuper
  | _ => none

def diamond : Hierarchy Diamond where
  mro := Diamond.mro
  body := Diamond.body
  head cls := by cases cls <;> exact ⟨_, rfl⟩
  nodup cls := by cases cls <;> decide
  sublist cls other := by cases cls <;> cases other <;> decide
  base_last cls other := by cases cls <;> cases other <;> decide

/-- When `Plain` is decorated, `setUp` of `Derived` does not call the one of `Mixin`. -/
theorem plain_misses_mixin : ¬ diamond.OnlySkips Unit [.plain] .derived := by
  intro onlySkips
  have listed : ∀ _ : Nat, (Decorator.skipIf (.returns false) : Decorator Unit).RaisesListed :=
    fun _ => nofun
  have same := (onlySkips (fun _ => .skipIf (.returns false)) listed).1
    fun ⟨_, _, _, _, asks⟩ => Bool.false_ne_true asks
  have bodies : [Event.enters Diamond.base, .leaves .base] =
      [.enters .mixin, .enters .base, .leaves .base, .leaves .mixin] :=
    congrArg Outcome.events same
  exact absurd bodies (by decide)

end Tobiko.Common.Skip
