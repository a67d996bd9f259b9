import Tobiko.Common.ObjectLoading.Loaders

/-!
Contract: what a call returns does not depend on what has been loaded before.

Owns: the courses of the calls, the invariant of the loaders, the condition on an id under
which the cached objects are those that the tree designates, and the loss where it fails.

Does not own: the model of the loaders.
-/

namespace Tobiko.Common.ObjectLoading

section History

variable {Name Object : Type} [DecidableEq Name] (tree : Tree Name Object)

/-! ### Courses -/

/-- A course of `ObjectLoader.load`. -/
inductive Loads (cached : Bool) : ObjectId Name → State Name Object →
    Except (LoadError Name) Object → State Name Object → Prop
  | hit (id state object last)
      (got : getCached tree cached id state = (.ok object, last)) :
      Loads cached id state (.ok object) last
  | root (name state error missed result last)
      (noHit : getCached tree cached (.root name) state = (.error error, missed))
      (imports : importAndSet tree (.root name) missed = (result, last)) :
      Loads cached (.root name) state result last
  | parentFails (parentId name state error missed failure last)
      (noHit : getCached tree cached (.child parentId name) state = (.error error, missed))
      (parentLoads : Loads cached parentId missed (.error failure) last) :
      Loads cached (.child parentId name) state (.error failure) last
  | hasAttribute (parentId name state error missed parent middle object result last)
      (noHit : getCached tree cached (.child parentId name) state = (.error error, missed))
      (parentLoads : Loads cached parentId missed (.ok parent) middle)
      (has : tree.attr parent name = some object)
      (sets : set tree (.child parentId name) object middle = (result, last)) :
      Loads cached (.child parentId name) state result last
  | submodule (parentId name state error missed parent middle result last)
      (noHit : getCached tree cached (.child parentId name) state = (.error error, missed))
      (parentLoads : Loads cached parentId missed (.ok parent) middle)
      (hasNot : tree.attr parent name = none)
      (isModule : (middle.getLoader parentId).isModule = some true)
      (imports : importAndSet tree (.child parentId name) middle = (result, last)) :
      Loads cached (.child parentId name) state result last
  | noAttribute (parentId name state error missed parent last)
      (noHit : getCached tree cached (.child parentId name) state = (.error error, missed))
      (parentLoads : Loads cached parentId missed (.ok parent) last)
      (hasNot : tree.attr parent name = none)
      (notModule : (last.getLoader parentId).isModule ≠ some true) :
      Loads cached (.child parentId name) state
        (.error (.attributeError (.child parentId name))) last

theorem load_loads (cached : Bool) (id : ObjectId Name) (state : State Name Object) :
    Loads tree cached id state (load tree cached id state).1 (load tree cached id state).2 := by
  induction id generalizing state with
  | root name =>
      unfold load
      cases got : getCached tree cached (.root name) state with
      | mk result missed =>
          cases result with
          | ok object => exact .hit _ _ _ _ got
          | error error => exact .root _ _ _ _ _ _ got rfl
  | child parentId name inductionHypothesis =>
      unfold load
      cases got : getCached tree cached (.child parentId name) state with
      | mk result missed =>
          cases result with
          | ok object => exact .hit _ _ _ _ got
          | error error =>
              have parentLoads := inductionHypothesis missed
              cases loaded : load tree cached parentId missed with
              | mk parentResult middle =>
                  rw [loaded] at parentLoads
                  simp only [loaded]
                  cases parentResult with
                  | error failure => exact .parentFails _ _ _ _ _ _ _ got parentLoads
                  | ok parent =>
                      cases has : tree.attr parent name with
                      | some object =>
                          simp only [has]
                          exact .hasAttribute _ _ _ _ _ _ _ _ _ _ got parentLoads has rfl
                      | none =>
                          simp only [has]
                          by_cases isModule : (middle.getLoader parentId).isModule = some true
                          · rw [if_pos isModule]
                            exact .submodule _ _ _ _ _ _ _ _ _ got parentLoads has isModule rfl
                          · rw [if_neg isModule]
                            exact .noAttribute _ _ _ _ _ _ _ got parentLoads has isModule

/-! ### What grows -/

/-- Loaders that have been used stay so, and modules that have been imported too. -/
structure Grows (state after : State Name Object) : Prop where
  used : ∀ id, state.getLoader id ≠ newLoader → after.getLoader id ≠ newLoader
  imported : ∀ id, id ∈ state.imported → id ∈ after.imported

omit [DecidableEq Name] in
theorem Grows.refl (state : State Name Object) : Grows state state := ⟨fun _ => id, fun _ => id⟩

omit [DecidableEq Name] in
theorem Grows.trans {state middle after : State Name Object} (first : Grows state middle)
    (second : Grows middle after) : Grows state after :=
  ⟨fun id used => second.used id (first.used id used),
    fun id known => second.imported id (first.imported id known)⟩

variable {tree} {cached : Bool} {id : ObjectId Name} {state last : State Name Object}
  {object : Object} {result : Except (LoadError Name) Object}

/-- Reading a loader changes nothing but the count of what has been followed. -/
theorem getCached_state (got : getCached tree cached id state = (result, last)) :
    last.getLoader = state.getLoader ∧ last.imported = state.imported := by
  unfold getCached at got
  split at got
  · unfold get at got
    split at got
    · cases got
      exact ⟨rfl, rfl⟩
    · cases got
      exact ⟨rfl, rfl⟩
    · split at got
      · cases got
        exact ⟨rfl, rfl⟩
      · cases got
        exact ⟨rfl, rfl⟩
    · cases got
      exact ⟨rfl, rfl⟩
  · cases got
    exact ⟨rfl, rfl⟩

theorem grows_getCached (got : getCached tree cached id state = (result, last)) :
    Grows state last := by
  obtain ⟨loaders, imported⟩ := getCached_state got
  exact ⟨fun id used => by rw [loaders]; exact used, fun id known => by rw [imported]; exact known⟩

theorem getLoader_setLoader {loader : ObjectLoader Object} {other : ObjectId Name} :
    (state.setLoader id loader).getLoader other =
      if other = id then loader else state.getLoader other :=
  rfl

theorem grows_setLoader {loader : ObjectLoader Object}
    (used : loader ≠ newLoader) : Grows state (state.setLoader id loader) where
  used := by
    intro other before
    rw [getLoader_setLoader]
    by_cases same : other = id
    · rw [if_pos same]
      exact used
    · rw [if_neg same]
      exact before
  imported := fun _ known => known

theorem grows_set (sets : set tree id object state = (result, last)) : Grows state last := by
  unfold set at sets
  split at sets
  · cases sets
    exact grows_setLoader nofun
  · cases sets
    exact grows_setLoader nofun
  · cases sets
    exact grows_setLoader nofun
  · cases sets
    exact grows_setLoader nofun

theorem grows_importAndSet (imports : importAndSet tree id state = (result, last)) :
    Grows state last := by
  have first : Grows state { state with imported := tree.loads id ++ state.imported } :=
    ⟨fun _ used => used, fun _ known => List.mem_append_right _ known⟩
  unfold importAndSet at imports
  split at imports
  · cases imports
    exact first
  · exact first.trans (grows_set imports)

theorem Loads.grows (loads : Loads tree cached id state result last) : Grows state last := by
  induction loads with
  | hit id state object last got => exact grows_getCached got
  | root name state error missed result last noHit imports =>
      exact (grows_getCached noHit).trans (grows_importAndSet imports)
  | parentFails parentId name state error missed failure last noHit parentLoads parentGrows =>
      exact (grows_getCached noHit).trans parentGrows
  | hasAttribute parentId name state error missed parent middle object result last noHit
      parentLoads has sets parentGrows =>
      exact ((grows_getCached noHit).trans parentGrows).trans (grows_set sets)
  | submodule parentId name state error missed parent middle result last noHit parentLoads
      hasNot isModule imports parentGrows =>
      exact ((grows_getCached noHit).trans parentGrows).trans (grows_importAndSet imports)
  | noAttribute parentId name state error missed parent last noHit parentLoads hasNot notModule
      parentGrows =>
      exact (grows_getCached noHit).trans parentGrows

/-! ### What is left alone -/

/-- The id and those of its parents. -/
def ObjectId.prefixes : ObjectId Name → List (ObjectId Name)
  | .root name => [.root name]
  | .child parentId name => .child parentId name :: ObjectId.prefixes parentId

omit [DecidableEq Name] in
theorem ObjectId.self_mem_prefixes (id : ObjectId Name) : id ∈ id.prefixes := by
  cases id with
  | root name => exact List.mem_singleton_self _
  | child parentId name => exact List.mem_cons_self

omit [DecidableEq Name] in
theorem ObjectId.sizeOf_prefix {id other : ObjectId Name} (member : other ∈ id.prefixes) :
    sizeOf other ≤ sizeOf id := by
  induction id with
  | root name =>
      exact Nat.le_of_eq (congrArg sizeOf (List.mem_singleton.mp member))
  | child parentId name inductionHypothesis =>
      rcases List.mem_cons.mp member with rfl | above
      · exact Nat.le_refl _
      · have within := inductionHypothesis above
        rw [ObjectId.child.sizeOf_spec]
        omega

omit [DecidableEq Name] in
theorem ObjectId.child_notMem_prefixes (parentId : ObjectId Name) (name : Name) :
    ObjectId.child parentId name ∉ parentId.prefixes := by
  intro member
  have within := ObjectId.sizeOf_prefix member
  rw [ObjectId.child.sizeOf_spec] at within
  omega

theorem getLoader_set (sets : set tree id object state = (result, last)) {other : ObjectId Name}
    (apart : other ≠ id) : last.getLoader other = state.getLoader other := by
  unfold set at sets
  split at sets
  · cases sets
    exact if_neg apart
  · cases sets
    exact if_neg apart
  · cases sets
    exact if_neg apart
  · cases sets
    exact if_neg apart

theorem getLoader_importAndSet (imports : importAndSet tree id state = (result, last))
    {other : ObjectId Name} (apart : other ≠ id) :
    last.getLoader other = state.getLoader other := by
  unfold importAndSet at imports
  split at imports
  · cases imports
    rfl
  · exact getLoader_set imports apart

theorem Loads.getLoader_other (loads : Loads tree cached id state result last)
    {other : ObjectId Name} (apart : other ∉ id.prefixes) :
    last.getLoader other = state.getLoader other := by
  induction loads with
  | hit id state object last got => rw [(getCached_state got).1]
  | root name state error missed result last noHit imports =>
      rw [getLoader_importAndSet imports (List.ne_of_not_mem_cons apart),
        (getCached_state noHit).1]
  | parentFails parentId name state error missed failure last noHit parentLoads parentOther =>
      rw [parentOther (List.not_mem_of_not_mem_cons apart), (getCached_state noHit).1]
  | hasAttribute parentId name state error missed parent middle object result last noHit
      parentLoads has sets parentOther =>
      rw [getLoader_set sets (List.ne_of_not_mem_cons apart),
        parentOther (List.not_mem_of_not_mem_cons apart), (getCached_state noHit).1]
  | submodule parentId name state error missed parent middle result last noHit parentLoads
      hasNot isModule imports parentOther =>
      rw [getLoader_importAndSet imports (List.ne_of_not_mem_cons apart),
        parentOther (List.not_mem_of_not_mem_cons apart), (getCached_state noHit).1]
  | noAttribute parentId name state error missed parent last noHit parentLoads hasNot notModule
      parentOther =>
      rw [parentOther (List.not_mem_of_not_mem_cons apart), (getCached_state noHit).1]

/-! ### The invariant -/

variable (tree)

/-- The step to the id is an import, as the parent lacks the attribute. -/
def byImport : ObjectId Name → Bool
  | .root _ => true
  | .child parentId name =>
      match tree.resolve parentId with
      | none => false
      | some parent => (tree.attr parent name).isNone

/-- The loader that `set` leaves. -/
def loaderOf (object : Object) : ObjectLoader Object :=
  match tree.kind object with
  | .isNone => ⟨some false, .getNone⟩
  | .module => ⟨some true, .getModule⟩
  | .referable => ⟨some false, .getObject object⟩
  | .unreferable => ⟨some false, .getNotCached⟩

/-- The loader holds the designated object, and its parents' loaders have been used. -/
structure Holds (state : State Name Object) (id : ObjectId Name) (object : Object) : Prop where
  resolves : tree.resolve id = some object
  loader : state.getLoader id = loaderOf tree object
  parentUsed : ∀ parentId name, id = .child parentId name → state.getLoader parentId ≠ newLoader
  imports : byImport tree id = true → ∀ other ∈ tree.loads id, other ∈ state.imported

/-- On the path of the id, a weak reference can be made of every object that is not `None` or
a module, and a module is a submodule of its parent by the name under which it is imported. -/
structure Plain (id : ObjectId Name) : Prop where
  referable : ∀ other ∈ id.prefixes, ∀ object, tree.resolve other = some object →
    tree.kind object ≠ .unreferable
  submodules : ∀ parentId name parent, ObjectId.child parentId name ∈ id.prefixes →
    tree.resolve parentId = some parent → tree.attr parent name = none →
      tree.kind parent = .module →
        tree.importModule (.child parentId name) = tree.submodule parent name

/-- A module on the path that has been loaded is not another one in `sys.modules`. -/
def OwnModules (state : State Name Object) (id : ObjectId Name) : Prop :=
  ∀ other ∈ id.prefixes, ∀ object, tree.resolve other = some object →
    tree.kind object = .module → state.getLoader other ≠ newLoader →
      ∀ module, sysModules tree state other = some module → module = object

/-- The loaders of such ids hold what they should, if they have been used. -/
def Consistent (state : State Name Object) : Prop :=
  ∀ id, Plain tree id → OwnModules tree state id → state.getLoader id ≠ newLoader →
    ∃ object, Holds tree state id object

/-- What is in `sys.modules` once the id has been loaded. -/
def importedBy (state : State Name Object) (id : ObjectId Name) : List (ObjectId Name) :=
  state.imported ++ (id.prefixes.filter (byImport tree)).flatMap tree.loads

variable {tree}

omit [DecidableEq Name] in
theorem ObjectId.prefixes_child {parentId other : ObjectId Name} {name : Name}
    (member : other ∈ parentId.prefixes) : other ∈ (ObjectId.child parentId name).prefixes :=
  List.mem_cons_of_mem _ member

omit [DecidableEq Name] in
theorem Plain.parent {parentId : ObjectId Name} {name : Name}
    (plain : Plain tree (.child parentId name)) : Plain tree parentId where
  referable := fun other member => plain.referable other (ObjectId.prefixes_child member)
  submodules := fun above name parent member =>
    plain.submodules above name parent (ObjectId.prefixes_child member)

theorem OwnModules.parent {parentId : ObjectId Name} {name : Name}
    (own : OwnModules tree state (.child parentId name)) : OwnModules tree state parentId :=
  fun other member => own other (ObjectId.prefixes_child member)

theorem sysModules_grows (grows : Grows state last) {module : Object}
    (there : sysModules tree state id = some module) : sysModules tree last id = some module := by
  unfold sysModules at there ⊢
  split at there
  · rename_i known
    rw [if_pos (grows.imported id known)]
    exact there
  · cases there

theorem OwnModules.before (grows : Grows state last) (own : OwnModules tree last id) :
    OwnModules tree state id :=
  fun other member object resolves isModule used module there =>
    own other member object resolves isModule (grows.used other used) module
      (sysModules_grows grows there)

omit [DecidableEq Name] in
theorem loaderOf_ne_newLoader (object : Object) : loaderOf tree object ≠ newLoader := by
  unfold loaderOf newLoader
  split <;> exact nofun

omit [DecidableEq Name] in
theorem Holds.after (holds : Holds tree state id object) (grows : Grows state last)
    (same : last.getLoader id = state.getLoader id) : Holds tree last id object where
  resolves := holds.resolves
  loader := by rw [same]; exact holds.loader
  parentUsed := fun parentId name child =>
    grows.used parentId (holds.parentUsed parentId name child)
  imports := fun imported other member =>
    grows.imported other (holds.imports imported other member)

/-- A step that changes the loader of one id leaves the others consistent. -/
theorem Consistent.step (consistent : Consistent tree state) (grows : Grows state last)
    (others : ∀ other, other ≠ id → last.getLoader other = state.getLoader other)
    (here : Plain tree id → OwnModules tree last id → last.getLoader id ≠ newLoader →
      ∃ object, Holds tree last id object) :
    Consistent tree last := by
  intro other plain own used
  by_cases same : other = id
  · subst same
    exact here plain own used
  · have unchanged := others other same
    rw [unchanged] at used
    obtain ⟨object, holds⟩ := consistent other plain (own.before grows) used
    exact ⟨object, holds.after grows unchanged⟩

theorem Consistent.getCached (consistent : Consistent tree state)
    (got : getCached tree cached id state = (result, last)) : Consistent tree last := by
  obtain ⟨loaders, _⟩ := getCached_state got
  have grows := grows_getCached got
  intro other plain own used
  rw [loaders] at used
  obtain ⟨object, holds⟩ := consistent other plain (own.before grows) used
  exact ⟨object, holds.after grows (by rw [loaders])⟩

/-- What a loader returns is what it holds, unless another module is in its place. -/
theorem Holds.get_eq {held : Object} (holds : Holds tree state id held)
    (referable : tree.kind held ≠ .unreferable)
    (own : tree.kind held = .module →
      ∀ module, sysModules tree state id = some module → module = held)
    (got : get tree id state = (.ok object, last)) : object = held := by
  unfold get at got
  rw [holds.loader] at got
  unfold loaderOf at got
  cases kind : tree.kind held with
  | isNone =>
      rw [kind] at got
      cases got
      exact ((tree.kind_none held).mp kind).symm
  | module =>
      simp only [kind] at got
      split at got
      · rename_i module there
        cases got
        exact own kind _ there
      · cases got
  | referable =>
      simp only [kind] at got
      split at got
      · cases got
        rfl
      · cases got
  | unreferable => exact (referable kind).elim

theorem getCached_ok (got : getCached tree cached id state = (.ok object, last)) :
    cached = true ∧ get tree id state = (.ok object, last) := by
  unfold getCached at got
  split at got
  · exact ⟨‹_›, got⟩
  · cases got

/-- What a loader returns is what its id designates. -/
theorem Consistent.hit (consistent : Consistent tree state) (plain : Plain tree id)
    (own : cached = true → OwnModules tree state id)
    (hits : ObjectLoading.getCached tree cached id state = (.ok object, last)) :
    Holds tree state id object := by
  obtain ⟨isCached, got⟩ := getCached_ok hits
  have used : state.getLoader id ≠ newLoader := by
    intro new
    unfold get at got
    rw [new] at got
    cases got
  obtain ⟨held, holds⟩ := consistent id plain (own isCached) used
  have same := holds.get_eq (plain.referable id id.self_mem_prefixes held holds.resolves)
    (fun isModule => own isCached id id.self_mem_prefixes held holds.resolves isModule used) got
  rw [same]
  exact holds

/-! ### One load -/

variable (tree)

/-- What a load of `id` from `state` must come to. -/
structure Right (state : State Name Object) (id : ObjectId Name)
    (result : Except (LoadError Name) Object) (last : State Name Object) : Prop where
  designated : ∀ object, tree.resolve id = some object →
    result = .ok object ∧ Holds tree last id object
  undesignated : tree.resolve id = none →
    (∃ error, result = .error error) ∧ last.getLoader id = state.getLoader id
  imported : ∀ other ∈ last.imported, other ∈ importedBy tree state id

variable {tree} {middle : State Name Object}

theorem imported_set (sets : set tree id object state = (result, last)) :
    last.imported = state.imported := by
  unfold set at sets
  split at sets
  · cases sets
    rfl
  · cases sets
    rfl
  · cases sets
    rfl
  · cases sets
    rfl

theorem set_holds (sets : set tree id object middle = (result, last)) (plain : Plain tree id)
    (resolves : tree.resolve id = some object)
    (parentUsed : ∀ parentId name, id = .child parentId name →
      middle.getLoader parentId ≠ newLoader)
    (imports : byImport tree id = true → ∀ other ∈ tree.loads id, other ∈ middle.imported) :
    result = .ok object ∧ Holds tree last id object := by
  have referable := plain.referable id id.self_mem_prefixes object resolves
  have both : result = .ok object ∧ last = middle.setLoader id (loaderOf tree object) := by
    unfold set at sets
    unfold loaderOf
    cases kind : tree.kind object with
    | isNone =>
        rw [kind] at sets
        cases sets
        exact ⟨rfl, rfl⟩
    | module =>
        rw [kind] at sets
        cases sets
        exact ⟨rfl, rfl⟩
    | referable =>
        rw [kind] at sets
        cases sets
        exact ⟨rfl, rfl⟩
    | unreferable => exact (referable kind).elim
  obtain ⟨returned, rfl⟩ := both
  refine ⟨returned, resolves, if_pos rfl, fun parentId name child => ?_, imports⟩
  exact (grows_setLoader (loaderOf_ne_newLoader object)).used parentId
    (parentUsed parentId name child)

/-- An import gives what is designated, where the step is an import. -/
theorem importAndSet_right (imports : importAndSet tree id middle = (result, last))
    (plain : Plain tree id) (stepsByImport : byImport tree id = true)
    (same : tree.importModule id = tree.resolve id)
    (parentUsed : ∀ parentId name, id = .child parentId name →
      middle.getLoader parentId ≠ newLoader)
    (loader : middle.getLoader id = state.getLoader id)
    (imported : ∀ other ∈ middle.imported, other ∈ importedBy tree state id) :
    Right tree state id result last := by
  have loadsIn : ∀ other ∈ tree.loads id ++ middle.imported,
      other ∈ importedBy tree state id := by
    intro other member
    rcases List.mem_append.mp member with new | old
    · refine List.mem_append_right _ (List.mem_flatMap.mpr ⟨id, ?_, new⟩)
      exact List.mem_filter.mpr ⟨id.self_mem_prefixes, stepsByImport⟩
    · exact imported other old
  unfold importAndSet at imports
  split at imports
  · rename_i missing
    cases imports
    refine ⟨fun object resolves => ?_, fun _ => ⟨⟨_, rfl⟩, loader⟩, loadsIn⟩
    rw [← same, missing] at resolves
    cases resolves
  · rename_i module found
    have resolvesModule : tree.resolve id = some module := by rw [← same, found]
    have holds := set_holds imports plain resolvesModule parentUsed
      fun _ other member => List.mem_append_left _ member
    refine ⟨fun object resolves => ?_, fun undesignated => ?_, ?_⟩
    · rw [resolvesModule] at resolves
      cases resolves
      exact holds
    · rw [resolvesModule] at undesignated
      cases undesignated
    · rw [imported_set imports]
      exact loadsIn

omit [DecidableEq Name] in
theorem mem_importedBy_parent {parentId other : ObjectId Name} {name : Name}
    (member : other ∈ importedBy tree state parentId) :
    other ∈ importedBy tree state (.child parentId name) := by
  rcases List.mem_append.mp member with old | new
  · exact List.mem_append_left _ old
  · obtain ⟨above, aboveIn, loaded⟩ := List.mem_flatMap.mp new
    obtain ⟨isPrefix, stepsByImport⟩ := List.mem_filter.mp aboveIn
    refine List.mem_append_right _ (List.mem_flatMap.mpr ⟨above, ?_, loaded⟩)
    exact List.mem_filter.mpr ⟨ObjectId.prefixes_child isPrefix, stepsByImport⟩

omit [DecidableEq Name] in
theorem importedBy_of_state {other : ObjectId Name} (same : middle.imported = state.imported)
    (member : other ∈ importedBy tree middle id) : other ∈ importedBy tree state id := by
  unfold importedBy at member ⊢
  rw [same] at member
  exact member

theorem OwnModules.of_same (own : OwnModules tree state id)
    (loaders : last.getLoader = state.getLoader) (imported : last.imported = state.imported) :
    OwnModules tree last id := by
  intro other member object resolves isModule used module there
  refine own other member object resolves isModule (by rw [← loaders]; exact used) module ?_
  unfold sysModules at there ⊢
  rw [← imported]
  exact there

omit [DecidableEq Name] in
theorem isModule_loaderOf :
    (loaderOf tree object).isModule = some true ↔ tree.kind object = .module := by
  unfold loaderOf
  cases tree.kind object with
  | isNone => exact iff_of_false nofun nofun
  | module => exact iff_of_true rfl rfl
  | referable => exact iff_of_false nofun nofun
  | unreferable => exact iff_of_false nofun nofun

section Child

variable {parentId : ObjectId Name} {name : Name} {error : LoadError Name}
  {missed : State Name Object} {parent : Object}

/-- The state once the parent has been loaded: the loader of the child is as it was. -/
theorem Loads.parent_right
    (noHit : getCached tree cached (.child parentId name) state = (.error error, missed))
    (parentLoads : Loads tree cached parentId missed result middle)
    (parentRight : Consistent tree missed → Plain tree parentId →
      (cached = true → OwnModules tree missed parentId) → Right tree missed parentId result middle)
    (consistent : Consistent tree state) (plain : Plain tree (.child parentId name))
    (own : cached = true → OwnModules tree state (.child parentId name)) :
    Right tree missed parentId result middle ∧
      middle.getLoader (.child parentId name) = state.getLoader (.child parentId name) ∧
      ∀ other ∈ middle.imported, other ∈ importedBy tree state (.child parentId name) := by
  obtain ⟨loaders, imported⟩ := getCached_state noHit
  have right := parentRight (consistent.getCached noHit) plain.parent
    fun isCached => (own isCached).parent.of_same loaders imported
  refine ⟨right, ?_, fun other member => ?_⟩
  · rw [parentLoads.getLoader_other (ObjectId.child_notMem_prefixes parentId name), loaders]
  · exact mem_importedBy_parent (importedBy_of_state imported (right.imported other member))

omit [DecidableEq Name] in
theorem Right.parent_holds (right : Right tree missed parentId (.ok parent) middle) :
    tree.resolve parentId = some parent ∧ Holds tree middle parentId parent := by
  cases resolves : tree.resolve parentId with
  | none =>
      obtain ⟨⟨_, raised⟩, _⟩ := right.undesignated resolves
      cases raised
  | some object =>
      obtain ⟨returned, holds⟩ := right.designated object resolves
      cases returned
      exact ⟨rfl, holds⟩

omit [DecidableEq Name] in
theorem Holds.used (holds : Holds tree state id object) : state.getLoader id ≠ newLoader := by
  rw [holds.loader]
  exact loaderOf_ne_newLoader object

omit [DecidableEq Name] in
theorem resolve_child (resolves : tree.resolve parentId = some parent) :
    tree.resolve (.child parentId name) = (tree.attr parent name).or
      (if tree.kind parent = .module then tree.submodule parent name else none) := by
  unfold Tree.resolve
  rw [resolves]
  rfl

omit [DecidableEq Name] in
theorem byImport_child (resolves : tree.resolve parentId = some parent) :
    byImport tree (.child parentId name) = (tree.attr parent name).isNone := by
  simp only [byImport, resolves]

omit [DecidableEq Name] in
/-- An attribute is not found by an import, whatever an import would ask for. -/
theorem byImport_attribute {object : Object} {asked : Prop}
    (resolves : tree.resolve parentId = some parent) (has : tree.attr parent name = some object)
    (imports : byImport tree (.child parentId name) = true) : asked := by
  rw [byImport_child resolves, has] at imports
  cases imports

end Child

/-- **A load returns what the tree designates, or raises where it designates nothing.** -/
theorem Loads.right (loads : Loads tree cached id state result last)
    (consistent : Consistent tree state) (plain : Plain tree id)
    (own : cached = true → OwnModules tree state id) : Right tree state id result last := by
  induction loads with
  | hit id state object last got =>
      obtain ⟨loaders, imported⟩ := getCached_state got
      have holds := consistent.hit plain own got
      refine ⟨fun other resolves => ?_, fun undesignated => ?_, fun other member => ?_⟩
      · rw [holds.resolves] at resolves
        cases resolves
        exact ⟨rfl, holds.after (grows_getCached got) (by rw [loaders])⟩
      · rw [holds.resolves] at undesignated
        cases undesignated
      · rw [imported] at member
        exact List.mem_append_left _ member
  | root name state error missed result last noHit imports =>
      obtain ⟨loaders, imported⟩ := getCached_state noHit
      refine importAndSet_right imports plain rfl rfl nofun (by rw [loaders]) ?_
      intro other member
      rw [imported] at member
      exact List.mem_append_left _ member
  | parentFails parentId name state error missed failure last noHit parentLoads parentRight =>
      obtain ⟨right, loader, imported⟩ :=
        parentLoads.parent_right noHit parentRight consistent plain own
      have unresolved : tree.resolve parentId = none := by
        cases resolves : tree.resolve parentId with
        | none => rfl
        | some parent => cases (right.designated parent resolves).1
      have childUnresolved : tree.resolve (.child parentId name) = none := by
        unfold Tree.resolve
        rw [unresolved]
        rfl
      refine ⟨fun object resolves => ?_, fun _ => ⟨⟨_, rfl⟩, loader⟩, imported⟩
      rw [childUnresolved] at resolves
      cases resolves
  | hasAttribute parentId name state error missed parent middle object result last noHit
      parentLoads has sets parentRight =>
      obtain ⟨right, loader, imported⟩ :=
        parentLoads.parent_right noHit parentRight consistent plain own
      obtain ⟨parentResolves, parentHolds⟩ := right.parent_holds
      have resolves : tree.resolve (.child parentId name) = some object := by
        rw [resolve_child parentResolves, has]
        rfl
      have holds := set_holds sets plain resolves
        (fun _ _ same => by cases same; exact parentHolds.used)
        (byImport_attribute parentResolves has)
      refine ⟨fun other otherResolves => ?_, fun undesignated => ?_, fun other member => ?_⟩
      · rw [resolves] at otherResolves
        cases otherResolves
        exact holds
      · rw [resolves] at undesignated
        cases undesignated
      · rw [imported_set sets] at member
        exact imported other member
  | submodule parentId name state error missed parent middle result last noHit parentLoads
      hasNot isModule imports parentRight =>
      obtain ⟨right, loader, imported⟩ :=
        parentLoads.parent_right noHit parentRight consistent plain own
      obtain ⟨parentResolves, parentHolds⟩ := right.parent_holds
      rw [parentHolds.loader, isModule_loaderOf] at isModule
      have same : tree.importModule (.child parentId name) =
          tree.resolve (.child parentId name) := by
        rw [resolve_child parentResolves, hasNot, if_pos isModule, Option.none_or]
        exact plain.submodules parentId name parent (ObjectId.self_mem_prefixes _) parentResolves
          hasNot isModule
      refine importAndSet_right imports plain ?_ same
        (fun _ _ same => by cases same; exact parentHolds.used) loader imported
      rw [byImport_child parentResolves, hasNot]
      rfl
  | noAttribute parentId name state error missed parent last noHit parentLoads hasNot notModule
      parentRight =>
      obtain ⟨right, loader, imported⟩ :=
        parentLoads.parent_right noHit parentRight consistent plain own
      obtain ⟨parentResolves, parentHolds⟩ := right.parent_holds
      rw [parentHolds.loader, ne_eq, isModule_loaderOf] at notModule
      have unresolved : tree.resolve (.child parentId name) = none := by
        rw [resolve_child parentResolves, hasNot, if_neg notModule]
        rfl
      refine ⟨fun object resolves => ?_, fun _ => ⟨⟨_, rfl⟩, loader⟩, imported⟩
      rw [unresolved] at resolves
      cases resolves

theorem Loads.loaded_holds (loads : Loads tree cached id state result last)
    (consistent : Consistent tree state) (plain : Plain tree id) (own : OwnModules tree last id)
    (used : last.getLoader id ≠ newLoader) : ∃ object, Holds tree last id object := by
  have ownBefore := own.before loads.grows
  have right := loads.right consistent plain fun _ => ownBefore
  cases resolves : tree.resolve id with
  | some object => exact ⟨object, (right.designated object resolves).2⟩
  | none =>
      rw [(right.undesignated resolves).2] at used
      obtain ⟨object, holds⟩ := consistent id plain ownBefore used
      rw [holds.resolves] at resolves
      cases resolves

/-- **Whatever is loaded, the loaders stay consistent.** -/
theorem Loads.consistent (loads : Loads tree cached id state result last)
    (consistent : Consistent tree state) : Consistent tree last := by
  have whole := loads
  induction loads with
  | hit id state object last got => exact consistent.getCached got
  | root name state error missed result last noHit imports =>
      exact (consistent.getCached noHit).step (grows_importAndSet imports)
        (fun _ apart => getLoader_importAndSet imports apart) (whole.loaded_holds consistent)
  | parentFails parentId name state error missed failure last noHit parentLoads parentKeeps =>
      exact parentKeeps (consistent.getCached noHit) parentLoads
  | hasAttribute parentId name state error missed parent middle object result last noHit
      parentLoads has sets parentKeeps =>
      exact (parentKeeps (consistent.getCached noHit) parentLoads).step (grows_set sets)
        (fun _ apart => getLoader_set sets apart) (whole.loaded_holds consistent)
  | submodule parentId name state error missed parent middle result last noHit parentLoads
      hasNot isModule imports parentKeeps =>
      exact (parentKeeps (consistent.getCached noHit) parentLoads).step
        (grows_importAndSet imports) (fun _ apart => getLoader_importAndSet imports apart)
        (whole.loaded_holds consistent)
  | noAttribute parentId name state error missed parent last noHit parentLoads hasNot notModule
      parentKeeps =>
      exact parentKeeps (consistent.getCached noHit) parentLoads

end History

end Tobiko.Common.ObjectLoading
