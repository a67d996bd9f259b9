import Tobiko.Common.ObjectLoading.HistoryIndependence

/-!
Contract: the module of an object, and runs of calls.

Owns: the courses of `load_module`, the loaders on the path of a loaded id, the result of any
call after any run, and the losses where the condition of an id fails.

Does not own: the courses of a load and the invariant of the loaders.
-/

namespace Tobiko.Common.ObjectLoading

section Modules

variable {Name Object : Type} [DecidableEq Name] (tree : Tree Name Object)

/-- A course of `ObjectLoader.load_module`. -/
inductive LoadsModule : Bool → ObjectId Name → State Name Object →
    Except (LoadError Name) Object → State Name Object → Prop
  | known (id state result last)
      (isModule : (state.getLoader id).isModule = some true)
      (got : get tree id state = (result, last)) : LoadsModule true id state result last
  | loadFails (cached id state error last)
      (loads : Loads tree cached id state (.error error) last) :
      LoadsModule cached id state (.error error) last
  | module (cached id state object middle result last)
      (loads : Loads tree cached id state (.ok object) middle)
      (isModule : (middle.getLoader id).isModule = some true)
      (got : get tree id middle = (result, last)) : LoadsModule cached id state result last
  | parent (cached parentId name state object middle result last)
      (loads : Loads tree cached (.child parentId name) state (.ok object) middle)
      (notModule : (middle.getLoader (.child parentId name)).isModule ≠ some true)
      (parentLoads : LoadsModule true parentId middle result last) :
      LoadsModule cached (.child parentId name) state result last
  | noParent (cached name state object last)
      (loads : Loads tree cached (.root name) state (.ok object) last)
      (notModule : (last.getLoader (.root name)).isModule ≠ some true) :
      LoadsModule cached (.root name) state (.error (.noParent (.root name))) last

theorem loadModule_loadsModule (cached : Bool) (id : ObjectId Name) (state : State Name Object) :
    LoadsModule tree cached id state (loadModule tree cached id state).1
      (loadModule tree cached id state).2 := by
  induction id generalizing cached state with
  | root name =>
      unfold loadModule
      by_cases known : cached = true ∧ (state.getLoader (.root name)).isModule = some true
      · rw [if_pos known, known.1]
        exact .known _ _ _ _ known.2 rfl
      · rw [if_neg known]
        have loads := load_loads tree cached (.root name) state
        cases loaded : load tree cached (.root name) state with
        | mk result middle =>
            rw [loaded] at loads
            cases result with
            | error error => exact .loadFails _ _ _ _ _ loads
            | ok object =>
                by_cases isModule : (middle.getLoader (.root name)).isModule = some true
                · simp only [isModule, if_true]
                  exact .module _ _ _ _ _ _ _ loads isModule rfl
                · simp only [isModule, if_false]
                  exact .noParent _ _ _ _ _ loads isModule
  | child parentId name inductionHypothesis =>
      unfold loadModule
      by_cases known :
          cached = true ∧ (state.getLoader (.child parentId name)).isModule = some true
      · rw [if_pos known, known.1]
        exact .known _ _ _ _ known.2 rfl
      · rw [if_neg known]
        have loads := load_loads tree cached (.child parentId name) state
        cases loaded : load tree cached (.child parentId name) state with
        | mk result middle =>
            rw [loaded] at loads
            cases result with
            | error error => exact .loadFails _ _ _ _ _ loads
            | ok object =>
                by_cases isModule :
                    (middle.getLoader (.child parentId name)).isModule = some true
                · simp only [isModule, if_true]
                  exact .module _ _ _ _ _ _ _ loads isModule rfl
                · simp only [isModule, if_false]
                  exact .parent _ _ _ _ _ _ _ _ loads isModule (inductionHypothesis true middle)

variable {tree} {cached : Bool} {id : ObjectId Name} {state last middle : State Name Object}
  {object : Object} {result : Except (LoadError Name) Object}

theorem getCached_of_get (got : get tree id state = (result, last)) :
    getCached tree true id state = (result, last) := got

theorem LoadsModule.consistent (loads : LoadsModule tree cached id state result last)
    (consistent : Consistent tree state) : Consistent tree last := by
  induction loads with
  | known id state result last isModule got =>
      exact consistent.getCached (getCached_of_get got)
  | loadFails cached id state error last loads => exact loads.consistent consistent
  | module cached id state object middle result last loads isModule got =>
      exact (loads.consistent consistent).getCached (getCached_of_get got)
  | parent cached parentId name state object middle result last loads notModule parentLoads
      parentKeeps =>
      exact parentKeeps (loads.consistent consistent)
  | noParent cached name state object last loads notModule => exact loads.consistent consistent

/-! ### The path of a loaded id -/

variable (tree) in
/-- All loaders on the path hold what is designated. -/
def HeldPath (state : State Name Object) (id : ObjectId Name) : Prop :=
  ∀ other ∈ id.prefixes, ∃ object, Holds tree state other object

omit [DecidableEq Name] in
theorem HeldPath.here (held : HeldPath tree state id) : ∃ object, Holds tree state id object :=
  held id id.self_mem_prefixes

omit [DecidableEq Name] in
theorem HeldPath.parent {parentId : ObjectId Name} {name : Name}
    (held : HeldPath tree state (.child parentId name)) : HeldPath tree state parentId :=
  fun other member => held other (ObjectId.prefixes_child member)

omit [DecidableEq Name] in
theorem HeldPath.child {parentId : ObjectId Name} {name : Name}
    (held : HeldPath tree state parentId) (holds : Holds tree state (.child parentId name) object) :
    HeldPath tree state (.child parentId name) := by
  intro other member
  rcases List.mem_cons.mp member with rfl | above
  · exact ⟨object, holds⟩
  · exact held other above

omit [DecidableEq Name] in
theorem HeldPath.after (held : HeldPath tree state id) (grows : Grows state last)
    (same : ∀ other ∈ id.prefixes, last.getLoader other = state.getLoader other) :
    HeldPath tree last id := by
  intro other member
  obtain ⟨object, holds⟩ := held other member
  exact ⟨object, holds.after grows (same other member)⟩

omit [DecidableEq Name] in
theorem HeldPath.importedBy (held : HeldPath tree last id) (grows : Grows state last)
    {other : ObjectId Name} (member : other ∈ importedBy tree state id) :
    other ∈ last.imported := by
  rcases List.mem_append.mp member with old | new
  · exact grows.imported other old
  · obtain ⟨above, aboveIn, loaded⟩ := List.mem_flatMap.mp new
    obtain ⟨isPrefix, stepsByImport⟩ := List.mem_filter.mp aboveIn
    obtain ⟨object, holds⟩ := held above isPrefix
    exact holds.imports stepsByImport other loaded

/-- The induction is on the path: each loader that holds something has a parent in use. -/
theorem Consistent.heldPath (consistent : Consistent tree state) (plain : Plain tree id)
    (own : OwnModules tree state id) (used : state.getLoader id ≠ newLoader) :
    HeldPath tree state id := by
  induction id with
  | root name =>
      intro other member
      rw [List.mem_singleton.mp member]
      exact consistent _ plain own used
  | child parentId name inductionHypothesis =>
      obtain ⟨object, holds⟩ := consistent _ plain own used
      exact (inductionHypothesis plain.parent own.parent
        (holds.parentUsed parentId name rfl)).child holds

omit [DecidableEq Name] in
theorem ObjectId.ne_child_of_mem {parentId other : ObjectId Name} {name : Name}
    (member : other ∈ parentId.prefixes) : other ≠ .child parentId name := by
  rintro rfl
  exact ObjectId.child_notMem_prefixes parentId name member

theorem Loads.heldPath (loads : Loads tree cached id state result last)
    (returned : result = .ok object) (consistent : Consistent tree state)
    (plain : Plain tree id) (own : cached = true → OwnModules tree state id) :
    HeldPath tree last id := by
  have whole := loads
  induction loads generalizing object with
  | hit id state held last got =>
      obtain ⟨loaders, imported⟩ := getCached_state got
      have holds := consistent.hit plain own got
      have path := consistent.heldPath plain (own (getCached_ok got).1) holds.used
      exact path.after (grows_getCached got) fun other _ => by rw [loaders]
  | root name state error missed result last noHit imports =>
      cases returned
      have right := whole.right consistent plain own
      intro other member
      rw [List.mem_singleton.mp member]
      exact ⟨object, right.parent_holds.2⟩
  | parentFails parentId name state error missed failure last noHit parentLoads parentHeld =>
      cases returned
  | hasAttribute parentId name state error missed parent middle found result last noHit
      parentLoads has sets parentHeld =>
      cases returned
      obtain ⟨loaders, imported⟩ := getCached_state noHit
      have held := parentHeld rfl (consistent.getCached noHit) plain.parent
        (fun isCached => (own isCached).parent.of_same loaders imported) parentLoads
      have right := whole.right consistent plain own
      exact (held.after (grows_set sets) fun other member =>
        getLoader_set sets (ObjectId.ne_child_of_mem member)).child right.parent_holds.2
  | submodule parentId name state error missed parent middle result last noHit parentLoads
      hasNot isModule imports parentHeld =>
      cases returned
      obtain ⟨loaders, imported⟩ := getCached_state noHit
      have held := parentHeld rfl (consistent.getCached noHit) plain.parent
        (fun isCached => (own isCached).parent.of_same loaders imported) parentLoads
      have right := whole.right consistent plain own
      exact (held.after (grows_importAndSet imports) fun other member =>
        getLoader_importAndSet imports (ObjectId.ne_child_of_mem member)).child
        right.parent_holds.2
  | noAttribute parentId name state error missed parent last noHit parentLoads hasNot notModule
      parentHeld =>
      cases returned

/-! ### Below the longest module -/

omit [DecidableEq Name] in
theorem longestModule_of_module (resolves : tree.resolve id = some object)
    (isModule : tree.kind object = .module) : tree.longestModule id = some (id, object) := by
  cases id with
  | root name =>
      have isRoot : tree.rootModule name = some object := resolves
      unfold Tree.longestModule
      rw [isRoot]
      rfl
  | child parentId name =>
      unfold Tree.longestModule
      simp only [resolves, isModule, if_true]

omit [DecidableEq Name] in
theorem longestModule_parent {parentId : ObjectId Name} {name : Name}
    (resolves : tree.resolve (.child parentId name) = some object)
    (notModule : tree.kind object ≠ .module) :
    tree.longestModule (.child parentId name) = tree.longestModule parentId := by
  rw [Tree.longestModule]
  simp only [resolves, notModule, if_false]

omit [DecidableEq Name] in
/-- What is found below a parent without being a module is its attribute. -/
theorem attr_of_notModule {parentId : ObjectId Name} {name : Name} {parent : Object}
    (resolves : tree.resolve (.child parentId name) = some object)
    (notModule : tree.kind object ≠ .module) (parentResolves : tree.resolve parentId = some parent) :
    tree.attr parent name = some object := by
  rw [resolve_child parentResolves] at resolves
  cases attr : tree.attr parent name with
  | some found => rwa [attr] at resolves
  | none =>
      rw [attr, Option.none_or] at resolves
      split at resolves
      · exact (notModule (tree.kind_submodule _ _ _ resolves)).elim
      · cases resolves

/-- The loader of a module that is in `sys.modules` returns it. -/
theorem get_of_holds {module : Object} (holds : Holds tree state id module)
    (isModule : tree.kind module = .module)
    (there : sysModules tree state id = some module) : get tree id state = (.ok module, state) := by
  unfold get
  rw [holds.loader]
  simp only [loaderOf, isModule, there]

section Below

variable {other : ObjectId Name} {module : Object} {error : LoadError Name}

/-- A loader that is read in vain is not the one of the longest module. -/
theorem notModule_of_noHit
    (noHit : getCached tree true id state = (.error error, last))
    (holds : Holds tree state id object) (longest : tree.longestModule id = some (other, module))
    (there : sysModules tree state other = some module) : tree.kind object ≠ .module := by
  intro isModule
  rw [longestModule_of_module holds.resolves isModule] at longest
  cases longest
  have hits : getCached tree true id state = (.ok object, state) :=
    get_of_holds holds isModule there
  rw [hits] at noHit
  cases noHit

/-- The parent of an object that is not a module, once it has been loaded. -/
theorem Loads.parent_below {parentId : ObjectId Name} {name : Name} {missed : State Name Object}
    (noHit : getCached tree true (.child parentId name) state = (.error error, missed))
    (parentBelow : Plain tree parentId → HeldPath tree missed parentId →
      tree.longestModule parentId = some (other, module) →
      sysModules tree missed other = some module →
      (∃ object, result = .ok object ∧ tree.resolve parentId = some object) ∧
        HeldPath tree middle parentId)
    (plain : Plain tree (.child parentId name)) (held : HeldPath tree state (.child parentId name))
    (longest : tree.longestModule (.child parentId name) = some (other, module))
    (there : sysModules tree state other = some module) :
    ∃ object parent, tree.resolve (.child parentId name) = some object ∧
      tree.kind object ≠ .module ∧ result = .ok parent ∧ tree.resolve parentId = some parent ∧
      HeldPath tree middle parentId := by
  obtain ⟨object, holds⟩ := held.here
  have notModule := notModule_of_noHit noHit holds longest there
  rw [longestModule_parent holds.resolves notModule] at longest
  have grows := grows_getCached noHit
  have loaders := (getCached_state noHit).1
  obtain ⟨⟨parent, returned, parentResolves⟩, parentHeld⟩ := parentBelow plain.parent
    (held.parent.after grows fun _ _ => by rw [loaders]) longest (sysModules_grows grows there)
  exact ⟨object, parent, holds.resolves, notModule, returned, parentResolves, parentHeld⟩

/-- A cached load below a module reads no loader above the one of that module. -/
theorem Loads.below_module (loads : Loads tree true id state result last)
    (plain : Plain tree id) (held : HeldPath tree state id)
    (longest : tree.longestModule id = some (other, module))
    (there : sysModules tree state other = some module) :
    (∃ object, result = .ok object ∧ tree.resolve id = some object) ∧ HeldPath tree last id := by
  induction loads with
  | hit id state object last hits =>
      obtain ⟨_, got⟩ := getCached_ok hits
      obtain ⟨found, holds⟩ := held.here
      have own : tree.kind found = .module →
          ∀ one, sysModules tree state id = some one → one = found := by
        intro isModule one oneThere
        rw [longestModule_of_module holds.resolves isModule] at longest
        cases longest
        rw [there] at oneThere
        cases oneThere
        rfl
      have same := holds.get_eq (plain.referable id id.self_mem_prefixes found holds.resolves) own
        got
      have loaders := (getCached_state hits).1
      exact ⟨⟨object, rfl, by rw [same]; exact holds.resolves⟩,
        held.after (grows_getCached hits) fun _ _ => by rw [loaders]⟩
  | root name state error missed result last noHit imports =>
      obtain ⟨found, holds⟩ := held.here
      exact (notModule_of_noHit noHit holds longest there
        (tree.kind_rootModule name found holds.resolves)).elim
  | parentFails parentId name state error missed failure last noHit parentLoads parentBelow =>
      obtain ⟨_, _, _, _, returned, _, _⟩ :=
        Loads.parent_below noHit parentBelow plain held longest there
      cases returned
  | hasAttribute parentId name state error missed parent middle object result last noHit
      parentLoads has sets parentBelow =>
      obtain ⟨found, parent, resolves, notModule, returned, parentResolves, parentHeld⟩ :=
        Loads.parent_below noHit parentBelow plain held longest there
      cases returned
      have attr := attr_of_notModule resolves notModule parentResolves
      rw [has] at attr
      cases attr
      obtain ⟨_, parentHolds⟩ := parentHeld.here
      obtain ⟨returned, holds⟩ := set_holds sets plain resolves
        (fun _ _ same => by cases same; exact parentHolds.used)
        (byImport_attribute parentResolves has)
      exact ⟨⟨object, returned, resolves⟩, (parentHeld.after (grows_set sets) fun other member =>
        getLoader_set sets (ObjectId.ne_child_of_mem member)).child holds⟩
  | submodule parentId name state error missed parent middle result last noHit parentLoads
      hasNot isModule imports parentBelow =>
      obtain ⟨found, parent, resolves, notModule, returned, parentResolves, parentHeld⟩ :=
        Loads.parent_below noHit parentBelow plain held longest there
      cases returned
      have attr := attr_of_notModule resolves notModule parentResolves
      rw [hasNot] at attr
      cases attr
  | noAttribute parentId name state error missed parent last noHit parentLoads hasNot notModule
      parentBelow =>
      obtain ⟨found, parent, resolves, notModule, returned, parentResolves, parentHeld⟩ :=
        Loads.parent_below noHit parentBelow plain held longest there
      cases returned
      have attr := attr_of_notModule resolves notModule parentResolves
      rw [hasNot] at attr
      cases attr

/-- A loader whose flag is set returns the longest module, if that is in `sys.modules`. -/
theorem get_longest (isModule : (state.getLoader id).isModule = some true)
    (held : HeldPath tree state id) (longest : tree.longestModule id = some (other, module))
    (there : sysModules tree state other = some module) :
    get tree id state = (.ok module, state) := by
  obtain ⟨object, holds⟩ := held.here
  rw [holds.loader, isModule_loaderOf] at isModule
  rw [longestModule_of_module holds.resolves isModule] at longest
  cases longest
  exact get_of_holds holds isModule there

omit [DecidableEq Name] in
theorem HeldPath.longestModule_parent {parentId : ObjectId Name} {name : Name}
    (held : HeldPath tree state (.child parentId name))
    (notModule : (state.getLoader (.child parentId name)).isModule ≠ some true) :
    tree.longestModule (.child parentId name) = tree.longestModule parentId := by
  obtain ⟨object, holds⟩ := held.here
  rw [holds.loader, ne_eq, isModule_loaderOf] at notModule
  exact ObjectLoading.longestModule_parent holds.resolves notModule

omit [DecidableEq Name] in
theorem HeldPath.root_isModule {name : Name} (held : HeldPath tree state (.root name)) :
    (state.getLoader (.root name)).isModule = some true := by
  obtain ⟨object, holds⟩ := held.here
  rw [holds.loader, isModule_loaderOf]
  exact tree.kind_rootModule name object holds.resolves

/-- `load_module` below a module that is in `sys.modules` returns it. -/
theorem LoadsModule.below_module (loads : LoadsModule tree cached id state result last)
    (isCached : cached = true) (plain : Plain tree id) (held : HeldPath tree state id)
    (longest : tree.longestModule id = some (other, module))
    (there : sysModules tree state other = some module) : result = .ok module := by
  induction loads with
  | known id state result last isModule got =>
      rw [get_longest isModule held longest there] at got
      cases got
      rfl
  | loadFails cached id state error last loads =>
      subst isCached
      obtain ⟨⟨object, returned, _⟩, _⟩ := loads.below_module plain held longest there
      cases returned
  | module cached id state object middle result last loads isModule got =>
      subst isCached
      obtain ⟨_, heldAfter⟩ := loads.below_module plain held longest there
      have thereAfter := sysModules_grows loads.grows there
      rw [get_longest isModule heldAfter longest thereAfter] at got
      cases got
      rfl
  | parent cached parentId name state object middle result last loads notModule parentLoads
      parentBelow =>
      subst isCached
      obtain ⟨_, heldAfter⟩ := loads.below_module plain held longest there
      rw [heldAfter.longestModule_parent notModule] at longest
      exact parentBelow rfl plain.parent heldAfter.parent longest
        (sysModules_grows loads.grows there)
  | noParent cached name state object last loads notModule =>
      subst isCached
      obtain ⟨_, heldAfter⟩ := loads.below_module plain held longest there
      exact (notModule heldAfter.root_isModule).elim

/-- **`load_module` returns the module of the longest prefix, if it is imported by that
name.** -/
theorem LoadsModule.longest (loads : LoadsModule tree cached id state result last)
    (consistent : Consistent tree state) (plain : Plain tree id)
    (own : cached = true → OwnModules tree state id) (resolves : tree.resolve id = some object)
    (longest : tree.longestModule id = some (other, module))
    (imports : tree.importModule other = some module)
    (imported : other ∈ importedBy tree state id) : result = .ok module := by
  have found : ∀ after, Grows state after → HeldPath tree after id →
      sysModules tree after other = some module := by
    intro after grows held
    unfold sysModules
    rw [if_pos (held.importedBy grows imported)]
    exact imports
  cases loads with
  | known _ _ _ _ isModule got =>
      have used : state.getLoader id ≠ newLoader := by
        intro new
        rw [new] at isModule
        cases isModule
      have held := consistent.heldPath plain (own rfl) used
      rw [get_longest isModule held longest (found state (Grows.refl state) held)] at got
      cases got
      rfl
  | loadFails _ _ _ error _ loads =>
      cases ((loads.right consistent plain own).designated object resolves).1
  | module _ _ _ first middle _ _ loads isModule got =>
      have held := loads.heldPath rfl consistent plain own
      rw [get_longest isModule held longest (found middle loads.grows held)] at got
      cases got
      rfl
  | parent _ parentId name _ first middle _ _ loads notModule parentLoads =>
      have held := loads.heldPath rfl consistent plain own
      have there := found middle loads.grows held
      rw [held.longestModule_parent notModule] at longest
      exact parentLoads.below_module rfl plain.parent held.parent longest there
  | noParent _ name _ first _ loads notModule =>
      exact (notModule (loads.heldPath rfl consistent plain own).root_isModule).elim

end Below

/-! ### Runs -/

theorem consistent_step (consistent : Consistent tree state) (action : Action Name) :
    Consistent tree (step tree state action) := by
  cases action with
  | loadObject id cached => exact (load_loads tree cached id state).consistent consistent
  | loadModule id cached =>
      exact (loadModule_loadsModule tree cached id state).consistent consistent
  | importModule id =>
      have grows : Grows state (step tree state (.importModule id)) :=
        ⟨fun _ used => used, fun _ known => List.mem_append_right _ known⟩
      intro other plain own used
      obtain ⟨object, holds⟩ := consistent other plain (own.before grows) used
      exact ⟨object, holds.after grows rfl⟩

theorem consistent_foldl (actions : List (Action Name)) (consistent : Consistent tree state) :
    Consistent tree (actions.foldl (step tree) state) := by
  induction actions generalizing state with
  | nil => exact consistent
  | cons action actions inductionHypothesis =>
      exact inductionHypothesis (consistent_step consistent action)

variable (tree) in
/-- **After any calls, the loaders are consistent.** -/
theorem after_consistent (imported : List (ObjectId Name)) (actions : List (Action Name)) :
    Consistent tree (after tree imported actions) :=
  consistent_foldl actions fun _ _ _ used => (used rfl).elim

section Calls

variable (tree)

/-- The condition on a call of `load_object`. -/
structure Regular (state : State Name Object) (id : ObjectId Name) (cached : Bool) : Prop where
  plain : Plain tree id
  own : cached = true → OwnModules tree state id

/-- The condition on a call of `load_module`: the module is imported by the name under which
it was reached. -/
structure RegularModule (state : State Name Object) (id : ObjectId Name) (cached : Bool) : Prop
    extends Regular tree state id cached where
  imports : ∀ other module, tree.longestModule id = some (other, module) →
    tree.importModule other = some module ∧ other ∈ importedBy tree state id

/-- The designated object is returned, and an error is raised only where there is none. -/
def ReturnsDesignated (id : ObjectId Name) (result : Except (LoadError Name) Object) : Prop :=
  (∀ object, tree.resolve id = some object → result = .ok object) ∧
    (tree.resolve id = none → ∃ error, result = .error error)

/-- If the id is loadable, the module of the longest prefix that designates one is returned. -/
def ReturnsLongestModule (id : ObjectId Name) (result : Except (LoadError Name) Object) : Prop :=
  tree.resolve id ≠ none →
    ∃ other module, tree.longestModule id = some (other, module) ∧ result = .ok module

variable {tree}

omit [DecidableEq Name] in
theorem exists_longestModule (loadable : tree.resolve id ≠ none) :
    ∃ other module, tree.longestModule id = some (other, module) := by
  induction id with
  | root name =>
      obtain ⟨module, isRoot⟩ := Option.ne_none_iff_exists'.mp loadable
      exact ⟨_, module, longestModule_of_module isRoot (tree.kind_rootModule name module isRoot)⟩
  | child parentId name inductionHypothesis =>
      obtain ⟨object, resolves⟩ := Option.ne_none_iff_exists'.mp loadable
      by_cases isModule : tree.kind object = .module
      · exact ⟨_, object, longestModule_of_module resolves isModule⟩
      · rw [longestModule_parent resolves isModule]
        refine inductionHypothesis fun missing => loadable ?_
        unfold Tree.resolve
        rw [missing]
        rfl

/-- **After any calls, a call returns what the tree designates, if the id is regular.** -/
theorem loading_history_independent (tree : Tree Name Object) (imported : List (ObjectId Name))
    (actions : List (Action Name)) (id : ObjectId Name) (cached : Bool) :
    (Regular tree (after tree imported actions) id cached →
      ReturnsDesignated tree id (load tree cached id (after tree imported actions)).1) ∧
    (RegularModule tree (after tree imported actions) id cached →
      ReturnsLongestModule tree id
        (loadModule tree cached id (after tree imported actions)).1) := by
  have consistent := after_consistent tree imported actions
  constructor
  · intro regular
    have right := (load_loads tree cached id _).right consistent regular.plain regular.own
    exact ⟨fun object resolves => (right.designated object resolves).1,
      fun undesignated => (right.undesignated undesignated).1⟩
  · intro regular loadable
    obtain ⟨object, resolves⟩ := Option.ne_none_iff_exists'.mp loadable
    obtain ⟨other, module, longest⟩ := exists_longestModule loadable
    obtain ⟨imports, loaded⟩ := regular.imports other module longest
    exact ⟨other, module, longest, (loadModule_loadsModule tree cached id _).longest consistent
      regular.plain regular.own resolves longest imports loaded⟩

end Calls

end Modules

/-! ### A number and a module among the attributes of a module -/

/-- The module `a` has a number and the root module `os` as attributes. -/
def settings : Tree String Nat where
  kind := fun object => match object with
    | 0 => .isNone
    | 3 => .unreferable
    | _ => .module
  pyNone := 0
  kind_none := by
    intro object
    split
    · exact iff_of_true rfl rfl
    · exact iff_of_false nofun nofun
    · rename_i notNone _
      exact iff_of_false nofun notNone
  rootModule := fun name => if name = "a" then some 1 else if name = "os" then some 2 else none
  submodule := fun _ _ => none
  attr := fun object name =>
    if object = 1 ∧ name = "timeout" then some 3
    else if object = 1 ∧ name = "os" then some 2 else none
  kind_rootModule := by
    intro name object isRoot
    split at isRoot
    · cases isRoot
      rfl
    · split at isRoot
      · cases isRoot
        rfl
      · cases isRoot
  kind_submodule := nofun
  loads := fun id => [id]
  loads_self := fun id => List.mem_singleton_self id
  alive := fun _ => true

/-- The module that is an attribute is loaded as an object, again and again. -/
theorem os_returned :
    ReturnsDesignated settings (.child (.root "a") "os")
      (load settings true (.child (.root "a") "os")
        (after settings [] [.loadObject (.child (.root "a") "os") true])).1 := by
  have prefixes : ∀ other ∈ (ObjectId.child (.root "a") "os").prefixes,
      other = .child (.root "a") "os" ∨ other = .root "a" := by
    intro other member
    simpa [ObjectId.prefixes] using member
  refine (loading_history_independent settings [] _ _ true).1 ⟨⟨?_, ?_⟩, fun _ => ?_⟩
  · intro other member object resolves
    rcases prefixes other member with rfl | rfl
    · cases resolves
      decide
    · cases resolves
      decide
  · intro parentId name parent member resolves hasNot
    rcases prefixes _ member with same | same
    · cases same
      cases resolves
      cases hasNot
    · cases same
  · intro other member object resolves isModule used module there
    rcases prefixes other member with rfl | rfl
    · cases there
    · cases resolves
      cases there
      rfl

/-- The number raises `TypeError`, and the module of `a.os` is missing in `sys.modules`. -/
theorem attributes_not_loaded :
    ¬ReturnsDesignated settings (.child (.root "a") "timeout")
        (load settings true (.child (.root "a") "timeout") (after settings [] [])).1 ∧
      ¬ReturnsLongestModule settings (.child (.root "a") "os")
        (loadModule settings true (.child (.root "a") "os") (after settings [] [])).1 := by
  constructor
  · rintro ⟨designated, _⟩
    have returned := designated 3 (by decide)
    have raised : (load settings true (.child (.root "a") "timeout") (after settings [] [])).1 =
        .error (.typeError (.child (.root "a") "timeout")) := by rfl
    rw [raised] at returned
    cases returned
  · intro returns
    obtain ⟨other, module, _, returned⟩ := returns (by decide)
    have raised : (loadModule settings true (.child (.root "a") "os") (after settings [] [])).1 =
        .error (.notCached (.child (.root "a") "os")) := by rfl
    rw [raised] at returned
    cases returned

end Tobiko.Common.ObjectLoading
