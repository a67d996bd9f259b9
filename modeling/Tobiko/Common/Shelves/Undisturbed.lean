import Tobiko.Common.Shelves.Registration
import Tobiko.Foundation.ProgramTraces

/-!
Contract: executions of the functions of `tobiko/common/_shelves.py` that meet
no error and are not disturbed.

Owns: what adding and removing a test case return, and the directory they leave
behind, for every directory; the same for the removal from all the shelves of a
directory with one shelf and one resource; that a removal which meets no fault
leaves the test case on none of the shelves that it visits.
-/

namespace Tobiko.Common.Shelves

open Tobiko.Foundation

section Undisturbed

variable {shelf resource testcaseId : String} {directory after : Store String Shelf} {db : Shelf}
  {tests : Finset String} {handler : Fault → Body} {next : Body} {outcome : Outcome}

theorem openShelf_runs (runs : next.Runs
    (Function.update directory shelf (some ((directory shelf).getD Shelf.empty))) outcome after) :
    (openShelf shelf handler next).Runs directory outcome after :=
  Prog.runs_access.mpr (.inl runs)

theorem getResource_runs {following : Option (Finset String) → Body}
    (runs : (following (db.resources.lookup resource)).Runs
      (Function.update directory shelf (some db)) outcome after) :
    (getResource shelf handler resource following).Runs
      (Function.update directory shelf (some db)) outcome after := by
  refine Prog.runs_access.mpr (.inl ?_)
  simpa using runs

theorem getItem_runs {following : Finset String → Body}
    (found : db.resources.lookup resource = some tests)
    (runs : (following tests).Runs (Function.update directory shelf (some db)) outcome after) :
    (getItem shelf handler resource following).Runs
      (Function.update directory shelf (some db)) outcome after := by
  refine getResource_runs ?_
  rw [found]
  exact runs

theorem setItem_runs (runs : next.Runs
    (Function.update directory shelf (some (db.setItem resource tests))) outcome after) :
    (setItem shelf handler resource tests next).Runs
      (Function.update directory shelf (some db)) outcome after := by
  refine Prog.runs_access.mpr (.inl ?_)
  simpa using runs

theorem getKeys_runs {following : List String → Body}
    (runs : (following db.resources.keys).Runs (Function.update directory shelf (some db)) outcome
      after) :
    (getKeys shelf handler following).Runs (Function.update directory shelf (some db)) outcome
      after := by
  refine Prog.runs_access.mpr (.inl ?_)
  simpa using runs

theorem lookup_setItem : (db.setItem resource tests).resources.lookup resource = some tests :=
  AList.lookup_insert _

theorem setItem_setItem (other : Finset String) :
    (db.setItem resource tests).setItem resource other = db.setItem resource other := by
  simp [Shelf.setItem, AList.insert_insert]

theorem retryOnDbmError_attempt (attempt : (Fault → Body) → Body) (attempts : Nat) :
    ∃ handler, retryOnDbmError attempt attempts = attempt handler := by
  cases attempts with
  | zero => exact ⟨_, rfl⟩
  | succ attempts => exact ⟨_, rfl⟩

theorem removeTestFromShelfResources_attempt (testcaseId shelf : String) (attempts : Nat) :
    ∃ handler, removeTestFromShelfResources testcaseId attempts shelf =
      removeFromShelfAttempt testcaseId shelf handler := by
  cases attempts with
  | zero => exact ⟨_, rfl⟩
  | succ attempts => exact ⟨_, rfl⟩

theorem registered_getD (directory : Store String Shelf) (shelf resource : String) :
    (((directory shelf).getD Shelf.empty).resources.lookup resource).getD ∅ =
      registered directory shelf resource := by
  cases content : directory shelf with
  | none => simp [registered, content, Shelf.empty]
  | some db => simp [registered, content]

theorem addmeToSharedResource_runs (shelf resource testcaseId : String) (attempts : Nat)
    (directory : Store String Shelf) :
    (addmeToSharedResource shelf resource testcaseId attempts).Runs directory
      (.returned (some (insert testcaseId (registered directory shelf resource))))
      (Function.update directory shelf (some (((directory shelf).getD Shelf.empty).setItem resource
        (insert testcaseId (registered directory shelf resource))))) := by
  obtain ⟨handler, attempt⟩ :=
    retryOnDbmError_attempt (addmeAttempt shelf resource testcaseId) attempts
  rw [addmeToSharedResource, attempt, ← registered_getD]
  refine openShelf_runs (getResource_runs ?_)
  cases found : ((directory shelf).getD Shelf.empty).resources.lookup resource with
  | none =>
      refine setItem_runs (getItem_runs lookup_setItem ?_)
      refine setItem_runs (getItem_runs lookup_setItem ?_)
      rw [setItem_setItem]
      exact .refl
  | some tests =>
      refine getItem_runs found (setItem_runs (getItem_runs lookup_setItem ?_))
      exact .refl

theorem removemeFromSharedResource_runs (shelf resource testcaseId : String) (attempts : Nat)
    (directory : Store String Shelf) :
    (removemeFromSharedResource shelf resource testcaseId attempts).Runs directory
      (.returned (some ((registered directory shelf resource).erase testcaseId)))
      (Function.update directory shelf (some (((directory shelf).getD Shelf.empty).setItem resource
        ((registered directory shelf resource).erase testcaseId)))) := by
  obtain ⟨handler, attempt⟩ :=
    retryOnDbmError_attempt (removemeAttempt shelf resource testcaseId) attempts
  rw [removemeFromSharedResource, attempt, ← registered_getD]
  refine openShelf_runs (getResource_runs (setItem_runs (getItem_runs lookup_setItem ?_)))
  split
  · refine getItem_runs lookup_setItem (setItem_runs (getItem_runs lookup_setItem ?_))
    rw [setItem_setItem]
    exact .refl
  · rename_i missing
    rw [Finset.erase_eq_of_notMem missing]
    exact getItem_runs lookup_setItem .refl

/-- The only resource of the only shelf. -/
theorem removeTestFromAllSharedResources_runs (lock testcaseId : String) (attempts : String → Nat)
    (lists : Lists isSharedShelf (Function.update directory shelf (some db)) [shelf])
    (keys : db.resources.keys = [resource]) (found : db.resources.lookup resource = some tests)
    (member : testcaseId ∈ tests) :
    (removeTestFromAllSharedResources lock testcaseId attempts).Runs
      (Function.update directory shelf (some db)) (.returned none)
      (Function.update directory shelf (some (db.setItem resource (tests.erase testcaseId)))) := by
  obtain ⟨handler, attempt⟩ :=
    removeTestFromShelfResources_attempt testcaseId shelf (attempts shelf)
  refine Prog.runs_list.mpr ⟨[shelf], lists, Prog.runs_acquire.mpr (Prog.runs_bind.mpr ?_)⟩
  refine ⟨.returned none, _, ?_, Prog.runs_release.mpr .refl⟩
  rw [attempt]
  refine openShelf_runs ?_
  simp only [Function.update_self, Option.getD_some, Function.update_idem]
  refine getKeys_runs ?_
  rw [keys]
  refine getItem_runs found ?_
  rw [if_pos member]
  exact getItem_runs found (setItem_runs .refl)

end Undisturbed

/-! ### Removals that meet no fault -/

section Removal

open Prog

variable {shelf testcaseId : String} {directory : Store String Shelf} {db : Shelf}
  {handler : Fault → Body}

/-- The test case uses none of the resources of the shelf. -/
def Unused (testcaseId shelf : String) (directory : Store String Shelf) : Prop :=
  ∀ resource, testcaseId ∉ registered directory shelf resource

/-- The users of a resource of the shelf. -/
def Shelf.users (db : Shelf) (resource : String) : Finset String :=
  (db.resources.lookup resource).getD ∅

theorem registered_update (resource : String) :
    registered (Function.update directory shelf (some db)) shelf resource = db.users resource := by
  simp [registered, Shelf.users]

theorem users_setItem (resource : String) (tests : Finset String) :
    (db.setItem resource tests).users resource = tests := by
  rw [Shelf.users, lookup_setItem, Option.getD_some]

theorem lookup_setItem_of_ne {resource name : String} (different : name ≠ resource)
    (tests : Finset String) :
    (db.setItem resource tests).resources.lookup name = db.resources.lookup name :=
  AList.lookup_insert_ne different

variable {post : Outcome → Store String Shelf → Prop}

theorem getItem_delivers {resource : String} {tests : Finset String}
    {following : Finset String → Body} (found : db.resources.lookup resource = some tests)
    (continues : (following tests).Delivers (Function.update directory shelf (some db)) post) :
    (getItem shelf handler resource following).Delivers (Function.update directory shelf (some db))
      post := by
  apply delivers_access
  simpa [found] using continues

theorem setItem_delivers {resource : String} {tests : Finset String} {next : Body}
    (continues : next.Delivers
      (Function.update directory shelf (some (db.setItem resource tests))) post) :
    (setItem shelf handler resource tests next).Delivers
      (Function.update directory shelf (some db)) post := by
  apply delivers_access
  simpa using continues

/-- The shelf is left with no other users than before, and the test case uses none of the
resources. -/
def RemovedFrom (directory : Store String Shelf) (shelf testcaseId : String) (db : Shelf)
    (resources : List String) (outcome : Outcome) (after : Store String Shelf) : Prop :=
  outcome = .returned none ∧ ∃ final : Shelf, after = Function.update directory shelf (some final) ∧
    ∀ name, testcaseId ∈ final.users name → name ∉ resources ∧ testcaseId ∈ db.users name

theorem removeFromResources_delivers (resources : List String)
    (present : ∀ resource ∈ resources, (db.resources.lookup resource).isSome = true) :
    (removeFromResources shelf testcaseId handler resources).Delivers
      (Function.update directory shelf (some db))
      (RemovedFrom directory shelf testcaseId db resources) := by
  induction resources generalizing db with
  | nil => exact delivers_ret ⟨rfl, db, rfl, fun _ uses => ⟨List.not_mem_nil, uses⟩⟩
  | cons resource rest inductionHypothesis =>
      obtain ⟨tests, found⟩ := Option.isSome_iff_exists.mp (present resource List.mem_cons_self)
      have restPresent : ∀ name ∈ rest, (db.resources.lookup name).isSome = true :=
        fun name member => present name (List.mem_cons_of_mem _ member)
      refine getItem_delivers found ?_
      split
      · refine getItem_delivers found (setItem_delivers ?_)
        refine (inductionHypothesis fun name member => ?_).mono ?_
        · by_cases same : name = resource
          · rw [same, lookup_setItem]
            rfl
          · rw [lookup_setItem_of_ne same]
            exact restPresent name member
        · rintro outcome after ⟨returned, final, left, only⟩
          refine ⟨returned, final, left, fun name uses => ?_⟩
          obtain ⟨notInRest, used⟩ := only name uses
          have different : name ≠ resource := by
            rintro rfl
            rw [users_setItem] at used
            exact Finset.notMem_erase testcaseId tests used
          rw [Shelf.users, lookup_setItem_of_ne different] at used
          exact ⟨List.not_mem_cons_of_ne_of_not_mem different notInRest, used⟩
      · rename_i absent
        refine (inductionHypothesis restPresent).mono ?_
        rintro outcome after ⟨returned, final, left, only⟩
        refine ⟨returned, final, left, fun name uses => ?_⟩
        obtain ⟨notInRest, used⟩ := only name uses
        have different : name ≠ resource := by
          rintro rfl
          rw [Shelf.users, found] at used
          exact absent used
        exact ⟨List.not_mem_cons_of_ne_of_not_mem different notInRest, used⟩

/-- The test case uses no resource of the shelf any more, and the others are as before. -/
theorem removeTestFromShelfResources_delivers (attempts : Nat) :
    (removeTestFromShelfResources testcaseId attempts shelf).Delivers directory
      fun outcome after => outcome = .returned none ∧ Unused testcaseId shelf after ∧
        ∀ other ≠ shelf, after other = directory other := by
  obtain ⟨handler, attempt⟩ := removeTestFromShelfResources_attempt testcaseId shelf attempts
  rw [attempt]
  apply delivers_access
  apply delivers_access
  generalize (directory shelf).getD Shelf.empty = opened
  simp only [Option.getD_some, Function.update_self, id_eq, Function.update_idem, Option.map_some]
  have present : ∀ resource ∈ opened.resources.keys,
      (opened.resources.lookup resource).isSome = true := fun _ => AList.lookup_isSome.mpr
  refine (removeFromResources_delivers _ present).mono ?_
  rintro outcome after ⟨returned, final, rfl, only⟩
  refine ⟨returned, fun resource uses => ?_, fun other different => ?_⟩
  · rw [registered_update] at uses
    obtain ⟨noKey, used⟩ := only resource uses
    have unknown : opened.resources.lookup resource = none := by
      rw [← Option.not_isSome_iff_eq_none, AList.lookup_isSome]
      exact noKey
    rw [Shelf.users, unknown] at used
    exact Finset.notMem_empty testcaseId used
  · exact Function.update_of_ne different _ _

theorem Unused.of_eq {other : Store String Shelf} (unused : Unused testcaseId shelf directory)
    (same : other shelf = directory shelf) : Unused testcaseId shelf other := by
  intro resource
  unfold registered
  rw [same]
  exact unused resource

theorem removeFromShelves_delivers (lock : String) (attempts : String → Nat)
    (filenames : List String) :
    (removeFromShelves lock testcaseId attempts filenames).Delivers directory
      fun outcome after => outcome = .returned none ∧
        ∀ shelf, shelf ∈ filenames ∨ Unused testcaseId shelf directory →
          Unused testcaseId shelf after := by
  induction filenames generalizing directory with
  | nil =>
      apply delivers_ret
      refine ⟨rfl, fun shelf known => ?_⟩
      rcases known with listed | unused
      · exact absurd listed List.not_mem_nil
      · exact unused
  | cons filename rest inductionHypothesis =>
      apply delivers_acquire
      apply delivers_bind
      refine (removeTestFromShelfResources_delivers (attempts filename)).mono ?_
      rintro outcome middle ⟨rfl, gone, others⟩
      apply delivers_release
      refine inductionHypothesis.mono ?_
      rintro outcome after ⟨returned, removed⟩
      refine ⟨returned, fun shelf known => removed shelf ?_⟩
      by_cases same : shelf = filename
      · subst same
        exact .inr gone
      · rcases known with listed | unused
        · exact .inl ((List.mem_cons.mp listed).resolve_left same)
        · exact .inr (unused.of_eq (others shelf same))

/-- **A removal without a fault is complete.** The test case is left on none of the shelves that are
visited, however many there are. -/
theorem removeTestFromAllSharedResources_delivers (lock testcaseId : String)
    (attempts : String → Nat) (directory : Store String Shelf) :
    (removeTestFromAllSharedResources lock testcaseId attempts).Delivers directory
      fun outcome after => outcome = .returned none ∧
        ∀ shelf, isSharedShelf shelf = true → Unused testcaseId shelf after := by
  apply delivers_list
  intro filenames lists
  refine (removeFromShelves_delivers lock attempts filenames).mono ?_
  rintro outcome after ⟨returned, removed⟩
  refine ⟨returned, fun shelf shared => removed shelf ?_⟩
  by_cases present : (directory shelf).isSome = true
  · exact .inl ((lists.complete shelf).mpr ⟨shared, present⟩)
  · right
    intro resource
    rw [registered, Option.not_isSome_iff_eq_none.mp present]
    exact Finset.notMem_empty testcaseId

end Removal

end Tobiko.Common.Shelves
