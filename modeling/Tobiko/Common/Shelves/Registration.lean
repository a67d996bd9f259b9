import Tobiko.Common.Shelves.Footprint

/-!
Contract: who is registered as a user of each resource, and what each call of
`tobiko/common/_shelves.py` makes of it when nothing interferes.

Owns: the registrations that a directory stands for (`registered`), the effect
of a call on the registrations it affects, and the theorem that a call changes
them by that effect or not at all, whatever errors it meets and however often it
tries again. A call that returns has registered, or removed, its test case.
-/

namespace Tobiko.Common.Shelves

open Tobiko.Foundation
open Prog (ensures_ret ensures_access ensures_list ensures_acquire ensures_release ensures_bind)

/-- The test case ids that the directory records for a resource. A resource
that has no key, or whose shelf has no file, is used by nobody. -/
def registered (directory : Store String Shelf) (shelf resource : String) : Finset String :=
  ((directory shelf).bind (·.resources.lookup resource)).getD ∅

section Registered

variable {directory : Store String Shelf} {shelf resource : String} {tests : Finset String}

theorem registered_eq (found : (directory shelf).bind (·.resources.lookup resource) = some tests) :
    registered directory shelf resource = tests := by
  simp [registered, found]

/-- Opening a shelf registers nobody. -/
theorem registered_opened (other otherResource : String) :
    registered (Function.update directory shelf
      (some ((directory shelf).getD Shelf.empty))) other otherResource =
      registered directory other otherResource := by
  by_cases same : other = shelf
  · subst same
    cases content : directory other with
    | none => simp [registered, content, Shelf.empty]
    | some db => simp [registered, content]
  · simp [registered, same]

theorem registered_setItem_other {other otherResource : String}
    (different : ¬ (other = shelf ∧ otherResource = resource)) :
    registered (Function.update directory shelf
      ((directory shelf).map (·.setItem resource tests))) other otherResource =
      registered directory other otherResource := by
  by_cases same : other = shelf
  · subst same
    have elsewhere : otherResource ≠ resource := fun equal => different ⟨rfl, equal⟩
    cases content : directory other with
    | none => simp [registered, content]
    | some db => simp [registered, content, Shelf.setItem, AList.lookup_insert_ne elsewhere]
  · simp [registered, same]

theorem registered_setItem (present : (directory shelf).isSome) :
    registered (Function.update directory shelf
      ((directory shelf).map (·.setItem resource tests))) shelf resource = tests := by
  obtain ⟨db, content⟩ := Option.isSome_iff_exists.mp present
  simp [registered, content, Shelf.setItem]

end Registered

/-! ### Changes -/

/-- The registrations that a call affects, and what it makes of them. -/
structure Change where
  affects : String → String → Prop
  effect : Finset String → Finset String
  idempotent : ∀ tests, effect (effect tests) = effect tests

/-- Each registration is as before, or is affected and changed by the effect. -/
def Change.Between (change : Change) (before after : Store String Shelf) : Prop :=
  ∀ shelf resource, registered after shelf resource = registered before shelf resource ∨
    (change.affects shelf resource ∧
      registered after shelf resource = change.effect (registered before shelf resource))

theorem Change.Between.refl (change : Change) (directory : Store String Shelf) :
    change.Between directory directory :=
  fun _ _ => .inl rfl

theorem Change.Between.trans {change : Change} {before middle after : Store String Shelf}
    (first : change.Between before middle) (second : change.Between middle after) :
    change.Between before after := by
  intro shelf resource
  rcases second shelf resource with same | ⟨affected, changed⟩
  · rw [same]
    exact first shelf resource
  · refine .inr ⟨affected, changed.trans ?_⟩
    rcases first shelf resource with same | ⟨-, changed⟩
    · rw [same]
    · rw [changed, change.idempotent]

/-- Nothing but the change happens to the registrations while the body runs. -/
def Stays (change : Change) (body : Body) : Prop :=
  ∀ directory, body.Ensures directory fun _ after => change.Between directory after

section Stays

variable {change : Change} {shelf resource : String} {handler : Fault → Body} {next : Body}

theorem Stays.ret (outcome : Outcome) : Stays change (.ret outcome) := by
  intro directory
  rw [ensures_ret]
  exact .refl change directory

/-- After a change it is enough that nothing else happens from there on. -/
theorem Stays.after {before middle : Store String Shelf} (stays : Stays change next)
    (changed : change.Between before middle) :
    next.Ensures middle fun _ after => change.Between before after :=
  (stays middle).mono fun _ _ later => changed.trans later

theorem Stays.openShelf (handles : ∀ fault, Stays change (handler fault))
    (continues : Stays change next) : Stays change (Shelves.openShelf shelf handler next) := by
  intro directory
  refine ensures_access.mpr ⟨continues.after ?_, fun fault => handles fault directory⟩
  exact fun other otherResource => .inl (registered_opened other otherResource)

/-- A read leaves the directory as it is. -/
theorem ensures_read {read : Option Shelf → Body} {directory : Store String Shelf}
    {post : Outcome → Store String Shelf → Prop} :
    (Prog.access shelf id read handler).Ensures directory post ↔
      (read (directory shelf)).Ensures directory post ∧
        ∀ fault, (handler fault).Ensures directory post := by
  simp

theorem Stays.getResource {following : Option (Finset String) → Body}
    (handles : ∀ fault, Stays change (handler fault))
    (continues : ∀ registered, Stays change (following registered)) :
    Stays change (Shelves.getResource shelf handler resource following) :=
  fun directory => ensures_read.mpr ⟨continues _ directory, fun fault => handles fault directory⟩

theorem Stays.getItem {following : Finset String → Body}
    (handles : ∀ fault, Stays change (handler fault))
    (continues : ∀ tests, Stays change (following tests)) :
    Stays change (Shelves.getItem shelf handler resource following) := by
  refine Stays.getResource handles fun registered => ?_
  cases registered with
  | none => exact .ret _
  | some tests => exact continues tests

theorem Stays.getKeys {following : List String → Body}
    (handles : ∀ fault, Stays change (handler fault))
    (continues : ∀ resources, Stays change (following resources)) :
    Stays change (Shelves.getKeys shelf handler following) :=
  fun directory => ensures_read.mpr ⟨continues _ directory, fun fault => handles fault directory⟩

/-- Writing back the tests that are registered changes nothing. -/
theorem between_setItem_same {directory : Store String Shelf} {tests : Finset String}
    (same : tests = registered directory shelf resource) :
    change.Between directory (Function.update directory shelf
      ((directory shelf).map (·.setItem resource tests))) := by
  intro other otherResource
  by_cases here : other = shelf ∧ otherResource = resource
  · obtain ⟨rfl, rfl⟩ := here
    cases content : directory other with
    | none => exact .inl (by simp [registered, content])
    | some db =>
        rw [← content, registered_setItem (by simp [content]), same]
        exact .inl rfl
  · exact .inl (registered_setItem_other here)

/-- `db[resource] = db.get(resource) or set()` -/
theorem Stays.fillItem (handles : ∀ fault, Stays change (handler fault))
    (continues : Stays change next) :
    Stays change (Shelves.getResource shelf handler resource fun registered =>
      Shelves.setItem shelf handler resource (registered.getD ∅) next) := by
  intro directory
  refine ensures_read.mpr ⟨?_, fun fault => handles fault directory⟩
  exact ensures_access.mpr ⟨continues.after (between_setItem_same rfl),
    fun fault => handles fault directory⟩

/-- `if db.get(resource) is None: db[resource] = set()` -/
theorem Stays.createItem (handles : ∀ fault, Stays change (handler fault))
    (continues : Stays change next) :
    Stays change (Shelves.getResource shelf handler resource fun
      | none => Shelves.setItem shelf handler resource ∅ next
      | some _ => next) := by
  intro directory
  refine ensures_read.mpr ⟨?_, fun fault => handles fault directory⟩
  cases found : (directory shelf).bind (·.resources.lookup resource) with
  | none =>
      have same : ∅ = registered directory shelf resource := by simp [registered, found]
      exact ensures_access.mpr ⟨continues.after (between_setItem_same same),
        fun fault => handles fault directory⟩
  | some tests => exact continues directory

/-- The set is read, changed, and written back under its key. -/
theorem Stays.changeItem {effect : Finset String → Finset String}
    (affected : change.affects shelf resource) (same : effect = change.effect)
    (handles : ∀ fault, Stays change (handler fault)) (continues : Stays change next) :
    Stays change (Shelves.getItem shelf handler resource fun auxset =>
      Shelves.setItem shelf handler resource (effect auxset) next) := by
  subst same
  intro directory
  refine ensures_read.mpr ⟨?_, fun fault => handles fault directory⟩
  cases found : (directory shelf).bind (·.resources.lookup resource) with
  | none => exact ensures_ret.mpr (.refl change directory)
  | some tests =>
      refine ensures_access.mpr ⟨continues.after ?_, fun fault => handles fault directory⟩
      intro other otherResource
      by_cases here : other = shelf ∧ otherResource = resource
      · obtain ⟨rfl, rfl⟩ := here
        have present : (directory other).isSome := by
          cases content : directory other with
          | none => simp [content] at found
          | some db => rfl
        refine .inr ⟨affected, ?_⟩
        rw [registered_setItem present, registered_eq found]
      · exact .inl (registered_setItem_other here)

theorem Stays.retryOnDbmError {attempt : (Fault → Body) → Body}
    (stays : ∀ handler, (∀ fault, Stays change (handler fault)) → Stays change (attempt handler))
    (attempts : Nat) : Stays change (Shelves.retryOnDbmError attempt attempts) := by
  induction attempts with
  | zero => exact stays _ fun _ => .ret _
  | succ attempts inductionHypothesis =>
      refine stays _ fun fault => ?_
      split
      · exact inductionHypothesis
      · exact .ret _

end Stays

/-! ### The decorated functions -/

section Functions

variable {change : Change} {shelf resource testcaseId : String}

theorem stays_addmeToSharedResource (affected : change.affects shelf resource)
    (effect : insert testcaseId = change.effect) (attempts : Nat) :
    Stays change (addmeToSharedResource shelf resource testcaseId attempts) := by
  refine Stays.retryOnDbmError (fun handler handles => ?_) attempts
  have answer : Stays change (getItem shelf handler resource fun tests =>
      .ret (.returned (some tests))) := .getItem handles fun tests => .ret _
  exact .openShelf handles (.createItem handles (.changeItem affected effect handles answer))

theorem stays_removemeFromSharedResource (affected : change.affects shelf resource)
    (effect : (fun tests => tests.erase testcaseId) = change.effect) (attempts : Nat) :
    Stays change (removemeFromSharedResource shelf resource testcaseId attempts) := by
  refine Stays.retryOnDbmError (fun handler handles => ?_) attempts
  have answer : Stays change (getItem shelf handler resource fun tests =>
      .ret (.returned (some tests))) := .getItem handles fun tests => .ret _
  refine .openShelf handles (.fillItem handles (.getItem handles fun tests => ?_))
  split
  · exact .changeItem affected effect handles answer
  · exact answer

theorem stays_removeFromResources {handler : Fault → Body}
    (affected : ∀ resource, change.affects shelf resource)
    (effect : (fun tests => tests.erase testcaseId) = change.effect)
    (handles : ∀ fault, Stays change (handler fault)) (resources : List String) :
    Stays change (removeFromResources shelf testcaseId handler resources) := by
  induction resources with
  | nil => exact .ret _
  | cons resource rest inductionHypothesis =>
      refine .getItem handles fun tests => ?_
      split
      · exact .changeItem (affected resource) effect handles inductionHypothesis
      · exact inductionHypothesis

theorem stays_removeFromShelfAttempt {handler : Fault → Body}
    (affected : ∀ resource, change.affects shelf resource)
    (effect : (fun tests => tests.erase testcaseId) = change.effect)
    (handles : ∀ fault, Stays change (handler fault)) :
    Stays change (removeFromShelfAttempt testcaseId shelf handler) :=
  .openShelf handles (.getKeys handles fun resources =>
    stays_removeFromResources affected effect handles resources)

theorem stays_removeTestFromShelfResources (attempts : Nat) {shelf : String}
    (affected : ∀ other, StrippedFrom shelf other → ∀ resource, change.affects other resource)
    (effect : (fun tests => tests.erase testcaseId) = change.effect) :
    Stays change (removeTestFromShelfResources testcaseId attempts shelf) := by
  induction attempts generalizing shelf with
  | zero =>
      refine stays_removeFromShelfAttempt (affected shelf (.refl shelf)) effect fun fault => ?_
      cases fault with
      | dbTypeUndetermined =>
          dsimp only
          split <;> exact .ret _
      | fileNotFound => exact .ret _
      | dbmError => exact .ret _
      | databaseError => exact .ret _
  | succ attempts inductionHypothesis =>
      have again := inductionHypothesis affected
      refine stays_removeFromShelfAttempt (affected shelf (.refl shelf)) effect fun fault => ?_
      cases fault with
      | fileNotFound => exact .ret _
      | dbTypeUndetermined =>
          dsimp only
          split
          · exact inductionHypothesis fun other stripped => affected other stripped.strip
          · exact again
      | dbmError => exact again
      | databaseError => exact again

theorem stays_removeTestFromAllSharedResources {lock : String} {attempts : String → Nat}
    (affected : ∀ filename, isSharedShelf filename = true → ∀ other, StrippedFrom filename other →
      ∀ resource, change.affects other resource)
    (effect : (fun tests => tests.erase testcaseId) = change.effect) :
    Stays change (removeTestFromAllSharedResources lock testcaseId attempts) := by
  have each : ∀ filenames : List String, (∀ filename ∈ filenames, isSharedShelf filename = true) →
      Stays change (removeFromShelves lock testcaseId attempts filenames) := by
    intro filenames shared
    induction filenames with
    | nil => exact .ret _
    | cons filename rest inductionHypothesis =>
        have others := inductionHypothesis fun other member =>
          shared other (List.mem_cons_of_mem _ member)
        intro directory
        refine ensures_acquire.mpr (ensures_bind.mpr ?_)
        refine (stays_removeTestFromShelfResources (attempts filename)
          (affected filename (shared filename List.mem_cons_self)) effect directory).mono ?_
        intro outcome middle changed
        rw [ensures_release]
        cases outcome with
        | returned tests => exact others.after changed
        | raised error => exact Stays.after (.ret _) changed
  intro directory
  refine ensures_list.mpr fun filenames lists => each filenames ?_ directory
  exact fun filename member => ((lists.complete filename).mp member).1

theorem between_unlink (directory : Store String Shelf) (affected : ∀ resource,
    change.affects shelf resource) (effect : (fun _ => ∅) = change.effect) :
    change.Between directory (Function.update directory shelf none) := by
  intro other resource
  by_cases same : other = shelf
  · subst same
    refine .inr ⟨affected resource, ?_⟩
    rw [← effect]
    simp [registered]
  · exact .inl (by simp [registered, same])

/-- Recording the run id registers nobody. -/
theorem between_record {directory : Store String Shelf} (uid : String) :
    change.Between directory (Function.update directory shelf
      ((directory shelf).map fun db => { db with testRunUid := some uid })) := by
  intro other resource
  refine .inl ?_
  by_cases same : other = shelf
  · subst same
    cases content : directory other with
    | none => simp [registered, content]
    | some db => simp [registered, content]
  · simp [registered, same]

theorem stays_unlinkEach {handler : Fault → Body} (effect : (fun _ => ∅) = change.effect)
    (handles : ∀ fault, Stays change (handler fault)) {filenames : List String}
    (affected : ∀ filename ∈ filenames, ∀ resource, change.affects filename resource) :
    Stays change (unlinkEach handler filenames) := by
  induction filenames with
  | nil => exact .ret _
  | cons filename rest inductionHypothesis =>
      have others := inductionHypothesis fun other member =>
        affected other (List.mem_cons_of_mem _ member)
      intro directory
      refine ensures_access.mpr ⟨?_, fun fault => handles fault directory⟩
      have unlinked := between_unlink directory (affected filename List.mem_cons_self) effect
      cases directory filename with
      | none => exact (handles .fileNotFound).after unlinked
      | some db => exact others.after unlinked

theorem stays_initializeShelves {testRunUid : Option String}
    (affected : ∀ shelf, isTestRunShelf shelf = false → ∀ resource, change.affects shelf resource)
    (effect : (fun _ => ∅) = change.effect) (attempts : Nat) :
    Stays change (initializeShelves testRunUid attempts) := by
  refine Stays.retryOnDbmError (fun handler handles => ?_) attempts
  have unlink : Stays change (unlinkShelves handler) := by
    intro directory
    refine ensures_list.mpr fun filenames lists => stays_unlinkEach effect handles ?_ directory
    intro filename member
    have kept := ((lists.complete filename).mp member).1
    exact affected filename (by simpa using kept)
  refine .openShelf handles ?_
  cases testRunUid with
  | none => exact unlink
  | some uid =>
      intro directory
      refine ensures_read.mpr ⟨?_, fun fault => handles fault directory⟩
      split
      · exact Stays.ret _ directory
      · exact ensures_access.mpr ⟨unlink.after (between_record uid),
          fun fault => handles fault directory⟩

end Functions

/-- What a call makes of the registrations. -/
def Call.change : Call → Change
  | .addmeToSharedResource shelf resource testcaseId _ =>
      ⟨fun other otherResource => other = shelf ∧ otherResource = resource, insert testcaseId,
        Finset.insert_idem testcaseId⟩
  | .removemeFromSharedResource shelf resource testcaseId _ =>
      ⟨fun other otherResource => other = shelf ∧ otherResource = resource,
        fun tests => tests.erase testcaseId, fun _ => Finset.erase_idem⟩
  | .removeTestFromShelfResources testcaseId shelf _ =>
      ⟨fun other _ => StrippedFrom shelf other, fun tests => tests.erase testcaseId,
        fun _ => Finset.erase_idem⟩
  | .removeTestFromAllSharedResources testcaseId _ =>
      ⟨fun other _ => ∃ listed, isSharedShelf listed = true ∧ StrippedFrom listed other,
        fun tests => tests.erase testcaseId, fun _ => Finset.erase_idem⟩
  | .initializeShelves _ _ =>
      ⟨fun other _ => isTestRunShelf other = false, fun _ => ∅, fun _ => rfl⟩

/-- **Effect of a call.** A call that is not disturbed changes the registrations
it affects by its effect, or leaves them as they are. -/
theorem Call.body_changes (call : Call) : Stays call.change call.body := by
  cases call with
  | addmeToSharedResource =>
      refine stays_addmeToSharedResource ?_ rfl _
      exact ⟨rfl, rfl⟩
  | removemeFromSharedResource =>
      refine stays_removemeFromSharedResource ?_ rfl _
      exact ⟨rfl, rfl⟩
  | removeTestFromShelfResources =>
      exact stays_removeTestFromShelfResources _ (fun _ stripped _ => stripped) rfl
  | removeTestFromAllSharedResources =>
      exact stays_removeTestFromAllSharedResources
        (fun filename shared _ stripped _ => ⟨filename, shared, stripped⟩) rfl
  | initializeShelves => exact stays_initializeShelves (fun _ kept _ => kept) rfl _

/-! ### What a returned call tells

`addme_to_shared_resource` and `removeme_from_shared_resource` return the set
they read back after they have written it. -/

section Returned

variable {shelf resource testcaseId : String} {handler : Fault → Body}
  {answers : Finset String → Prop} {directory : Store String Shelf}

/-- An outcome that returns a set of tests returns the registered ones, and
they satisfy `answers`. -/
def Answers (shelf resource : String) (answers : Finset String → Prop) (outcome : Outcome)
    (after : Store String Shelf) : Prop :=
  ∀ tests, outcome = .returned (some tests) →
    registered after shelf resource = tests ∧ answers tests

theorem Answers.raised (error : Error) (after : Store String Shelf) :
    Answers shelf resource answers (.raised error) after :=
  fun _ impossible => by cases impossible

theorem ensures_getItem {post : Outcome → Store String Shelf → Prop}
    {following : Finset String → Body}
    (missing : post (.raised (.keyError resource)) directory)
    (handles : ∀ fault, (handler fault).Ensures directory post)
    (continues : ∀ tests, (directory shelf).bind (·.resources.lookup resource) = some tests →
      (following tests).Ensures directory post) :
    (getItem shelf handler resource following).Ensures directory post := by
  refine ensures_read.mpr ⟨?_, handles⟩
  cases found : (directory shelf).bind (·.resources.lookup resource) with
  | none => exact ensures_ret.mpr missing
  | some tests => exact continues tests found

/-- The set that is read back after it was written is the one that was written. -/
theorem ensures_writeAndAnswer {tests : Finset String} (holds : answers tests)
    (handles : ∀ fault after, (handler fault).Ensures after (Answers shelf resource answers)) :
    (setItem shelf handler resource tests (getItem shelf handler resource fun read =>
      .ret (.returned (some read)))).Ensures directory (Answers shelf resource answers) := by
  refine ensures_access.mpr ⟨?_, fun fault => handles fault directory⟩
  refine ensures_getItem (.raised _ _) (fun fault => handles fault _) fun read found => ?_
  rw [ensures_ret]
  have present : (directory shelf).isSome := by
    cases content : directory shelf with
    | none => simp [content] at found
    | some db => rfl
  have written := registered_eq found
  rw [registered_setItem present] at written
  rintro answer ⟨rfl⟩
  exact ⟨registered_eq found, written ▸ holds⟩

theorem ensures_retryOnDbmError {attempt : (Fault → Body) → Body}
    (ensures : ∀ handler : Fault → Body,
      (∀ fault after, (handler fault).Ensures after (Answers shelf resource answers)) →
      ∀ before, (attempt handler).Ensures before (Answers shelf resource answers))
    (attempts : Nat) (before : Store String Shelf) :
    (retryOnDbmError attempt attempts).Ensures before (Answers shelf resource answers) := by
  induction attempts generalizing before with
  | zero => exact ensures _ (fun _ _ => ensures_ret.mpr (.raised _ _)) before
  | succ attempts inductionHypothesis =>
      refine ensures _ (fun fault after => ?_) before
      split
      · exact inductionHypothesis after
      · exact ensures_ret.mpr (.raised _ _)

/-- A test case that `addme_to_shared_resource` returns to is registered. -/
theorem addmeToSharedResource_returned (attempts : Nat) (directory : Store String Shelf) :
    (addmeToSharedResource shelf resource testcaseId attempts).Ensures directory
      (Answers shelf resource (testcaseId ∈ ·)) := by
  refine ensures_retryOnDbmError (fun handler handles before => ?_) attempts directory
  have store : ∀ middle, (getItem shelf handler resource fun auxset =>
      setItem shelf handler resource (insert testcaseId auxset)
        (getItem shelf handler resource fun tests => .ret (.returned (some tests)))).Ensures middle
        (Answers shelf resource (testcaseId ∈ ·)) := fun middle =>
    ensures_getItem (.raised _ _) (fun fault => handles fault middle) fun auxset _ =>
      ensures_writeAndAnswer (Finset.mem_insert_self testcaseId auxset) handles
  refine ensures_access.mpr ⟨ensures_read.mpr ⟨?_, fun fault => handles fault _⟩,
    fun fault => handles fault before⟩
  dsimp only
  split
  · exact ensures_access.mpr ⟨store _, fun fault => handles fault _⟩
  · exact store _

/-- A test case that `removeme_from_shared_resource` returns to is not registered. -/
theorem removemeFromSharedResource_returned (attempts : Nat) (directory : Store String Shelf) :
    (removemeFromSharedResource shelf resource testcaseId attempts).Ensures directory
      (Answers shelf resource (testcaseId ∉ ·)) := by
  refine ensures_retryOnDbmError (fun handler handles before => ?_) attempts directory
  refine ensures_access.mpr ⟨?_, fun fault => handles fault before⟩
  refine ensures_read.mpr ⟨?_, fun fault => handles fault _⟩
  refine ensures_access.mpr ⟨?_, fun fault => handles fault _⟩
  refine ensures_getItem (.raised _ _) (fun fault => handles fault _) fun tests found => ?_
  split
  · refine ensures_getItem (.raised _ _) (fun fault => handles fault _) fun auxset _ => ?_
    exact ensures_writeAndAnswer (Finset.notMem_erase testcaseId auxset) handles
  · rename_i missing
    refine ensures_getItem (.raised _ _) (fun fault => handles fault _) fun read again => ?_
    rw [ensures_ret]
    rintro answer ⟨rfl⟩
    rw [found] at again
    obtain rfl := Option.some.inj again
    exact ⟨registered_eq found, missing⟩

end Returned

/-! ### Calls one after another -/

section Serial

variable {directory final : Store String Shelf} {log later : List (Call × Outcome)}
  {shelf resource testcaseId : String} {attempts : Nat} {tests : Finset String}

/-- A property of one registration that the effects of the call keep is kept by the call. -/
theorem Call.body_keeps {call : Call} (property : Finset String → Prop)
    (stable : call.change.affects shelf resource → ∀ tests, property tests →
      property (call.change.effect tests))
    (holds : property (registered directory shelf resource)) :
    call.body.Ensures directory fun _ after => property (registered after shelf resource) := by
  refine (call.body_changes directory).mono fun outcome after changed => ?_
  rcases changed shelf resource with same | ⟨affected, effect⟩
  · rwa [same]
  · rw [effect]
    exact stable affected _ holds

/-- The call takes the test case out of the users of the resource. -/
def Call.removes (call : Call) (testcaseId shelf resource : String) : Prop :=
  call.change.affects shelf resource ∧ ∃ tests, testcaseId ∈ tests ∧
    testcaseId ∉ call.change.effect tests

/-- The call makes the test case a user of the resource. -/
def Call.adds (call : Call) (testcaseId shelf resource : String) : Prop :=
  call.change.affects shelf resource ∧ ∃ tests, testcaseId ∉ tests ∧
    testcaseId ∈ call.change.effect tests

theorem Call.body_keeps_registered {call : Call}
    (kept : ¬ call.removes testcaseId shelf resource)
    (member : testcaseId ∈ registered directory shelf resource) :
    call.body.Ensures directory fun _ after => testcaseId ∈ registered after shelf resource := by
  refine Call.body_keeps (testcaseId ∈ ·) (fun affected tests registered => ?_) member
  by_contra removed
  exact kept ⟨affected, tests, registered, removed⟩

/-- A test case that was added, and that no later call removes, is still there. -/
theorem added_stays
    (serial : system.Serial directory (log ++
      (.addmeToSharedResource shelf resource testcaseId attempts, .returned (some tests)) :: later)
      final)
    (kept : ∀ entry ∈ later, ¬ entry.1.removes testcaseId shelf resource) :
    testcaseId ∈ registered final shelf resource := by
  refine serial.established (fun directory => testcaseId ∈ registered directory shelf resource)
    (fun store => ?_) fun entry member store holds => ?_
  · refine (addmeToSharedResource_returned attempts store).mono fun outcome after answers same => ?_
    obtain ⟨rfl, added⟩ := answers tests same
    exact added
  · exact Call.body_keeps_registered (kept entry member) holds

/-- A test case that was removed, and that no later call adds, does not come back. -/
theorem removed_stays_away
    (serial : system.Serial directory (log ++
      (.removemeFromSharedResource shelf resource testcaseId attempts, .returned (some tests)) ::
        later) final)
    (kept : ∀ entry ∈ later, ¬ entry.1.adds testcaseId shelf resource) :
    testcaseId ∉ registered final shelf resource := by
  refine serial.established (fun directory => testcaseId ∉ registered directory shelf resource)
    (fun store => ?_) fun entry member store holds => ?_
  · refine (removemeFromSharedResource_returned attempts store).mono
      fun outcome after answers same => ?_
    obtain ⟨rfl, removed⟩ := answers tests same
    exact removed
  · refine Call.body_keeps (testcaseId ∉ ·) (fun affected tests missing => ?_) holds
    by_contra added
    exact kept entry member ⟨affected, tests, missing, added⟩

end Serial

end Tobiko.Common.Shelves
