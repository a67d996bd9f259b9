import Tobiko.Common.Shelves.Undisturbed
import Tobiko.Openstack.Heat.StackWorkers

/-!
Contract: when a shared Heat stack is deleted while a running test case uses it.

Owns: what holds of a worker and of all the workers in every run whose steps are
counted (`State.Counted`), the theorem that such a run deletes no stack in use,
and a run that does.

`SharedFixture` skips the `setUp` of every test case of a worker but the first
one, which alone registers itself, and the removal and the deletion are two
steps. So the users are counted as long as the condition holds and not longer.
-/

namespace Tobiko.Openstack.Heat

open Relation
open Tobiko.Foundation Tobiko.Common.Shelves

/-! ### One worker -/

/-- Inside `setUp`, or in the clean up after it has raised. -/
def Phase.insideSetUp : Phase → Bool
  | .settingUp | .created | .registered | .removing .setUp => true
  | _ => false

/-- What holds of a worker when `tests` are registered as users of the stack. -/
structure Worker.Sound (tests : Finset String) (worker : Worker) : Prop where
  nodup : worker.testIds.Nodup
  named : dummyTestId ∉ worker.testIds
  registered : ∀ id ∈ worker.users, id ∈ tests
  pending : worker.phase = .registered → ∀ case ∈ worker.cases.head?, case.id ∈ tests
  insideSetUp : worker.phase.insideSetUp = true → worker.setupExecuted = false
  failing : worker.phase = .removing .setUp → worker.cleanupExecuted = false
  fresh : worker.setupExecuted = false → worker.cleanupExecuted = false → worker.users = []

namespace Worker.Sound

variable {worker : Worker} {caller : Caller} {tests after : Finset String}
  {raised preventCreate : Bool} {phase : Phase}

theorem init : Worker.init.Sound tests where
  nodup := List.nodup_nil
  named := List.not_mem_nil
  registered := by simp [users, Worker.init]
  pending impossible := by cases impossible
  insideSetUp impossible := by cases impossible
  failing impossible := by cases impossible
  fresh _ _ := rfl

/-- A worker is sound as long as none of its test cases is taken out. -/
theorem kept (sound : worker.Sound tests)
    (kept : ∀ id ∈ worker.testIds, id ∈ tests → id ∈ after) : worker.Sound after where
  nodup := sound.nodup
  named := sound.named
  registered id member :=
    kept id (mem_testIds (users_sublist.subset member)) (sound.registered id member)
  pending waiting case current :=
    kept case.id (mem_testIds (List.mem_map_of_mem (List.mem_of_mem_head? current)))
      (sound.pending waiting case current)
  insideSetUp := sound.insideSetUp
  failing := sound.failing
  fresh := sound.fresh

/-- Outside `setUp` it is enough that the test cases that use the stack stay in. -/
theorem narrowed (sound : worker.Sound tests) (outside : worker.phase ≠ .registered)
    (kept : ∀ id ∈ worker.users, id ∈ after) : worker.Sound after where
  nodup := sound.nodup
  named := sound.named
  registered := kept
  pending waiting := absurd waiting outside
  insideSetUp := sound.insideSetUp
  failing := sound.failing
  fresh := sound.fresh

theorem atPhase (sound : worker.Sound tests) (stays : phase.leavingIds = [])
    (pending : phase = .registered → ∀ case ∈ worker.cases.head?, case.id ∈ tests)
    (insideSetUp : phase.insideSetUp = true → worker.setupExecuted = false)
    (failing : phase = .removing .setUp → worker.cleanupExecuted = false) :
    { worker with phase := phase }.Sound tests := by
  have ids : ({ worker with phase := phase } : Worker).testIds.Sublist worker.testIds := by
    rw [testIds, stays]
    exact List.sublist_append_right _ _
  exact ⟨sound.nodup.sublist ids, fun member => sound.named (ids.subset member), sound.registered,
    pending, insideSetUp, failing, sound.fresh⟩

/-- Of most phases nothing is said. -/
theorem atQuietPhase (sound : worker.Sound tests) (phase : Phase) (stays : phase.leavingIds = [])
    (outside : phase.insideSetUp = false) : { worker with phase := phase }.Sound tests := by
  refine sound.atPhase stays ?_ ?_ ?_
  · rintro rfl
    cases outside
  · intro inside
    rw [outside] at inside
    cases inside
  · rintro rfl
    cases outside

theorem forget (sound : worker.Sound tests) : (worker.forget caller).Sound tests where
  nodup := by
    rw [testIds, forget_phase, forget_ids]
    exact sound.nodup
  named := by
    rw [testIds, forget_phase, forget_ids]
    exact sound.named
  registered id member := sound.registered id (forget_users.subset member)
  pending waiting case current := by
    rw [forget_phase] at waiting
    have same : (worker.cases.map (·.id)).head? = some case.id := by
      rw [← forget_ids, List.head?_map, Option.mem_def.mp current]
      rfl
    rw [List.head?_map, Option.map_eq_some_iff] at same
    obtain ⟨before, first, equal⟩ := same
    rw [← equal]
    exact sound.pending waiting before first
  insideSetUp inside := by
    rw [forget_phase] at inside
    rw [forget_setupExecuted]
    exact sound.insideSetUp inside
  failing removing := by
    rw [forget_phase] at removing
    rw [forget_cleanupExecuted]
    exact sound.failing removing
  fresh neverSet neverCleaned := by
    rw [forget_setupExecuted] at neverSet
    rw [forget_cleanupExecuted] at neverCleaned
    exact List.sublist_nil.mp (sound.fresh neverSet neverCleaned ▸ forget_users)

theorem endCleanUp (sound : worker.Sound tests) :
    (worker.endCleanUp raised caller).Sound tests := by
  have idle := sound.atQuietPhase .idle rfl rfl
  unfold Worker.endCleanUp
  split
  · exact idle
  · exact {
      nodup := idle.nodup
      named := idle.named
      registered := idle.registered
      pending := idle.pending
      insideSetUp := fun _ => rfl
      failing := fun impossible => by cases impossible
      fresh := fun _ impossible => by cases impossible }

theorem beginCleanUp (sound : worker.Sound tests)
    (pending : caller = .setUp → worker.setupExecuted = false) :
    (worker.beginCleanUp preventCreate caller).Sound tests := by
  rcases beginCleanUp_cases worker preventCreate caller with ended | ⟨notCleaned, waits⟩
  · rw [ended]
    exact sound.forget.endCleanUp
  · rw [waits]
    refine sound.atPhase rfl (fun impossible => by cases impossible) ?_ (fun _ => notCleaned)
    intro inside
    cases caller with
    | setUp => exact pending rfl
    | user raiseFirst => cases inside

/-- The test case that the removal takes out does not use the stack any more. -/
theorem removed (sound : worker.Sound tests) (removing : worker.phase = .removing caller)
    (kept : ∀ id ∈ tests, id ≠ worker.currentId → id ∈ after) :
    (worker.forget caller).Sound after := by
  have apart : worker.currentId ∉ (worker.forget caller).users := by
    cases caller with
    | setUp =>
        have setUpFlag := sound.insideSetUp (by rw [removing]; rfl)
        rw [Worker.forget, sound.fresh setUpFlag (sound.failing removing)]
        exact List.not_mem_nil
    | user raiseFirst => exact currentId_notMem_mark_false sound.nodup
  refine sound.forget.narrowed ?_ fun id member => ?_
  · rw [forget_phase, removing]
    exact fun impossible => by cases impossible
  · refine kept id (sound.registered id (forget_users.subset member)) ?_
    rintro rfl
    exact apart member

theorem afterRemoval {left : Finset String} (sound : (worker.forget caller).Sound tests) :
    (worker.afterRemoval left caller).Sound tests := by
  unfold Worker.afterRemoval
  split
  · exact sound.atQuietPhase _ rfl rfl
  · exact sound.endCleanUp

theorem endSetUp (sound : worker.Sound tests) : worker.endSetUp.Sound tests :=
  let idle := sound.atQuietPhase .idle rfl rfl
  { nodup := idle.nodup
    named := idle.named
    registered := idle.registered
    pending := idle.pending
    insideSetUp := fun impossible => by cases impossible
    failing := fun impossible => by cases impossible
    fresh := fun impossible => by cases impossible }

/-- A `setUp` returns to a registered test case. -/
theorem marked (sound : worker.Sound tests) (idle : worker.phase = .idle)
    (executed : worker.setupExecuted = true)
    (current : ∀ case ∈ worker.cases.head?, case.id ∈ tests) : (worker.mark true).Sound tests where
  nodup := by
    rw [testIds, mark_phase, mark_ids]
    exact sound.nodup
  named := by
    rw [testIds, mark_phase, mark_ids]
    exact sound.named
  registered id member := by
    rcases mark_true_users member with used | ⟨case, first, rfl⟩
    · exact sound.registered id used
    · exact current case first
  pending waiting := by
    rw [mark_phase, idle] at waiting
    cases waiting
  insideSetUp inside := by
    rw [mark_phase, idle] at inside
    cases inside
  failing removing := by
    rw [mark_phase, idle] at removing
    cases removing
  fresh neverSet := by
    rw [mark_setupExecuted, executed] at neverSet
    cases neverSet

theorem entered {testId : String} (sound : worker.Sound tests) (idle : worker.phase = .idle)
    (named : testId ≠ dummyTestId) (unique : testId ∉ worker.testIds) :
    { worker with cases := ⟨testId, false⟩ :: worker.cases }.Sound tests := by
  have ids : ({ worker with cases := ⟨testId, false⟩ :: worker.cases } : Worker).testIds =
      testId :: worker.testIds := by
    simp [testIds, idle, Phase.leavingIds]
  refine ⟨?_, ?_, sound.registered, ?_, sound.insideSetUp, sound.failing, sound.fresh⟩
  · rw [ids]
    exact sound.nodup.cons unique
  · rw [ids]
    simp [sound.named, named.symm]
  · intro impossible
    rw [idle] at impossible
    cases impossible

theorem left {case : TestCase} {rest : List TestCase} (sound : worker.Sound tests)
    (idle : worker.phase = .idle) (running : worker.cases = case :: rest) :
    { worker with cases := rest, phase := .leaving case.id }.Sound tests := by
  have ids : ({ worker with cases := rest, phase := .leaving case.id } : Worker).testIds =
      worker.testIds := by
    simp [testIds, idle, running, Phase.leavingIds]
  have used : ({ worker with cases := rest, phase := .leaving case.id } : Worker).users.Sublist
      worker.users := by
    rw [users, users, running]
    exact ((List.sublist_cons_self case rest).filter _).map _
  exact {
    nodup := ids ▸ sound.nodup
    named := ids ▸ sound.named
    registered := fun id member => sound.registered id (used.subset member)
    pending := fun impossible => by cases impossible
    insideSetUp := fun impossible => by cases impossible
    failing := fun impossible => by cases impossible
    fresh := fun neverSet neverCleaned =>
      List.sublist_nil.mp (sound.fresh neverSet neverCleaned ▸ used) }

theorem gone {testId : String} (sound : worker.Sound tests)
    (leaving : worker.phase = .leaving testId)
    (kept : ∀ id ∈ tests, id ≠ testId → id ∈ after) :
    { worker with phase := .idle }.Sound after := by
  refine (sound.atQuietPhase .idle rfl rfl).narrowed (fun impossible => by
    cases impossible) fun id member => kept id (sound.registered id member) ?_
  rintro rfl
  have nodup := sound.nodup
  rw [testIds, leaving, Phase.leavingIds, List.singleton_append, List.nodup_cons] at nodup
  exact nodup.1 (users_sublist.subset member)

end Worker.Sound

/-! ### One step -/

section Step

variable {stackName : String} {action : Action} {worker next : Worker} {shared nextShared : Shared}

/-- The users of the stack that are registered. -/
def Shared.tests (shared : Shared) (stackName : String) : Finset String :=
  registered shared.directory stackShelf stackName

theorem addme_keeps {testId id : String} {attempts : Nat} {directory after : Store String Shelf}
    {outcome : Outcome} (runs : (Call.addmeToSharedResource stackShelf stackName testId
      attempts).body.Runs directory outcome after)
    (member : id ∈ registered directory stackShelf stackName) :
    id ∈ registered after stackShelf stackName := by
  refine Call.body_keeps_registered ?_ member outcome after runs
  rintro ⟨-, tests, before, removed⟩
  exact removed (Finset.mem_insert_of_mem before)

theorem removeme_keeps {testId id : String} {attempts : Nat} {directory after : Store String Shelf}
    {outcome : Outcome} (runs : (Call.removemeFromSharedResource stackShelf stackName testId
      attempts).body.Runs directory outcome after)
    (member : id ∈ registered directory stackShelf stackName) (other : id ≠ testId) :
    id ∈ registered after stackShelf stackName := by
  refine Call.body_keeps_registered ?_ member outcome after runs
  rintro ⟨-, tests, before, removed⟩
  exact removed (Finset.mem_erase_of_ne_of_mem other before)

theorem removeTest_keeps {testId id : String} {attempts : String → Nat}
    {directory after : Store String Shelf} {outcome : Outcome}
    (runs : (Call.removeTestFromAllSharedResources testId attempts).body.Runs directory outcome
      after)
    (member : id ∈ registered directory stackShelf stackName) (other : id ≠ testId) :
    id ∈ registered after stackShelf stackName := by
  refine Call.body_keeps_registered ?_ member outcome after runs
  rintro ⟨-, tests, before, removed⟩
  exact removed (Finset.mem_erase_of_ne_of_mem other before)

/-- A step keeps its worker sound when it enters a new test case, and when a
`setUp` that is skipped returns to a registered one. -/
theorem Step.sound (step : Step stackName action (worker, shared) (next, nextShared))
    (sound : worker.Sound (shared.tests stackName))
    (enters : ∀ testId, action = .enter testId → testId ≠ dummyTestId ∧ testId ∉ worker.testIds)
    (skips : action = .setUpReturns false → ∀ case ∈ worker.cases.head?,
      case.id ∈ shared.tests stackName) :
    next.Sound (nextShared.tests stackName) := by
  cases step with
  | enter _ _ testId idle =>
      obtain ⟨named, unique⟩ := enters testId rfl
      exact sound.entered idle named unique
  | exit _ _ case rest idle running => exact sound.left idle running
  | leave _ _ testId attempts outcome after leaving runs =>
      exact sound.gone leaving fun id member other => removeTest_keeps runs member other
  | setUpSkips _ _ idle executed =>
      exact sound.marked idle executed (skips rfl)
  | setUpStarts _ _ idle pending =>
      exact sound.atPhase rfl (fun impossible => by cases impossible) (fun _ => pending)
        fun impossible => by cases impossible
  | discards _ _ settingUp => exact sound
  | creates _ _ settingUp =>
      exact sound.atPhase rfl (fun impossible => by cases impossible)
        (fun _ => sound.insideSetUp (by rw [settingUp]; rfl)) fun impossible => by cases impossible
  | creationRaises _ _ preventCreate settingUp =>
      exact sound.beginCleanUp fun _ => sound.insideSetUp (by rw [settingUp]; rfl)
  | registers _ _ attempts tests after created runs =>
      have kept := sound.kept fun id _ member => addme_keeps runs member
      obtain ⟨rfl, added⟩ := addmeToSharedResource_returned attempts _ _ _ runs tests rfl
      refine kept.atPhase rfl (fun _ case first => ?_)
        (fun _ => sound.insideSetUp (by rw [created]; rfl)) fun impossible => by cases impossible
      obtain ⟨rest, running⟩ := List.head?_eq_some_iff.mp first
      rw [Worker.currentId, running] at added
      exact added
  | registrationRaises _ _ preventCreate attempts error after created runs =>
      have kept := sound.kept fun id _ member => addme_keeps runs member
      exact kept.beginCleanUp fun _ => kept.insideSetUp (by rw [created]; rfl)
  | setUpReturns _ _ registered => exact sound.endSetUp.marked rfl rfl (sound.pending registered)
  | setUpRaises _ _ preventCreate registered =>
      exact sound.beginCleanUp fun _ => sound.insideSetUp (by rw [registered]; rfl)
  | cleanUpStarts _ _ preventCreate raiseFirst idle =>
      exact sound.beginCleanUp fun impossible => by cases impossible
  | removes _ _ caller attempts tests after removing runs =>
      exact (sound.removed removing fun id member other =>
        removeme_keeps runs member other).afterRemoval
  | removalRaises _ _ caller attempts error after removing runs =>
      exact (sound.removed removing fun id member other =>
        removeme_keeps runs member other).endCleanUp
  | deletes _ _ caller deleting => exact sound.atQuietPhase _ rfl rfl
  | deletionRaises _ _ caller deleting => exact sound.endCleanUp
  | cleanUpEnds _ _ caller raised deleted => exact sound.endCleanUp

/-- What a step makes of its worker; `tests` are the registered users after it. -/
inductive Follows (worker : Worker) (tests : Finset String) : Action → Worker → Prop
  | calm (action : Action) (next : Worker) (stays : next.phase.leavingIds = [])
      (notDeleting : ∀ caller, next.phase ≠ .deleting caller)
      (ids : next.cases.map (·.id) = worker.cases.map (·.id))
      (users : next.users.Sublist worker.users) : Follows worker tests action next
  | entered (testId : String) (idle : worker.phase = .idle) :
      Follows worker tests (.enter testId)
        { worker with cases := ⟨testId, false⟩ :: worker.cases }
  | left (case : TestCase) (rest : List TestCase) (idle : worker.phase = .idle)
      (running : worker.cases = case :: rest) :
      Follows worker tests .internal { worker with cases := rest, phase := .leaving case.id }
  | returned (executed : Bool) (next : Worker) (idle : next.phase = .idle)
      (marked : next.cases = (worker.mark true).cases) :
      Follows worker tests (.setUpReturns executed) next
  | emptied (next : Worker) (caller : Caller) (deleting : next.phase = .deleting caller)
      (empty : tests = ∅) (ids : next.cases.map (·.id) = worker.cases.map (·.id))
      (users : next.users.Sublist worker.users) : Follows worker tests .internal next

theorem Follows.idle {tests : Finset String} (idle : next.phase = .idle)
    (ids : next.cases.map (·.id) = worker.cases.map (·.id))
    (users : next.users.Sublist worker.users) : Follows worker tests action next :=
  .calm action next (by rw [idle]; rfl) (by simp [idle]) ids users

theorem Follows.beginCleanUp {tests : Finset String} {preventCreate : Bool} {caller : Caller} :
    Follows worker tests action (worker.beginCleanUp preventCreate caller) := by
  rcases Worker.beginCleanUp_phase worker preventCreate caller with idle | removing
  · exact .idle idle Worker.beginCleanUp_ids Worker.beginCleanUp_users
  · exact .calm _ _ (by rw [removing]; rfl) (by simp [removing]) Worker.beginCleanUp_ids
      Worker.beginCleanUp_users

theorem Follows.endCleanUp {tests : Finset String} {raised : Bool} {caller : Caller}
    (ids : next.cases.map (·.id) = worker.cases.map (·.id))
    (users : next.users.Sublist worker.users) :
    Follows worker tests action (next.endCleanUp raised caller) := by
  refine .idle Worker.endCleanUp_phase ?_ ?_
  · rwa [Worker.endCleanUp_cases]
  · rwa [Worker.users, Worker.endCleanUp_cases]

theorem Follows.atPhase {tests : Finset String} (phase : Phase) (stays : phase.leavingIds = [])
    (notDeleting : ∀ caller, phase ≠ .deleting caller) :
    Follows worker tests action { worker with phase := phase } :=
  .calm _ _ stays notDeleting rfl (.refl _)

theorem Step.follows (step : Step stackName action (worker, shared) (next, nextShared)) :
    Follows worker (nextShared.tests stackName) action next := by
  cases step with
  | enter _ _ testId idle => exact .entered testId idle
  | exit _ _ case rest idle running => exact .left case rest idle running
  | leave => exact .atPhase .idle rfl (by simp)
  | setUpSkips _ _ idle executed => exact .returned false _ (by simpa using idle) rfl
  | setUpStarts => exact .atPhase .settingUp rfl (by simp)
  | discards _ _ settingUp =>
      exact .calm _ _ (by rw [settingUp]; rfl) (by simp [settingUp]) rfl (.refl _)
  | creates => exact .atPhase .created rfl (by simp)
  | registers => exact .atPhase .registered rfl (by simp)
  | setUpReturns => exact .returned true _ Worker.mark_phase Worker.endSetUp_mark
  | removes _ _ caller attempts tests after removing runs =>
      obtain ⟨answer, -⟩ := removemeFromSharedResource_returned attempts _ _ _ runs tests rfl
      rcases Worker.afterRemoval_phase worker tests caller with idle | ⟨rfl, deleting⟩
      · exact .idle idle Worker.afterRemoval_ids Worker.afterRemoval_users
      · exact .emptied _ caller deleting answer Worker.afterRemoval_ids Worker.afterRemoval_users
  | removalRaises => exact .endCleanUp Worker.forget_ids Worker.forget_users
  | deletes _ _ caller => exact .atPhase (.deleted caller) rfl (by simp)
  | deletionRaises | cleanUpEnds => exact .endCleanUp rfl (.refl _)
  | creationRaises | registrationRaises | setUpRaises | cleanUpStarts => exact .beginCleanUp

/-- A test case of another worker stays registered. -/
theorem Step.keeps (step : Step stackName action (worker, shared) (next, nextShared)) {id : String}
    (member : id ∈ shared.tests stackName) (named : id ≠ dummyTestId)
    (elsewhere : id ∉ worker.testIds) : id ∈ nextShared.tests stackName := by
  have other : id ≠ worker.currentId := by
    rintro rfl
    exact Worker.currentId_mem.elim named elsewhere
  cases step with
  | leave _ _ testId attempts outcome after leaving runs =>
      refine removeTest_keeps runs member ?_
      rintro rfl
      exact elsewhere (by simp [Worker.testIds, leaving, Phase.leavingIds])
  | registers _ _ attempts tests after created runs => exact addme_keeps runs member
  | registrationRaises _ _ preventCreate attempts error after created runs =>
      exact addme_keeps runs member
  | removes _ _ caller attempts tests after removing runs => exact removeme_keeps runs member other
  | removalRaises _ _ caller attempts error after removing runs =>
      exact removeme_keeps runs member other
  | _ => exact member

variable {tests : Finset String}

/-- Only a step that enters a test case brings in an id. -/
theorem Follows.ids (follows : Follows worker tests action next) {id : String}
    (member : id ∈ next.testIds) : id ∈ worker.testIds ∨ action = .enter id := by
  cases follows with
  | calm _ _ stays notDeleting ids users =>
      rw [Worker.testIds, stays, ids] at member
      exact .inl (Worker.mem_testIds member)
  | entered testId idle =>
      simp only [Worker.testIds, idle, Phase.leavingIds, List.nil_append, List.map_cons,
        List.mem_cons] at member
      rcases member with rfl | running
      · exact .inr rfl
      · exact .inl (Worker.mem_testIds running)
  | left case rest idle running =>
      exact .inl (by simpa [Worker.testIds, idle, running, Phase.leavingIds] using member)
  | returned executed next idle marked =>
      rw [Worker.testIds, idle, marked, Worker.mark_ids] at member
      exact .inl (Worker.mem_testIds member)
  | emptied next caller deleting empty ids users =>
      rw [Worker.testIds, deleting, ids] at member
      exact .inl (Worker.mem_testIds member)

/-- Only a `setUp` that returns brings in a user. -/
theorem Follows.users (follows : Follows worker tests action next) {id : String}
    (member : id ∈ next.users) : id ∈ worker.users ∨
      ∃ executed, action = .setUpReturns executed ∧ worker.cases ≠ [] := by
  cases follows with
  | calm _ _ stays notDeleting ids users => exact .inl (users.subset member)
  | entered testId idle => exact .inl member
  | left case rest idle running =>
      refine .inl ?_
      rw [Worker.users, running]
      exact (((List.sublist_cons_self case rest).filter _).map _).subset member
  | returned executed next idle marked =>
      rw [Worker.users, marked] at member
      rcases Worker.mark_true_users member with used | ⟨case, first, rfl⟩
      · exact .inl used
      · refine .inr ⟨executed, rfl, ?_⟩
        rintro none_
        rw [none_] at first
        cases first
  | emptied next caller deleting empty ids users => exact .inl (users.subset member)

theorem Follows.deleting {caller : Caller} (follows : Follows worker tests action next)
    (deleting : next.phase = .deleting caller) : tests = ∅ := by
  cases follows with
  | calm _ _ stays notDeleting ids users => exact absurd deleting (notDeleting caller)
  | entered testId idle =>
      rw [idle] at deleting
      cases deleting
  | left case rest idle running => cases deleting
  | returned executed next idle marked =>
      rw [idle] at deleting
      cases deleting
  | emptied next caller waiting empty ids users => exact empty

end Step

/-! ### All the workers -/

section Workers

variable {Name : Type} [DecidableEq Name] {stackName : String} {state after : State Name}
  {name : Name} {action : Action}

/-- A worker enters only a test case that runs nowhere else. A `setUp` returns to a
test case only when no worker is about to delete the stack, and when it is skipped
only to one that is registered already. -/
def State.Counted (stackName : String) (state : State Name) (name : Name) : Action → Prop
  | .enter testId => testId ≠ dummyTestId ∧ ∀ other, testId ∉ (state.workers other).testIds
  | .setUpReturns executed => ∀ case ∈ (state.workers name).cases.head?,
      (executed = false → case.id ∈ state.shared.tests stackName) ∧
        ∀ other caller, (state.workers other).phase ≠ .deleting caller
  | _ => True

/-- Nobody uses a stack that is about to be deleted. -/
structure State.Guarded (stackName : String) (state : State Name) : Prop where
  sound : ∀ name, (state.workers name).Sound (state.shared.tests stackName)
  distinct : ∀ left right, left ≠ right →
    List.Disjoint (state.workers left).testIds (state.workers right).testIds
  deleting : ∀ name caller, (state.workers name).phase = .deleting caller →
    ∀ other, (state.workers other).users = []

omit [DecidableEq Name] in
theorem State.Guarded.init (shared : Shared) :
    State.Guarded stackName (⟨fun _ => Worker.init, shared⟩ : State Name) where
  sound _ := .init
  distinct _ _ _ := List.disjoint_nil_left _
  deleting _ _ impossible := by cases impossible

section Moved

variable {worker : Worker} {shared : Shared} {other : Name}

@[simp] theorem moved_self : (state.moved name worker shared).workers name = worker :=
  Function.update_self ..

theorem moved_other (different : other ≠ name) :
    (state.moved name worker shared).workers other = state.workers other :=
  Function.update_of_ne different ..

variable (guarded : state.Guarded stackName) (counted : state.Counted stackName name action)
  (step : Step stackName action (state.workers name, state.shared) (worker, shared))

include guarded counted step

omit [DecidableEq Name] in
theorem State.Guarded.apart (different : other ≠ name) {id : String}
    (member : id ∈ worker.testIds) : id ∉ (state.workers other).testIds := by
  intro elsewhere
  rcases step.follows.ids member with before | rfl
  · exact guarded.distinct other name different elsewhere before
  · exact counted.2 other elsewhere

theorem State.Guarded.soundAfter (other : Name) :
    ((state.moved name worker shared).workers other).Sound (shared.tests stackName) := by
  by_cases same : other = name
  · subst same
    rw [moved_self]
    refine step.sound (guarded.sound other) ?_ ?_
    · rintro testId rfl
      exact ⟨counted.1, counted.2 other⟩
    · rintro rfl case first
      exact (counted case first).1 rfl
  · rw [moved_other same]
    refine (guarded.sound other).kept fun id member registered => step.keeps registered ?_ ?_
    · rintro rfl
      exact (guarded.sound other).named member
    · exact guarded.distinct other name same member

theorem State.Guarded.distinctAfter (left right : Name) (different : left ≠ right) :
    List.Disjoint ((state.moved name worker shared).workers left).testIds
      ((state.moved name worker shared).workers right).testIds := by
  by_cases isLeft : left = name
  · subst isLeft
    rw [moved_self, moved_other different.symm]
    exact fun id member => guarded.apart counted step different.symm member
  · by_cases isRight : right = name
    · subst isRight
      rw [moved_self, moved_other isLeft]
      exact fun id elsewhere member => guarded.apart counted step isLeft member elsewhere
    · rw [moved_other isLeft, moved_other isRight]
      exact guarded.distinct left right different

theorem State.Guarded.unusedAfter {deleter : Name} {caller : Caller}
    (deleting : ((state.moved name worker shared).workers deleter).phase = .deleting caller)
    (other : Name) : ((state.moved name worker shared).workers other).users = [] := by
  refine List.eq_nil_iff_forall_not_mem.mpr fun id member => ?_
  by_cases same : deleter = name
  · -- The removal has just returned an empty set, and the users are registered.
    subst same
    rw [moved_self] at deleting
    have registered := (guarded.soundAfter counted step other).registered id member
    rw [step.follows.deleting deleting] at registered
    exact Finset.notMem_empty id registered
  · -- The stack was about to be deleted before, when no `setUp` may return.
    rw [moved_other same] at deleting
    have unused := guarded.deleting deleter caller deleting other
    by_cases mover : other = name
    · subst mover
      rw [moved_self] at member
      rcases step.follows.users member with used | ⟨executed, rfl, someCase⟩
      · rw [unused] at used
        exact List.not_mem_nil used
      · obtain ⟨case, rest, running⟩ := List.exists_cons_of_ne_nil someCase
        exact (counted case (by simp [running])).2 deleter caller deleting
    · rw [moved_other mover, unused] at member
      exact List.not_mem_nil member

end Moved

theorem State.Guarded.step (guarded : state.Guarded stackName)
    (counted : state.Counted stackName name action)
    (step : StepBy stackName name action state after) : after.Guarded stackName := by
  cases step with
  | step worker shared step =>
      exact {
        sound := guarded.soundAfter counted step
        distinct := guarded.distinctAfter counted step
        deleting := fun _ _ deleting => guarded.unusedAfter counted step deleting }

theorem guarded_of_reachable {shared : Shared}
    (reachable : Reachable stackName (State.Counted stackName) shared state) :
    state.Guarded stackName := by
  induction reachable with
  | refl => exact .init shared
  | tail _ last inductionHypothesis =>
      obtain ⟨name, action, counted, step⟩ := last
      exact inductionHypothesis.step counted step

/-- **No deletion in use.** In every run whose steps are counted, no running test
case uses the stack when `cleanup_fixture` deletes it. -/
theorem deleted_stack_unused {shared : Shared}
    (reachable : Reachable stackName (State.Counted stackName) shared state)
    (deletes : StepBy stackName name .deletes state after) :
    ∀ other, ∀ case ∈ (state.workers other).cases, case.uses = false := by
  have guarded := guarded_of_reachable reachable
  obtain ⟨caller, deleting⟩ : ∃ caller, (state.workers name).phase = .deleting caller := by
    cases deletes with
    | step worker shared step =>
        cases step with
        | deletes _ _ caller deleting => exact ⟨caller, deleting⟩
  intro other case running
  have unused := guarded.deleting name caller deleting other
  rw [Worker.users, List.map_eq_nil_iff, List.filter_eq_nil_iff] at unused
  simpa using unused case running

end Workers

/-! ### Two runs -/

section Directory

variable {worker : Worker}

/-- The directory of the stack's shelf, in which the given test cases are registered. -/
def directoryOf (tests : Finset String) : Store String Shelf :=
  Function.update (fun _ => none) stackShelf (some (Shelf.empty.setItem "stack" tests))

theorem directoryOf_lists (tests : Finset String) :
    Lists isSharedShelf (directoryOf tests) [stackShelf] := by
  refine ⟨List.nodup_singleton _, fun filename => ?_⟩
  by_cases same : filename = stackShelf
  · subst same
    simp only [directoryOf, Function.update_self, Option.isSome_some, and_true,
      List.mem_singleton, true_iff]
    decide
  · simp [directoryOf, same]

theorem directoryOf_registered (tests : Finset String) :
    registered (directoryOf tests) stackShelf "stack" = tests := by
  simp [directoryOf, registered, lookup_setItem]

theorem directoryOf_setItem (tests later : Finset String) :
    Function.update (directoryOf tests) stackShelf
      (some ((((directoryOf tests) stackShelf).getD Shelf.empty).setItem "stack" later)) =
      directoryOf later := by
  simp [directoryOf, setItem_setItem]

theorem addme_directoryOf (testId : String) (tests : Finset String) :
    (Call.addmeToSharedResource stackShelf "stack" testId 0).body.Runs (directoryOf tests)
      (.returned (some (insert testId tests))) (directoryOf (insert testId tests)) := by
  have adds := addmeToSharedResource_runs stackShelf "stack" testId 0 (directoryOf tests)
  rwa [directoryOf_registered, directoryOf_setItem] at adds

theorem removeme_directoryOf (testId : String) :
    (Call.removemeFromSharedResource stackShelf "stack" testId 0).body.Runs (directoryOf {testId})
      (.returned (some ∅)) (directoryOf ∅) := by
  have removes := removemeFromSharedResource_runs stackShelf "stack" testId 0 (directoryOf {testId})
  rwa [directoryOf_registered, directoryOf_setItem, Finset.erase_singleton] at removes

theorem removeTest_directoryOf (testId : String) :
    (Call.removeTestFromAllSharedResources testId fun _ => 0).body.Runs (directoryOf {testId})
      (.returned none) (directoryOf ∅) := by
  have removes := removeTestFromAllSharedResources_runs
    (Call.removeTestFromAllSharedResources testId fun _ => 0).lock testId (fun _ => 0)
    (directoryOf_lists {testId}) rfl lookup_setItem (Finset.mem_singleton_self testId)
  rwa [setItem_setItem, Finset.erase_singleton] at removes

end Directory

section Extend

variable {Name : Type} [DecidableEq Name] {stackName : String}
  {allowed : State Name → Name → Action → Prop} {start shared : Shared} {state : State Name}
  {worker : Worker} {action : Action}

theorem Reachable.next (reachable : Reachable stackName allowed start state) (name : Name)
    (step : Step stackName action (state.workers name, state.shared) (worker, shared))
    (allows : allowed state name action) :
    Reachable stackName allowed start (state.moved name worker shared) :=
  reachable.tail ⟨name, action, allows, .step _ _ _ step⟩

theorem Reachable.inside (reachable : Reachable stackName allowed start state) (name : Name)
    (allows : ∀ state, allowed state name .internal)
    (run : ReflTransGen (Step stackName .internal) (state.workers name, state.shared)
      (worker, shared)) :
    Reachable stackName allowed start (state.moved name worker shared) := by
  have extend : ∀ finish, ReflTransGen (Step stackName .internal)
      (state.workers name, state.shared) finish →
      Reachable stackName allowed start (state.moved name finish.1 finish.2) := by
    intro finish run
    induction run with
    | refl =>
        have same : state.moved name (state.workers name) state.shared = state := by
          simp [State.moved]
        rwa [same]
    | @tail middle finish _ last inductionHypothesis =>
        have same : (state.moved name middle.1 middle.2).moved name finish.1 finish.2 =
            state.moved name finish.1 finish.2 := by
          simp [State.moved]
        rw [← same]
        exact inductionHypothesis.next name (by rwa [moved_self]) (allows _)
  exact extend _ run

theorem Reachable.deletes (_ : Reachable stackName allowed start state) (name : Name)
    (caller : Caller) (deleting : (state.workers name).phase = .deleting caller) :
    ∃ after, StepBy stackName name .deletes state after :=
  ⟨_, .step _ _ _ (.deletes _ _ caller deleting)⟩

end Extend

section Directory

variable {worker : Worker} {exists_ : Bool}

theorem registers_inside (idle : worker.phase = .idle) (pending : worker.setupExecuted = false) :
    ReflTransGen (Step "stack" .internal) (worker, ⟨directoryOf ∅, exists_⟩)
      ({ worker with phase := .registered }, ⟨directoryOf {worker.currentId}, true⟩) := by
  refine .head (.setUpStarts worker _ idle pending) ?_
  refine .head (.creates _ _ rfl) ?_
  exact .single (.registers _ _ 0 _ _ rfl (addme_directoryOf _ ∅))

theorem removes_inside (idle : worker.phase = .idle) (pending : worker.cleanupExecuted = false) :
    ReflTransGen (Step "stack" .internal) (worker, ⟨directoryOf {worker.currentId}, exists_⟩)
      ({ worker with phase := .removing (.user true) }.afterRemoval ∅ (.user true),
        ⟨directoryOf ∅, exists_⟩) := by
  have begun : worker.beginCleanUp false (.user true) =
      { worker with phase := .removing (.user true) } := by
    simp [Worker.beginCleanUp, pending]
  have starts : Step "stack" .internal (worker, ⟨directoryOf {worker.currentId}, exists_⟩)
      ({ worker with phase := .removing (.user true) },
        ⟨directoryOf {worker.currentId}, exists_⟩) :=
    begun ▸ .cleanUpStarts worker _ false true idle
  refine .head starts ?_
  exact .single (.removes _ _ (.user true) 0 ∅ _ rfl (removeme_directoryOf worker.currentId))

theorem leaves_inside {testId : String} {uses : Bool} {rest : List TestCase}
    (idle : worker.phase = .idle) (running : worker.cases = ⟨testId, uses⟩ :: rest) :
    ReflTransGen (Step "stack" .internal) (worker, ⟨directoryOf {testId}, exists_⟩)
      ({ worker with cases := rest, phase := .idle }, ⟨directoryOf ∅, exists_⟩) := by
  refine .head (.exit worker _ _ _ idle running) ?_
  exact .single (.leave _ _ testId (fun _ => 0) _ _ rfl (removeTest_directoryOf testId))

end Directory

/-- A test case sets up the stack and cleans it up. -/
theorem deleted_stack_unused_once : ∃ state after : State Bool,
    StepBy "stack" false .deletes state after ∧
      ∀ other, ∀ case ∈ (state.workers other).cases, case.uses = false := by
  have start : Reachable "stack" (State.Counted "stack") ⟨directoryOf ∅, false⟩
      ⟨fun _ : Bool => Worker.init, ⟨directoryOf ∅, false⟩⟩ := .refl
  have entered := start.next false (.enter _ _ "t1" rfl) ⟨by decide, fun _ => List.not_mem_nil⟩
  have registers := entered.inside false (fun _ => trivial) (registers_inside rfl rfl)
  have setUp := registers.next false (.setUpReturns _ _ rfl) fun _ _ =>
    ⟨Bool.noConfusion, fun other _ impossible => by cases other <;> cases impossible⟩
  have emptied := setUp.inside false (fun _ => trivial) (removes_inside rfl rfl)
  obtain ⟨after, deletes⟩ := emptied.deletes false (.user true) rfl
  exact ⟨_, after, deletes, deleted_stack_unused emptied deletes⟩

/-! ### A stack that is deleted in use

The first test case of a worker registers itself and leaves, the second one finds
the fixture set up and is not registered, and another worker deletes the stack. -/

/-- The second test case of a worker uses the stack when another worker deletes it. -/
theorem skipped_setUp_loses_stack :
    ¬ ∀ (stackName : String) (shared : Shared) (state after : State Bool) (name : Bool),
      Reachable stackName (fun _ _ _ => True) shared state →
      StepBy stackName name .deletes state after →
        ∀ other, ∀ case ∈ (state.workers other).cases, case.uses = false := by
  intro unused
  have start : Reachable "stack" (fun _ _ _ => True) ⟨directoryOf ∅, false⟩
      ⟨fun _ : Bool => Worker.init, ⟨directoryOf ∅, false⟩⟩ := .refl
  have first := start.next false (.enter _ _ "t1" rfl) trivial
  have firstRegisters := first.inside false (fun _ => trivial) (registers_inside rfl rfl)
  have firstSetUp := firstRegisters.next false (.setUpReturns _ _ rfl) trivial
  have firstLeft := firstSetUp.inside false (fun _ => trivial) (leaves_inside rfl rfl)
  have second := firstLeft.next false (.enter _ _ "t2" rfl) trivial
  have secondSkips := second.next false (.setUpSkips _ _ rfl rfl) trivial
  have third := secondSkips.next true (.enter _ _ "t3" rfl) trivial
  have thirdRegisters := third.inside true (fun _ => trivial) (registers_inside rfl rfl)
  have thirdSetUp := thirdRegisters.next true (.setUpReturns _ _ rfl) trivial
  have emptied := thirdSetUp.inside true (fun _ => trivial) (removes_inside rfl rfl)
  obtain ⟨after, deletes⟩ := emptied.deletes true (.user true) rfl
  have lost := unused "stack" _ _ after true emptied deletes false ⟨"t2", true⟩
    (List.mem_singleton_self _)
  cases lost

end Tobiko.Openstack.Heat
