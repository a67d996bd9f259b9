import Mathlib.Data.Finset.Card
import Tobiko.Common.Fixture.SharedFixture
import Tobiko.Common.Shelves.Registration

/-!
Contract: the workers of a test run that share one `HeatStackFixture` of
`tobiko/openstack/heat/_stack.py`.

Owns: the test cases that each worker enters and leaves (`enter_test_case`), the
set up and the clean up of the fixture on each worker step by step, and how the
steps change the test cases that run on a worker and the ones that use the stack.

Every operation on the shelves is one step, which runs the whole body of the
function of `tobiko/common/_shelves.py`. Every other step may raise where the
source may; the fixture registers no cleanups besides `cleanup_fixture`.

Does not own: the attempts of `create_stack`, which are one step here, and the
histories of one fixture, whose flags a worker has (`endCleanUp_fixture`).
-/

namespace Tobiko.Openstack.Heat

open Relation
open Tobiko.Foundation Tobiko.Common.Shelves

/-- `__name__`, which names the shelf of the module. -/
def stackShelf : String := "tobiko.openstack.heat._stack"

/-- The id of the test case that `get_test_case` returns when none runs. -/
def dummyTestId : String := "tobiko.common._case.DummyTestCase.runTest"

/-- Who called `cleanUp`: a `setUp` that raises, or the user of the fixture. -/
inductive Caller where
  | setUp
  | user (raiseFirst : Bool)
deriving DecidableEq, Repr

def Caller.raiseFirst : Caller → Bool
  | .setUp => false
  | .user raiseFirst => raiseFirst

/-- Where a worker is. -/
inductive Phase where
  | idle
  | settingUp
  | created
  | registered
  | removing (caller : Caller)
  | deleting (caller : Caller)
  | deleted (caller : Caller)
  | leaving (testId : String)
deriving DecidableEq, Repr

/-- A running test case. It uses the stack from the return of its `setUp` until
it removes itself in `cleanUp`. -/
structure TestCase where
  id : String
  uses : Bool
deriving DecidableEq, Repr

/-- A worker process: its stack of running test cases, the current one first, and
its own instance of the fixture. -/
structure Worker where
  cases : List TestCase
  setupExecuted : Bool
  cleanupExecuted : Bool
  phase : Phase
deriving DecidableEq, Repr

namespace Worker

def init : Worker := ⟨[], false, false, .idle⟩

variable (worker : Worker)

/-- `get_test_case().id()` -/
def currentId : String :=
  match worker.cases with
  | [] => dummyTestId
  | case :: _ => case.id

/-- The current test case starts or stops to use the stack. -/
def mark (uses : Bool) : Worker :=
  match worker.cases with
  | [] => worker
  | case :: rest => { worker with cases := { case with uses := uses } :: rest }

/-- A test case that cleans up the stack stops to use it. -/
def forget : Caller → Worker
  | .setUp => worker
  | .user _ => worker.mark false

/-- The end of `SharedFixture.setUp`, after the call of its parent class. -/
def endSetUp : Worker :=
  { worker with phase := .idle, cleanupExecuted := false, setupExecuted := true }

/-- The end of `SharedFixture.cleanUp`, after the call of its parent class. -/
def endCleanUp (raised : Bool) (caller : Caller) : Worker :=
  if raised && caller.raiseFirst then { worker with phase := .idle }
  else { worker with phase := .idle, setupExecuted := false, cleanupExecuted := true }

/-- The begin of `SharedFixture.cleanUp`: whether it runs `cleanup_fixture`. -/
def beginCleanUp (preventCreate : Bool) (caller : Caller) : Worker :=
  if preventCreate then (worker.forget caller).endCleanUp false caller
  else if worker.cleanupExecuted then (worker.forget caller).endCleanUp false caller
  else { worker with phase := .removing caller }

/-- `cleanup_fixture` deletes the stack when no test is left. -/
def afterRemoval (tests : Finset String) (caller : Caller) : Worker :=
  if tests.card = 0 then { worker.forget caller with phase := .deleting caller }
  else (worker.forget caller).endCleanUp false caller

end Worker

/-- What the workers share: the shelves directory, and whether the stack exists. -/
structure Shared where
  directory : Store String Shelf
  stackExists : Bool

/-- What a step of a worker shows. -/
inductive Action where
  | enter (testId : String)
  | setUpReturns (executed : Bool)
  | deletes
  | internal
deriving DecidableEq, Repr

/-- One step of a worker. -/
inductive Step (stackName : String) : Action → Worker × Shared → Worker × Shared → Prop
  /- `enter_test_case`, and its `finally` block in two steps. -/
  | enter (worker shared testId) (idle : worker.phase = .idle) :
      Step stackName (.enter testId) (worker, shared)
        ({ worker with cases := ⟨testId, false⟩ :: worker.cases }, shared)
  | exit (worker shared case rest) (idle : worker.phase = .idle)
      (running : worker.cases = case :: rest) :
      Step stackName .internal (worker, shared)
        ({ worker with cases := rest, phase := .leaving case.id }, shared)
  | leave (worker shared testId attempts outcome after)
      (leaving : worker.phase = .leaving testId)
      (runs : (Call.removeTestFromAllSharedResources testId attempts).body.Runs shared.directory
        outcome after) :
      Step stackName .internal (worker, shared)
        ({ worker with phase := .idle }, { shared with directory := after })
  /- `SharedFixture.setUp` and `HeatStackFixture.setup_stack`. -/
  | setUpSkips (worker shared) (idle : worker.phase = .idle)
      (executed : worker.setupExecuted = true) :
      Step stackName (.setUpReturns false) (worker, shared) (worker.mark true, shared)
  | setUpStarts (worker shared) (idle : worker.phase = .idle)
      (pending : worker.setupExecuted = false) :
      Step stackName .internal (worker, shared) ({ worker with phase := .settingUp }, shared)
  | discards (worker shared) (settingUp : worker.phase = .settingUp) :
      Step stackName .internal (worker, shared) (worker, { shared with stackExists := false })
  | creates (worker shared) (settingUp : worker.phase = .settingUp) :
      Step stackName .internal (worker, shared)
        ({ worker with phase := .created }, { shared with stackExists := true })
  | creationRaises (worker shared preventCreate) (settingUp : worker.phase = .settingUp) :
      Step stackName .internal (worker, shared) (worker.beginCleanUp preventCreate .setUp, shared)
  | registers (worker shared attempts tests after) (created : worker.phase = .created)
      (runs : (Call.addmeToSharedResource stackShelf stackName worker.currentId attempts).body.Runs
        shared.directory (.returned (some tests)) after) :
      Step stackName .internal (worker, shared)
        ({ worker with phase := .registered }, { shared with directory := after })
  | registrationRaises (worker shared preventCreate attempts error after)
      (created : worker.phase = .created)
      (runs : (Call.addmeToSharedResource stackShelf stackName worker.currentId attempts).body.Runs
        shared.directory (.raised error) after) :
      Step stackName .internal (worker, shared)
        (worker.beginCleanUp preventCreate .setUp, { shared with directory := after })
  | setUpReturns (worker shared) (registered : worker.phase = .registered) :
      Step stackName (.setUpReturns true) (worker, shared)
        (worker.endSetUp.mark true, shared)
  /- The `setup_fixture` of a subclass may raise after the one of the stack. -/
  | setUpRaises (worker shared preventCreate) (registered : worker.phase = .registered) :
      Step stackName .internal (worker, shared) (worker.beginCleanUp preventCreate .setUp, shared)
  /- `SharedFixture.cleanUp` and `HeatStackFixture.cleanup_fixture`. -/
  | cleanUpStarts (worker shared preventCreate raiseFirst) (idle : worker.phase = .idle) :
      Step stackName .internal (worker, shared)
        (worker.beginCleanUp preventCreate (.user raiseFirst), shared)
  | removes (worker shared caller attempts tests after) (removing : worker.phase = .removing caller)
      (runs : (Call.removemeFromSharedResource stackShelf stackName worker.currentId
        attempts).body.Runs shared.directory (.returned (some tests)) after) :
      Step stackName .internal (worker, shared)
        (worker.afterRemoval tests caller, { shared with directory := after })
  | removalRaises (worker shared caller attempts error after)
      (removing : worker.phase = .removing caller)
      (runs : (Call.removemeFromSharedResource stackShelf stackName worker.currentId
        attempts).body.Runs shared.directory (.raised error) after) :
      Step stackName .internal (worker, shared)
        ((worker.forget caller).endCleanUp true caller, { shared with directory := after })
  | deletes (worker shared caller) (deleting : worker.phase = .deleting caller) :
      Step stackName .deletes (worker, shared)
        ({ worker with phase := .deleted caller }, { shared with stackExists := false })
  | deletionRaises (worker shared caller) (deleting : worker.phase = .deleting caller) :
      Step stackName .internal (worker, shared) (worker.endCleanUp true caller, shared)
  | cleanUpEnds (worker shared caller raised) (deleted : worker.phase = .deleted caller) :
      Step stackName .internal (worker, shared) (worker.endCleanUp raised caller, shared)

/-- All the workers, each of which is named by a `Name`. -/
structure State (Name : Type) where
  workers : Name → Worker
  shared : Shared

section Runs

variable {Name : Type} [DecidableEq Name] (stackName : String)

def State.moved (state : State Name) (name : Name) (worker : Worker) (shared : Shared) :
    State Name :=
  ⟨Function.update state.workers name worker, shared⟩

/-- One step of the named worker. -/
inductive StepBy (name : Name) (action : Action) : State Name → State Name → Prop
  | step (state worker shared)
      (local_ : Step stackName action (state.workers name, state.shared) (worker, shared)) :
      StepBy name action state (state.moved name worker shared)

/-- The runs all whose steps are allowed. -/
def Reachable (allowed : State Name → Name → Action → Prop) (shared : Shared)
    (state : State Name) : Prop :=
  ReflTransGen (fun before after => ∃ name action, allowed before name action ∧
    StepBy stackName name action before after) ⟨fun _ => Worker.init, shared⟩ state

end Runs

/-! ### The flags of the fixture -/

namespace Worker

open Tobiko.Common.Fixture (SharedFixture Behaviour)

/-- The flags of the worker's instance of the fixture. -/
def flags (worker : Worker) : Bool × Bool := (worker.setupExecuted, worker.cleanupExecuted)

variable (worker : Worker) (fixture : SharedFixture) (behaviour : Behaviour)

theorem endSetUp_fixture (pending : fixture.setupExecuted = false)
    (succeeds : behaviour.setupRaises = false) :
    worker.endSetUp.flags =
      ((fixture.setUp behaviour).2.setupExecuted, (fixture.setUp behaviour).2.cleanupExecuted) := by
  simp [flags, endSetUp, SharedFixture.setUp, pending, succeeds]

/-- The call ends as a clean up of the fixture whose cleanups raise or not. -/
theorem endCleanUp_fixture (caller : Caller)
    (same : worker.flags = (fixture.setupExecuted, fixture.cleanupExecuted)) :
    (worker.endCleanUp (!(fixture.cleaned behaviour).1.isEmpty) caller).flags =
      ((fixture.cleanUp caller.raiseFirst behaviour).2.setupExecuted,
        (fixture.cleanUp caller.raiseFirst behaviour).2.cleanupExecuted) := by
  rw [Common.Fixture.cleanUp_eq, Bool.and_comm caller.raiseFirst]
  unfold endCleanUp
  split
  · exact same
  · rfl

end Worker

/-! ### The test cases of a worker -/

def Phase.leavingIds : Phase → List String
  | .leaving testId => [testId]
  | _ => []

namespace Worker

/-- The ids of the running test cases, and of the one that is being left. -/
def testIds (worker : Worker) : List String :=
  worker.phase.leavingIds ++ worker.cases.map (·.id)

/-- The ids of the running test cases that use the stack. -/
def users (worker : Worker) : List String :=
  (worker.cases.filter (·.uses)).map (·.id)

variable {worker : Worker} {caller : Caller} {uses raised preventCreate : Bool} {id : String}

theorem mem_testIds (member : id ∈ worker.cases.map (·.id)) : id ∈ worker.testIds :=
  List.mem_append_right _ member

theorem users_sublist : worker.users.Sublist (worker.cases.map (·.id)) :=
  List.Sublist.map _ List.filter_sublist

theorem currentId_mem : worker.currentId = dummyTestId ∨ worker.currentId ∈ worker.testIds := by
  unfold currentId
  split
  · exact .inl rfl
  · rename_i case rest running
    exact .inr (mem_testIds (by simp [running]))

@[simp] theorem mark_phase : (worker.mark uses).phase = worker.phase := by
  unfold mark
  split <;> rfl

@[simp] theorem mark_setupExecuted : (worker.mark uses).setupExecuted = worker.setupExecuted := by
  unfold mark
  split <;> rfl

@[simp] theorem mark_cleanupExecuted :
    (worker.mark uses).cleanupExecuted = worker.cleanupExecuted := by
  unfold mark
  split <;> rfl

@[simp] theorem mark_ids : (worker.mark uses).cases.map (·.id) = worker.cases.map (·.id) := by
  unfold mark
  split
  · rfl
  · rename_i case rest running
    simp [running]

theorem endSetUp_mark : (worker.endSetUp.mark true).cases = (worker.mark true).cases := by
  cases running : worker.cases with
  | nil => simp [mark, endSetUp, running]
  | cons case rest => simp [mark, endSetUp, running]

theorem mark_true_users (member : id ∈ (worker.mark true).users) :
    id ∈ worker.users ∨ ∃ case ∈ worker.cases.head?, case.id = id := by
  unfold mark at member
  split at member
  · exact .inl member
  · rename_i case rest running
    simp only [users, List.filter_cons, if_true, List.map_cons, List.mem_cons] at member
    rcases member with rfl | later
    · exact .inr ⟨case, by simp [running], rfl⟩
    · refine .inl ?_
      rw [users, running]
      exact List.map_subset _ ((List.sublist_cons_self case rest).filter _).subset later

theorem mark_false_users : (worker.mark false).users.Sublist worker.users := by
  unfold mark
  split
  · exact .refl _
  · rename_i case rest running
    rw [users, users, running]
    simp only [List.filter_cons, Bool.false_eq_true, if_false]
    split
    · exact (List.sublist_cons_self case _).map _
    · exact .refl _

/-- The current test case does not use what it has stopped to use. -/
theorem currentId_notMem_mark_false (nodup : worker.testIds.Nodup) :
    worker.currentId ∉ (worker.mark false).users := by
  unfold currentId mark
  split
  · rename_i none_
    simp [users, none_]
  · rename_i case rest running
    intro member
    have apart := nodup.of_append_right
    rw [running, List.map_cons, List.nodup_cons] at apart
    have later : case.id ∈ (rest.filter (·.uses)).map (·.id) := by
      simpa [users, List.filter_cons] using member
    exact apart.1 ((List.filter_sublist.map _).subset later)

@[simp] theorem forget_phase : (worker.forget caller).phase = worker.phase := by
  cases caller with
  | setUp => rfl
  | user raiseFirst => exact mark_phase

@[simp] theorem forget_setupExecuted :
    (worker.forget caller).setupExecuted = worker.setupExecuted := by
  cases caller with
  | setUp => rfl
  | user raiseFirst => exact mark_setupExecuted

@[simp] theorem forget_cleanupExecuted :
    (worker.forget caller).cleanupExecuted = worker.cleanupExecuted := by
  cases caller with
  | setUp => rfl
  | user raiseFirst => exact mark_cleanupExecuted

@[simp] theorem forget_ids :
    (worker.forget caller).cases.map (·.id) = worker.cases.map (·.id) := by
  cases caller with
  | setUp => rfl
  | user raiseFirst => exact mark_ids

theorem forget_users : (worker.forget caller).users.Sublist worker.users := by
  cases caller with
  | setUp => exact .refl _
  | user raiseFirst => exact mark_false_users

@[simp] theorem endCleanUp_phase : (worker.endCleanUp raised caller).phase = .idle := by
  unfold endCleanUp
  split <;> rfl

@[simp] theorem endCleanUp_cases : (worker.endCleanUp raised caller).cases = worker.cases := by
  unfold endCleanUp
  split <;> rfl

/-- The begin of a clean up either ends it or waits for the removal. -/
theorem beginCleanUp_cases (worker : Worker) (preventCreate : Bool) (caller : Caller) :
    worker.beginCleanUp preventCreate caller = (worker.forget caller).endCleanUp false caller ∨
      (worker.cleanupExecuted = false ∧
        worker.beginCleanUp preventCreate caller = { worker with phase := .removing caller }) := by
  unfold beginCleanUp
  split
  · exact .inl rfl
  · split
    · exact .inl rfl
    · rename_i pending
      exact .inr ⟨by simpa using pending, rfl⟩

theorem beginCleanUp_users : (worker.beginCleanUp preventCreate caller).users.Sublist
    worker.users := by
  rcases beginCleanUp_cases worker preventCreate caller with ended | ⟨-, waits⟩
  · rw [ended, users, endCleanUp_cases]
    exact forget_users
  · rw [waits]
    exact .refl _

theorem beginCleanUp_ids :
    (worker.beginCleanUp preventCreate caller).cases.map (·.id) = worker.cases.map (·.id) := by
  rcases beginCleanUp_cases worker preventCreate caller with ended | ⟨-, waits⟩
  · rw [ended, endCleanUp_cases, forget_ids]
  · rw [waits]

theorem beginCleanUp_phase (worker : Worker) (preventCreate : Bool) (caller : Caller) :
    (worker.beginCleanUp preventCreate caller).phase = .idle ∨
      (worker.beginCleanUp preventCreate caller).phase = .removing caller := by
  rcases beginCleanUp_cases worker preventCreate caller with ended | ⟨-, waits⟩
  · exact .inl (ended ▸ endCleanUp_phase)
  · exact .inr (waits ▸ rfl)

theorem afterRemoval_users {tests : Finset String} :
    (worker.afterRemoval tests caller).users.Sublist worker.users := by
  unfold afterRemoval
  split
  · exact forget_users
  · rw [users, endCleanUp_cases]
    exact forget_users

theorem afterRemoval_ids {tests : Finset String} :
    (worker.afterRemoval tests caller).cases.map (·.id) = worker.cases.map (·.id) := by
  unfold afterRemoval
  split
  · exact forget_ids
  · rw [endCleanUp_cases, forget_ids]

theorem afterRemoval_phase (worker : Worker) (tests : Finset String) (caller : Caller) :
    (worker.afterRemoval tests caller).phase = .idle ∨
      (tests = ∅ ∧ (worker.afterRemoval tests caller).phase = .deleting caller) := by
  unfold afterRemoval
  split
  · rename_i empty
    exact .inr ⟨Finset.card_eq_zero.mp empty, rfl⟩
  · exact .inl endCleanUp_phase

end Worker

end Tobiko.Openstack.Heat
