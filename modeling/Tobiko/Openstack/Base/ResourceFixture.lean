import Mathlib.Data.Finset.Card
import Tobiko.Foundation.Workers

/-!
Contract: the workers of a test run that share the resource of one `ResourceFixture` of
`tobiko/openstack/base/_fixture.py`.

Owns: what a worker does from place to place in `setUp` and `cleanUp`, with the lookups of the
resource that a fixture keeps, and what it makes of the resources and of the registered tests.

`try_create_resource` runs inside a lock of the workers, as each child class has it. Each function
of the shelves is one step. Every step may raise where the source may; a creation that raises may
have created the resource before.

Does not own: which exceptions of `resource_find` stand for a resource that is not there. Where the
child class takes all of them for that, `swallows` is true.
-/

namespace Tobiko.Openstack.Base

open Tobiko.Foundation

/-- Who called `cleanUp`: a `setUp` that raises, or the user of the fixture. -/
inductive Caller where
  | setUp
  | user (raiseFirst : Bool)
  deriving DecidableEq

def Caller.raiseFirst : Caller → Bool
  | .setUp => false
  | .user raiseFirst => raiseFirst

/-- Where a worker is. -/
inductive Phase where
  | idle
  | settingUp
  /-- In `try_create_resource`, before the quota limits are ensured. -/
  | creating
  /-- No resource has been found. -/
  | absent
  | created (id : Nat)
  /-- At `if self.resource is None`. -/
  | checking
  | registering
  | registered
  | removing (caller : Caller)
  | deleting (caller : Caller)
  | identified (caller : Caller) (id : Nat)
  | deleted (caller : Caller)
  deriving DecidableEq

/-- The worker is in `try_create_resource`. -/
def Phase.locked : Phase → Bool
  | .creating | .absent | .created _ => true
  | _ => false

/-- A worker process, with its own instance of the fixture. -/
structure Worker where
  testId : String
  resource : Option Nat
  setupExecuted : Bool
  cleanupExecuted : Bool
  phase : Phase

namespace Worker

def init (testId : String) : Worker := ⟨testId, none, false, false, .idle⟩

variable (worker : Worker)

def goes (phase : Phase) : Worker := { worker with phase := phase }

/-- `self._resource = resource` -/
def keeps (resource : Option Nat) : Worker := { worker with resource := resource }

/-- The end of `SharedFixture.setUp`, after the call of its parent class. -/
def endSetUp : Worker :=
  { worker with phase := .idle, cleanupExecuted := false, setupExecuted := true }

/-- The end of `SharedFixture.cleanUp`, after the call of its parent class. -/
def endCleanUp (raised : Bool) (caller : Caller) : Worker :=
  if raised && caller.raiseFirst then worker.goes .idle
  else { worker with phase := .idle, setupExecuted := false, cleanupExecuted := true }

/-- The begin of `SharedFixture.cleanUp`: whether it runs `cleanup_fixture`. -/
def beginCleanUp (preventCreate : Bool) (caller : Caller) : Worker :=
  if preventCreate then worker.endCleanUp false caller
  else if worker.cleanupExecuted then worker.endCleanUp false caller
  else worker.goes (.removing caller)

/-- `cleanup_fixture` deletes the resource when no test is left. -/
def afterRemoval (tests : Finset String) (caller : Caller) : Worker :=
  if tests = ∅ then worker.goes (.deleting caller) else worker.endCleanUp false caller

end Worker

/-- What the workers share: the resources of that name, the lock, and the registered tests. Each
resource has a new identifier. -/
structure Shared where
  existing : Finset Nat
  nextId : Nat
  locked : Bool
  tests : Finset String
  fresh : ∀ id ∈ existing, id < nextId

namespace Shared

variable (shared : Shared)

def lock : Shared := { shared with locked := true }

def unlock : Shared := { shared with locked := false }

/-- A resource is created under the next identifier. -/
def create : Shared where
  existing := insert shared.nextId shared.existing
  nextId := shared.nextId + 1
  locked := shared.locked
  tests := shared.tests
  fresh := by
    intro id member
    rcases Finset.mem_insert.mp member with rfl | earlier
    · exact Nat.lt_succ_self _
    · exact Nat.lt_succ_of_lt (shared.fresh id earlier)

def delete (id : Nat) : Shared where
  existing := shared.existing.erase id
  nextId := shared.nextId
  locked := shared.locked
  tests := shared.tests
  fresh := fun other member => shared.fresh other (Finset.mem_of_mem_erase member)

def register (testId : String) : Shared := { shared with tests := insert testId shared.tests }

def remove (testId : String) : Shared := { shared with tests := shared.tests.erase testId }

end Shared

/-- What a step of a worker shows. -/
inductive Event where
  /-- `resource_find` has answered. -/
  | looked (answer : Option Nat)
  /-- `resource_find` has raised, and the resource is taken not to be there. -/
  | swallowed
  | created (id : Nat)
  | deleted (id : Nat)
  | registered (testId : String)
  | removed (testId : String) (left : Finset String)
  | setUpReturned (executed : Bool)
  | internal
  deriving DecidableEq

/-- How `resource_find` ends. With several resources it may answer one of them, or raise. -/
inductive Lookup (swallows : Bool) (existing : Finset Nat) : Event → Option (Option Nat) → Prop
  | found (id : Nat) (member : id ∈ existing) :
      Lookup swallows existing (.looked (some id)) (some (some id))
  | absent (empty : existing = ∅) : Lookup swallows existing (.looked none) (some none)
  | swallowed (taken : swallows = true) : Lookup swallows existing .swallowed (some none)
  | raised : Lookup swallows existing .internal none

/-- How `self.resource` ends. -/
inductive Reads (swallows : Bool) (existing : Finset Nat) (resource : Option Nat) :
    Event → Option (Option Nat) → Prop
  | kept (id : Nat) (known : resource = some id) :
      Reads swallows existing resource .internal (some (some id))
  | looked {event : Event} {answer : Option (Option Nat)} (unknown : resource = none)
      (lookup : Lookup swallows existing event answer) :
      Reads swallows existing resource event answer

/-- One step of a worker. -/
inductive Step (swallows : Bool) : Event → Worker × Shared → Worker × Shared → Prop
  | enter (worker shared testId) (idle : worker.phase = .idle) :
      Step swallows .internal (worker, shared) ({ worker with testId := testId }, shared)
  /- `remove_test_from_all_shared_resources` -/
  | leave (worker shared) (idle : worker.phase = .idle) :
      Step swallows .internal (worker, shared) (worker, shared.remove worker.testId)
  /- `setUp` -/
  | setUpSkips (worker shared) (idle : worker.phase = .idle)
      (executed : worker.setupExecuted = true) :
      Step swallows (.setUpReturned false) (worker, shared) (worker, shared)
  | setUpStarts (worker shared) (idle : worker.phase = .idle)
      (pending : worker.setupExecuted = false) :
      Step swallows .internal (worker, shared) (worker.goes .settingUp, shared)
  | setUpFails (worker shared preventCreate) (settingUp : worker.phase = .settingUp) :
      Step swallows .internal (worker, shared) (worker.beginCleanUp preventCreate .setUp, shared)
  /- `TOBIKO_PREVENT_CREATE` -/
  | prevented (worker shared event resource) (settingUp : worker.phase = .settingUp)
      (reads : Reads swallows shared.existing worker.resource event (some resource)) :
      Step swallows event (worker, shared) ((worker.keeps resource).goes .checking, shared)
  | preventedRaises (worker shared event) (settingUp : worker.phase = .settingUp)
      (reads : Reads swallows shared.existing worker.resource event none) :
      Step swallows event (worker, shared) (worker.beginCleanUp true .setUp, shared)
  /- `try_create_resource` -/
  | locks (worker shared) (settingUp : worker.phase = .settingUp) (free : shared.locked = false) :
      Step swallows .internal (worker, shared) (worker.goes .creating, shared.lock)
  | quotaRaises (worker shared preventCreate) (creating : worker.phase = .creating) :
      Step swallows .internal (worker, shared)
        (worker.beginCleanUp preventCreate .setUp, shared.unlock)
  | finds (worker shared event id) (creating : worker.phase = .creating)
      (reads : Reads swallows shared.existing worker.resource event (some (some id))) :
      Step swallows event (worker, shared) ((worker.keeps (some id)).goes .checking, shared.unlock)
  | findsNone (worker shared event) (creating : worker.phase = .creating)
      (reads : Reads swallows shared.existing worker.resource event (some none)) :
      Step swallows event (worker, shared) ((worker.keeps none).goes .absent, shared)
  | findRaises (worker shared event preventCreate) (creating : worker.phase = .creating)
      (reads : Reads swallows shared.existing worker.resource event none) :
      Step swallows event (worker, shared)
        (worker.beginCleanUp preventCreate .setUp, shared.unlock)
  | creates (worker shared) (absent : worker.phase = .absent) :
      Step swallows (.created shared.nextId) (worker, shared)
        (worker.goes (.created shared.nextId), shared.create)
  | creationRaises (worker shared preventCreate) (absent : worker.phase = .absent) :
      Step swallows .internal (worker, shared)
        (worker.beginCleanUp preventCreate .setUp, shared.unlock)
  | creationReturns (worker shared id) (created : worker.phase = .created id) :
      Step swallows .internal (worker, shared)
        ((worker.keeps (some id)).goes .checking, shared.unlock)
  /- A creation that returns what `resource_find` answers -/
  | creationFinds (worker shared id event resource) (created : worker.phase = .created id)
      (lookup : Lookup false shared.existing event (some resource)) :
      Step swallows event (worker, shared) ((worker.keeps resource).goes .checking, shared.unlock)
  | createdRaises (worker shared id preventCreate) (created : worker.phase = .created id) :
      Step swallows .internal (worker, shared)
        (worker.beginCleanUp preventCreate .setUp, shared.unlock)
  /- The end of `setup_fixture` -/
  | checks (worker shared event id) (checking : worker.phase = .checking)
      (reads : Reads swallows shared.existing worker.resource event (some (some id))) :
      Step swallows event (worker, shared) ((worker.keeps (some id)).goes .registering, shared)
  | notFound (worker shared event preventCreate) (checking : worker.phase = .checking)
      (reads : Reads swallows shared.existing worker.resource event (some none)) :
      Step swallows event (worker, shared)
        ((worker.keeps none).beginCleanUp preventCreate .setUp, shared)
  | checkRaises (worker shared event preventCreate) (checking : worker.phase = .checking)
      (reads : Reads swallows shared.existing worker.resource event none) :
      Step swallows event (worker, shared) (worker.beginCleanUp preventCreate .setUp, shared)
  | registers (worker shared) (registering : worker.phase = .registering) :
      Step swallows (.registered worker.testId) (worker, shared)
        (worker.goes .registered, shared.register worker.testId)
  | registrationRaises (worker shared preventCreate) (registering : worker.phase = .registering) :
      Step swallows .internal (worker, shared) (worker.beginCleanUp preventCreate .setUp, shared)
  | setUpReturns (worker shared) (registered : worker.phase = .registered) :
      Step swallows (.setUpReturned true) (worker, shared) (worker.endSetUp, shared)
  | setUpRaises (worker shared preventCreate) (registered : worker.phase = .registered) :
      Step swallows .internal (worker, shared) (worker.beginCleanUp preventCreate .setUp, shared)
  /- `cleanUp` and `cleanup_fixture` -/
  | cleanUpStarts (worker shared preventCreate raiseFirst) (idle : worker.phase = .idle) :
      Step swallows .internal (worker, shared)
        (worker.beginCleanUp preventCreate (.user raiseFirst), shared)
  | removes (worker shared caller) (removing : worker.phase = .removing caller) :
      Step swallows (.removed worker.testId (shared.remove worker.testId).tests) (worker, shared)
        (worker.afterRemoval (shared.remove worker.testId).tests caller,
          shared.remove worker.testId)
  | removalRaises (worker shared caller) (removing : worker.phase = .removing caller) :
      Step swallows .internal (worker, shared) (worker.endCleanUp true caller, shared)
  | identifies (worker shared caller event id) (deleting : worker.phase = .deleting caller)
      (reads : Reads swallows shared.existing worker.resource event (some (some id))) :
      Step swallows event (worker, shared)
        ((worker.keeps (some id)).goes (.identified caller id), shared)
  | nothingThere (worker shared caller event) (deleting : worker.phase = .deleting caller)
      (reads : Reads swallows shared.existing worker.resource event (some none)) :
      Step swallows event (worker, shared) ((worker.keeps none).endCleanUp false caller, shared)
  | identificationRaises (worker shared caller event) (deleting : worker.phase = .deleting caller)
      (reads : Reads swallows shared.existing worker.resource event none) :
      Step swallows event (worker, shared) (worker.endCleanUp true caller, shared)
  | deletes (worker shared caller id) (identified : worker.phase = .identified caller id) :
      Step swallows (.deleted id) (worker, shared)
        (worker.goes (.deleted caller), shared.delete id)
  | deletionFails (worker shared caller id) (identified : worker.phase = .identified caller id) :
      Step swallows .internal (worker, shared) (worker.endCleanUp true caller, shared)
  | deletionReturns (worker shared caller) (deleted : worker.phase = .deleted caller) :
      Step swallows .internal (worker, shared)
        ((worker.keeps none).endCleanUp false caller, shared)
  | deletionRaises (worker shared caller) (deleted : worker.phase = .deleted caller) :
      Step swallows .internal (worker, shared) (worker.endCleanUp true caller, shared)

/-- All workers, with what they have shown. -/
abbrev State (Name : Type) := Workers.State Name Event Worker Shared

abbrev History (Name : Type) := Workers.History Name Event

/-- The states of all runs of the workers. -/
def Reaches {Name : Type} [DecidableEq Name] (swallows : Bool) (tests : Name → String)
    (shared : Shared) (state : State Name) : Prop :=
  Workers.Reachable (Step swallows) (fun _ _ _ => True)
    (Workers.State.start (fun name => Worker.init (tests name)) shared) state

end Tobiko.Openstack.Base
