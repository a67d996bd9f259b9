import Mathlib.Data.List.AList
import Mathlib.Data.Finset.Basic
import Tobiko.Common.Lockutils
import Tobiko.Foundation.Interleaving

/-!
Contract: the functions of `tobiko/common/_shelves.py` as programs over the
files of the shelves directory.

Owns: the content of a shelf, the errors of the file operations, the body of
each decorated function with its retry loop and its error handlers, and the
lock that `interworker_synched` computes for each call.

Every access to a shelf is one atomic action on one file: opening it, reading
one key or all the keys, writing one key, and removing the file. The number of
attempts that the clock allows a retry loop after the first one is an argument
of the call. A shelf file is named as the shelf: the database backend adds no
extension.
-/

namespace Tobiko.Common.Shelves

open Tobiko.Foundation

/-! ### Shelves and errors -/

/-- The content of a shelf file. A resource key maps to the set of the test case
ids that use the resource; `testRunUid` is the value of the
`PYTEST_XDIST_TESTRUNUID` key. -/
structure Shelf where
  resources : AList fun _ : String => Finset String
  testRunUid : Option String

/-- What `shelve.open` creates. -/
def Shelf.empty : Shelf := ⟨∅, none⟩

/-- `db[resource] = tests` -/
def Shelf.setItem (shelf : Shelf) (resource : String) (tests : Finset String) : Shelf :=
  { shelf with resources := shelf.resources.insert resource tests }

/-- The errors a file operation raises. `dbTypeUndetermined` is the `dbm.error`
with the message "db type could not be determined", `dbmError` any other one,
and `databaseError` is `sqlite3.DatabaseError`. -/
inductive Fault where
  | fileNotFound
  | dbTypeUndetermined
  | dbmError
  | databaseError
deriving DecidableEq, Repr

/-- The `dbm.error` tuple holds the module's own error and `OSError`, which
`FileNotFoundError` derives from. It does not hold `sqlite3.DatabaseError`. -/
def Fault.isDbmError : Fault → Bool
  | .databaseError => false
  | _ => true

inductive Error where
  | fault (fault : Fault)
  | keyError (resource : String)
  | retryTimeLimit
deriving DecidableEq, Repr

/-- How a body ends. The functions that register tests return the set of the
tests that use the resource; what the others return is not used. -/
inductive Outcome where
  | returned (tests : Option (Finset String))
  | raised (error : Error)

abbrev Body := Prog String String Shelf Fault Outcome

/-- `TEST_RUN_SHELF` -/
def testRunShelf : String := "test_run"

/-- `TEST_RUN_SHELF in filename` -/
def isTestRunShelf (filename : String) : Bool :=
  decide (testRunShelf.toList <:+: filename.toList)

/-- The files that `remove_test_from_all_shared_resources` visits. -/
def isSharedShelf (filename : String) : Bool :=
  !isTestRunShelf filename &&
    !(["-shm", "-wal", "-journal"].any fun suffix => suffix.toList.isSuffixOf filename.toList)

/-! ### Accesses to an open shelf -/

section Access

variable (shelf : String) (handler : Fault → Body)

/-- `shelve.open(shelf_path)`: a missing file is created. -/
def openShelf (next : Body) : Body :=
  .access shelf (fun content => some (content.getD Shelf.empty)) (fun _ => next) handler

/-- `db.get(resource)` -/
def getResource (resource : String) (next : Option (Finset String) → Body) : Body :=
  .access shelf id (fun content => next (content.bind (·.resources.lookup resource))) handler

/-- `db[resource]`, which raises `KeyError` for a missing key. -/
def getItem (resource : String) (next : Finset String → Body) : Body :=
  getResource shelf handler resource fun
    | some tests => next tests
    | none => .ret (.raised (.keyError resource))

/-- `db[resource] = tests` -/
def setItem (resource : String) (tests : Finset String) (next : Body) : Body :=
  .access shelf (Option.map (·.setItem resource tests)) (fun _ => next) handler

/-- `db.keys()` -/
def getKeys (next : List String → Body) : Body :=
  .access shelf id (fun content => next ((content.map (·.resources.keys)).getD [])) handler

end Access

/-! ### The decorated functions -/

/-- `for attempt in tobiko.retry(...)` around a `try` whose handler catches
`dbm.error` and re-raises it in the last attempt. -/
def retryOnDbmError (attempt : (Fault → Body) → Body) : Nat → Body
  | 0 => attempt fun fault => .ret (.raised (.fault fault))
  | attempts + 1 => attempt fun fault =>
      if fault.isDbmError then retryOnDbmError attempt attempts
      else .ret (.raised (.fault fault))

def addmeAttempt (shelf resource testcaseId : String) (handler : Fault → Body) : Body :=
  let store :=
    getItem shelf handler resource fun auxset =>
    setItem shelf handler resource (insert testcaseId auxset) <|
    getItem shelf handler resource fun tests => .ret (.returned (some tests))
  openShelf shelf handler <| getResource shelf handler resource fun
    | none => setItem shelf handler resource ∅ store
    | some _ => store

def addmeToSharedResource (shelf resource testcaseId : String) (attempts : Nat) : Body :=
  retryOnDbmError (addmeAttempt shelf resource testcaseId) attempts

def removemeAttempt (shelf resource testcaseId : String) (handler : Fault → Body) : Body :=
  let answer := getItem shelf handler resource fun tests => .ret (.returned (some tests))
  openShelf shelf handler <|
  getResource shelf handler resource fun registered =>
  setItem shelf handler resource (registered.getD ∅) <|
  getItem shelf handler resource fun tests =>
  if testcaseId ∈ tests then
    getItem shelf handler resource fun auxset =>
    setItem shelf handler resource (auxset.erase testcaseId) answer
  else answer

def removemeFromSharedResource (shelf resource testcaseId : String) (attempts : Nat) : Body :=
  retryOnDbmError (removemeAttempt shelf resource testcaseId) attempts

/-- The loop over `db.keys()`. -/
def removeFromResources (shelf testcaseId : String) (handler : Fault → Body) :
    List String → Body
  | [] => .ret (.returned none)
  | resource :: rest =>
      getItem shelf handler resource fun tests =>
      if testcaseId ∈ tests then
        getItem shelf handler resource fun auxset =>
        setItem shelf handler resource (auxset.erase testcaseId) <|
        removeFromResources shelf testcaseId handler rest
      else removeFromResources shelf testcaseId handler rest

def removeFromShelfAttempt (testcaseId shelf : String) (handler : Fault → Body) : Body :=
  openShelf shelf handler <| getKeys shelf handler fun resources =>
    removeFromResources shelf testcaseId handler resources

/-- `'.'.join(shelf_path.split('.')[:-1])` -/
def stripExtension (shelf : String) : String :=
  ".".intercalate (shelf.splitOn ".").dropLast

/-- A database whose type is unknown is tried again without its extension, also
in the last attempt, after which the retry loop itself raises. The last attempt
swallows any other error. -/
def removeTestFromShelfResources (testcaseId : String) : Nat → String → Body
  | 0, shelf => removeFromShelfAttempt testcaseId shelf fun
      | .dbTypeUndetermined =>
          if '.' ∈ shelf.toList then .ret (.raised .retryTimeLimit) else .ret (.returned none)
      | _ => .ret (.returned none)
  | attempts + 1, shelf => removeFromShelfAttempt testcaseId shelf fun
      | .fileNotFound => .ret (.returned none)
      | .dbTypeUndetermined =>
          if '.' ∈ shelf.toList then
            removeTestFromShelfResources testcaseId attempts (stripExtension shelf)
          else removeTestFromShelfResources testcaseId attempts shelf
      | _ => removeTestFromShelfResources testcaseId attempts shelf

/-- The call of a decorated function inside the body of another one. -/
def synched (lock : String) (body : Body) (next : Outcome → Body) : Body :=
  .acquire lock (body.bind fun outcome => .release lock (next outcome))

/-- The loop over `os.listdir(shelves_dir)`. -/
def removeFromShelves (lock testcaseId : String) (attempts : String → Nat) : List String → Body
  | [] => .ret (.returned none)
  | filename :: rest =>
      synched lock (removeTestFromShelfResources testcaseId (attempts filename) filename) fun
        | .returned _ => removeFromShelves lock testcaseId attempts rest
        | .raised error => .ret (.raised error)

def removeTestFromAllSharedResources (lock testcaseId : String) (attempts : String → Nat) :
    Body :=
  .list isSharedShelf (removeFromShelves lock testcaseId attempts)

/-- The loop over the files to remove. `os.unlink` raises when the file is gone. -/
def unlinkEach (handler : Fault → Body) : List String → Body
  | [] => .ret (.returned none)
  | filename :: rest =>
      .access filename (fun _ => none)
        (fun
          | none => handler .fileNotFound
          | some _ => unlinkEach handler rest)
        handler

def unlinkShelves (handler : Fault → Body) : Body :=
  .list (fun filename => !isTestRunShelf filename) (unlinkEach handler)

/-- The run id is recorded before the first file is removed. -/
def initializeAttempt (testRunUid : Option String) (handler : Fault → Body) : Body :=
  openShelf testRunShelf handler <|
    match testRunUid with
    | none => unlinkShelves handler
    | some uid =>
        .access testRunShelf id
          (fun content =>
            if content.bind (·.testRunUid) = some uid then .ret (.returned none)
            else
              .access testRunShelf (Option.map fun db => { db with testRunUid := some uid })
                (fun _ => unlinkShelves handler) handler)
          handler

def initializeShelves (testRunUid : Option String) (attempts : Nat) : Body :=
  retryOnDbmError (initializeAttempt testRunUid) attempts

/-! ### Calls and their locks -/

/-- A call of a decorated function. The test case id of the first two is the one
of the test case that runs; `attempts` is what the clock allows. -/
inductive Call where
  | addmeToSharedResource (shelf resource testcaseId : String) (attempts : Nat)
  | removemeFromSharedResource (shelf resource testcaseId : String) (attempts : Nat)
  | removeTestFromShelfResources (testcaseId shelf : String) (attempts : Nat)
  | removeTestFromAllSharedResources (testcaseId : String) (attempts : String → Nat)
  | initializeShelves (testRunUid : Option String) (attempts : Nat)

/-- The positional arguments that the wrapper receives. -/
def Call.args : Call → List (Option Object)
  | .addmeToSharedResource shelf resource _ _ => [some (.str shelf), some (.str resource)]
  | .removemeFromSharedResource shelf resource _ _ => [some (.str shelf), some (.str resource)]
  | .removeTestFromShelfResources testcaseId shelf _ =>
      [some (.str testcaseId), some (.str shelf)]
  | .removeTestFromAllSharedResources testcaseId _ => [some (.str testcaseId)]
  | .initializeShelves _ _ => []

/-- The name of the lock file of a call. -/
def Call.lock (call : Call) : String :=
  match call.args with
  | some (.str text) :: _ => "shelves:" ++ text
  | _ => "shelves"

/-- `Call.lock` is what `interworker_synched('shelves')` computes. -/
theorem Call.lock_eq (call : Call) :
    Lockutils.interworkerSynched "shelves" call.args = .ok call.lock := by
  cases call <;> rfl

def Call.body (call : Call) : Body :=
  match call with
  | .addmeToSharedResource shelf resource testcaseId attempts =>
      Shelves.addmeToSharedResource shelf resource testcaseId attempts
  | .removemeFromSharedResource shelf resource testcaseId attempts =>
      Shelves.removemeFromSharedResource shelf resource testcaseId attempts
  | .removeTestFromShelfResources testcaseId shelf attempts =>
      Shelves.removeTestFromShelfResources testcaseId attempts shelf
  | .removeTestFromAllSharedResources testcaseId attempts =>
      Shelves.removeTestFromAllSharedResources call.lock testcaseId attempts
  | .initializeShelves testRunUid attempts => Shelves.initializeShelves testRunUid attempts

/-- The workers of a test run on the shelves directory. -/
def system : System String String Shelf Fault Outcome Call where
  lock := Call.lock
  body := Call.body

abbrev State (Worker : Type) := System.State String String Shelf Fault Outcome Call Worker

end Tobiko.Common.Shelves
