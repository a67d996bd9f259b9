import Tobiko.Foundation.RecordLock
import Mathlib.Logic.Relation

/-!
Contract: the inter-worker lock of `tobiko/common/_lockutils.py` under nested calls.

Owns: the name of an object as `get_object_name` of `tobiko/common/_fixture.py`
computes it, the lock name that `interworker_synched` computes for a call, the
interleaved entries and exits of decorated functions on any number of workers, and
the runs in which the lock of an outermost call keeps excluding the other workers
until that call is over.

`lock` opens the lock file anew for each call and takes a record lock on it, so
the lock belongs to the worker process and is not counted. Intra-process
locking is left out on purpose, to let locked functions be called recurrently;
exclusion then rests on the record lock alone.
-/

namespace Tobiko.Common

/-- What `get_object_name` reads of an object. A string is its own name. Of any
other object it reads the fixture name it was given, if any, and otherwise the
module and the qualified name of the object, or of its type when the object is
neither a function, nor a method, nor a class. -/
inductive Object where
  | str (text : String)
  | other (fixtureName : Option String) (module : Option String) (qualname : Option String)
deriving DecidableEq, Repr

/-- `TypeError("Unable to get fixture name from object ...")`. -/
structure ObjectNameError where
  object : Object
deriving DecidableEq, Repr

def getObjectName : Object → Except ObjectNameError String
  | .str text => .ok text
  | .other (some name) _ _ => .ok name
  | .other none (some module) (some qualname) => .ok (module ++ "." ++ qualname)
  | object => .error ⟨object⟩

namespace Lockutils

open Relation
open Tobiko.Foundation

/-- The name of the lock taken by a call with the given positional arguments of
a function decorated with `interworker_synched(name)`. `None` is a first
argument without a name of its own. -/
def interworkerSynched (name : String) (args : List (Option Object)) :
    Except ObjectNameError String :=
  match args.head? with
  | some (some instance_) => do
      let className ← getObjectName instance_
      return name ++ ":" ++ className
  | _ => .ok name

section Nesting

variable {Worker : Type}

/-- The lock files that are held, and the lock names of the decorated calls that
each worker has open, the innermost one first. -/
structure State (Worker : Type) where
  owner : RecordLock.Table String Worker
  calls : Worker → List String

/-- No call is open and no lock is held. -/
def State.start : State Worker where
  owner := RecordLock.Table.free
  calls := fun _ => []

/-- The worker is inside the body of a call with this lock name. -/
def State.Inside (state : State Worker) (worker : Worker) (lockName : String) : Prop :=
  lockName ∈ state.calls worker

/-- No two workers are inside bodies of calls with one lock name. -/
def State.Excluding (state : State Worker) : Prop :=
  ∀ worker other lockName, worker ≠ other →
    state.Inside worker lockName → ¬ state.Inside other lockName

/-- Every worker holds the lock files of all its open calls. -/
def Held (state : State Worker) : Prop :=
  ∀ worker lockName, state.Inside worker lockName → state.owner lockName = some worker

theorem Held.start : Held (State.start : State Worker) := by
  intro worker lockName inside
  simp [State.Inside, State.start] at inside

theorem Held.excluding {state : State Worker} (held : Held state) : state.Excluding := by
  intro worker other lockName different inside otherInside
  have mine := held worker lockName inside
  rw [held other lockName otherInside] at mine
  exact different (Option.some.inj mine).symm

/-- What a worker does: it calls a decorated function, from inside the calls it
has open or not, or the innermost of its open calls returns or raises. -/
inductive Action where
  | call (name : String) (args : List (Option Object))
  | leave

variable [DecidableEq Worker]

/-- One action of one worker. The wrapper enters the body once the lock file is
granted, and its `finally` clause releases the lock however the body ends. -/
inductive Step (worker : Worker) : Action → State Worker → State Worker → Prop
  | call (state name args lockName) (named : interworkerSynched name args = .ok lockName)
      (granted : state.owner.Grants lockName worker) :
      Step worker (.call name args) state
        { owner := state.owner.acquire lockName worker
          calls := Function.update state.calls worker (lockName :: state.calls worker) }
  | leave (state lockName rest) (innermost : state.calls worker = lockName :: rest) :
      Step worker .leave state
        { owner := state.owner.release lockName worker
          calls := Function.update state.calls worker rest }

/-- The states of all the runs whose steps satisfy `condition`. -/
def Reachable (condition : Worker → Action → State Worker → Prop) (state : State Worker) : Prop :=
  ReflTransGen (fun before after => ∃ worker action,
    condition worker action before ∧ Step worker action before after) State.start state

/-- A call of the worker that ends does not have the lock name of a call that
encloses it. -/
def KeepsLock (worker : Worker) (action : Action) (state : State Worker) : Prop :=
  ∀ lockName rest, action = .leave → state.calls worker = lockName :: rest → lockName ∉ rest

theorem Held.call {worker : Worker} {name : String} {args : List (Option Object)}
    {before after : State Worker} (held : Held before)
    (step : Step worker (.call name args) before after) : Held after := by
  cases step with
  | call _ _ _ lockName named granted =>
      intro other otherName inside
      by_cases same : other = worker
      · subst same
        simp only [State.Inside, Function.update_self, List.mem_cons] at inside
        by_cases entered : otherName = lockName
        · subst entered
          exact RecordLock.Table.acquire_same
        · exact (RecordLock.Table.acquire_other entered).trans
            (held other otherName (inside.resolve_left entered))
      · have open_ : before.Inside other otherName := by
          simpa [State.Inside, same] using inside
        exact RecordLock.Table.acquire_keeps_holder granted (Ne.symm same)
          (held other otherName open_)

theorem Held.leave {worker : Worker} {before after : State Worker} (held : Held before)
    (keeps : KeepsLock worker .leave before) (step : Step worker .leave before after) :
    Held after := by
  cases step with
  | leave _ lockName rest innermost =>
      intro other otherName inside
      by_cases same : other = worker
      · subst same
        simp only [State.Inside, Function.update_self] at inside
        -- the lock that is given up guards none of the calls that stay open
        have different : otherName ≠ lockName := by
          rintro rfl
          exact keeps otherName rest rfl innermost inside
        refine (RecordLock.Table.release_other different).trans (held other otherName ?_)
        rw [State.Inside, innermost]
        exact List.mem_cons_of_mem lockName inside
      · have open_ : before.Inside other otherName := by
          simpa [State.Inside, same] using inside
        exact RecordLock.Table.release_keeps_holder (Ne.symm same) (held other otherName open_)

theorem Held.reachable {state : State Worker} (reachable : Reachable KeepsLock state) :
    Held state := by
  induction reachable with
  | refl => exact Held.start
  | tail _ last inductionHypothesis =>
      obtain ⟨worker, action, keeps, step⟩ := last
      cases action with
      | call name args => exact inductionHypothesis.call step
      | leave => exact inductionHypothesis.leave keeps step

/-- When a call ends whose lock name an enclosing call has too, the lock file
is free although the enclosing call is still open. -/
theorem Held.recurrent_leave {worker : Worker} {before after : State Worker} {lockName : String}
    {rest : List String} (held : Held before) (innermost : before.calls worker = lockName :: rest)
    (enclosing : lockName ∈ rest) (step : Step worker .leave before after) :
    after.Inside worker lockName ∧ after.owner lockName = none := by
  cases step with
  | leave _ name tail top =>
      rw [innermost] at top
      obtain ⟨rfl, rfl⟩ := List.cons.inj top
      have mine : before.owner lockName = some worker := by
        refine held worker lockName ?_
        rw [State.Inside, innermost]
        exact List.mem_cons_self
      exact ⟨by simpa [State.Inside] using enclosing, RecordLock.Table.release_same mine⟩

/-- **Exclusion until the outermost call is over.** It holds in every run in
which no call ends while an enclosing call has its lock name; and the first
call that does lets any other worker in. -/
theorem outermost_call_excludes :
    (∀ state : State Worker, Reachable KeepsLock state → state.Excluding) ∧
    ∀ (before after : State Worker) (worker other : Worker) (name : String)
      (args : List (Option Object)) (lockName : String) (rest : List String),
      Reachable KeepsLock before → before.calls worker = lockName :: rest → lockName ∈ rest →
      Step worker .leave before after → other ≠ worker →
      interworkerSynched name args = .ok lockName →
      ∃ final, Step other (.call name args) after final ∧ ¬ final.Excluding := by
  refine ⟨fun state reachable => (Held.reachable reachable).excluding, ?_⟩
  intro before after worker other name args lockName rest reachable innermost enclosing step
    different named
  obtain ⟨inside, free⟩ :=
    (Held.reachable reachable).recurrent_leave innermost enclosing step
  refine ⟨_, .call after name args lockName named (.inl free), fun excluding => ?_⟩
  refine excluding worker other lockName different.symm ?_ ?_
  · simpa [State.Inside, different.symm] using inside
  · simp [State.Inside]

end Nesting

/-! ### The recurrent call of `remove_test_from_all_shared_resources`

Both that function and the `remove_test_from_shelf_resources` it calls for each
shelf are decorated with `interworker_synched('shelves')` and have the test case
id as their first argument. -/

def removeFromAll (testcaseId : String) : Action :=
  .call "shelves" [some (.str testcaseId)]

def removeFromShelf (testcaseId shelf : String) : Action :=
  .call "shelves" [some (.str testcaseId), some (.str shelf)]

/-- Worker 0 removes a test from all the shelves; when the removal from the
first shelf returns, worker 1 enters the same body. -/
theorem recurrent_removal_admits_other_worker :
    ¬ ∀ state : State Nat, Reachable (fun _ _ _ => True) state → state.Excluding := by
  intro excluding
  let name := "shelves:" ++ "test"
  let outer : State Nat :=
    ⟨RecordLock.Table.free.acquire name 0, Function.update (fun _ => []) 0 [name]⟩
  let nested : State Nat :=
    ⟨outer.owner.acquire name 0, Function.update outer.calls 0 (name :: outer.calls 0)⟩
  let returned : State Nat := ⟨nested.owner.release name 0, Function.update nested.calls 0 [name]⟩
  let entered : State Nat :=
    ⟨returned.owner.acquire name 1, Function.update returned.calls 1 (name :: returned.calls 1)⟩
  have outerHeld : outer.owner name = some 0 := by simp [outer]
  have nestedHeld : nested.owner name = some 0 := by simp [nested]
  have toOuter : Reachable (fun _ _ _ => True) outer :=
    .single ⟨0, removeFromAll "test", trivial, .call _ _ _ name rfl (.inl rfl)⟩
  have toNested : Reachable (fun _ _ _ => True) nested :=
    toOuter.tail ⟨0, removeFromShelf "test" "shelf", trivial,
      .call outer _ _ name rfl (.inr outerHeld)⟩
  have toReturned : Reachable (fun _ _ _ => True) returned :=
    toNested.tail ⟨0, .leave, trivial, .leave nested name [name] (by simp [nested, outer])⟩
  have toEntered : Reachable (fun _ _ _ => True) entered :=
    toReturned.tail ⟨1, removeFromAll "test", trivial,
      .call returned _ _ name rfl (.inl (RecordLock.Table.release_same nestedHeld))⟩
  refine excluding entered toEntered 0 1 name (by decide) ?_ ?_
  · show name ∈ entered.calls 0
    simp [entered, returned]
  · show name ∈ entered.calls 1
    simp [entered]

end Lockutils

end Tobiko.Common
