import Mathlib.Data.List.Basic
import Tobiko.Common.RetryLimits
import Tobiko.Common.RetryLoop

/-!
Contract: one attempt to create a stack, `try_create_stack` of `HeatStackFixture` in
`tobiko/openstack/heat/_stack.py`.

Owns: the requests to the Heat server with the stack that the fixture keeps, the loops that
wait for a status of the stack and for its deletion, the creation itself, and what is known
of the server's answers when the stack is created and when it is returned.

Does not own: the attempts of `create_stack`, the parameters and resources of the stack, and
the server.
-/

namespace Tobiko.Openstack.Heat.Creation

open Tobiko.Common Tobiko.Common.Time Tobiko.Foundation

/-! ### The server -/

def createInProgress : String := "CREATE_IN_PROGRESS"
def createComplete : String := "CREATE_COMPLETE"
def createFailed : String := "CREATE_FAILED"
def deleteInProgress : String := "DELETE_IN_PROGRESS"
def deleteComplete : String := "DELETE_COMPLETE"
def deleteFailed : String := "DELETE_FAILED"

structure Stack where
  id : String
  status : String
deriving DecidableEq, Repr

/-- A request, with the answer of `stacks.get`, or the begin of the preparations for a new
stack. -/
inductive Event where
  | got (answer : Option Stack)
  | prepares
  | createSent
  | deleteSent (id : String)
deriving DecidableEq, Repr

/-- `raised` is what a request or a hook raises. -/
inductive HeatError where
  | stackNotFound
  | creationFailed (observed : String)
  | deletionFailed (observed : String)
  | invalidStatus (observed : String)
  | assertion
  | attribute
  | failed
  | retryLimit (error : RetryLimitError)
  | brokenRetryLoop
  | raised
deriving DecidableEq

/-- `InvalidFixtureError` -/
def HeatError.isInvalidFixture : HeatError → Bool
  | .creationFailed _ | .deletionFailed _ | .invalidStatus _ => true
  | _ => false

inductive Created where
  | created (id : String)
  | conflict
  | raises

inductive Deleted where
  | deleted
  | notFound
  | raises

/-- The methods that a subclass of the fixture may define. -/
inductive Hook where
  | getStackParameters
  | ensureQuotaLimits
  | prepareExternalResources

/-- The fixture, with its cached stack, the events so far and everything else. -/
structure HeatState (World : Type) where
  stack : Option Stack
  log : List Event
  world : World

/-- What the server, the clock and the hooks of a fixture do. `get` is `none` where it
raises anything but `HTTPNotFound`. A hook asks for the stack a number of times, and may
raise then. -/
structure Environment (World : Type) where
  clock : Clock World
  get : World → Option (Option Stack) × World
  create : World → Created × World
  delete : String → World → Deleted × World
  hook : Hook → World → (Nat × Bool) × World
  stackName : String
  waitTimeout : Option ℚ
  waitInterval : Option ℚ

variable {World : Type} (heat : Environment World)

namespace Environment

def stateClock : Clock (HeatState World) where
  now state := heat.clock.now state.world
  time state := ((heat.clock.time state.world).1,
    { state with world := (heat.clock.time state.world).2 })
  sleep seconds state := { state with world := heat.clock.sleep seconds state.world }
  time_after state := heat.clock.time_after state.world
  time_before state := heat.clock.time_before state.world
  sleep_after seconds state := heat.clock.sleep_after seconds state.world

/-- A request, which changes the world. -/
def ask {Answer : Type} (request : World → Answer × World) :
    Effect HeatError (HeatState World) Answer :=
  Effect.update fun state =>
    ((request state.world).1, { state with world := (request state.world).2 })

def record (event : Event) : Effect HeatError (HeatState World) Unit :=
  Effect.modify fun state => { state with log := state.log ++ [event] }

/-- `get_stack` -/
def getStack : Effect HeatError (HeatState World) (Option Stack) := do
  match ← ask heat.get with
  | none => Effect.raise .raised
  | some answer =>
      Effect.modify fun state => { state with stack := answer, log := state.log ++ [.got answer] }
      pure answer

/-- `delete_stack`, when the cached stack has been dropped. -/
def deleteStack (id : String) : Effect HeatError (HeatState World) Unit := do
  let id := if id = "" then heat.stackName else id
  Effect.modify fun state => { state with stack := none, log := state.log ++ [.deleteSent id] }
  match ← ask (heat.delete id) with
  | .deleted => pure ()
  | .notFound => pure ()
  | .raises => Effect.raise .raised

/-! ### Waiting -/

end Environment

/-- `check_stack_status` -/
def checkStackStatus (stack : Stack) (expected : List String) : Except HeatError String :=
  if stack.status ∈ expected then .ok stack.status
  else if stack.status = createFailed ∧
      (createInProgress ∈ expected ∨ createComplete ∈ expected) then
    .error (.creationFailed stack.status)
  else if stack.status = deleteFailed ∧
      (deleteInProgress ∈ expected ∨ deleteComplete ∈ expected) then
    .error (.deletionFailed stack.status)
  else .error (.invalidStatus stack.status)

/-- `text.endswith(suffix)` -/
def endsWith (text suffix : String) : Bool := suffix.toList.isSuffixOf text.toList

/-- `value or default` -/
def orDefault (value default : Option ℚ) : Option ℚ :=
  match value with
  | none => default
  | some value => if value = 0 then default else some value

def loopErrors : Retry.LoopErrors HeatError := ⟨.retryLimit, .brokenRetryLoop⟩

namespace Environment

def retry (timeout interval : Option ℚ) : Retry :=
  .init none (orDefault timeout heat.waitTimeout) none (orDefault interval heat.waitInterval)

/-- The answer of the server, or the cached stack if there is one. -/
def cachedStack (cached : Bool) : Effect HeatError (HeatState World) (Option Stack) := do
  let state ← Effect.get
  match cached, state.stack with
  | true, some stack => pure (some stack)
  | _, _ => heat.getStack

/-- The body of the loop in `wait_for_stack_status`. -/
def waitBody (expected : List String) (attempt : RetryAttempt) (cached : Bool) :
    Effect HeatError (HeatState World) (Retry.Turn Bool (Option Stack)) := do
  let stack ← heat.cachedStack cached
  let status := (stack.map Stack.status).getD deleteComplete
  if status ∈ expected then pure (.leave stack)
  else if !endsWith status "_IN_PROGRESS" then pure (.leave stack)
  else if attempt.isLast (none : Option HeatError) then pure (.leave stack)
  else pure (.next false)

/-- The check at the end of `wait_for_stack_status`. -/
def checkStack (expected : List String) : Option Stack → Except HeatError Unit
  | none => if deleteComplete ∈ expected then .ok () else .error .stackNotFound
  | some stack => (checkStackStatus stack expected).map fun _ => ()

/-- `wait_for_stack_status`, with loops of at most `turns` turns. -/
def waitForStackStatus (turns : Nat) (expected : List String) (check cached : Bool)
    (timeout interval : Option ℚ) : Effect HeatError (HeatState World) (Option Stack) := do
  let stack ← (heat.retry timeout interval).loop heat.stateClock loopErrors
    (heat.waitBody expected) turns cached
  Effect.ofExcept (if check then checkStack expected stack else .ok ())
  pure stack

/-- `wait_for_delete_complete` -/
def waitForDeleteComplete (turns : Nat) (check cached : Bool) (timeout interval : Option ℚ) :
    Effect HeatError (HeatState World) (Option Stack) :=
  heat.waitForStackStatus turns [deleteComplete] check cached timeout interval

/-- The body of the loop in `wait_until_stack_deleted`. -/
def deletionBody (turns : Nat) (check : Bool) (attempt : RetryAttempt) (cached : Bool) :
    Effect HeatError (HeatState World) (Retry.Turn Bool Unit) := do
  match ← heat.waitForDeleteComplete turns check cached attempt.timeLeft
      (attempt.interval.map (↑)) with
  | none => pure (.leave ())
  | some stack =>
      if stack.status ≠ deleteComplete then Effect.raise (.deletionFailed stack.status)
      else if attempt.isLast (none : Option HeatError) then Effect.raise .failed
      else pure (.next false)

/-- `wait_until_stack_deleted` -/
def waitUntilStackDeleted (turns : Nat) (check cached : Bool) (timeout interval : Option ℚ) :
    Effect HeatError (HeatState World) Unit :=
  (heat.retry timeout interval).loop heat.stateClock loopErrors
    (heat.deletionBody turns check) turns cached

/-- The loops of the fixture are over `retry(timeout=, interval=, default_timeout=,
default_interval=)`. -/
theorem retry_eq (timeout interval : Option ℚ) :
    heat.retry timeout interval =
      Common.retry ⟨none, none, timeout, none, interval, none, heat.waitTimeout, none,
        heat.waitInterval⟩ := by
  have orDefault_eq : ∀ value default, orDefault value default = orOther value default := by
    intro value default
    cases value with
    | none => rfl
    | some value => rfl
  unfold retry
  rw [orDefault_eq, orDefault_eq]
  rfl

/-- When the time of `wait_until_stack_deleted` is over, the wait in the body of its loop is
given all the time of the fixture again. -/
theorem retry_timeLeft {attempt : RetryAttempt} {timeout : ℚ≥0}
    (limited : attempt.timeout = some timeout) (reached : timeout ≤ attempt.elapsedTime)
    (interval : Option ℚ) :
    (heat.retry attempt.timeLeft interval).timeout = toSeconds heat.waitTimeout := by
  have spent : attempt.timeLeft = some 0 :=
    attempt.timeLeft_eq_zero.mpr ⟨timeout, limited, reached⟩
  rw [retry_eq, Common.retry_eq, spent]
  exact congrArg toSeconds ((merged_zero _ _).trans rfl)

/-! ### Creation -/

def expectedCreatedStatus : List String := [createInProgress, createComplete]

/-- `validate_created_stack` -/
def validateCreatedStack (turns : Nat) : Effect HeatError (HeatState World) (Option Stack) :=
  heat.waitForStackStatus turns expectedCreatedStatus true true none none

def polls : Nat → Effect HeatError (HeatState World) Unit
  | 0 => pure ()
  | count + 1 => do
      let _ ← heat.getStack
      polls count

def runHook (hook : Hook) : Effect HeatError (HeatState World) Unit := do
  let (count, fails) ← ask (heat.hook hook)
  heat.polls count
  if fails then Effect.raise .raised else pure ()

def sendCreate : Effect HeatError (HeatState World) Created := do
  record .createSent
  ask heat.create

/-- What `try_create_stack` does with the stack that it has created. -/
def validateNewStack (turns : Nat) (id : String) :
    Effect HeatError (HeatState World) (Option Stack) := do
  match ← (heat.validateCreatedStack turns).attempt with
  | .error error =>
      if error.isInvalidFixture then do
        heat.deleteStack id
        Effect.raise error
      else Effect.raise error
  | .ok none => Effect.raise .attribute
  | .ok (some stack) =>
      if id ≠ stack.id then do
        heat.deleteStack id
        pure (some stack)
      else pure (some stack)

/-- `try_create_stack` from its assertion on. -/
def createNewStack (turns : Nat) : Effect HeatError (HeatState World) (Option Stack) := do
  let state ← Effect.get
  if state.stack ≠ none then Effect.raise .assertion
  else do
    record .prepares
    heat.runHook .getStackParameters
    heat.runHook .ensureQuotaLimits
    heat.runHook .prepareExternalResources
    match ← heat.sendCreate with
    | .raises => Effect.raise .raised
    | .conflict => heat.validateCreatedStack turns
    | .created id => heat.validateNewStack turns id

/-- `try_create_stack` -/
def tryCreateStack (turns : Nat) : Effect HeatError (HeatState World) (Option Stack) := do
  match ← heat.waitForStackStatus turns
      [createComplete, createFailed, createInProgress, deleteComplete, deleteFailed]
      true true none none with
  | none => heat.createNewStack turns
  | some stack =>
      if stack.status ∈ [createInProgress, createComplete] then heat.validateCreatedStack turns
      else do
        if endsWith stack.status "_FAILED" then heat.deleteStack stack.id else pure ()
        heat.waitUntilStackDeleted turns true true none none
        heat.createNewStack turns

end Environment

end Tobiko.Openstack.Heat.Creation
