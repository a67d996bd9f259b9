import Tobiko.Foundation.Effect
import Tobiko.Shell.Sh.Communicate

/-!
Contract: the life of a shell process, `ShellProcessFixture` in `tobiko/shell/sh/_process.py`,
as the `SharedFixture` that it is.

Owns: set up, clean up and termination of the process with every path on which they raise, and
what has been done with each process that was created.

Does not own: the operating system and the SSH server, which answer as they like.

`cleanup_fixture` does nothing in this class, so the flag that tells whether it is still to be
registered is left out. `history` lists what has been done, the last one first.
-/

namespace Tobiko.Shell.Sh.ProcessFixture

open Tobiko.Foundation

inductive ProcessError (Exc : Type) where
  | shellTimeoutExpired
  | shellCommandFailed (exitStatus : Int)
  | shellProcessNotTerminated
  | attributeError
  | raised (exception : Exc)
deriving DecidableEq, Repr

/-- Processes are numbered in the order in which they are created. `exited` and `killed` are the
two ways in which `_terminate` is done with a process. -/
inductive Event where
  | created (number : Nat)
  | opened (name : StreamName) (number : Nat)
  | closed (name : StreamName) (number : Nat)
  | exited (process : Option Nat) (exitStatus : Int)
  | killed (process : Option Nat)
deriving DecidableEq, Repr

/-- The functions that the subclasses define, and those that wait for the process. Those that
raise an `Exc` raise no error of this package. The streams log the errors of their `close`, and
so does `_terminate` those of `kill`. -/
structure Runner (World Exc : Type) where
  setupCommand : Except Exc Unit
  createProcess : Effect (ProcessError Exc) World Unit
  setupStream : StreamName → Effect Exc World Unit
  closeStream : StreamName → Nat → World → World
  wait : Effect (ProcessError Exc) World Unit
  sendAll : Effect (ProcessError Exc) World Unit
  getExitStatus : Option Nat → Effect Exc World (Option Int)
  pollExitStatus : Option Nat → Effect Exc World (Option Int)
  kill : Option Nat → World → World

/-- Which streams the parameters ask for. -/
structure Parameters where
  stdin : Bool
  stdout : Bool
  stderr : Bool
deriving DecidableEq, Repr

/-- `closeRegistered` tells whether `close` is among the cleanups, and `cachedStatus` is
`_exit_status`. -/
structure ShellProcess (World : Type) where
  setupExecuted : Bool
  closeRegistered : Bool
  process : Option Nat
  stream : StreamName → Option Nat
  cachedStatus : Option Int
  created : Nat
  history : List Event
  world : World

variable {World Exc : Type}

/-- `ShellProcessFixture()` -/
def ShellProcess.new (world : World) : ShellProcess World :=
  ⟨false, false, none, fun _ => none, none, 0, [], world⟩

abbrev ProcessEffect (World Exc : Type) := Effect (ProcessError Exc) (ShellProcess World)

/-- What is asked of the environment, which raises errors of its own. -/
def ask {Error Value : Type} (wrap : Error → ProcessError Exc)
    (operation : Effect Error World Value) : ProcessEffect World Exc Value := fun state =>
  (operation state.world).map fun ended =>
    (ended.1.mapError wrap, { state with world := ended.2 })

def ShellProcess.record (event : Event) (state : ShellProcess World) : ShellProcess World :=
  { state with history := event :: state.history }

variable (runner : Runner World Exc)

/-! ### Termination -/

/-- `close_stdin`, `close_stdout` and `close_stderr` -/
def ShellProcess.closeStream (name : StreamName) (state : ShellProcess World) :
    ShellProcess World :=
  match state.stream name with
  | none => state
  | some number =>
      { state.record (.closed name number) with
        world := runner.closeStream name number state.world }

def closeStream (name : StreamName) : ProcessEffect World Exc Unit :=
  Effect.modify (ShellProcess.closeStream runner name)

def wait : ProcessEffect World Exc Unit := ask id runner.wait

def getExitStatus : ProcessEffect World Exc Int := do
  let state ← Effect.get
  let exitStatus ← ask .raised (runner.getExitStatus state.process)
  match exitStatus with
  | none => Effect.raise .shellTimeoutExpired
  | some exitStatus => pure exitStatus

def ShellProcess.kill (state : ShellProcess World) : ShellProcess World :=
  { state with world := runner.kill state.process state.world }

/-- `_terminate` -/
def terminate : ProcessEffect World Exc Unit := do
  closeStream runner .stdout
  closeStream runner .stderr
  let exitStatus ← (getExitStatus runner).attempt
  match exitStatus with
  | .ok exitStatus =>
      Effect.modify fun state => state.record (.exited state.process exitStatus)
  | .error error => do
      Effect.modify fun state => (state.kill runner).record (.killed state.process)
      Effect.raise error

def close : ProcessEffect World Exc Unit := do
  closeStream runner .stdin
  let waited ← (wait runner).attempt
  terminate runner
  Effect.ofExcept waited

/-! ### Clean up -/

/-- The registered cleanups, which are forgotten. -/
def callCleanups : ProcessEffect World Exc Unit := do
  let state ← Effect.get
  Effect.modify fun state => { state with closeRegistered := false }
  if state.closeRegistered then close runner else pure ()

/-- The error of the cleanups, which is raised or left to the caller. -/
def raiseCleanupError (raiseFirst : Bool) (cleaned : Except (ProcessError Exc) Unit) :
    ProcessEffect World Exc Unit :=
  if raiseFirst then Effect.ofExcept cleaned else pure ()

def cleanUp (raiseFirst : Bool) : ProcessEffect World Exc Unit := do
  let cleaned ← (callCleanups runner).attempt
  raiseCleanupError raiseFirst cleaned
  Effect.modify fun state => { state with setupExecuted := false }

/-! ### Set up -/

/-- An exit status of zero is not forgotten. -/
def ShellProcess.forgetStatus (state : ShellProcess World) : ShellProcess World :=
  { state with cachedStatus := if state.cachedStatus = some 0 then some 0 else none }

def ShellProcess.addProcess (state : ShellProcess World) : ShellProcess World :=
  { state.record (.created state.created) with
    process := some state.created
    created := state.created + 1
    closeRegistered := true }

def setupProcess : ProcessEffect World Exc Unit := do
  Effect.modify ShellProcess.forgetStatus
  ask id runner.createProcess
  Effect.modify ShellProcess.addProcess

def ShellProcess.addStream (name : StreamName) (state : ShellProcess World) :
    ShellProcess World :=
  match state.process with
  | none => state
  | some number =>
      { state.record (.opened name number) with
        stream := Function.update state.stream name (some number) }

/-- `setup_stdin`, `setup_stdout` and `setup_stderr`, which the parameters ask for or not. -/
def setupStream (asked : Bool) (name : StreamName) : ProcessEffect World Exc Unit :=
  if asked then do
    ask .raised (runner.setupStream name)
    Effect.modify (ShellProcess.addStream name)
  else pure ()

def setupFixture (parameters : Parameters) : ProcessEffect World Exc Unit := do
  Effect.ofExcept (runner.setupCommand.mapError .raised)
  setupProcess runner
  setupStream runner parameters.stdin .stdin
  setupStream runner parameters.stdout .stdout
  setupStream runner parameters.stderr .stderr

/-- `fixtures.Fixture.setUp` forgets the cleanups first, and cleans up after an error; the first
error is the one that is raised. -/
def setUp (parameters : Parameters) : ProcessEffect World Exc Unit := do
  let state ← Effect.get
  if state.setupExecuted then pure ()
  else do
    Effect.modify fun state => { state with closeRegistered := false }
    let prepared ← (setupFixture runner parameters).attempt
    match prepared with
    | .error error => do
        cleanUp runner false
        Effect.raise error
    | .ok () => Effect.modify fun state => { state with setupExecuted := true }

/-! ### The exit status -/

/-- The property `exit_status` -/
def exitStatus : ProcessEffect World Exc (Option Int) := do
  let state ← Effect.get
  match state.cachedStatus with
  | some exitStatus => pure (some exitStatus)
  | none => do
      let exitStatus ← ask .raised (runner.pollExitStatus state.process)
      Effect.modify fun state => { state with cachedStatus := exitStatus }
      pure exitStatus

/-- The function that tells the time left is nowhere defined. -/
def checkExitStatus (expectedStatus : Int) : ProcessEffect World Exc Unit := do
  let state ← Effect.get
  let exitStatus ← ask .raised (runner.pollExitStatus state.process)
  match exitStatus with
  | none => Effect.raise .attributeError
  | some exitStatus =>
      if expectedStatus ≠ exitStatus then Effect.raise (.shellCommandFailed exitStatus)
      else pure ()

def sendAll : ProcessEffect World Exc Unit := ask id runner.sendAll

end Tobiko.Shell.Sh.ProcessFixture
