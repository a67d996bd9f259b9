import Tobiko.Foundation.CallRuns
import Tobiko.Shell.Sh.ProcessDisposal

/-!
Contract: executing a shell process, `execute_process` in `tobiko/shell/sh/_execute.py`.

Owns: the `with` block and the verdict on the process, that no sequence of calls on a fixture
leaves a process behind, and what a verdict tells of the process that it is about.

Does not own: the texts of the streams in the result.
-/

namespace Tobiko.Shell.Sh.ProcessFixture

open Tobiko.Foundation

inductive ShellExecuteStatus where
  | succeeded
  | failed
  | timedout
  | unterminated
deriving DecidableEq, Repr

/-- `ShellExecuteResult`, with the error that is raised with it instead of returning it. -/
structure Execution (Exc : Type) where
  status : Option ShellExecuteStatus
  exitStatus : Option Int
  error : Option (ProcessError Exc)

section Execute

variable {World Exc : Type} (runner : Runner World Exc) (parameters : Parameters)

/-- The `with` block, which sends the data that it is given. -/
def withProcess (sends : Bool) : ProcessEffect World Exc Unit := do
  setUp runner parameters
  let sent ← (if sends then sendAll runner else pure ()).attempt
  cleanUp runner true
  Effect.ofExcept sent

/-- The `else` clause, for a status that is expected. -/
def checkedVerdict (checked : Except (ProcessError Exc) Unit) :
    ProcessEffect World Exc (ShellExecuteStatus × Option (ProcessError Exc)) :=
  match checked with
  | .ok () => pure (.succeeded, none)
  | .error (.shellCommandFailed exitStatus) => pure (.failed, some (.shellCommandFailed exitStatus))
  | .error .shellProcessNotTerminated => pure (.unterminated, none)
  | .error error => Effect.raise error

def verdict (expectExitStatus : Option Int) (ran : Except (ProcessError Exc) Unit) :
    ProcessEffect World Exc (Option ShellExecuteStatus × Option (ProcessError Exc)) :=
  match ran with
  | .error .shellTimeoutExpired =>
      pure (some .timedout, expectExitStatus.map fun _ => .shellTimeoutExpired)
  | .error error => Effect.raise error
  | .ok () =>
      match expectExitStatus with
      | none => pure (none, none)
      | some expected => do
          let checked ← (checkExitStatus runner expected).attempt
          let (status, error) ← checkedVerdict checked
          pure (some status, error)

def executeProcess (sends : Bool) (expectExitStatus : Option Int) :
    ProcessEffect World Exc (Execution Exc) := do
  let ran ← (withProcess runner parameters sends).attempt
  let (status, error) ← verdict runner expectExitStatus ran
  let exitStatus ← exitStatus runner
  pure ⟨status, exitStatus, error⟩

/-- The calls on a fixture. -/
inductive Call where
  | setUp
  | cleanUp (raiseFirst : Bool)
  | execute (sends : Bool) (expectExitStatus : Option Int)
  | exitStatus
  | getExitStatus
  | sendAll
  | wait
  | kill
deriving DecidableEq, Repr

def callEffect : Call → ProcessEffect World Exc Unit
  | .setUp => setUp runner parameters
  | .cleanUp raiseFirst => cleanUp runner raiseFirst
  | .execute sends expectExitStatus => do
      let _ ← executeProcess runner parameters sends expectExitStatus
  | .exitStatus => do
      let _ ← exitStatus runner
  | .getExitStatus => do
      let _ ← getExitStatus runner
  | .sendAll => sendAll runner
  | .wait => wait runner
  | .kill => Effect.modify (ShellProcess.kill runner)

end Execute

/-! ### What is left after the calls -/

section Disposal

variable {World Exc : Type} {runner : Runner World Exc} {parameters : Parameters}

/-- What the exit status and its checks keep, as they change the world and the cached status. -/
theorem exitStatus_ensures {holds : ShellProcess World → Prop}
    (world : ∀ state world, holds state → holds { state with world := world })
    (cached : ∀ state status, holds state → holds { state with cachedStatus := status }) :
    Effect.Ensures holds (exitStatus runner) (fun _ => holds) fun _ => holds := by
  apply Effect.ensures_bind (fun _ => holds) (Effect.ensures_get fun _ known => known)
  intro read
  cases read.cachedStatus with
  | some status => exact Effect.ensures_pure fun _ known => known
  | none =>
      apply Effect.ensures_bind (fun _ => holds) (ask_ensures world)
      intro answer
      apply Effect.ensures_bind (fun _ => holds)
        (Effect.ensures_modify fun state known => cached state answer known)
      exact fun _ => Effect.ensures_pure fun _ known => known

theorem checkExitStatus_ensures {holds : ShellProcess World → Prop}
    (world : ∀ state world, holds state → holds { state with world := world }) (expected : Int) :
    Effect.Ensures holds (checkExitStatus runner expected) (fun _ => holds) fun _ => holds := by
  apply Effect.ensures_bind (fun _ => holds) (Effect.ensures_get fun _ known => known)
  intro read
  apply Effect.ensures_bind (fun _ => holds) (ask_ensures world)
  intro answer
  cases answer with
  | none => exact Effect.ensures_raise fun _ known => known
  | some status =>
      dsimp only
      split
      · exact Effect.ensures_raise fun _ known => known
      · exact Effect.ensures_pure fun _ known => known

theorem idle_world (state : ShellProcess World) (world : World) (known : Idle state) :
    Idle { state with world := world } :=
  ⟨tracked_world world known.toTracked, known.registered⟩

theorem idle_cached (state : ShellProcess World) (status : Option Int) (known : Idle state) :
    Idle { state with cachedStatus := status } :=
  ⟨⟨⟨known.owed.current, known.owed.created, known.owed.ended, known.owed.running,
    known.owed.streams⟩, known.process⟩, known.registered⟩

theorem cleared_world (state : ShellProcess World) (world : World) (known : Cleared state) :
    Cleared { state with world := world } :=
  ⟨owed_world world known.owed, known.registered⟩

theorem cleared_cached (state : ShellProcess World) (status : Option Int) (known : Cleared state) :
    Cleared { state with cachedStatus := status } :=
  ⟨⟨known.owed.current, known.owed.created, known.owed.ended, known.owed.running,
    known.owed.streams⟩, known.registered⟩

theorem sent_ensures {holds : ShellProcess World → Prop}
    (world : ∀ state world, holds state → holds { state with world := world }) (sends : Bool) :
    Effect.Ensures holds (if sends then sendAll runner else pure ()) (fun _ => holds)
      fun _ => holds := by
  split
  · exact ask_ensures world
  · exact Effect.ensures_pure fun _ known => known

/-- The `with` block owes nothing when it is left. -/
theorem withProcess_ensures (sends : Bool) :
    Effect.Ensures (@Idle World) (withProcess runner parameters sends) (fun _ => Cleared)
      fun _ => Cleared := by
  apply Effect.ensures_bind _ (setUp_ensures parameters)
  intro _
  apply Effect.ensures_bind (fun _ => Idle)
  · exact Effect.ensures_attempt_kept (sent_ensures idle_world sends)
  · intro sent
    apply Effect.ensures_bind (fun _ => Cleared)
    · exact (cleanUp_ensures true).mono (fun _ known => known.toTracked) (fun _ _ known => known)
        fun _ _ known => known
    · intro _
      exact Effect.ensures_ofExcept_kept

theorem checkedVerdict_ensures {holds : ShellProcess World → Prop}
    (checked : Except (ProcessError Exc) Unit) :
    Effect.Ensures holds (checkedVerdict checked) (fun _ => holds) fun _ => holds := by
  unfold checkedVerdict
  split
  · exact Effect.ensures_pure fun _ known => known
  · exact Effect.ensures_pure fun _ known => known
  · exact Effect.ensures_pure fun _ known => known
  · exact Effect.ensures_raise fun _ known => known

theorem verdict_ensures {holds : ShellProcess World → Prop}
    (world : ∀ state world, holds state → holds { state with world := world })
    (expectExitStatus : Option Int) (ran : Except (ProcessError Exc) Unit) :
    Effect.Ensures holds (verdict runner expectExitStatus ran) (fun _ => holds)
      fun _ => holds := by
  unfold verdict
  split
  · exact Effect.ensures_pure fun _ known => known
  · exact Effect.ensures_raise fun _ known => known
  · split
    · exact Effect.ensures_pure fun _ known => known
    · rename_i expected
      apply Effect.ensures_bind (fun _ => holds)
      · exact Effect.ensures_attempt_kept (checkExitStatus_ensures world expected)
      · intro checked
        apply Effect.ensures_bind _ (checkedVerdict_ensures checked)
        exact fun _ => Effect.ensures_pure fun _ known => known

theorem executeProcess_ensures (sends : Bool) (expectExitStatus : Option Int) :
    Effect.Ensures (@Idle World) (executeProcess runner parameters sends expectExitStatus)
      (fun _ => Cleared) fun _ => Cleared := by
  apply Effect.ensures_bind (fun _ => Cleared)
  · exact Effect.ensures_attempt_kept (withProcess_ensures sends)
  · intro ran
    apply Effect.ensures_bind _ (verdict_ensures cleared_world expectExitStatus ran)
    intro _
    apply Effect.ensures_bind _ (exitStatus_ensures cleared_world cleared_cached)
    exact fun _ => Effect.ensures_pure fun _ known => known

theorem call_idle (call : Call) :
    Effect.Ensures (@Idle World) (callEffect runner parameters call) (fun _ => Idle)
      fun _ => Idle := by
  cases call with
  | setUp =>
      exact (setUp_ensures parameters).mono (fun _ known => known) (fun _ _ known => known)
        fun _ _ known => known.idle
  | cleanUp raiseFirst =>
      exact (cleanUp_ensures raiseFirst).mono (fun _ known => known.toTracked)
        (fun _ _ known => known.idle) fun _ _ known => known.idle
  | execute sends expectExitStatus =>
      apply Effect.ensures_bind (fun _ => Cleared)
      · exact (executeProcess_ensures sends expectExitStatus).mono (fun _ known => known)
          (fun _ _ known => known) fun _ _ known => known.idle
      · exact fun _ => Effect.ensures_pure fun _ known => known.idle
  | exitStatus =>
      apply Effect.ensures_bind _ (exitStatus_ensures idle_world idle_cached)
      exact fun _ => Effect.ensures_pure fun _ known => known
  | getExitStatus =>
      apply Effect.ensures_bind _ (getExitStatus_ensures idle_world)
      exact fun _ => Effect.ensures_pure fun _ known => known
  | sendAll => exact ask_ensures idle_world
  | wait => exact ask_ensures idle_world
  | kill => exact Effect.ensures_modify fun state known => idle_world state _ known

/-- **No process is left behind.** For every environment and every sequence of calls on a new
fixture, whatever they raise: each process that was created was ended once, its exit status read
or else killed, and its streams were closed, but for the process that is still set up. After
`execute_process` there is no such process, whether it returns or raises. -/
theorem processes_disposed (runner : Runner World Exc) (parameters : Parameters)
    (calls : List Call) (world : World) (state : ShellProcess World)
    (ran : Effect.runCalls (callEffect runner parameters) calls (ShellProcess.new world) =
      some state) :
    (∀ number < state.created, state.pending ≠ some number →
      endings number state.history = 1 ∧ ∀ name, .opened name number ∈ state.history →
        .closed name number ∈ state.history) ∧
    (∀ number, state.pending = some number → number < state.created ∧
      state.setupExecuted = true ∧ endings number state.history = 0) ∧
    ∀ sends expectExitStatus result after,
      executeProcess runner parameters sends expectExitStatus state = some (result, after) →
      ∀ number < after.created, endings number after.history = 1 ∧
        ∀ name, .opened name number ∈ after.history → .closed name number ∈ after.history := by
  have idle : Idle state :=
    Effect.runCalls_kept call_idle calls (ShellProcess.new_idle world) ran
  refine ⟨fun number below other => ⟨idle.owed.ended number below other, fun name opened => ?_⟩,
    fun number pending => ⟨(idle.owed.current number pending).2, ?_,
      idle.owed.running number (.inr pending)⟩,
    fun sends expectExitStatus result after executed number below => ?_⟩
  · exact (idle.owed.streams name number opened).resolve_right fun mine => other mine.1
  · cases registered : state.closeRegistered with
    | true => exact idle.registered registered
    | false => simp [ShellProcess.pending, registered] at pending
  · obtain ⟨returns, raises⟩ :=
      executeProcess_ensures sends expectExitStatus state idle result after executed
    have cleared : Cleared after := by
      cases result with
      | ok execution => exact returns execution rfl
      | error error => exact raises error rfl
    refine ⟨cleared.owed.ended number below (by simp), fun name opened => ?_⟩
    exact (cleared.owed.streams name number opened).resolve_right fun mine => by cases mine.1

end Disposal

/-! ### Processes that exit with their number -/

section Example

/-- Everything works, and the exit status of a process is its number. -/
def countingRunner : Runner Unit Unit where
  setupCommand := .ok ()
  createProcess := pure ()
  setupStream _ := pure ()
  closeStream _ _ world := world
  wait := pure ()
  sendAll := pure ()
  getExitStatus process := pure (process.map Int.ofNat)
  pollExitStatus process := pure (process.map Int.ofNat)
  kill _ world := world

def outputOnly : Parameters := ⟨false, true, true⟩

/-- Two executions, the second of which raises for its exit status, a process that is killed and
then cleaned up, and one that is still set up. -/
def testCalls : List Call :=
  [.execute false (some 0), .execute true (some 0), .setUp, .kill, .cleanUp true, .setUp]

def executedTwice : Option (ShellProcess Unit) :=
  Effect.runCalls (callEffect countingRunner outputOnly) testCalls (ShellProcess.new ())

theorem executedTwice_ended :
    (executedTwice.map fun state => (state.created, state.pending)) = some (4, some 3) := by
  decide +kernel

/-- Each of the first three processes has been ended once, and the last one is set up. -/
theorem processes_disposed_twice :
    ∃ state : ShellProcess Unit, state.created = 4 ∧
      (∀ number < 3, endings number state.history = 1) ∧ state.setupExecuted = true ∧
        endings 3 state.history = 0 := by
  obtain ⟨state, ran, same⟩ := Option.map_eq_some_iff.mp executedTwice_ended
  have created : state.created = 4 := congrArg Prod.fst same
  have pending : state.pending = some 3 := congrArg Prod.snd same
  obtain ⟨ended, current, -⟩ := processes_disposed countingRunner outputOnly testCalls () state ran
  refine ⟨state, created, fun number below => ?_, (current 3 pending).2⟩
  refine (ended number (by omega) ?_).1
  rw [pending]
  exact fun same => absurd (Option.some.inj same) (by omega)

end Example

end Tobiko.Shell.Sh.ProcessFixture
