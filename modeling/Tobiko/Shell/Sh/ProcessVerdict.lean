import Tobiko.Shell.Sh.ExecuteProcess

/-!
Contract: what `execute_process` tells of a process.

Owns: which process an execution is about, what it keeps of the fixture, and what its status and
its exit status say of the process.

A fixture that a clean up has left set up, because it raised, has no process to close: executing
it again runs nothing.
-/

namespace Tobiko.Shell.Sh.ProcessFixture

open Tobiko.Foundation

/-- An exit status that has been waited for is the one that is polled. -/
structure Exits {World Exc : Type} (runner : Runner World Exc) where
  Exited : Nat → Int → World → Prop
  waited : ∀ number exitStatus world later,
    runner.getExitStatus (some number) world = some (.ok (some exitStatus), later) →
    Exited number exitStatus later
  polled : ∀ number exitStatus world answer later, Exited number exitStatus world →
    runner.pollExitStatus (some number) world = some (answer, later) →
    answer = .ok (some exitStatus) ∧ Exited number exitStatus later

section Verdict

variable {World Exc : Type} {runner : Runner World Exc} {parameters : Parameters}

/-- What a clean up does not change. -/
def ShellProcess.identity (state : ShellProcess World) : Option Nat × Nat × Option Int :=
  (state.process, state.created, state.cachedStatus)

def HasIdentity (identity : Option Nat × Nat × Option Int) (state : ShellProcess World) : Prop :=
  state.identity = identity

/-! ### Clean up -/

section CleanUp

variable {identity : Option Nat × Nat × Option Int}

theorem closeStream_identity {name : StreamName} :
    Effect.Ensures (@HasIdentity World identity)
      (closeStream runner name) (fun _ => HasIdentity identity)
      fun _ => HasIdentity identity := by
  apply Effect.ensures_modify
  intro state same
  unfold ShellProcess.closeStream
  split
  · exact same
  · exact same

theorem terminate_identity :
    Effect.Ensures (@HasIdentity World identity)
      (terminate runner) (fun _ => HasIdentity identity)
      fun _ => HasIdentity identity := by
  apply Effect.ensures_bind _ closeStream_identity
  intro _
  apply Effect.ensures_bind _ closeStream_identity
  intro _
  apply Effect.ensures_bind (fun _ => HasIdentity identity)
  · exact Effect.ensures_attempt_kept (getExitStatus_ensures fun _ _ same => same)
  · intro result
    cases result with
    | ok exitStatus => exact Effect.ensures_modify fun _ same => same
    | error error =>
        apply Effect.ensures_bind (fun _ => HasIdentity identity)
        · exact Effect.ensures_modify fun _ same => same
        · exact fun _ => Effect.ensures_raise fun _ same => same

theorem close_identity :
    Effect.Ensures (@HasIdentity World identity)
      (close runner) (fun _ => HasIdentity identity)
      fun _ => HasIdentity identity := by
  apply Effect.ensures_bind _ closeStream_identity
  intro _
  apply Effect.ensures_bind (fun _ => HasIdentity identity)
  · exact Effect.ensures_attempt_kept (ask_ensures fun _ _ same => same)
  · intro _
    apply Effect.ensures_bind _ terminate_identity
    exact fun _ => Effect.ensures_ofExcept_kept

theorem callCleanups_identity :
    Effect.Ensures (@HasIdentity World identity)
      (callCleanups runner) (fun _ => HasIdentity identity)
      fun _ => HasIdentity identity := by
  apply Effect.ensures_bind (fun _ => HasIdentity identity)
    (Effect.ensures_get fun _ same => same)
  intro read
  apply Effect.ensures_bind (fun _ => HasIdentity identity)
  · exact Effect.ensures_modify fun _ same => same
  · intro _
    split
    · exact close_identity
    · exact Effect.ensures_pure fun _ same => same

theorem raiseCleanupError_ensures {holds : ShellProcess World → Prop} (raiseFirst : Bool)
    (cleaned : Except (ProcessError Exc) Unit) :
    Effect.Ensures holds (raiseCleanupError raiseFirst cleaned) (fun _ => holds)
      fun _ => holds := by
  unfold raiseCleanupError
  split
  · exact Effect.ensures_ofExcept_kept
  · exact Effect.ensures_pure fun _ known => known

/-- What holds however the cleanups end holds after the clean up. -/
theorem cleanUp_kept {holds : ShellProcess World → Prop} {before : ShellProcess World → Prop}
    (raiseFirst : Bool)
    (cleaned : Effect.Ensures before (callCleanups runner) (fun _ => holds) fun _ => holds)
    (flag : ∀ state, holds state → holds { state with setupExecuted := false }) :
    Effect.Ensures before (cleanUp runner raiseFirst) (fun _ => holds) fun _ => holds := by
  apply Effect.ensures_bind _ (Effect.ensures_attempt_kept cleaned)
  intro result
  apply Effect.ensures_bind _ (raiseCleanupError_ensures raiseFirst result)
  exact fun _ => Effect.ensures_modify flag

theorem cleanUp_identity (raiseFirst : Bool) :
    Effect.Ensures (@HasIdentity World identity)
      (cleanUp runner raiseFirst) (fun _ => HasIdentity identity)
      fun _ => HasIdentity identity :=
  cleanUp_kept raiseFirst callCleanups_identity fun _ same => same

/-- Without a process to close nothing is done. -/
theorem cleanUp_history {history : List Event} (raiseFirst : Bool) :
    Effect.Ensures
      (fun state : ShellProcess World => state.closeRegistered = false ∧ state.history = history)
      (cleanUp runner raiseFirst) (fun _ state => state.history = history)
      fun _ state => state.history = history := by
  apply cleanUp_kept raiseFirst _ fun _ same => same
  apply Effect.ensures_bind
    (fun read (state : ShellProcess World) => read.closeRegistered = false ∧ state.history = history)
    (Effect.ensures_get fun _ known => known)
  intro read
  apply Effect.ensures_bind
    (fun _ (state : ShellProcess World) => read.closeRegistered = false ∧ state.history = history)
  · exact Effect.ensures_modify fun _ known => known
  · intro _
    split
    · rename_i registered
      intro state known
      rw [known.1] at registered
      cases registered
    · exact Effect.ensures_pure fun _ known => known.2

end CleanUp

/-! ### The process that is waited for -/

section Exited

variable {number : Nat}

/-- The exit status of the process has been read. -/
def Ended (exits : Exits runner) (number : Nat) (exitStatus : Int) (state : ShellProcess World) :
    Prop :=
  state.process = some number ∧ .exited (some number) exitStatus ∈ state.history ∧
    exits.Exited number exitStatus state.world

theorem getExitStatus_exited (exits : Exits runner) :
    Effect.Ensures (fun state : ShellProcess World => state.process = some number)
      (getExitStatus runner)
      (fun exitStatus state => state.process = some number ∧
        exits.Exited number exitStatus state.world) fun _ _ => True := by
  apply Effect.ensures_bind (fun read (state : ShellProcess World) => read.process = some number ∧
    state.process = some number) (Effect.ensures_get fun _ same => ⟨same, same⟩)
  intro read
  apply Effect.ensures_bind (fun answer (state : ShellProcess World) => state.process = some number ∧
    ∀ exitStatus, answer = some exitStatus → exits.Exited number exitStatus state.world)
  · apply ask_answers
    · intro state answer world known answered
      rw [known.1] at answered
      refine ⟨known.2, fun exitStatus same => ?_⟩
      rw [same] at answered
      exact exits.waited number exitStatus _ world answered
    · exact fun _ _ _ _ _ => trivial
  · intro answer
    cases answer with
    | none => exact Effect.ensures_raise fun _ _ => trivial
    | some exitStatus => exact Effect.ensures_pure fun _ known => ⟨known.1, known.2 _ rfl⟩

theorem closeStream_process {name : StreamName} {process : Option Nat}
    {raises : ProcessError Exc → ShellProcess World → Prop} :
    Effect.Ensures (fun state : ShellProcess World => state.process = process)
      (closeStream runner name) (fun _ state => state.process = process) raises := by
  apply Effect.ensures_modify
  intro state same
  unfold ShellProcess.closeStream
  split
  · exact same
  · exact same

/-- When `_terminate` returns it has the exit status. -/
theorem terminate_exited (exits : Exits runner) :
    Effect.Ensures (fun state : ShellProcess World => state.process = some number)
      (terminate runner) (fun _ state => ∃ exitStatus, Ended exits number exitStatus state)
      fun _ _ => True := by
  apply Effect.ensures_bind _ closeStream_process
  intro _
  apply Effect.ensures_bind _ closeStream_process
  intro _
  apply Effect.ensures_bind _ (Effect.ensures_attempt (getExitStatus_exited exits))
  intro result
  cases result with
  | ok exitStatus =>
      apply Effect.ensures_modify
      intro state known
      obtain ⟨mine, exited⟩ := known.1 exitStatus rfl
      refine ⟨exitStatus, mine, ?_, exited⟩
      rw [mine]
      exact List.mem_cons_self
  | error error =>
      apply Effect.ensures_bind (fun _ _ => True)
      · exact Effect.ensures_modify fun _ _ => trivial
      · exact fun _ => Effect.ensures_raise fun _ _ => trivial

theorem close_exited (exits : Exits runner) :
    Effect.Ensures (fun state : ShellProcess World => state.process = some number)
      (close runner) (fun _ state => ∃ exitStatus, Ended exits number exitStatus state)
      fun _ _ => True := by
  apply Effect.ensures_bind _ closeStream_process
  intro _
  apply Effect.ensures_bind (fun _ (state : ShellProcess World) => state.process = some number)
  · exact Effect.ensures_attempt_kept (ask_ensures fun _ _ same => same)
  · intro waited
    apply Effect.ensures_bind _ (terminate_exited exits)
    intro _
    exact (Effect.ensures_ofExcept fun _ _ _ _ => trivial).mono (fun _ known => known)
      (fun _ _ known => known.2) fun _ _ known => known

theorem callCleanups_exited (exits : Exits runner) :
    Effect.Ensures (fun state : ShellProcess World => state.process = some number ∧
        state.closeRegistered = true)
      (callCleanups runner) (fun _ state => ∃ exitStatus, Ended exits number exitStatus state)
      fun _ _ => True := by
  apply Effect.ensures_bind (fun read (state : ShellProcess World) => read.closeRegistered = true ∧
    state.process = some number) (Effect.ensures_get fun _ known => ⟨known.2, known.1⟩)
  intro read
  apply Effect.ensures_bind (fun _ (state : ShellProcess World) => read.closeRegistered = true ∧
    state.process = some number)
  · exact Effect.ensures_modify fun _ known => known
  · intro _
    split
    · exact (close_exited exits).mono (fun _ known => known.2) (fun _ _ known => known)
        fun _ _ known => known
    · rename_i unregistered
      exact fun state known => absurd known.1 unregistered

/-- A clean up that returns has waited for the process that it closes. -/
theorem cleanUp_exited (exits : Exits runner) (number : Nat) :
    Effect.Ensures (fun state : ShellProcess World => state.process = some number ∧
        state.closeRegistered = true)
      (cleanUp runner true) (fun _ state => ∃ exitStatus, Ended exits number exitStatus state)
      fun _ _ => True := by
  apply Effect.ensures_bind _ (Effect.ensures_attempt (callCleanups_exited exits))
  intro cleaned
  apply Effect.ensures_bind (fun _ state => ∃ exitStatus, Ended exits number exitStatus state)
  · cases cleaned with
    | ok value => exact Effect.ensures_pure fun _ known => known.1 value rfl
    | error error => exact Effect.ensures_raise fun _ _ => trivial
  · intro _
    exact Effect.ensures_modify fun _ known => known

end Exited

/-! ### Set up -/

section SetUp

variable {start : ShellProcess World}

/-- The process that an execution is about: the one that is set up, or else a new one. -/
def ShellProcess.subject (start : ShellProcess World) : Option Nat :=
  if start.setupExecuted then start.process else some start.created

/-- The cached exit status with which the execution starts. -/
def ShellProcess.remembered (start : ShellProcess World) : Option Int :=
  if start.setupExecuted then start.cachedStatus else start.forgetStatus.cachedStatus

/-- The number of processes that the execution leaves created. -/
def ShellProcess.total (start : ShellProcess World) : Nat :=
  if start.setupExecuted then start.created else start.created + 1

def ShellProcess.enteredIdentity (start : ShellProcess World) : Option Nat × Nat × Option Int :=
  (start.subject, start.total, start.remembered)

/-- There is a process to close once the fixture is set up. -/
def ShellProcess.Ready (start : ShellProcess World) : Prop :=
  start.setupExecuted = true → start.closeRegistered = true

/-- A set up that returns has left a fixture with the process that the execution is about. -/
structure Entered (start state : ShellProcess World) : Prop where
  identity : HasIdentity start.enteredIdentity state
  registered : start.Ready → state.closeRegistered = true
  unchanged : ¬ start.Ready → state.closeRegistered = false ∧ state.history = start.history

/-- However an execution ends it has created one process at most, and done nothing if the fixture
was left set up without a process. -/
structure Bounded (start state : ShellProcess World) : Prop where
  created : state.created ≤ start.total
  unchanged : ¬ start.Ready → state.history = start.history

theorem ready_of_not_setUp (notSetUp : ¬ start.setupExecuted = true) : start.Ready :=
  fun executed => absurd executed notSetUp

theorem Bounded.of_ready {state : ShellProcess World} (ready : start.Ready)
    (created : state.created ≤ start.total) : Bounded start state :=
  ⟨created, fun unready => absurd ready unready⟩

theorem HasIdentity.total {state : ShellProcess World}
    (same : HasIdentity start.enteredIdentity state) : state.created = start.total :=
  congrArg (fun identity : Option Nat × Nat × Option Int => identity.2.1) same

/-- A new process, of a fixture that was not set up. -/
def Fresh (start state : ShellProcess World) : Prop :=
  HasIdentity start.enteredIdentity state ∧ state.closeRegistered = true

theorem setupProcess_fresh (notSetUp : ¬ start.setupExecuted = true) :
    Effect.Ensures (HasIdentity start.identity) (setupProcess runner)
      (fun _ => Fresh start) fun _ => Bounded start := by
  have total : start.total = start.created + 1 := by simp [ShellProcess.total, notSetUp]
  have subject : start.subject = some start.created := by simp [ShellProcess.subject, notSetUp]
  have remembered : start.remembered = start.forgetStatus.cachedStatus := by
    simp [ShellProcess.remembered, notSetUp]
  apply Effect.ensures_bind (fun _ (state : ShellProcess World) =>
    state.created = start.created ∧ state.cachedStatus = start.forgetStatus.cachedStatus)
  · apply Effect.ensures_modify
    intro state same
    have fields : (state.process, state.created, state.cachedStatus) =
        (start.process, start.created, start.cachedStatus) := same
    simp only [Prod.mk.injEq] at fields
    simp [ShellProcess.forgetStatus, fields]
  · intro _
    apply Effect.ensures_bind (fun _ (state : ShellProcess World) =>
      state.created = start.created ∧ state.cachedStatus = start.forgetStatus.cachedStatus)
    · exact (ask_ensures fun _ _ known => known).mono (fun _ known => known)
        (fun _ _ known => known) fun _ state known => by
          have same : state.created = start.created := known.1
          exact .of_ready (ready_of_not_setUp notSetUp) (by omega)
    · intro _
      apply Effect.ensures_modify
      intro state known
      refine ⟨?_, rfl⟩
      simp [HasIdentity, ShellProcess.identity, ShellProcess.enteredIdentity,
        ShellProcess.addProcess, ShellProcess.record, total, subject, remembered, known]

theorem setupStream_fresh (asked : Bool) (name : StreamName) :
    Effect.Ensures (Fresh start) (setupStream runner asked name) (fun _ => Fresh start)
      fun _ => Fresh start := by
  unfold setupStream
  split
  · apply Effect.ensures_bind (fun _ => Fresh start)
    · exact ask_ensures fun _ _ known => known
    · intro _
      apply Effect.ensures_modify
      intro state known
      unfold ShellProcess.addStream
      split
      · exact known
      · exact known
  · exact Effect.ensures_pure fun _ known => known

theorem setupFixture_fresh (notSetUp : ¬ start.setupExecuted = true) :
    Effect.Ensures (HasIdentity start.identity) (setupFixture runner parameters)
      (fun _ => Fresh start) fun _ => Bounded start := by
  have stream : ∀ asked name, Effect.Ensures (Fresh start) (setupStream runner asked name)
      (fun _ => Fresh start) fun _ => Bounded start := fun asked name =>
    (setupStream_fresh asked name).mono (fun _ known => known) (fun _ _ known => known)
      fun _ _ known => .of_ready (ready_of_not_setUp notSetUp) (Nat.le_of_eq known.1.total)
  apply Effect.ensures_bind (fun _ => HasIdentity start.identity)
  · exact Effect.ensures_ofExcept_kept.mono (fun _ known => known) (fun _ _ known => known)
      fun _ state known => by
        have created : state.created = start.created :=
          congrArg (fun identity => identity.2.1) known
        apply Bounded.of_ready (ready_of_not_setUp notSetUp)
        unfold ShellProcess.total
        split
        · omega
        · omega
  · intro _
    apply Effect.ensures_bind _ (setupProcess_fresh notSetUp)
    intro _
    apply Effect.ensures_bind _ (stream _ _)
    intro _
    apply Effect.ensures_bind _ (stream _ _)
    exact fun _ => stream _ _

theorem cleanUp_created {total : Nat} (raiseFirst : Bool) :
    Effect.Ensures (fun state : ShellProcess World => state.created ≤ total)
      (cleanUp runner raiseFirst) (fun _ state => state.created ≤ total)
      fun _ state => state.created ≤ total := by
  have keeps : ∀ state after : ShellProcess World, state.created ≤ total →
      HasIdentity state.identity after → after.created ≤ total := by
    intro state after known same
    have created : after.created = state.created := congrArg (fun identity => identity.2.1) same
    omega
  intro state known result after ended
  obtain ⟨returned, raised⟩ := cleanUp_identity raiseFirst state rfl result after ended
  exact ⟨fun value same => keeps state after known (returned value same),
    fun error same => keeps state after known (raised error same)⟩

/-- The process of a set up, which is that of an earlier one unless the fixture is not set up. -/
theorem setUp_entered :
    Effect.Ensures (fun state => state = start) (setUp runner parameters)
      (fun _ => Entered start) fun _ => Bounded start := by
  apply Effect.ensures_bind (fun read (state : ShellProcess World) => read = start ∧ state = start)
    (Effect.ensures_get fun _ same => ⟨same, same⟩)
  intro read
  by_cases executed : start.setupExecuted = true
  · split
    · apply Effect.ensures_pure
      rintro state ⟨-, rfl⟩
      refine ⟨?_, fun ready => ready executed, fun unready => ⟨?_, rfl⟩⟩
      · simp [HasIdentity, ShellProcess.identity, ShellProcess.enteredIdentity,
          ShellProcess.subject, ShellProcess.total, ShellProcess.remembered, executed]
      · cases registered : state.closeRegistered with
        | true => exact absurd (fun _ => registered) unready
        | false => rfl
    · rename_i notExecuted
      rintro state ⟨rfl, rfl⟩
      exact absurd executed notExecuted
  · split
    · rename_i alreadyExecuted
      rintro state ⟨rfl, rfl⟩
      exact absurd alreadyExecuted executed
    · apply Effect.ensures_bind (fun _ => HasIdentity start.identity)
      · apply Effect.ensures_modify
        rintro state ⟨-, rfl⟩
        rfl
      · intro _
        apply Effect.ensures_bind _ (Effect.ensures_attempt (setupFixture_fresh executed))
        intro prepared
        cases prepared with
        | error error =>
            apply Effect.ensures_bind (fun _ => Bounded start)
            · exact (cleanUp_created false).mono (fun _ known => (known.2 error rfl).created)
                (fun _ _ known => .of_ready (ready_of_not_setUp executed) known)
                fun _ _ known => .of_ready (ready_of_not_setUp executed) known
            · exact fun _ => Effect.ensures_raise fun _ known => known
        | ok value =>
            apply Effect.ensures_modify
            intro state known
            obtain ⟨same, registered⟩ := known.1 value rfl
            exact ⟨same, fun _ => registered,
              fun unready => absurd (ready_of_not_setUp executed) unready⟩

end SetUp

/-! ### The verdict -/

section Told

variable {start : ShellProcess World} {exits : Exits runner}

/-- What the `with` block leaves when it is not raised. -/
structure Left (exits : Exits runner) (start state : ShellProcess World) : Prop where
  identity : HasIdentity start.enteredIdentity state
  ended : start.Ready → ∃ number exitStatus, start.subject = some number ∧
    Ended exits number exitStatus state
  unchanged : ¬ start.Ready → state.history = start.history

theorem Left.bounded {state : ShellProcess World} (left : Left exits start state) :
    Bounded start state :=
  ⟨Nat.le_of_eq left.identity.total, left.unchanged⟩

theorem subject_of_ready (idle : Idle start) (ready : start.Ready) :
    ∃ number, start.subject = some number := by
  unfold ShellProcess.subject
  split
  · rename_i executed
    exact Option.ne_none_iff_exists'.mp (idle.process (ready executed))
  · exact ⟨_, rfl⟩

theorem cleanUp_left (exits : Exits runner) (idle : Idle start) :
    Effect.Ensures (Entered start) (cleanUp runner true) (fun _ => Left exits start)
      fun _ => Bounded start := by
  have same : Effect.Ensures (HasIdentity start.enteredIdentity) (cleanUp runner true)
      (fun _ => HasIdentity start.enteredIdentity) fun _ => HasIdentity start.enteredIdentity :=
    cleanUp_identity true
  by_cases ready : start.Ready
  · obtain ⟨number, subject⟩ := subject_of_ready idle ready
    refine (same.and (cleanUp_exited exits number)).mono (fun state known => ?_)
      (fun _ state known => ?_) fun _ _ known => .of_ready ready (Nat.le_of_eq known.1.total)
    · have process : state.process = start.subject :=
        congrArg (fun identity : Option Nat × Nat × Option Int => identity.1) known.identity
      exact ⟨known.identity, process.trans subject, known.registered ready⟩
    · obtain ⟨identity, exitStatus, ended⟩ := known
      exact ⟨identity, fun _ => ⟨number, exitStatus, subject, ended⟩,
        fun unready => absurd ready unready⟩
  · refine (same.and (cleanUp_history true)).mono
      (fun state known => ⟨known.identity, known.unchanged ready⟩) (fun _ state known => ?_)
      fun _ _ known => ⟨Nat.le_of_eq known.1.total, fun _ => known.2⟩
    exact ⟨known.1, fun isReady => absurd isReady ready, fun _ => known.2⟩

theorem entered_world (state : ShellProcess World) (world : World) (known : Entered start state) :
    Entered start { state with world := world } :=
  ⟨known.identity, known.registered, known.unchanged⟩

/-- What the `with` block leaves. -/
theorem withProcess_left (exits : Exits runner) (idle : Idle start) (sends : Bool) :
    Effect.Ensures (fun state => state = start) (withProcess runner parameters sends)
      (fun _ => Left exits start) fun _ => Bounded start := by
  apply Effect.ensures_bind _ setUp_entered
  intro _
  apply Effect.ensures_bind (fun _ => Entered start)
  · exact Effect.ensures_attempt_kept (sent_ensures entered_world sends)
  · intro sent
    apply Effect.ensures_bind _ (cleanUp_left exits idle)
    intro _
    exact Effect.ensures_ofExcept_kept.mono (fun _ known => known) (fun _ _ known => known)
      fun _ _ known => known.bounded

theorem bounded_world (state : ShellProcess World) (world : World) (known : Bounded start state) :
    Bounded start { state with world := world } :=
  ⟨known.created, known.unchanged⟩

theorem bounded_cached (state : ShellProcess World) (status : Option Int)
    (known : Bounded start state) : Bounded start { state with cachedStatus := status } :=
  ⟨known.created, known.unchanged⟩

/-- However it ends. -/
theorem executeProcess_bounded (exits : Exits runner) (idle : Idle start) (sends : Bool)
    (expectExitStatus : Option Int) :
    Effect.Ensures (fun state => state = start)
      (executeProcess runner parameters sends expectExitStatus) (fun _ => Bounded start)
      fun _ => Bounded start := by
  apply Effect.ensures_bind (fun _ => Bounded start)
  · exact Effect.ensures_attempt_kept ((withProcess_left exits idle sends).mono
      (fun _ known => known) (fun _ _ known => known.bounded) fun _ _ known => known)
  · intro ran
    apply Effect.ensures_bind _ (verdict_ensures bounded_world expectExitStatus ran)
    intro _
    apply Effect.ensures_bind _ (exitStatus_ensures bounded_world bounded_cached)
    exact fun _ => Effect.ensures_pure fun _ known => known

/-! What the verdict says whatever the environment does. -/

/-- A status that is missing was not asked for, and only an expected one makes a time out raise. -/
structure Consistent (expectExitStatus : Option Int) (status : Option ShellExecuteStatus)
    (error : Option (ProcessError Exc)) : Prop where
  terminated : status ≠ some .unterminated
  unchecked : status = none → expectExitStatus = none ∧ error = none
  timedout : status = some .timedout →
    error = expectExitStatus.map fun _ => .shellTimeoutExpired

/-- The error that reports a running process is never raised. -/
theorem checkExitStatus_raises (expected : Int) :
    Effect.Ensures (fun _ : ShellProcess World => True) (checkExitStatus runner expected)
      (fun _ _ => True) fun error _ => error ≠ .shellProcessNotTerminated := by
  apply Effect.ensures_bind (fun _ _ => True) (Effect.ensures_get fun _ _ => trivial)
  intro read
  apply Effect.ensures_bind (fun _ _ => True)
  · exact ask_answers (fun _ _ _ _ _ => trivial) (fun _ error _ _ _ => by simp)
  · intro answer
    cases answer with
    | none => exact Effect.ensures_raise fun _ _ => by simp
    | some status =>
        dsimp only
        split
        · exact Effect.ensures_raise fun _ _ => by simp
        · exact Effect.ensures_pure fun _ _ => trivial

/-- What the check of an exit status makes of the verdict. -/
structure Checked (checked : Except (ProcessError Exc) Unit)
    (told : ShellExecuteStatus × Option (ProcessError Exc)) : Prop where
  terminated : told.1 ≠ .unterminated
  untimed : told.1 ≠ .timedout
  succeeded : told.1 = .succeeded → checked = .ok () ∧ told.2 = none
  failed : told.1 = .failed → ∃ exitStatus, checked = .error (.shellCommandFailed exitStatus) ∧
    told.2 = some (.shellCommandFailed exitStatus)

theorem checkedVerdict_told {holds : ShellProcess World → Prop}
    {checked : Except (ProcessError Exc) Unit}
    (terminated : ∀ error, checked = .error error → error ≠ .shellProcessNotTerminated) :
    Effect.Ensures holds (checkedVerdict checked)
      (fun told state => Checked checked told ∧ holds state) fun _ => holds := by
  unfold checkedVerdict
  split
  · exact Effect.ensures_pure fun _ known => ⟨⟨by simp, by simp, by simp, by simp⟩, known⟩
  · exact Effect.ensures_pure fun _ known => ⟨⟨by simp, by simp, by simp, by simp⟩, known⟩
  · exact absurd rfl (terminated _ rfl)
  · exact Effect.ensures_raise fun _ known => known

theorem verdict_consistent (expectExitStatus : Option Int)
    (ran : Except (ProcessError Exc) Unit) :
    Effect.Ensures (fun _ : ShellProcess World => True) (verdict runner expectExitStatus ran)
      (fun told _ => Consistent expectExitStatus told.1 told.2 ∧
        (told.1 ≠ some .timedout → ran = .ok ())) fun _ _ => True := by
  unfold verdict
  split
  · exact Effect.ensures_pure fun _ _ => ⟨⟨by simp, by simp, by simp⟩, by simp⟩
  · exact Effect.ensures_raise fun _ _ => trivial
  · split
    · exact Effect.ensures_pure fun _ _ => ⟨⟨by simp, by simp, by simp⟩, fun _ => rfl⟩
    · rename_i expected
      apply Effect.ensures_bind _ (Effect.ensures_attempt (checkExitStatus_raises expected))
      intro checked
      apply Effect.ensures_of fun _ known => known.2
      intro terminated
      apply Effect.ensures_bind (fun told (_ : ShellProcess World) => Checked checked told)
      · exact (checkedVerdict_told terminated).mono (fun _ known => known)
          (fun _ _ known => known.1) fun _ _ _ => trivial
      · intro told
        apply Effect.ensures_pure
        intro _ checks
        exact ⟨⟨fun same => checks.terminated (Option.some.inj same), by simp,
          fun same => absurd (Option.some.inj same) checks.untimed⟩, fun _ => rfl⟩

/-! What the verdict says of a process whose exit status has been read. -/

/-- The process of the execution has been waited for. -/
def Finished (exits : Exits runner) (start : ShellProcess World) (number : Nat) (exitStatus : Int)
    (state : ShellProcess World) : Prop :=
  HasIdentity start.enteredIdentity state ∧ Ended exits number exitStatus state

variable {number : Nat} {code : Int}

theorem poll_finished :
    Effect.Ensures (Finished exits start number code)
      (ask .raised (runner.pollExitStatus (some number)))
      (fun answer state => answer = some code ∧
        Finished exits start number code state) fun _ _ => False := by
  apply ask_answers
  · intro state answer world known answered
    obtain ⟨same, exited⟩ := exits.polled number code _ _ world known.2.2.2 answered
    exact ⟨Except.ok.inj same, known.1, known.2.1, known.2.2.1, exited⟩
  · intro state error world known answered
    obtain ⟨same, -⟩ := exits.polled number code _ _ world known.2.2.2 answered
    cases same

theorem checkExitStatus_finished (expected : Int) :
    Effect.Ensures (Finished exits start number code) (checkExitStatus runner expected)
      (fun _ state => expected = code ∧ Finished exits start number code state)
      (fun error state => (error = .shellCommandFailed code ∧ expected ≠ code) ∧
        Finished exits start number code state) := by
  apply Effect.ensures_bind (fun read (state : ShellProcess World) =>
    read.process = some number ∧ Finished exits start number code state)
  · exact Effect.ensures_get fun _ known => ⟨known.2.1, known⟩
  · intro read
    apply Effect.ensures_of fun _ known => known.1
    intro process
    rw [process]
    apply Effect.ensures_bind (fun answer state => answer = some code ∧
      Finished exits start number code state)
    · exact poll_finished.mono (fun _ known => known.2) (fun _ _ known => known)
        fun _ _ impossible => impossible.elim
    · intro answer
      apply Effect.ensures_of fun _ known => known.1
      intro same
      rw [same]
      dsimp only
      split
      · rename_i different
        exact Effect.ensures_raise fun _ known => ⟨⟨rfl, different⟩, known.2⟩
      · rename_i equal
        exact Effect.ensures_pure fun _ known => ⟨not_not.mp equal, known.2⟩

/-- The exit status in the result is the cached one, if there is one. -/
theorem exitStatus_finished :
    Effect.Ensures (Finished exits start number code) (exitStatus runner)
      (fun answer state => answer = some (start.remembered.getD code) ∧
        Ended exits number code state) fun _ _ => False := by
  apply Effect.ensures_bind (fun read (state : ShellProcess World) =>
    (read.process = some number ∧ read.cachedStatus = start.remembered) ∧
      Finished exits start number code state)
  · apply Effect.ensures_get
    intro state known
    have cached : state.cachedStatus = start.remembered :=
      congrArg (fun identity : Option Nat × Nat × Option Int => identity.2.2) known.1
    exact ⟨⟨known.2.1, cached⟩, known⟩
  · intro read
    apply Effect.ensures_of fun _ known => known.1
    rintro ⟨process, cached⟩
    rw [process, cached]
    cases remembered : start.remembered with
    | some status => exact Effect.ensures_pure fun _ known => ⟨rfl, known.2.2⟩
    | none =>
        apply Effect.ensures_bind (fun answer state => answer = some code ∧
          Finished exits start number code state)
        · exact poll_finished.mono (fun _ known => known.2) (fun _ _ known => known)
            fun _ _ impossible => impossible
        · intro answer
          apply Effect.ensures_bind (fun _ state => answer = some code ∧
            Ended exits number code state)
          · exact Effect.ensures_modify fun _ known => ⟨known.1, known.2.2⟩
          · exact fun _ => Effect.ensures_pure fun _ known => known

/-- What a verdict says of a process that has ended. -/
structure Told (expectExitStatus : Option Int) (code : Int)
    (status : Option ShellExecuteStatus) (error : Option (ProcessError Exc)) : Prop where
  succeeded : status = some .succeeded → expectExitStatus = some code ∧ error = none
  failed : status = some .failed → error = some (.shellCommandFailed code) ∧
    ∃ expected, expectExitStatus = some expected ∧ expected ≠ code

theorem Checked.told {checked : Except (ProcessError Exc) Unit} {expected : Int}
    {told : ShellExecuteStatus × Option (ProcessError Exc)} (checks : Checked checked told)
    (agrees : checked = .ok () ∧ expected = code ∨
      checked = .error (.shellCommandFailed code) ∧ expected ≠ code) :
    Told (some expected) code (some told.1) told.2 := by
  refine ⟨fun succeeded => ?_, fun failed => ?_⟩
  · obtain ⟨passed, noError⟩ := checks.succeeded (Option.some.inj succeeded)
    rcases agrees with ⟨_, same⟩ | ⟨raised, _⟩
    · exact ⟨congrArg some same, noError⟩
    · rw [passed] at raised
      cases raised
  · obtain ⟨exitStatus, raised, told⟩ := checks.failed (Option.some.inj failed)
    rcases agrees with ⟨passed, _⟩ | ⟨same, different⟩
    · rw [passed] at raised
      cases raised
    · rw [same] at raised
      cases raised
      exact ⟨told, expected, rfl, different⟩

theorem verdict_finished (expectExitStatus : Option Int) :
    Effect.Ensures (Finished exits start number code)
      (verdict runner expectExitStatus (.ok ()))
      (fun told state => Told expectExitStatus code told.1 told.2 ∧
        Finished exits start number code state)
      fun _ => Finished exits start number code := by
  unfold verdict
  cases expectExitStatus with
  | none => exact Effect.ensures_pure fun _ known => ⟨⟨by simp, by simp⟩, known⟩
  | some expected =>
      apply Effect.ensures_bind (fun checked state => (checked = .ok () ∧ expected = code ∨
        checked = .error (.shellCommandFailed code) ∧ expected ≠ code) ∧
          Finished exits start number code state)
      · refine (Effect.ensures_attempt (checkExitStatus_finished expected)).mono
          (fun _ known => known) (fun checked state known => ?_) fun _ _ impossible => impossible
        cases checked with
        | ok value => exact ⟨.inl ⟨rfl, (known.1 value rfl).1⟩, (known.1 value rfl).2⟩
        | error error =>
            obtain ⟨⟨rfl, different⟩, finished⟩ := known.2 error rfl
            exact ⟨.inr ⟨rfl, different⟩, finished⟩
      · intro checked
        apply Effect.ensures_of fun _ known => known.1
        intro agrees
        have terminated : ∀ error, checked = .error error →
            error ≠ .shellProcessNotTerminated := by
          intro error raised
          rcases agrees with ⟨passed, _⟩ | ⟨failed, _⟩
          · rw [passed] at raised
            cases raised
          · rw [failed] at raised
            cases raised
            simp
        apply Effect.ensures_bind _ ((checkedVerdict_told terminated).mono
          (fun _ known => known.2) (fun _ _ known => known) fun _ _ known => known)
        intro told
        exact Effect.ensures_pure fun _ known => ⟨known.1.told agrees, known.2⟩

/-- What an execution that returns says. -/
structure Reported (exits : Exits runner) (start : ShellProcess World)
    (expectExitStatus : Option Int) (execution : Execution Exc) (after : ShellProcess World) :
    Prop where
  consistent : Consistent expectExitStatus execution.status execution.error
  finished : start.Ready → execution.status ≠ some .timedout → ∃ number code,
    start.subject = some number ∧ Ended exits number code after ∧
      Told expectExitStatus code execution.status execution.error ∧
      execution.exitStatus = some (start.remembered.getD code)

/-- The verdict, and the process that it is about unless it reports a time out. -/
def Judged (exits : Exits runner) (start : ShellProcess World) (expectExitStatus : Option Int)
    (told : Option ShellExecuteStatus × Option (ProcessError Exc)) (state : ShellProcess World) :
    Prop :=
  Consistent expectExitStatus told.1 told.2 ∧
    (start.Ready → told.1 ≠ some .timedout → ∃ number code, start.subject = some number ∧
      Told expectExitStatus code told.1 told.2 ∧ Finished exits start number code state)

theorem verdict_judged (expectExitStatus : Option Int) (ran : Except (ProcessError Exc) Unit) :
    Effect.Ensures (fun state => ran = .ok () → Left exits start state)
      (verdict runner expectExitStatus ran) (Judged exits start expectExitStatus)
      fun _ _ => True := by
  have consistent : Effect.Ensures (fun _ => True) (verdict runner expectExitStatus ran)
      (fun told _ => Consistent expectExitStatus told.1 told.2 ∧
        (told.1 ≠ some .timedout → ran = .ok ())) fun _ _ => True :=
    verdict_consistent expectExitStatus ran
  cases ran with
  | error error =>
      refine consistent.mono (fun _ _ => trivial) (fun told _ known => ?_) fun _ _ _ => trivial
      refine ⟨known.1, fun _ untimed => ?_⟩
      cases known.2 untimed
  | ok value =>
      by_cases ready : start.Ready
      · intro state known
        obtain ⟨number, code, subject, ended⟩ := (known rfl).ended ready
        have judged : Effect.Ensures (Finished exits start number code)
            (verdict runner expectExitStatus (.ok ())) (Judged exits start expectExitStatus)
            fun _ _ => True :=
          (consistent.and (verdict_finished expectExitStatus)).mono (fun _ known => ⟨trivial, known⟩)
            (fun _ _ known => ⟨known.1.1, fun _ _ => ⟨number, code, subject, known.2⟩⟩)
            fun _ _ _ => trivial
        exact judged state ⟨(known rfl).identity, ended⟩
      · exact consistent.mono (fun _ _ => trivial)
          (fun _ _ known => ⟨known.1, fun isReady => absurd isReady ready⟩) fun _ _ _ => trivial

theorem executeProcess_reported (exits : Exits runner) (idle : Idle start) (sends : Bool)
    (expectExitStatus : Option Int) :
    Effect.Ensures (fun state => state = start)
      (executeProcess runner parameters sends expectExitStatus)
      (Reported exits start expectExitStatus) fun _ _ => True := by
  apply Effect.ensures_bind (fun ran state => ran = .ok () → Left exits start state)
  · exact (Effect.ensures_attempt (withProcess_left exits idle sends)).mono (fun _ known => known)
      (fun ran _ known same => known.1 () same) fun _ _ impossible => impossible
  · intro ran
    apply Effect.ensures_bind _ (verdict_judged expectExitStatus ran)
    rintro ⟨status, error⟩ state ⟨consistent, finished⟩
    by_cases about : start.Ready ∧ status ≠ some .timedout
    · obtain ⟨number, code, subject, told, ended⟩ := finished about.1 about.2
      refine Effect.ensures_bind _ (exitStatus_finished.mono (fun _ known => known)
        (fun _ _ known => known) fun _ _ impossible => impossible.elim) (fun answer => ?_)
        state ended
      apply Effect.ensures_pure
      intro after known
      exact ⟨consistent, fun _ _ => ⟨number, code, subject, known.2, told, known.1⟩⟩
    · refine Effect.ensures_bind (fun _ _ => True) ((exitStatus_ensures (fun _ _ known => known)
        fun _ _ known => known).mono (fun _ known => known) (fun _ _ known => known)
        fun _ _ known => known) (fun answer => ?_) state trivial
      apply Effect.ensures_pure
      exact fun after _ => ⟨consistent, fun ready untimed => absurd ⟨ready, untimed⟩ about⟩

/-- **What an execution reports is what became of its process.** After any sequence of calls on a
fixture an execution creates one process at most, and does nothing to any process if a clean up
that raised has left the fixture set up. Otherwise a result without a time out is about the
process of this very execution, whose exit status has been read: a success is one with the
expected status, and a failure is raised with the status, which is another one. The result
repeats the exit status, or else the one that the fixture has cached before. No result says that
the process was not terminated. -/
theorem execution_reports_process (runner : Runner World Exc) (exits : Exits runner)
    (parameters : Parameters) (calls : List Call) (world : World) (state : ShellProcess World)
    (ran : Effect.runCalls (callEffect runner parameters) calls (ShellProcess.new world) =
      some state) (sends : Bool) (expectExitStatus : Option Int)
    (result : Except (ProcessError Exc) (Execution Exc)) (after : ShellProcess World)
    (executed : executeProcess runner parameters sends expectExitStatus state =
      some (result, after)) :
    Bounded state after ∧ ∀ execution, result = .ok execution →
      Reported exits state expectExitStatus execution after := by
  have idle : Idle state :=
    Effect.runCalls_kept call_idle calls (ShellProcess.new_idle world) ran
  obtain ⟨returnsBounded, raisesBounded⟩ :=
    executeProcess_bounded exits idle sends expectExitStatus state rfl result after executed
  obtain ⟨returns, -⟩ :=
    executeProcess_reported exits idle sends expectExitStatus state rfl result after executed
  refine ⟨?_, returns⟩
  cases result with
  | ok execution => exact returnsBounded execution rfl
  | error error => exact raisesBounded error rfl

end Told

end Verdict

section Example

def countingExits : Exits countingRunner where
  Exited number exitStatus _ := exitStatus = Int.ofNat number
  waited _ _ _ _ answered := by
    cases answered
    rfl
  polled _ _ _ _ _ exited answered := by
    cases answered
    cases exited
    exact ⟨rfl, rfl⟩

/-- A fixture that has been executed once. -/
def executedOnce : Option (ShellProcess Unit) :=
  Effect.runCalls (callEffect countingRunner outputOnly) [.execute false (some 0)]
    (ShellProcess.new ())

/-- The second process exits with one, and zero is reported. -/
theorem executedTwice_reported :
    (executedOnce.bind fun state =>
      (executeProcess countingRunner outputOnly false none state).map fun ended =>
        ((state.setupExecuted, state.created),
          ended.1.toOption.map fun execution => (execution.status, execution.exitStatus))) =
      some ((false, 1), some (none, some 0)) := by
  decide +kernel

theorem execution_reports_process_again :
    ∃ (execution : Execution Unit) (after : ShellProcess Unit),
      execution.exitStatus = some 0 ∧ Ended countingExits 1 1 after := by
  obtain ⟨state, ran, ended⟩ := Option.bind_eq_some_iff.mp executedTwice_reported
  obtain ⟨⟨result, after⟩, executed, same⟩ := Option.map_eq_some_iff.mp ended
  obtain ⟨setUp, reported⟩ := Prod.mk.inj same
  obtain ⟨notSetUp, created⟩ := Prod.mk.inj setUp
  obtain ⟨execution, returned, values⟩ := Option.map_eq_some_iff.mp reported
  obtain ⟨status, exitStatus⟩ := Prod.mk.inj values
  have ready : state.Ready := fun isSetUp => by
    rw [notSetUp] at isSetUp
    cases isSetUp
  have told := (execution_reports_process countingRunner countingExits outputOnly
    [.execute false (some 0)] () state ran false none result after executed).2
  cases result with
  | error error => cases returned
  | ok other =>
      cases returned
      obtain ⟨number, code, subject, exited, -⟩ :=
        (told _ rfl).finished ready (by simp [status])
      have first : number = 1 := by
        have subject_eq : state.subject = some 1 := by
          simp [ShellProcess.subject, notSetUp, created]
        rw [subject_eq] at subject
        exact (Option.some.inj subject).symm
      have one : code = Int.ofNat number := exited.2.2
      rw [one, first] at exited
      exact ⟨_, after, exitStatus, exited⟩

end Example

end Tobiko.Shell.Sh.ProcessFixture
