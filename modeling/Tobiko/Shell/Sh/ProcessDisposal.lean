import Tobiko.Shell.Sh.ProcessFixture

/-!
Contract: no shell process is left behind.

Owns: what is still owed to the processes that were created, what each function of the fixture
does about it, and the states that sequences of calls lead to.

A process is done with when its exit status has been read, or when it has been killed because
that was not possible. What is owed is carried through every function, whatever it raises.
-/

namespace Tobiko.Shell.Sh.ProcessFixture

open Tobiko.Foundation

/-- The event is that `_terminate` was done with the process. -/
def Event.ends (number : Nat) : Event → Bool
  | .exited process _ => process == some number
  | .killed process => process == some number
  | _ => false

def endings (number : Nat) (history : List Event) : Nat := history.countP (Event.ends number)

variable {World Exc : Type}

/-- The process that a clean up is going to close. -/
def ShellProcess.pending (state : ShellProcess World) : Option Nat :=
  if state.closeRegistered then state.process else none

/-- Of the processes that were created all have been ended once, and their streams were closed,
except for the one that is owed. -/
structure Owed (owed : Option Nat) (state : ShellProcess World) : Prop where
  current : ∀ number, owed = some number → state.process = some number ∧ number < state.created
  created : ∀ number, state.process = some number → number < state.created
  ended : ∀ number, number < state.created → owed ≠ some number →
    endings number state.history = 1
  running : ∀ number, (state.created ≤ number ∨ owed = some number) →
    endings number state.history = 0
  streams : ∀ name number, .opened name number ∈ state.history →
    .closed name number ∈ state.history ∨
      owed = some number ∧ state.stream name = some number

/-- The stream of the process that is owed has been closed. -/
def StreamClosed (name : StreamName) (owed : Option Nat) (state : ShellProcess World) : Prop :=
  ∀ number, owed = some number → .opened name number ∈ state.history →
    .closed name number ∈ state.history

/-- Nothing is owed except for the process that a clean up is going to close. -/
structure Tracked (state : ShellProcess World) : Prop where
  owed : Owed state.pending state
  process : state.closeRegistered = true → state.process ≠ none

/-- A fixture between its calls. -/
structure Idle (state : ShellProcess World) : Prop extends Tracked state where
  registered : state.closeRegistered = true → state.setupExecuted = true

variable {runner : Runner World Exc} {owed : Option Nat} {state : ShellProcess World}

theorem ShellProcess.new_idle (world : World) : Idle (ShellProcess.new world) := by
  refine ⟨⟨⟨fun _ same => ?_, fun _ same => ?_, fun _ below _ => ?_, fun _ _ => rfl,
    fun _ _ member => ?_⟩, fun registered => ?_⟩, fun registered => ?_⟩
  · cases same
  · cases same
  · exact absurd below (Nat.not_lt_zero _)
  · cases member
  · cases registered
  · cases registered

/-! ### What each step does -/

section Steps

/-- What is asked is answered by the world. -/
theorem ask_answers {Error Value : Type} {wrap : Error → ProcessError Exc}
    {operation : Effect Error World Value} {holds : ShellProcess World → Prop}
    {returns : Value → ShellProcess World → Prop}
    {raises : ProcessError Exc → ShellProcess World → Prop}
    (returned : ∀ state value world, holds state →
      operation state.world = some (.ok value, world) → returns value { state with world := world })
    (raised : ∀ state error world, holds state →
      operation state.world = some (.error error, world) →
      raises (wrap error) { state with world := world }) :
    Effect.Ensures holds (ask wrap operation) returns raises := by
  intro state start result after ended
  obtain ⟨⟨answer, world⟩, answered, same⟩ := Option.map_eq_some_iff.mp ended
  cases same
  refine ⟨fun value same => ?_, fun error same => ?_⟩
  · cases answer with
    | ok other =>
        cases same
        exact returned state _ world start answered
    | error other => cases same
  · cases answer with
    | ok other => cases same
    | error other =>
        cases same
        exact raised state other world start answered

/-- What is asked changes the world only. -/
theorem ask_ensures {Error Value : Type} {wrap : Error → ProcessError Exc}
    {operation : Effect Error World Value} {holds : ShellProcess World → Prop}
    (frame : ∀ state world, holds state → holds { state with world := world }) :
    Effect.Ensures holds (ask wrap operation) (fun _ => holds) fun _ => holds :=
  ask_answers (fun state _ world known _ => frame state world known)
    fun state _ world known _ => frame state world known

theorem owed_world (world : World) (known : Owed owed state) :
    Owed owed { state with world := world } :=
  ⟨known.current, known.created, known.ended, known.running, known.streams⟩

/-- An event that ends no process and opens no stream. -/
theorem Owed.record {event : Event} (known : Owed owed state)
    (keeps : ∀ number, event.ends number = false)
    (opens : ∀ name number, .opened name number ≠ event) : Owed owed (state.record event) := by
  have same : ∀ number, endings number (event :: state.history) = endings number state.history := by
    intro number
    simp [endings, keeps number]
  refine ⟨known.current, known.created, fun number below other => ?_, fun number none_ => ?_,
    fun name number member => ?_⟩
  · exact (same number).trans (known.ended number below other)
  · exact (same number).trans (known.running number none_)
  · rcases List.mem_cons.mp member with head | tail
    · exact absurd head (opens name number)
    · exact (known.streams name number tail).imp_left (List.mem_cons_of_mem _)

theorem closeStream_owed (name : StreamName) (known : Owed owed state) :
    Owed owed (state.closeStream runner name) := by
  unfold ShellProcess.closeStream
  split
  · exact known
  · exact owed_world _ (known.record (fun _ => rfl) (by simp))

/-- A stream that was open and is owed has been closed. -/
theorem closeStream_closes (name : StreamName) (known : Owed owed state) :
    StreamClosed name owed (state.closeStream runner name) := by
  intro number same opened
  unfold ShellProcess.closeStream at opened ⊢
  split at opened
  · rename_i unset
    rcases known.streams name number opened with closed | ⟨_, set⟩
    · simpa [unset] using closed
    · rw [unset] at set
      cases set
  · rename_i other set
    rcases List.mem_cons.mp opened with head | tail
    · cases head
    · rcases known.streams name number tail with closed | ⟨_, current⟩
      · exact List.mem_cons_of_mem _ closed
      · rw [set] at current
        cases current
        exact List.mem_cons_self

theorem closeStream_registered (name : StreamName) :
    (state.closeStream runner name).closeRegistered = state.closeRegistered := by
  unfold ShellProcess.closeStream
  split
  · rfl
  · rfl

theorem closeStream_keeps {name other : StreamName} (closed : StreamClosed other owed state) :
    StreamClosed other owed (state.closeStream runner name) := by
  intro number same opened
  unfold ShellProcess.closeStream at opened ⊢
  split at opened
  · rename_i unset
    simpa [unset] using closed number same opened
  · rename_i current set
    rcases List.mem_cons.mp opened with head | tail
    · cases head
    · exact List.mem_cons_of_mem _ (closed number same tail)

/-- Once the streams are closed and `_terminate` is done with the process nothing is owed. -/
theorem Owed.settle {event : Event} (known : Owed owed state)
    (closed : ∀ name, StreamClosed name owed state)
    (ends : ∀ number, event.ends number = (owed == some number))
    (opens : ∀ name number, .opened name number ≠ event) : Owed none (state.record event) := by
  have count : ∀ number, endings number (event :: state.history) =
      endings number state.history + if owed = some number then 1 else 0 := by
    intro number
    simp [endings, List.countP_cons, ends number]
  refine ⟨fun _ same => ?_, known.created, fun number below _ => ?_, fun number beyond => ?_,
    fun name number member => ?_⟩
  · cases same
  · refine (count number).trans ?_
    by_cases mine : owed = some number
    · simp [mine, known.running number (.inr mine)]
    · simp [mine, known.ended number below mine]
  · have above : state.created ≤ number :=
      beyond.resolve_right fun impossible => by cases impossible
    refine (count number).trans ?_
    have other : owed ≠ some number := fun mine =>
      absurd (known.current number mine).2 (Nat.not_lt.mpr above)
    simp [other, known.running number (.inl above)]
  · refine .inl (List.mem_cons_of_mem _ ?_)
    rcases List.mem_cons.mp member with head | tail
    · exact absurd head (opens name number)
    · rcases known.streams name number tail with already | ⟨mine, _⟩
      · exact already
      · exact closed name number mine tail

end Steps

/-! ### Termination -/

/-- Nothing is owed and nothing is registered. -/
structure Cleared (state : ShellProcess World) : Prop where
  owed : Owed none state
  registered : state.closeRegistered = false

theorem Cleared.tracked (known : Cleared state) : Tracked state := by
  have nothing : state.pending = none := by simp [ShellProcess.pending, known.registered]
  refine ⟨?_, fun registered => ?_⟩
  · rw [nothing]
    exact known.owed
  · rw [known.registered] at registered
    cases registered

theorem Cleared.idle (known : Cleared state) : Idle state := by
  refine ⟨known.tracked, fun registered => ?_⟩
  rw [known.registered] at registered
  cases registered

section Termination

variable {number : Nat}

theorem getExitStatus_ensures {holds : ShellProcess World → Prop}
    (frame : ∀ state world, holds state → holds { state with world := world }) :
    Effect.Ensures holds (getExitStatus runner) (fun _ => holds) fun _ => holds := by
  apply Effect.ensures_bind (fun _ => holds) (Effect.ensures_get fun _ known => known)
  intro read
  apply Effect.ensures_bind (fun _ => holds) (ask_ensures frame)
  intro answer
  cases answer with
  | none => exact Effect.ensures_raise fun _ known => known
  | some exitStatus => exact Effect.ensures_pure fun _ known => known

/-- The process is owed and the streams in the list have been closed. -/
structure Closing (number : Nat) (closed : List StreamName) (state : ShellProcess World) :
    Prop where
  owed : Owed (some number) state
  registered : state.closeRegistered = false
  closed : ∀ name ∈ closed, StreamClosed name (some number) state

theorem Closing.world {closed : List StreamName} (state : ShellProcess World) (world : World)
    (known : Closing number closed state) : Closing number closed { state with world := world } :=
  ⟨owed_world world known.owed, known.registered, known.closed⟩

theorem closeStream_ensures {name : StreamName} (closed : List StreamName)
    (raises : ProcessError Exc → ShellProcess World → Prop) :
    Effect.Ensures (Closing number closed) (closeStream runner name)
      (fun _ => Closing number (name :: closed)) raises := by
  apply Effect.ensures_modify
  intro state known
  refine ⟨closeStream_owed name known.owed,
    (closeStream_registered name).trans known.registered, fun other member => ?_⟩
  by_cases same : other = name
  · rw [same]
    exact closeStream_closes name known.owed
  · have earlier : other ∈ closed := (List.mem_cons.mp member).resolve_left same
    exact closeStream_keeps (known.closed other earlier)

/-- Whatever `_terminate` raises, it is done with the process. -/
theorem terminate_ensures :
    Effect.Ensures (Closing number [.stdin]) (terminate runner) (fun _ => Cleared)
      (fun _ => Cleared) := by
  apply Effect.ensures_bind _ (closeStream_ensures _ _)
  intro _
  apply Effect.ensures_bind _ (closeStream_ensures _ _)
  intro _
  apply Effect.ensures_bind (fun _ => Closing number [.stderr, .stdout, .stdin])
  · exact Effect.ensures_attempt_kept (getExitStatus_ensures Closing.world)
  · have everyStream : ∀ name, name ∈ [StreamName.stderr, .stdout, .stdin] := by
      intro name
      cases name with
      | stdin => simp
      | stdout => simp
      | stderr => simp
    intro result
    cases result with
    | ok exitStatus =>
        apply Effect.ensures_modify
        intro state known
        have mine : state.process = some number := (known.owed.current number rfl).1
        exact ⟨known.owed.settle (fun name => known.closed name (everyStream name))
          (fun other => by simp [Event.ends, mine]) (by simp), known.registered⟩
    | error error =>
        apply Effect.ensures_bind (fun _ => Cleared)
        · apply Effect.ensures_modify
          intro state known
          have mine : state.process = some number := (known.owed.current number rfl).1
          exact ⟨(owed_world _ known.owed).settle
            (fun name => known.closed name (everyStream name))
            (fun other => by simp [Event.ends, mine]) (by simp), known.registered⟩
        · exact fun _ => Effect.ensures_raise fun _ known => known

theorem close_ensures :
    Effect.Ensures (fun state => Owed (some number) state ∧ state.closeRegistered = false)
      (close runner) (fun _ => Cleared) (fun _ => Cleared) := by
  apply Effect.ensures_bind (fun _ => Closing number [.stdin])
  · exact (closeStream_ensures [] _).mono
      (fun _ known => ⟨known.1, known.2, by simp⟩) (fun _ _ known => known) fun _ _ impossible => impossible
  · intro _
    apply Effect.ensures_bind (fun _ => Closing number [.stdin])
    · exact Effect.ensures_attempt_kept (ask_ensures Closing.world)
    · intro waited
      apply Effect.ensures_bind _ terminate_ensures
      intro _
      exact Effect.ensures_ofExcept_kept

end Termination

/-! ### Clean up and set up -/

section SetUp

/-- Whatever the cleanups raise, nothing is owed after them. -/
theorem callCleanups_ensures :
    Effect.Ensures (@Tracked World) (callCleanups runner) (fun _ => Cleared)
      fun _ => Cleared := by
  apply Effect.ensures_bind (fun read state => read = state ∧ Tracked state)
    (Effect.ensures_get fun _ known => ⟨rfl, known⟩)
  intro read
  apply Effect.ensures_bind (fun _ state => (Owed read.pending state ∧
    state.closeRegistered = false) ∧ Tracked read)
  · apply Effect.ensures_modify
    rintro state ⟨rfl, known⟩
    exact ⟨⟨⟨known.owed.current, known.owed.created, known.owed.ended, known.owed.running,
      known.owed.streams⟩, rfl⟩, known⟩
  · intro _
    split
    · rename_i registered
      cases process : read.process with
      | none => exact fun state known => absurd process (known.2.process registered)
      | some number =>
          have pending : read.pending = some number := by
            simp [ShellProcess.pending, registered, process]
          rw [pending]
          exact close_ensures.mono (fun _ known => known.1) (fun _ _ known => known)
            fun _ _ known => known
    · rename_i registered
      have pending : read.pending = none := by simp [ShellProcess.pending, registered]
      rw [pending]
      exact Effect.ensures_pure fun _ known => ⟨known.1.1, known.1.2⟩

theorem cleanUp_ensures (raiseFirst : Bool) :
    Effect.Ensures (@Tracked World) (cleanUp runner raiseFirst) (fun _ => Cleared)
      fun _ => Cleared := by
  apply Effect.ensures_bind (fun _ => Cleared)
  · exact Effect.ensures_attempt_kept callCleanups_ensures
  · intro cleaned
    apply Effect.ensures_bind (fun _ => Cleared)
    · unfold raiseCleanupError
      split
      · exact Effect.ensures_ofExcept_kept
      · exact Effect.ensures_pure fun _ known => known
    · intro _
      apply Effect.ensures_modify
      intro state known
      exact ⟨⟨known.owed.current, known.owed.created, known.owed.ended, known.owed.running,
        known.owed.streams⟩, known.registered⟩

/-! A fixture whose set up goes on: it has a process, which is closed if the set up fails. -/

theorem tracked_world (world : World) (known : Tracked state) :
    Tracked { state with world := world } :=
  ⟨owed_world world known.owed, known.process⟩

/-- The new process is the one that is owed. -/
theorem addProcess_tracked (known : Cleared state) : Tracked state.addProcess := by
  have count : ∀ number, endings number (.created state.created :: state.history) =
      endings number state.history := fun number => by simp [endings, Event.ends]
  refine ⟨⟨fun number same => ?_, fun number same => ?_, fun number below other => ?_,
    fun number none_ => ?_, fun name number member => ?_⟩, fun _ same => by cases same⟩
  · cases same
    exact ⟨rfl, Nat.lt_succ_self _⟩
  · cases same
    exact Nat.lt_succ_self _
  · have earlier : number < state.created := by
      have below : number < state.created + 1 := below
      have distinct : number ≠ state.created := fun same => other (by rw [same]; rfl)
      omega
    exact (count number).trans (known.owed.ended number earlier (by simp))
  · have beyond : state.created ≤ number := by
      rcases none_ with above | mine
      · exact Nat.le_of_succ_le above
      · cases mine
        exact Nat.le_refl _
    exact (count number).trans (known.owed.running number (.inl beyond))
  · rcases List.mem_cons.mp member with head | tail
    · cases head
    · rcases known.owed.streams name number tail with closed | ⟨impossible, _⟩
      · exact .inl (List.mem_cons_of_mem _ closed)
      · cases impossible

theorem forgetStatus_cleared (known : Cleared state) : Cleared state.forgetStatus :=
  ⟨⟨known.owed.current, known.owed.created, known.owed.ended, known.owed.running,
    known.owed.streams⟩, known.registered⟩

/-- A stream of the process that is owed. -/
theorem addStream_tracked (name : StreamName) (known : Tracked state)
    (registered : state.closeRegistered = true) : Tracked (state.addStream name) := by
  unfold ShellProcess.addStream
  split
  · exact known
  · rename_i current process
    have pending : state.pending = some current := by
      simp [ShellProcess.pending, registered, process]
    have count : ∀ number, endings number (.opened name current :: state.history) =
        endings number state.history := fun number => by simp [endings, Event.ends]
    refine ⟨⟨known.owed.current, known.owed.created, fun number below other => ?_,
      fun number none_ => ?_, fun other number member => ?_⟩, known.process⟩
    · exact (count number).trans (known.owed.ended number below other)
    · exact (count number).trans (known.owed.running number none_)
    · rcases List.mem_cons.mp member with head | tail
      · cases head
        exact .inr ⟨pending, by simp⟩
      · rcases known.owed.streams other number tail with closed | ⟨mine, set⟩
        · exact .inl (List.mem_cons_of_mem _ closed)
        · refine .inr ⟨mine, ?_⟩
          rw [pending] at mine
          cases mine
          by_cases same : other = name
          · simp [same]
          · simpa [Function.update_of_ne same] using set

/-- The set up has a process to close. -/
def SettingUp (state : ShellProcess World) : Prop :=
  Tracked state ∧ state.closeRegistered = true

theorem setupStream_ensures (asked : Bool) (name : StreamName) :
    Effect.Ensures (@SettingUp World) (setupStream runner asked name) (fun _ => SettingUp)
      fun _ => Tracked := by
  unfold setupStream
  split
  · apply Effect.ensures_bind (fun _ => SettingUp)
    · exact (ask_ensures fun _ world known => ⟨tracked_world world known.1, known.2⟩).mono
        (fun _ known => known) (fun _ _ known => known) fun _ _ known => known.1
    · intro _
      apply Effect.ensures_modify
      intro state known
      refine ⟨addStream_tracked name known.1 known.2, ?_⟩
      unfold ShellProcess.addStream
      split
      · exact known.2
      · exact known.2
  · exact Effect.ensures_pure fun _ known => known

theorem setupProcess_ensures :
    Effect.Ensures (@Cleared World) (setupProcess runner) (fun _ => SettingUp)
      fun _ => Tracked := by
  apply Effect.ensures_bind (fun _ => Cleared)
    (Effect.ensures_modify fun _ known => forgetStatus_cleared known)
  intro _
  apply Effect.ensures_bind (fun _ => Cleared)
  · exact (ask_ensures fun _ world known =>
      ⟨owed_world world known.owed, known.registered⟩).mono (fun _ known => known)
      (fun _ _ known => known) fun _ _ known => known.tracked
  · intro _
    apply Effect.ensures_modify
    exact fun _ known => ⟨addProcess_tracked known, rfl⟩

theorem setupFixture_ensures (parameters : Parameters) :
    Effect.Ensures (@Cleared World) (setupFixture runner parameters) (fun _ => SettingUp)
      fun _ => Tracked := by
  apply Effect.ensures_bind (fun _ => Cleared)
  · exact (Effect.ensures_ofExcept fun _ _ _ known => known.tracked).mono (fun _ known => known)
      (fun _ _ known => known.2) fun _ _ known => known
  · intro _
    apply Effect.ensures_bind _ setupProcess_ensures
    intro _
    apply Effect.ensures_bind _ (setupStream_ensures _ _)
    intro _
    apply Effect.ensures_bind _ (setupStream_ensures _ _)
    exact fun _ => setupStream_ensures _ _

/-- The registered process is kept by a set up that has been executed, an idle fixture that is
not set up owes nothing, and neither does one whose set up has raised. -/
theorem setUp_ensures (parameters : Parameters) :
    Effect.Ensures (@Idle World) (setUp runner parameters) (fun _ => Idle) fun _ => Cleared := by
  apply Effect.ensures_bind (fun read state => read = state ∧ Idle state)
    (Effect.ensures_get fun _ known => ⟨rfl, known⟩)
  intro read
  split
  · exact Effect.ensures_pure fun _ known => known.2
  · rename_i notSetUp
    apply Effect.ensures_bind (fun _ => Cleared)
    · apply Effect.ensures_modify
      rintro state ⟨rfl, known⟩
      have unregistered : read.closeRegistered = false := by
        cases registered : read.closeRegistered with
        | true => exact absurd (known.registered registered) notSetUp
        | false => rfl
      have nothing : read.pending = none := by simp [ShellProcess.pending, unregistered]
      have owed := known.owed
      rw [nothing] at owed
      exact ⟨⟨owed.current, owed.created, owed.ended, owed.running, owed.streams⟩, rfl⟩
    · intro _
      apply Effect.ensures_bind _ (Effect.ensures_attempt (setupFixture_ensures parameters))
      intro prepared
      cases prepared with
      | error error =>
          apply Effect.ensures_bind (fun _ => Cleared)
          · exact (cleanUp_ensures false).mono (fun state known => known.2 error rfl)
              (fun _ _ known => known) fun _ _ known => known
          · exact fun _ => Effect.ensures_raise fun _ known => known
      | ok value =>
          apply Effect.ensures_modify
          intro state known
          obtain ⟨tracked, -⟩ := known.1 value rfl
          exact ⟨⟨⟨tracked.owed.current, tracked.owed.created, tracked.owed.ended,
            tracked.owed.running, tracked.owed.streams⟩, tracked.process⟩, fun _ => rfl⟩

end SetUp

end Tobiko.Shell.Sh.ProcessFixture
