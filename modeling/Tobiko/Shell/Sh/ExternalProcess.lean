import Mathlib.Data.Rat.Defs
import Tobiko.Foundation.CallRuns
import Tobiko.Foundation.Recorded

/-!
Contract: the external processes that a test run leaves for the next one, as
`check_or_start_external_process` in `tobiko/shell/sh/_process.py` keeps them.

Owns: the check of the previous process, the restart behind it, and what any number of calls do.

Does not own: the functions that start, stop and check a process; each of them may raise.

A call restarts the process whatever its check raises. A process that has died is restarted without
a check.
-/

namespace Tobiko.Shell.Sh.ExternalProcesses

open Tobiko.Foundation Tobiko.Foundation.Recorded

structure ExternalProcess (World Exc : Type) where
  start : World → Option Exc × World
  check : World → Option Exc × World
  liveness : World → Except Exc Bool × World
  stop : Option (World → Option Exc × World)
  sleep : ℚ → World → World

/-- What a call does. A question whether the process is alive has its answer, unless it raises. -/
inductive ProcessEvent where
  | asked (answer : Option Bool)
  | stop
  | sleep
  | check
  | start
  deriving DecidableEq

inductive ProcessError (Exc : Type) where
  | raised (exception : Exc)
  /-- Service did not start properly with function: ... -/
  | failed
  deriving DecidableEq

section Calls

variable {World Exc : Type} (process : ExternalProcess World Exc)

abbrev ProcessState (World : Type) := Recorded.State World ProcessEvent

abbrev ProcessEffect (World Exc Value : Type) :=
  Effect (ProcessError Exc) (ProcessState World) Value

def isAlive : ProcessEffect World Exc Bool := do
  let answer ← ask process.liveness
  record (.asked answer.toOption)
  Effect.ofExcept (answer.mapError .raised)

/-- `time.sleep(3)` -/
def pause : ProcessEffect World Exc Unit := do
  record .sleep
  ask fun world => ((), process.sleep 3 world)

/-- The process is stopped where there is a function for it. -/
def stopPrevious : ProcessEffect World Exc Unit :=
  match process.stop with
  | none => pure ()
  | some stop => do
      record .stop
      perform .raised stop
      pause process

/-- The check of a process that is alive. -/
def checkAlive (alive : Bool) : ProcessEffect World Exc Unit :=
  if alive then do
    stopPrevious process
    record .check
    perform .raised process.check
  else pure ()

/-- The `try` clause. -/
def checkPrevious : ProcessEffect World Exc Unit := do
  let alive ← isAlive process
  checkAlive process alive

/-- The `finally` clause. -/
def restart : ProcessEffect World Exc Unit := do
  record .start
  perform .raised process.start
  pause process
  if ← isAlive process then pure () else Effect.raise .failed

/-- `check_or_start_external_process` -/
def checkOrStartExternalProcess : ProcessEffect World Exc Unit := do
  let checked ← (checkPrevious process).attempt
  restart process
  Effect.ofExcept checked

end Calls

/-! ### What calls do -/

/-- What is done to the previous process. -/
inductive Previous (stops : Bool) : List ProcessEvent → Prop
  | unknown : Previous stops [.asked none]
  | dead : Previous stops [.asked (some false)]
  | notStopped (stopping : stops = true) : Previous stops [.asked (some true), .stop]
  | stopped : Previous stops
      (.asked (some true) :: (if stops then [.stop, .sleep] else []) ++ [.check])

/-- What is done to the new process, with the answer whether it is alive. -/
inductive Restarted : Option Bool → List ProcessEvent → Prop
  | notStarted : Restarted none [.start]
  | started (answer : Option Bool) : Restarted answer [.start, .sleep, .asked answer]

/-- What so many calls do, one after the other. -/
inductive Episodes (stops : Bool) : Nat → List ProcessEvent → Prop
  | none : Episodes stops 0 []
  | again {calls : Nat} {before previous restarted : List ProcessEvent} {answer : Option Bool}
      (earlier : Episodes stops calls before) (checks : Previous stops previous)
      (starts : Restarted answer restarted) :
      Episodes stops (calls + 1) (before ++ previous ++ restarted)

/-- Each call starts the process once. -/
theorem Episodes.count_start {stops : Bool} {calls : Nat} {events : List ProcessEvent}
    (episodes : Episodes stops calls events) : events.count .start = calls := by
  induction episodes with
  | none => rfl
  | @again calls before previous restarted answer earlier checks starts inductionHypothesis =>
      have none_before : previous.count .start = 0 := by
        cases checks with
        | unknown => rfl
        | dead => rfl
        | notStopped => rfl
        | stopped => cases stops <;> rfl
      have one_behind : restarted.count .start = 1 := by
        cases starts <;> rfl
      rw [List.count_append, List.count_append, inductionHypothesis, none_before, one_behind]

section Verdict

variable {World Exc : Type} {process : ExternalProcess World Exc} {events : List ProcessEvent}

def ExternalProcess.stops (process : ExternalProcess World Exc) : Bool := process.stop.isSome

/-- The process has answered that it is alive, at last. -/
def SeenAlive (process : ExternalProcess World Exc) (state : ProcessState World) : Prop :=
  ∃ before, process.liveness before = (.ok true, state.1)

/-- The last answer of the process that goes with the end of a call. -/
def Answered (process : ExternalProcess World Exc) (state : ProcessState World) :
    Option (ProcessError Exc) → Option Bool → Prop
  | none, answer => answer = some true ∧ SeenAlive process state
  | some .failed, answer => answer = some false
  | some (.raised _), answer => answer = none ∨ answer = some true ∧ SeenAlive process state

/-- What a call has done, with the error that it raises. -/
def Called (process : ExternalProcess World Exc) (events : List ProcessEvent)
    (error : Option (ProcessError Exc)) (state : ProcessState World) : Prop :=
  ∃ previous restarted answer, Previous process.stops previous ∧ Restarted answer restarted ∧
    state.2 = events ++ previous ++ restarted ∧ Answered process state error answer

theorem isAlive_ensures (process : ExternalProcess World Exc) :
    Effect.Ensures (fun state : ProcessState World => state.2 = events) (isAlive process)
      (fun alive state => state.2 = events ++ [.asked (some alive)] ∧
        ∃ before, process.liveness before = (.ok alive, state.1))
      fun error state => state.2 = events ++ [.asked none] ∧
        ∃ exception, error = .raised exception := by
  unfold isAlive
  apply Effect.ensures_bind fun answer (state : ProcessState World) => state.2 = events ∧
    ∃ before, process.liveness before = (answer, state.1)
  · exact Effect.ensures_update fun state same => ⟨same, state.1, rfl⟩
  · intro answer
    apply Effect.ensures_bind fun _ (state : ProcessState World) =>
      state.2 = events ++ [.asked answer.toOption] ∧
        ∃ before, process.liveness before = (answer, state.1)
    · apply Effect.ensures_modify
      rintro ⟨world, done⟩ ⟨same, asked⟩
      exact ⟨congrArg (· ++ [.asked answer.toOption]) same, asked⟩
    · intro _
      cases answer with
      | ok alive => exact Effect.ensures_pure fun _ known => known
      | error exception => exact Effect.ensures_raise fun _ known => ⟨known.1, exception, rfl⟩

theorem pause_ensures (process : ExternalProcess World Exc)
    {raises : ProcessError Exc → ProcessState World → Prop} :
    Effect.Ensures (fun state : ProcessState World => state.2 = events) (pause process)
      (fun _ state => state.2 = events ++ [.sleep]) raises :=
  Effect.ensures_bind _ (record_ensures ProcessEvent.sleep) fun _ => ask_ensures _

/-- The `try` clause does something to the previous process, and raises no error of its own. -/
theorem checkPrevious_ensures (process : ExternalProcess World Exc) :
    Effect.Ensures (fun state : ProcessState World => state.2 = events) (checkPrevious process)
      (fun _ state => ∃ previous, Previous process.stops previous ∧ state.2 = events ++ previous)
      fun error state => (∃ exception, error = .raised exception) ∧
        ∃ previous, Previous process.stops previous ∧ state.2 = events ++ previous := by
  unfold checkPrevious
  apply Effect.ensures_bind fun alive (state : ProcessState World) =>
    state.2 = events ++ [.asked (some alive)]
  · apply (isAlive_ensures process).mono
    · exact fun _ same => same
    · exact fun _ _ known => known.1
    · exact fun _ _ failed => ⟨failed.2, _, .unknown, failed.1⟩
  · intro alive
    cases alive with
    | false => exact Effect.ensures_pure fun _ same => ⟨_, .dead, same⟩
    | true =>
        let behind := if process.stops then [ProcessEvent.stop, .sleep] else []
        apply Effect.ensures_bind fun _ (state : ProcessState World) =>
          state.2 = events ++ (.asked (some true) :: behind)
        · unfold stopPrevious
          cases stopping : process.stop with
          | none =>
              have nothing : behind = [] := by
                show (if process.stop.isSome then _ else _) = _
                rw [stopping]
                rfl
              rw [nothing]
              exact Effect.ensures_pure fun _ same => same
          | some stop =>
              have stops : process.stops = true := by
                show process.stop.isSome = true
                rw [stopping]
                rfl
              have something : behind = [.stop, .sleep] := if_pos stops
              rw [something]
              apply Effect.ensures_bind _ (record_ensures ProcessEvent.stop)
              intro _
              apply Effect.ensures_bind fun _ (state : ProcessState World) =>
                state.2 = events ++ [.asked (some true)] ++ [.stop]
              · apply (perform_ensures ProcessError.raised stop).mono
                · exact fun _ same => same
                · exact fun _ _ same => same
                · intro error state failed
                  refine ⟨failed.2, _, .notStopped stops, ?_⟩
                  rw [failed.1, List.append_assoc]
                  rfl
              · intro _
                apply (pause_ensures process).mono
                · exact fun _ same => same
                · intro _ state same
                  rw [same]
                  simp
                · exact fun _ _ failed => failed
        · intro _
          have checks := @recorded_ensures _ World _ _ (events ++ (.asked (some true) :: behind))
            ProcessEvent.check (@ProcessError.raised Exc) process.check
          apply checks.mono
          · exact fun _ same => same
          · intro _ state same
            refine ⟨_, .stopped, ?_⟩
            rw [same, List.append_assoc]
          · rintro error state ⟨same, raised⟩
            refine ⟨raised, _, .stopped, ?_⟩
            rw [same, List.append_assoc]

/-- The `finally` clause starts the process, and returns when it has been seen alive. -/
theorem restart_ensures (process : ExternalProcess World Exc) :
    Effect.Ensures (fun state : ProcessState World => state.2 = events) (restart process)
      (fun _ state => SeenAlive process state ∧
        state.2 = events ++ [.start, .sleep, .asked (some true)])
      fun error state => ∃ restarted answer, Restarted answer restarted ∧
        state.2 = events ++ restarted ∧ Answered process state (some error) answer := by
  unfold restart
  apply Effect.ensures_bind _ (record_ensures ProcessEvent.start)
  intro _
  apply Effect.ensures_bind fun _ (state : ProcessState World) => state.2 = events ++ [.start]
  · apply (perform_ensures ProcessError.raised process.start).mono
    · exact fun _ same => same
    · exact fun _ _ same => same
    · rintro error state ⟨same, exception, rfl⟩
      exact ⟨_, _, .notStarted, same, .inl rfl⟩
  · intro _
    apply Effect.ensures_bind _ (pause_ensures process)
    intro _
    apply Effect.ensures_bind fun alive (state : ProcessState World) =>
      state.2 = events ++ [.start, .sleep, .asked (some alive)] ∧
        ∃ before, process.liveness before = (.ok alive, state.1)
    · apply (isAlive_ensures process).mono
      · exact fun _ same => same
      · rintro alive state ⟨same, asked⟩
        refine ⟨?_, asked⟩
        rw [same]
        simp
      · rintro error state ⟨same, exception, rfl⟩
        refine ⟨_, none, .started none, ?_, .inl rfl⟩
        rw [same]
        simp
    · intro alive
      cases alive with
      | true => exact Effect.ensures_pure fun _ known => ⟨known.2, known.1⟩
      | false => exact Effect.ensures_raise fun _ known => ⟨_, some false, .started _, known.1, rfl⟩

theorem call_ensures (process : ExternalProcess World Exc) :
    Effect.Ensures (fun state : ProcessState World => state.2 = events)
      (checkOrStartExternalProcess process) (fun _ => Called process events none)
      fun error => Called process events (some error) := by
  unfold checkOrStartExternalProcess
  apply Effect.ensures_bind _ (Effect.ensures_attempt (checkPrevious_ensures process))
  intro checked middle known
  have done : ∃ previous, Previous process.stops previous ∧ middle.2 = events ++ previous := by
    cases checked with
    | ok value => exact known.1 value rfl
    | error error => exact (known.2 error rfl).2
  have raised : ∀ error, checked = .error error → ∃ exception, error = .raised exception :=
    fun error same => (known.2 error same).1
  obtain ⟨previous, checks, same⟩ := done
  have ends : Effect.Ensures (fun state : ProcessState World => state.2 = events ++ previous)
      (do restart process; Effect.ofExcept checked) (fun _ => Called process events none)
      fun error => Called process events (some error) := by
    apply Effect.ensures_bind fun _ (state : ProcessState World) => SeenAlive process state ∧
      state.2 = events ++ previous ++ [.start, .sleep, .asked (some true)]
    · apply (restart_ensures process).mono
      · exact fun _ same => same
      · exact fun _ _ known => known
      · rintro error state ⟨restarted, answer, starts, same, answered⟩
        exact ⟨previous, restarted, answer, checks, starts, same, answered⟩
    · intro _
      cases checked with
      | ok value =>
          apply Effect.ensures_pure
          rintro state ⟨alive, same⟩
          exact ⟨previous, _, _, checks, .started _, same, rfl, alive⟩
      | error error =>
          obtain ⟨exception, rfl⟩ := raised error rfl
          apply Effect.ensures_raise
          rintro state ⟨alive, same⟩
          exact ⟨previous, _, _, checks, .started _, same, .inr ⟨rfl, alive⟩⟩
  exact ends middle same

theorem call_ends (process : ExternalProcess World Exc) :
    (checkOrStartExternalProcess process).Ends := by
  have alive : (isAlive process).Ends := by
    apply Effect.ends_bind (Effect.ends_update _)
    intro answer
    exact Effect.ends_bind (Effect.ends_update _) fun _ => Effect.ends_ofExcept _
  have pauses : (pause process).Ends :=
    Effect.ends_bind (Effect.ends_update _) fun _ => Effect.ends_update _
  have checks : (checkPrevious process).Ends := by
    apply Effect.ends_bind alive
    intro answer
    cases answer with
    | false => exact fun _ => rfl
    | true =>
        apply Effect.ends_bind
        · unfold stopPrevious
          cases process.stop with
          | none => exact fun _ => rfl
          | some stop =>
              apply Effect.ends_bind (Effect.ends_update _)
              exact fun _ => Effect.ends_bind (perform_ends _ stop) fun _ => pauses
        · exact fun _ => recorded_ends ProcessEvent.check ProcessError.raised process.check
  have restarts : (restart process).Ends := by
    apply Effect.ends_bind (Effect.ends_update _)
    intro _
    apply Effect.ends_bind (perform_ends _ process.start)
    intro _
    apply Effect.ends_bind pauses
    intro _
    apply Effect.ends_bind alive
    intro answer
    cases answer with
    | true => exact fun _ => rfl
    | false => exact fun _ => rfl
  apply Effect.ends_bind (Effect.ends_attempt checks)
  intro checked
  exact Effect.ends_bind restarts fun _ => Effect.ends_ofExcept checked

/-- The calls of one test run after the other. -/
def runCalls (process : ExternalProcess World Exc) (calls : Nat) (state : ProcessState World) :
    Option (ProcessState World) :=
  Effect.runCalls (fun _ : Unit => checkOrStartExternalProcess process)
    (List.replicate calls ()) state

theorem runCalls_episodes (process : ExternalProcess World Exc) (calls : Nat) {earlier : Nat}
    {state : ProcessState World} (before : Episodes process.stops earlier state.2) :
    ∃ after, runCalls process calls state = some after ∧
      Episodes process.stops (earlier + calls) after.2 := by
  induction calls generalizing earlier state with
  | zero => exact ⟨state, rfl, before⟩
  | succ calls inductionHypothesis =>
      obtain ⟨⟨result, middle⟩, ran⟩ := Option.isSome_iff_exists.mp (call_ends process state)
      have called : ∃ error, Called process state.2 error middle := by
        obtain ⟨returned, raised⟩ := call_ensures process state rfl result middle ran
        cases result with
        | ok value => exact ⟨none, returned value rfl⟩
        | error error => exact ⟨some error, raised error rfl⟩
      obtain ⟨error, previous, restarted, answer, checks, starts, same, -⟩ := called
      have next : Episodes process.stops (earlier + 1) middle.2 :=
        same ▸ .again before checks starts
      obtain ⟨after, others, episodes⟩ := inductionHypothesis next
      refine ⟨after, ?_, ?_⟩
      · unfold runCalls at others ⊢
        rw [List.replicate_succ, Effect.runCalls, ran]
        exact others
      · have number : earlier + (calls + 1) = earlier + 1 + calls := by omega
        rw [number]
        exact episodes

/-- **The process is restarted by each call.** Any number of calls does as many episodes, whatever
raises in them: what was alive is stopped where it can be and checked, what was dead is neither,
and then the process is started, once. A call returns only when it has seen the new process alive,
and an error of the check is raised only behind that. -/
theorem external_process_calls (process : ExternalProcess World Exc) (calls : Nat) (world : World) :
    ∃ after, runCalls process calls (world, []) = some after ∧
      Episodes process.stops calls after.2 ∧ after.2.count .start = calls ∧
      ∃ result last, checkOrStartExternalProcess process after = some (result, last) ∧
        (result = .ok () → Called process after.2 none last) ∧
        ∀ error, result = .error error → Called process after.2 (some error) last := by
  obtain ⟨after, ran, episodes⟩ :=
    @runCalls_episodes World Exc process calls 0 (world, []) Episodes.none
  rw [Nat.zero_add] at episodes
  refine ⟨after, ran, episodes, episodes.count_start, ?_⟩
  obtain ⟨⟨result, last⟩, called⟩ := Option.isSome_iff_exists.mp (call_ends process after)
  obtain ⟨returned, raised⟩ := call_ensures process after rfl result last called
  exact ⟨result, last, called, returned (), raised⟩

end Verdict

/-- A process that dies with its first check is started again, and is not checked then. -/
example : (runCalls
      ({ start := fun _ => (none, true), check := fun _ => (some "lost packets", false),
         liveness := fun alive => (.ok alive, alive), stop := none, sleep := fun _ alive => alive } :
          ExternalProcess Bool String) 2 (true, [])).map Prod.snd =
    some [.asked (some true), .check, .start, .sleep, .asked (some true),
      .asked (some true), .check, .start, .sleep, .asked (some true)] := by
  decide +kernel

end Tobiko.Shell.Sh.ExternalProcesses
