import Tobiko.Common.RetryRecovery
import Tobiko.Shell.Sh.SshProcess

/-!
Contract: what `create_process` of `SSHShellProcessFixture` in `tobiko/shell/sh/_ssh.py` does to
the client.

Owns: the attempts of a run with the commands that they run, how a run ends, and how many attempts
there are.

Does not own: the functions, which are in `SshProcess`.

What is wrapped once is wrapped again in the next attempt that opens a session.
-/

namespace Tobiko.Shell.Sh.SshProcess

open Tobiko.Common Tobiko.Common.Time Tobiko.Foundation
open Tobiko.Foundation.Recorded

/-! ### Attempts -/

section Attempts

variable {Session : Type}

/-- What an attempt that fails does, with the command before it and behind it. -/
inductive FailedAttempt (wrap : Text → Text) : Text → List (SshEvent Session) → Text → Prop
  | connect {command : Text} : FailedAttempt wrap command [.connect, .close] command
  | openSession {command : Text} :
      FailedAttempt wrap command [.connect, .openSession, .close] command
  | exec {command : Text} (session : Session) :
      FailedAttempt wrap command
        [.connect, .openSession, .exec session (wrap command), .close] (wrap command)

/-- The failed attempts before an attempt of that number, with the command that they leave. -/
inductive FailedAttempts (wrap : Text → Text) (start : Text) :
    Int → Text → List (SshEvent Session) → Prop
  | none : FailedAttempts wrap start 1 start []
  | again {number : Int} {command after : Text} {before events : List (SshEvent Session)}
      (earlier : FailedAttempts wrap start number command before)
      (failed : FailedAttempt wrap command events after) :
      FailedAttempts wrap start (number + 1) after (before ++ events)

/-- The commands that have been run, in that order. -/
def executed (events : List (SshEvent Session)) : List Text :=
  events.filterMap fun event =>
    match event with
    | .exec _ command => some command
    | _ => none

/-- The command wrapped once, twice and so on. -/
def wrappings (wrap : Text → Text) (start : Text) (number : Nat) : List Text :=
  (List.range number).map fun index => wrap^[index + 1] start

variable {wrap : Text → Text} {start command : Text} {number : Int}
  {events : List (SshEvent Session)}

theorem wrappings_succ (wrap : Text → Text) (start : Text) (number : Nat) :
    wrappings wrap start (number + 1) = wrappings wrap start number ++ [wrap^[number + 1] start] := by
  simp [wrappings, List.range_succ]

/-- Behind failed attempts the command has been wrapped for each of those that has run it. -/
theorem FailedAttempts.executed_eq (failed : FailedAttempts wrap start number command events) :
    ∃ ran : Nat, executed events = wrappings wrap start ran ∧ command = wrap^[ran] start := by
  induction failed with
  | none => exact ⟨0, rfl, rfl⟩
  | @again number command after before events earlier failed inductionHypothesis =>
      obtain ⟨ran, commands, wrapped⟩ := inductionHypothesis
      unfold executed at commands ⊢
      rw [List.filterMap_append, commands]
      cases failed with
      | connect => exact ⟨ran, List.append_nil _, wrapped⟩
      | openSession => exact ⟨ran, List.append_nil _, wrapped⟩
      | exec session =>
          have next : wrap command = wrap^[ran + 1] start := by
            rw [wrapped, Function.iterate_succ_apply']
          refine ⟨ran + 1, ?_, next⟩
          rw [wrappings_succ, ← next]
          rfl

/-- Each failed attempt closes the client behind it. -/
theorem FailedAttempts.closed (failed : FailedAttempts wrap start number command events) :
    (number = 1 ∧ events = []) ∨ events.getLast? = some .close := by
  cases failed with
  | none => exact .inl ⟨rfl, rfl⟩
  | again earlier failed =>
      right
      cases failed with
      | connect => simp
      | openSession => simp
      | exec session => simp

end Attempts

/-! ### How a run ends -/

section Runs

variable {World Exc Session : Type}

/-- What has been done before an attempt of that number. -/
def Before (retry : Retry) (wrap : Text → Text) (start : Text) (number : Int) (command : Text)
    (state : SshState World Session) : Prop :=
  retry.Allows number ∧ FailedAttempts wrap start number command state.2

/-- The process is the session of the last attempt, which runs the command. -/
def Created (retry : Retry) (wrap : Text → Text) (start : Text) (process : Session)
    (state : SshState World Session) : Prop :=
  ∃ number command before, retry.Allows number ∧ FailedAttempts wrap start number command before ∧
    state.2 = before ++ [.connect, .openSession, .exec process (wrap command)]

/-- Why no process is created: from what is behind the attempts, each error. -/
inductive NotCreated (retry : Retry) (wrap : Text → Text) (start : Text) :
    SshError Exc → SshState World Session → Prop
  | raised {exception : Exc} {number : Int} {command : Text} {state : SshState World Session}
      (allowed : retry.Allows (number - 1))
      (failed : FailedAttempts wrap start number command state.2) :
      NotCreated retry wrap start (.raised exception) state
  | timeLimit {number : Int} {command : Text} {state : SshState World Session}
      (allowed : retry.Allows number) (limited : retry.timeout.isSome)
      (failed : FailedAttempts wrap start (number + 1) command state.2) :
      NotCreated retry wrap start (.shellTimeoutExpired command (some 0)) state
  | countLimit {attempt : RetryAttempt} {command : Text} {count : Int}
      {state : SshState World Session} (counted : retry.count = some count)
      (failed : FailedAttempts wrap start (max 1 count + 1) command state.2) :
      NotCreated retry wrap start (.retryLimit (.count attempt)) state

variable {events : List (SshEvent Session)}

/-! ### What the steps do -/

theorem openSession_ensures (client : SshClient World Exc Session) :
    Effect.Ensures (fun state : SshState World Session => state.2 = events) (openSession client)
      (fun _ state => state.2 = events ++ [.openSession])
      fun _ state => state.2 = events ++ [.openSession] := by
  unfold openSession
  apply Effect.ensures_bind _ (record_ensures SshEvent.openSession)
  intro _
  apply (request_ensures SshError.raised client.openSession).mono
  · exact fun _ same => same
  · exact fun _ _ same => same
  · exact fun _ _ failed => failed.1

theorem connectSession_ensures (client : SshClient World Exc Session) :
    Effect.Ensures (fun state : SshState World Session => state.2 = events) (connectSession client)
      (fun _ state => state.2 = events ++ [.connect, .openSession])
      fun _ state => state.2 = events ++ [.connect] ∨
        state.2 = events ++ [.connect, .openSession] := by
  unfold connectSession
  apply Effect.ensures_bind fun _ (state : SshState World Session) => state.2 = events ++ [.connect]
  · apply (recorded_ensures SshEvent.connect SshError.raised client.connect).mono
    · exact fun _ same => same
    · exact fun _ _ same => same
    · exact fun _ _ failed => .inl failed.1
  · intro _
    have opened := @openSession_ensures World Exc Session (events ++ [.connect]) client
    rw [List.append_assoc] at opened
    apply opened.mono
    · exact fun _ same => same
    · exact fun _ _ same => same
    · exact fun _ _ same => .inr same

/-- How the `try` clause ends: with the session that runs the command, or up to the end of the
client in a failed attempt. -/
def Tried (wrap : Text → Text) (command : Text) (events : List (SshEvent Session))
    (tried : Text × Except (SshError Exc) Session) (state : SshState World Session) : Prop :=
  (∀ process, tried.2 = .ok process →
    state.2 = events ++ [.connect, .openSession, .exec process (wrap command)]) ∧
  ∀ error, tried.2 = .error error →
    ∃ done, FailedAttempt wrap command (done ++ [.close]) tried.1 ∧ state.2 = events ++ done

theorem tryProcess_ensures (client : SshClient World Exc Session)
    (parameters : SSHShellProcessParameters) (command : Text)
    {raises : SshError Exc → SshState World Session → Prop} :
    Effect.Ensures (fun state : SshState World Session => state.2 = events)
      (tryProcess client parameters command) (Tried (wrapCommand parameters) command events)
      raises := by
  unfold tryProcess
  apply Effect.ensures_bind _ (Effect.ensures_attempt (connectSession_ensures client))
  intro connected
  cases connected with
  | error error =>
      apply Effect.ensures_pure
      intro state known
      refine ⟨fun process same => (by cases same), fun other _ => ?_⟩
      rcases known.2 error rfl with failed | failed
      · exact ⟨[.connect], .connect, failed⟩
      · exact ⟨[.connect, .openSession], .openSession, failed⟩
  | ok session =>
      have executes := @recorded_ensures _ _ _ _ (events ++ [.connect, .openSession])
        (.exec session (wrapCommand parameters command)) (@SshError.raised Exc)
        (client.execCommand session (wrapCommand parameters command))
      apply Effect.ensures_bind _ (Effect.ensures_attempt (executes.mono
        (fun state known => known.1 session rfl) (fun _ _ same => same) fun _ _ same => same))
      intro ran
      cases ran with
      | error error =>
          apply Effect.ensures_pure
          intro state known
          refine ⟨fun process same => (by cases same), fun other _ => ?_⟩
          refine ⟨[.connect, .openSession, .exec session (wrapCommand parameters command)],
            .exec session, ?_⟩
          rw [(known.2 error rfl).1, List.append_assoc]
          rfl
      | ok ended =>
          apply Effect.ensures_pure
          intro state known
          refine ⟨fun process same => ?_, fun other same => (by cases same)⟩
          cases same
          rw [known.1 () rfl, List.append_assoc]
          rfl

/-! ### The loop -/

/-- What the checks behind a failed attempt say. -/
theorem checkAttempt_cases (attempt : RetryAttempt) (command : Text) :
    (¬attempt.AtLimit ∧ (checkAttempt attempt command : Except (SshError Exc) Unit) = .ok ()) ∨
    (attempt.countLeft = some 0 ∧ (checkAttempt attempt command : Except (SshError Exc) Unit) =
      .error (.retryLimit (.count attempt))) ∨
    (attempt.timeLeft = some 0 ∧ (checkAttempt attempt command : Except (SshError Exc) Unit) =
      .error (.shellTimeoutExpired command (some 0))) := by
  by_cases last : attempt.AtLimit
  · right
    by_cases counted : attempt.countLeft = some 0
    · left
      refine ⟨counted, ?_⟩
      simp [checkAttempt, RetryAttempt.checkLimits, RetryAttempt.checkCountLeft, counted,
        RetryAttempt.reraise]
      rfl
    · right
      have timed : attempt.timeLeft = some 0 := by
        unfold RetryAttempt.AtLimit at last
        rw [← RetryAttempt.countLeft_eq_zero, ← RetryAttempt.timeLeft_eq_zero] at last
        exact last.resolve_left counted
      refine ⟨timed, ?_⟩
      simp [checkAttempt, RetryAttempt.checkLimits, RetryAttempt.checkCountLeft,
        RetryAttempt.checkTimeLeft, counted, timed, RetryAttempt.reraise]
      rfl
  · left
    refine ⟨last, ?_⟩
    unfold checkAttempt
    rw [RetryAttempt.checkLimits_ok last]

theorem Allows.before {retry : Retry} {number : Int} (allowed : retry.Allows number) :
    retry.Allows (number - 1) := by
  intro count counted
  have within := allowed count counted
  omega

section Turn

variable {retry : Retry} {wrap : Text → Text} {start command : Text} {number : Int}
  {frame : Retry.Frame}

/-- How a turn ends. -/
def TurnEnds (retry : Retry) (wrap : Text → Text) (start : Text) (attempt : RetryAttempt)
    (number : Int) : Retry.Turn Text Session → SshState World Session → Prop :=
  Retry.Turn.Holds
    (fun command after => ¬attempt.AtLimit ∧ Before retry wrap start (number + 1) command after)
    (Created retry wrap start)

theorem afterError_ensures (client : SshClient World Exc Session)
    (reached : frame.Reached retry number) (allowed : retry.Allows number)
    (failed : FailedAttempts wrap start (number + 1) command (events ++ [.close])) :
    Effect.Ensures (fun state : SshState World Session => state.2 = events)
      (afterError client frame.attempt command) (TurnEnds retry wrap start frame.attempt number)
      (NotCreated retry wrap start) := by
  unfold afterError
  apply Effect.ensures_bind fun _ (closed : SshState World Session) =>
    closed.2 = events ++ [.close]
  · apply (recorded_ensures SshEvent.close SshError.raised client.close).mono
    · exact fun _ same => same
    · exact fun _ _ same => same
    · rintro error closed ⟨same, exception, rfl⟩
      refine .raised ?_ (same ▸ failed)
      rwa [Int.add_sub_cancel]
  · intro _
    rcases @checkAttempt_cases Exc frame.attempt command with
      ⟨free, checked⟩ | ⟨counted, checked⟩ | ⟨timed, checked⟩
    · rw [checked]
      apply Effect.ensures_bind fun _ (closed : SshState World Session) =>
        closed.2 = events ++ [.close]
      · exact Effect.ensures_pure fun _ same => same
      · intro _
        apply Effect.ensures_pure
        intro closed same
        exact ⟨free, Retry.Allows.next reached free, same ▸ failed⟩
    · rw [checked]
      apply Effect.ensures_bind fun _ _ => False
      · apply Effect.ensures_raise
        intro closed same
        obtain ⟨count, given, within⟩ := (RetryAttempt.countLeft_eq_zero _).mp counted
        have counts : retry.count = some count := by rw [← reached.count_eq, given]
        have most := allowed count counts
        have positive := reached.positive
        rw [reached.number_eq] at within
        have number_eq : number = max 1 count := by omega
        exact .countLimit counts (number_eq ▸ same ▸ failed)
      · exact fun _ _ impossible => impossible.elim
    · rw [checked]
      apply Effect.ensures_bind fun _ _ => False
      · apply Effect.ensures_raise
        intro closed same
        obtain ⟨timeout, given, -⟩ := (RetryAttempt.timeLeft_eq_zero _).mp timed
        refine .timeLimit allowed ?_ (same ▸ failed)
        rw [← reached.timeout_eq, given]
        rfl
      · exact fun _ _ impossible => impossible.elim

/-- A turn creates the process, or leaves a failed attempt behind it. -/
theorem createTurn_keeps (client : SshClient World Exc Session)
    (parameters : SSHShellProcessParameters) (retry : Retry) (start : Text) :
    Retry.KeepsGuarded retry (createTurn client parameters)
      (Before retry (wrapCommand parameters) start)
      (Created retry (wrapCommand parameters) start)
      (NotCreated retry (wrapCommand parameters) start) := by
  rintro frame number command reached state ⟨allowed, failed⟩
  have turn : Effect.Ensures (fun other : SshState World Session => other.2 = state.2)
      (createTurn client parameters frame.attempt command)
      (TurnEnds retry (wrapCommand parameters) start frame.attempt number)
      (NotCreated retry (wrapCommand parameters) start) := by
    unfold createTurn
    apply Effect.ensures_bind fun _ (other : SshState World Session) => other.2 = state.2
    · apply (perform_ensures SshError.raised client.login).mono
      · exact fun _ same => same
      · exact fun _ _ same => same
      · rintro error after ⟨same, exception, rfl⟩
        exact .raised (Allows.before allowed) (same ▸ failed)
    · intro _
      apply Effect.ensures_bind _ (tryProcess_ensures client parameters command)
      rintro ⟨wrapped, tried⟩
      cases tried with
      | ok process =>
          apply Effect.ensures_pure
          intro after ended
          exact ⟨number, command, state.2, allowed, failed, ended.1 process rfl⟩
      | error error =>
          intro after ended
          obtain ⟨done, attempted, same⟩ := ended.2 error rfl
          have again := failed.again attempted
          rw [← List.append_assoc, ← same] at again
          exact afterError_ensures client reached allowed again after rfl
  exact turn state rfl

theorem untimed_before (clock : Clock World) (retry : Retry) (wrap : Text → Text) (start : Text)
    (number : Int) (command : Text) :
    Retry.Untimed (clock.paired (List (SshEvent Session)))
      (Before retry wrap start number command) :=
  ⟨fun _ holds => holds, fun _ _ holds => holds⟩

theorem before_start {state : SshState World Session} (empty : state.2 = []) (retry : Retry)
    (wrap : Text → Text) (start : Text) : Before retry wrap start 1 start state := by
  refine ⟨fun count _ => le_max_left 1 count, ?_⟩
  rw [empty]
  exact .none

theorem createProcess_ensures (client : SshClient World Exc Session)
    (parameters : SSHShellProcessParameters) (connectParameters : Option ConnectParameters)
    (turns : Nat) (command : Text) :
    Effect.Ensures (fun state : SshState World Session => state.2 = [])
      (createProcess client parameters connectParameters turns command)
      (Created (processRetry parameters connectParameters) (wrapCommand parameters) command)
      (NotCreated (processRetry parameters connectParameters) (wrapCommand parameters) command) := by
  intro state empty
  apply Retry.loop_ensures_guarded (untimed_before client.clock _ _ command)
    (createTurn_keeps client parameters (processRetry parameters connectParameters) command)
    turns command state
  exact before_start empty _ _ command

theorem createTurn_ends (client : SshClient World Exc Session)
    (parameters : SSHShellProcessParameters) (attempt : RetryAttempt) (command : Text) :
    (createTurn client parameters attempt command).Ends := by
  have connects : (connectSession client).Ends := by
    apply Effect.ends_bind (recorded_ends SshEvent.connect SshError.raised client.connect)
    intro _
    apply Effect.ends_bind (Effect.ends_update _)
    exact fun _ => request_ends SshError.raised client.openSession
  apply Effect.ends_bind (perform_ends SshError.raised client.login)
  intro _
  apply Effect.ends_bind
  · apply Effect.ends_bind (Effect.ends_attempt connects)
    intro connected
    cases connected with
    | error error => exact fun _ => rfl
    | ok session =>
        apply Effect.ends_bind (Effect.ends_attempt (recorded_ends _ SshError.raised _))
        intro ran
        cases ran with
        | error error => exact fun _ => rfl
        | ok ended => exact fun _ => rfl
  · rintro ⟨wrapped, tried⟩
    cases tried with
    | ok process => exact fun _ => rfl
    | error error =>
        apply Effect.ends_bind (recorded_ends SshEvent.close SshError.raised client.close)
        intro _
        exact Effect.ends_bind (Effect.ends_ofExcept _) fun _ _ => rfl

/-- With a count the run ends, whatever the client does. -/
theorem createProcess_ends (client : SshClient World Exc Session)
    (parameters : SSHShellProcessParameters) {connectParameters : Option ConnectParameters}
    {count : Int} (counted : (processRetry parameters connectParameters).count = some count)
    {turns : Nat} (enough : max 1 count ≤ turns) (command : Text)
    {state : SshState World Session} (empty : state.2 = []) :
    (createProcess client parameters connectParameters turns command state).isSome := by
  apply Retry.loop_ends_guarded (untimed_before client.clock _ _ command)
    (createTurn_keeps client parameters (processRetry parameters connectParameters) command)
  · intro number current after holds
    show number ≤ ((max 1 count).toNat : Int)
    have within := holds.1 count counted
    omega
  · exact createTurn_ends client parameters
  · omega
  · exact before_start empty _ _ command

/-- What a run that has created the process has done: the process is the session that has been
given the last command, which has been wrapped for each command that has been run. -/
structure Ran (retry : Retry) (wrap : Text → Text) (start : Text) (process : Session)
    (state : SshState World Session) : Prop where
  created : Created retry wrap start process state
  commands : ∃ ran, executed state.2 = wrappings wrap start (ran + 1) ∧
    state.2.getLast? = some (.exec process (wrap^[ran + 1] start))

/-- What a run that raises has done: the commands are wrapped as they are in other runs, and the
client is closed behind the last of them. -/
structure GaveUp (retry : Retry) (wrap : Text → Text) (start : Text) (error : SshError Exc)
    (state : SshState World Session) : Prop where
  notCreated : NotCreated retry wrap start error state
  commands : ∃ ran, executed state.2 = wrappings wrap start ran
  closed : state.2 = [] ∨ state.2.getLast? = some .close

theorem Created.ran {process : Session} {state : SshState World Session}
    (created : Created retry wrap start process state) : Ran retry wrap start process state := by
  refine ⟨created, ?_⟩
  obtain ⟨number, command, before, allowed, failed, same⟩ := created
  obtain ⟨ran, commands, rfl⟩ := failed.executed_eq
  have next : wrap (wrap^[ran] start) = wrap^[ran + 1] start :=
    (Function.iterate_succ_apply' wrap ran start).symm
  refine ⟨ran, ?_, ?_⟩
  · unfold executed at commands ⊢
    rw [same, List.filterMap_append, commands, wrappings_succ, ← next]
    rfl
  · rw [same, next]
    simp

theorem NotCreated.gaveUp {error : SshError Exc} {state : SshState World Session}
    (notCreated : NotCreated retry wrap start error state) :
    GaveUp retry wrap start error state := by
  have attempts : ∃ number command, FailedAttempts wrap start number command state.2 := by
    cases notCreated with
    | raised _ failed => exact ⟨_, _, failed⟩
    | timeLimit _ _ failed => exact ⟨_, _, failed⟩
    | countLimit _ failed => exact ⟨_, _, failed⟩
  obtain ⟨number, command, failed⟩ := attempts
  obtain ⟨ran, commands, -⟩ := failed.executed_eq
  exact ⟨notCreated, ⟨ran, commands⟩, failed.closed.imp And.right id⟩

/-- **The runs of a creation.** Nothing comes before the process but failed attempts, each of which
ends with the client being closed; there are no more of them than the count allows; and where no
process is created there is nothing but failed attempts, as many as the error tells. The n-th
command that is run is the given one wrapped n times, and a timeout that has expired is always told
to be zero. With a count each run ends. -/
theorem create_process_run (client : SshClient World Exc Session)
    (parameters : SSHShellProcessParameters) (connectParameters : Option ConnectParameters)
    (turns : Nat) (command : Text) :
    Effect.Ensures (fun state : SshState World Session => state.2 = [])
        (createProcess client parameters connectParameters turns command)
        (Ran (processRetry parameters connectParameters) (wrapCommand parameters) command)
        (GaveUp (processRetry parameters connectParameters) (wrapCommand parameters) command) ∧
      ∀ count, (processRetry parameters connectParameters).count = some count →
        max 1 count ≤ turns → ∀ state : SshState World Session, state.2 = [] →
          (createProcess client parameters connectParameters turns command state).isSome := by
  constructor
  · apply (createProcess_ensures client parameters connectParameters turns command).mono
    · exact fun _ start => start
    · exact fun _ _ created => created.ran
    · exact fun _ _ failed => failed.gaveUp
  · exact fun count counted enough state empty =>
      createProcess_ends client parameters counted enough command empty

/-- A host that loses the first session before the command is run. -/
def losingClient : SshClient ℚ String ℚ where
  clock := Clock.ideal
  login now := (none, now)
  connect now := (none, now)
  openSession now := (.ok now, now)
  execCommand _ _ now := (if now < 1 then some "session lost" else none, now)
  close now := (none, now)

def inDirectory : SSHShellProcessParameters := { currentDir := some "logs".toList }

theorem create_process_run_twice :
    ∃ process after, createProcess losingClient inDirectory none 2 "ls".toList (0, []) =
        some (.ok process, after) ∧
      Ran (processRetry inDirectory none) (wrapCommand inDirectory) "ls".toList process after ∧
      executed after.2 = ["cd logs && ls".toList, "cd logs && cd logs && ls".toList] := by
  have ran : (createProcess losingClient inDirectory none 2 "ls".toList (0, [])).map
      (fun ended => (ended.1, executed ended.2.2)) =
        some (.ok 5, ["cd logs && ls".toList, "cd logs && cd logs && ls".toList]) := by
    decide +kernel
  obtain ⟨⟨result, after⟩, ended, same⟩ := Option.map_eq_some_iff.mp ran
  obtain ⟨rfl, commands⟩ := Prod.mk.inj same
  exact ⟨5, after, ended, ((create_process_run losingClient inDirectory none 2 "ls".toList).1
    (0, []) rfl _ _ ended).1 5 rfl, commands⟩

end Turn

/-! ### The number of attempts -/

section Limits

theorem le_higherOf {Value : Type} [LinearOrder Value] [Zero Value] {client : Value}
    (nonzero : client ≠ 0) (own : Option Value) :
    ∃ limit, higherOf (some client) own = some limit ∧ client ≤ limit := by
  unfold higherOf
  by_cases higher : client ≠ 0 ∧ (own = none ∨ ∃ limit ∈ own, limit < client)
  · exact ⟨client, if_pos higher, le_refl client⟩
  · cases own with
    | none => exact absurd ⟨nonzero, .inl rfl⟩ higher
    | some limit =>
        refine ⟨limit, if_neg higher, not_lt.mp fun less => ?_⟩
        exact higher ⟨nonzero, .inr ⟨limit, rfl, less⟩⟩

/-- The retry makes as many attempts as the client makes in each of them. -/
theorem processRetry_count (parameters : SSHShellProcessParameters)
    {connectParameters : ConnectParameters} {attempts : Int} (positive : 0 < attempts)
    (given : connectParameters.connectionAttempts = some attempts) :
    ∃ count, (processRetry parameters (some connectParameters)).count = some count ∧
      attempts ≤ count := by
  obtain ⟨count, higher, covers⟩ := le_higherOf (Int.ne_of_gt positive) parameters.retryCount
  refine ⟨count, ?_, covers⟩
  have default_ : processRetryAttempts parameters (some connectParameters) = some count := by
    unfold processRetryAttempts
    rw [Option.bind_some, given, higher]
  unfold processRetry
  rw [retry_eq, default_]
  rfl

/-- Its time is as long as the time of the client. -/
theorem processRetry_timeout (parameters : SSHShellProcessParameters)
    {connectParameters : ConnectParameters} {timeout : ℚ} (positive : 0 < timeout)
    (given : connectParameters.connectionTimeout = some timeout) :
    ∃ limit : ℚ≥0, (processRetry parameters (some connectParameters)).timeout = some limit ∧
      timeout ≤ limit := by
  obtain ⟨limit, higher, covers⟩ := le_higherOf (ne_of_gt positive) parameters.timeout
  have positiveLimit : 0 < limit := lt_of_lt_of_le positive covers
  have given_ : processRetryTimeout parameters (some connectParameters) = some limit := by
    unfold processRetryTimeout
    rw [Option.bind_some, given, higher]
  refine ⟨toSecondsFloat limit, ?_, ?_⟩
  · unfold processRetry
    rw [retry_eq, given_]
    exact congrArg toSeconds (merged_of_ne_zero (ne_of_gt positiveLimit) _ _)
  · rw [coe_toSecondsFloat]
    exact le_max_of_le_left covers

end Limits

end Runs

end Tobiko.Shell.Sh.SshProcess
