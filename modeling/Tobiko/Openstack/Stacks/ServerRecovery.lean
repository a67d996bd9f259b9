import Tobiko.Common.RetryRecovery
import Tobiko.Openstack.Nova.ServerProtocol

/-!
Contract: `ensure_server_status` of `ServerStackFixture` in `tobiko/openstack/stacks/_nova.py`.

Owns: the loop that sets the fixture up, ensures the status of its server and deletes the stack
after a failure, and what the runs of this loop do to the stack.

Does not own: the stack, whose steps may raise, and how a status is ensured.
-/

namespace Tobiko.Openstack.Stacks

open Tobiko.Common Tobiko.Common.Time Tobiko.Foundation Tobiko.Foundation.Recorded
open Tobiko.Openstack.Nova.Servers

/-- The fixture of a server. Each of its steps may raise. -/
structure ServerStack (World Exc : Type) where
  step : FixtureStep → World → Option Exc × World
  serverId : World → Except Exc String × World

/-- The arguments of `ensure_server_status`. -/
structure RetryLimits where
  retryCount : Option Int := none
  retryTimeout : Option ℚ := none
  retryInterval : Option ℚ := none

def RetryLimits.retry (limits : RetryLimits) : Retry :=
  Tobiko.Common.retry
    { otherRetry := none
      count := limits.retryCount
      timeout := limits.retryTimeout
      sleepTime := none
      interval := limits.retryInterval
      defaultCount := some 3
      defaultTimeout := some 900
      defaultSleepTime := none
      defaultInterval := some 3 }

/-- The number of attempts that are made at most: a count of zero is taken for none, and a negative
one does not prevent the first attempt. -/
def RetryLimits.attempts (limits : RetryLimits) : Int :=
  max 1 ((orOther limits.retryCount (some 3)).getD 3)

theorem RetryLimits.retry_count (limits : RetryLimits) :
    limits.retry.count = some ((orOther limits.retryCount (some 3)).getD 3) := by
  simp only [RetryLimits.retry, Tobiko.Common.retry, RetryArguments.applyOther, Retry.init]
  cases limits.retryCount with
  | none => rfl
  | some count =>
      by_cases zero : count = 0
      · simp [orOther, zero]
      · simp [orOther, zero]

theorem RetryLimits.allows_iff (limits : RetryLimits) (number : Int) :
    limits.retry.Allows number ↔ number ≤ limits.attempts := by
  unfold Retry.Allows
  rw [limits.retry_count]
  constructor
  · exact fun allowed => allowed _ rfl
  · intro few count counted
    cases counted
    exact few

/-- `WaitForServerStatusError` -/
def isWaitForServerStatus {Exc : Type} : NovaError Exc → Bool
  | .waitForServerStatus .. | .waitForServerStatusTimeout .. => true
  | _ => false

section Stack

variable {World Exc : Type} (stack : ServerStack World Exc) (nova : NovaService World Exc)
  (clock : Clock World)

def ServerStack.run (step : FixtureStep) :
    Effect (NovaError Exc) (World × List ServerEvent) Unit := do
  record (.fixture step)
  perform .service (stack.step step)

def ServerStack.getServerId : Effect (NovaError Exc) (World × List ServerEvent) String :=
  request .service stack.serverId

/-- What is tried in an attempt, with its `else` clause. -/
def tryServerStatus (novaTurns : Nat) (status : String) (attempt : RetryAttempt) :
    Effect (NovaError Exc) (World × List ServerEvent) Server := do
  stack.run .setUp
  let serverId ← stack.getServerId
  let server ← ensureServerStatus nova clock novaTurns (some (.id serverId)) status
    { timeout := attempt.timeLeft }
  if server.status = status then
    return server
  Effect.raise .assertion

def statusRecovery (novaTurns : Nat) (status : String) :
    Recovery (NovaError Exc) (World × List ServerEvent) Server where
  attempt := tryServerStatus stack nova clock novaTurns status
  recoverable := isWaitForServerStatus
  recover := stack.run .cleanUp

/-- `ensure_server_status` of the fixture -/
def ServerStack.ensureServerStatus (turns novaTurns : Nat) (status : String)
    (limits : RetryLimits) : Effect (NovaError Exc) (World × List ServerEvent) Server := do
  stack.run .closeSsh
  (statusRecovery stack nova clock novaTurns status).run limits.retry (clock.paired _) waitErrors
    turns

end Stack

/-! ### The rounds of a run -/

/-- How the service's `ensure_server_status` ends: it has followed the protocol of the status, or the
status has none and nothing was done. -/
inductive StatusRan {Exc : Type} (status : String) :
    List ServerEvent → Except (NovaError Exc) Server → Prop where
  | followed (protocol : Protocol) (round : List ServerEvent) (result : Except (NovaError Exc) Server)
      (taken : (ServerCall.ensure status).protocol = some protocol)
      (ran : protocol.Ran round result) : StatusRan status round result
  | unsupported (untaken : (ServerCall.ensure status).protocol = none) :
      StatusRan status [] (.error (.unsupportedServerStatus status))

/-- A try that raises: the fixture has been set up, and its set up, or the reading of the id, or the
change of the status has failed. -/
inductive TryRaised {Exc : Type} (status : String) : NovaError Exc → List ServerEvent → Prop where
  | unready (exception : Exc) : TryRaised status (.service exception) [.fixture .setUp]
  | changing (error : NovaError Exc) (round : List ServerEvent)
      (ran : StatusRan status round (.error error)) :
      TryRaised status error (.fixture .setUp :: round)

/-- The fixture has been set up, and its server has not got the status. -/
def FailedRound {Exc : Type} (status : String) (error : NovaError Exc) (round : List ServerEvent) :
    Prop :=
  isWaitForServerStatus error = true ∧ TryRaised status error round

/-- The events before an attempt of that number: failed rounds, each with a deletion after it. -/
inductive Recovered (Exc : Type) (status : String) : Int → List ServerEvent → Prop where
  | first : Recovered Exc status 1 []
  | again (number : Int) (before round : List ServerEvent) (error : NovaError Exc)
      (earlier : Recovered Exc status number before) (failed : FailedRound status error round) :
      Recovered Exc status (number + 1) (before ++ round ++ [.fixture .cleanUp])

/-- The attempt of that number, with which a run ends. Behind a failed round that is not the last
that the count allows the stack may be deleted by a step that raises; there is no other deletion. -/
inductive LastRound {Exc : Type} (limits : RetryLimits) (status : String) (number : Int) :
    Except (NovaError Exc) Server → List ServerEvent → Prop where
  | returned (server : Server) (round : List ServerEvent) (met : server.status = status)
      (ran : StatusRan status round (.ok server : Except (NovaError Exc) Server)) :
      LastRound limits status number (.ok server) (.fixture .setUp :: round)
  | raised (error : NovaError Exc) (last : List ServerEvent) (raised : TryRaised status error last) :
      LastRound limits status number (.error error) last
  | deleting (error : NovaError Exc) (round : List ServerEvent) (exception : Exc)
      (failed : FailedRound status error round) (more : number + 1 ≤ limits.attempts) :
      LastRound limits status number (.error (.service exception)) (round ++ [.fixture .cleanUp])

/-- The events of a run: each attempt but the last one has failed and the stack was deleted after
it. A connection that cannot be closed leaves no attempt. -/
inductive StackRun {Exc : Type} (limits : RetryLimits) (status : String) :
    Except (NovaError Exc) Server → List ServerEvent → Prop where
  | closing (exception : Exc) :
      StackRun limits status (.error (.service exception)) [.fixture .closeSsh]
  | attempted (result : Except (NovaError Exc) Server) (number : Int)
      (before last : List ServerEvent) (allowed : number ≤ limits.attempts)
      (earlier : Recovered Exc status number before)
      (ended : LastRound limits status number result last) :
      StackRun limits status result (.fixture .closeSsh :: (before ++ last))

def countOf (step : FixtureStep) (events : List ServerEvent) : Nat := events.count (.fixture step)

/-- The stack has been kept: the run has returned, or has given up on the status. -/
def Kept {Exc : Type} (result : Except (NovaError Exc) Server) : Prop :=
  (∃ server, result = .ok server) ∨
    ∃ error, result = .error error ∧ isWaitForServerStatus error = true

/-- How often a run sets the stack up and deletes it. -/
structure Counted {Exc : Type} (limits : RetryLimits) (result : Except (NovaError Exc) Server)
    (trace : List ServerEvent) : Prop where
  setUps : (countOf .setUp trace : Int) ≤ limits.attempts
  cleanUps : (countOf .cleanUp trace : Int) < limits.attempts
  kept : Kept result → countOf .setUp trace = countOf .cleanUp trace + 1

section Rounds

variable {Exc : Type} {limits : RetryLimits} {status : String} {number : Int}
  {before round last trace : List ServerEvent} {result : Except (NovaError Exc) Server}

/-- The steps of the fixture are not those of a run that changes the status. -/
theorem follow_no_step {protocol : Protocol} {phase : Phase}
    (followed : protocol.follow trace = some phase) (step : FixtureStep) :
    ServerEvent.fixture step ∉ trace := by
  induction trace using List.reverseRecOn generalizing phase with
  | nil => exact List.not_mem_nil
  | append_singleton trace event inductionHypothesis =>
      unfold Protocol.follow at followed
      rw [List.foldlM_append] at followed
      obtain ⟨middle, earlier, stepped⟩ := Option.bind_eq_some_iff.mp followed
      intro member
      rcases List.mem_append.mp member with inTrace | isLast
      · exact inductionHypothesis earlier inTrace
      · have last : event = .fixture step := (List.mem_singleton.mp isLast).symm
        subst last
        cases middle with
        | start => cases stepped
        | resizing => cases stepped
        | requesting action => cases stepped
        | waiting => cases stepped
        | reached server => cases stepped
        | stuck server => cases stepped

theorem StatusRan.countOf_eq_zero (ran : StatusRan status round result) (step : FixtureStep) :
    countOf step round = 0 := by
  apply List.count_eq_zero_of_not_mem
  cases ran with
  | unsupported untaken => exact List.not_mem_nil
  | followed protocol round result taken ran =>
      cases result with
      | ok server => exact follow_no_step (ran.returned server rfl).1 step
      | error error =>
          obtain ⟨phase, followed, -⟩ := ran.raised error rfl
          exact follow_no_step followed step

theorem countOf_cons (step other : FixtureStep) (events : List ServerEvent) :
    countOf step (.fixture other :: events) = countOf step events + if other = step then 1 else 0 := by
  unfold countOf
  rw [List.count_cons]
  by_cases same : other = step
  · simp [same]
  · simp [same]

theorem countOf_append (step : FixtureStep) (events others : List ServerEvent) :
    countOf step (events ++ others) = countOf step events + countOf step others :=
  List.count_append

theorem TryRaised.counts {error : NovaError Exc} (raised : TryRaised status error round) :
    countOf .setUp round = 1 ∧ countOf .cleanUp round = 0 := by
  cases raised with
  | unready exception => exact ⟨rfl, rfl⟩
  | changing error round ran =>
      rw [countOf_cons, countOf_cons, ran.countOf_eq_zero, ran.countOf_eq_zero]
      exact ⟨rfl, rfl⟩

/-- The stack has been set up and deleted once for each earlier attempt. -/
theorem Recovered.counts (recovered : Recovered Exc status number before) :
    (countOf .setUp before : Int) + 1 = number ∧ (countOf .cleanUp before : Int) + 1 = number := by
  induction recovered with
  | first => exact ⟨rfl, rfl⟩
  | again number before round error earlier failed inductionHypothesis =>
      obtain ⟨setUps, cleanUps⟩ := failed.2.counts
      have deletion : countOf .setUp [.fixture .cleanUp] = 0 ∧
          countOf .cleanUp [.fixture .cleanUp] = 1 := ⟨rfl, rfl⟩
      simp only [countOf_append, setUps, cleanUps, deletion]
      omega

theorem LastRound.counts (ended : LastRound limits status number result last) :
    countOf .setUp last = 1 ∧ (countOf .cleanUp last = 0 ∨
      countOf .cleanUp last = 1 ∧ number + 1 ≤ limits.attempts ∧ ¬Kept result) := by
  cases ended with
  | returned server round met ran =>
      rw [countOf_cons, countOf_cons, ran.countOf_eq_zero, ran.countOf_eq_zero]
      exact ⟨rfl, .inl rfl⟩
  | raised error last raised => exact ⟨raised.counts.1, .inl raised.counts.2⟩
  | deleting error round exception failed more =>
      obtain ⟨setUps, cleanUps⟩ := failed.2.counts
      rw [countOf_append, countOf_append, setUps, cleanUps]
      refine ⟨rfl, .inr ⟨rfl, more, ?_⟩⟩
      rintro (⟨server, same⟩ | ⟨other, same, recoverable⟩)
      · cases same
      · cases same
        cases recoverable

theorem StackRun.counted (ran : StackRun limits status result trace) :
    Counted limits result trace := by
  have first : 1 ≤ limits.attempts := le_max_left 1 _
  cases ran with
  | closing exception =>
      have none_set : countOf .setUp [.fixture .closeSsh] = 0 ∧
          countOf .cleanUp [.fixture .closeSsh] = 0 := ⟨rfl, rfl⟩
      refine ⟨by omega, by omega, ?_⟩
      rintro (⟨server, same⟩ | ⟨other, same, recoverable⟩)
      · cases same
      · cases same
        cases recoverable
  | attempted result number before last allowed earlier ended =>
      obtain ⟨setUps, cleanUps⟩ := earlier.counts
      obtain ⟨once, deletions⟩ := ended.counts
      have closing : ∀ step : FixtureStep, step ≠ .closeSsh →
          countOf step (.fixture .closeSsh :: (before ++ last)) =
            countOf step before + countOf step last := by
        intro step different
        rw [countOf_cons, countOf_append, if_neg (Ne.symm different)]
        rfl
      have setUpsEq := closing .setUp (by decide)
      have cleanUpsEq := closing .cleanUp (by decide)
      refine ⟨by omega, by omega, fun kept => ?_⟩
      rcases deletions with none_deleted | ⟨-, -, unkept⟩
      · omega
      · exact absurd kept unkept

end Rounds

/-! ### The runs -/

section Runs

variable {World Exc : Type} {stack : ServerStack World Exc} {nova : NovaService World Exc}
  {clock : Clock World} {status : String} {events : List ServerEvent} {limits : RetryLimits}

theorem run_ensures (step : FixtureStep) (events : List ServerEvent) :
    Effect.Ensures (fun state => state.2 = events) (stack.run step)
      (fun _ state => state.2 = events ++ [.fixture step])
      (fun error state => state.2 = events ++ [.fixture step] ∧
        ∃ exception, error = .service exception) :=
  recorded_ensures (ServerEvent.fixture step) NovaError.service (stack.step step)

theorem getServerId_ensures (events : List ServerEvent) :
    Effect.Ensures (fun state => state.2 = events) stack.getServerId
      (fun _ state => state.2 = events)
      (fun error state => state.2 = events ∧ ∃ exception, error = .service exception) :=
  request_ensures NovaError.service stack.serverId

/-- The protocol of a status waits for it, and takes no other one for it. -/
theorem protocol_of_status {protocol : Protocol}
    (taken : (ServerCall.ensure status).protocol = some protocol) :
    protocol.target = status ∧
      ∀ server, protocol.react server = .reached server → server.status = status := by
  simp only [ServerCall.protocol] at taken
  split at taken
  · rename_i active
    cases taken
    refine ⟨active.symm, fun server reacted => ?_⟩
    rcases activateProtocol_direct server reacted with met | rebooting
    · exact met.trans active.symm
    · simp [activateProtocol, rebooting] at reacted
  · split at taken
    · rename_i off
      cases taken
      refine ⟨off.symm, fun server reacted => ?_⟩
      rcases shutoffProtocol_direct server reacted with met | rebooting
      · exact met.trans off.symm
      · simp [shutoffProtocol, rebooting] at reacted
    · cases taken

/-- A server that is returned has the status. -/
theorem StatusRan.status_eq {trace : List ServerEvent} {server : Server}
    (ran : StatusRan status trace (.ok server : Except (NovaError Exc) Server)) :
    server.status = status := by
  cases ran with
  | followed protocol round result taken ran =>
      obtain ⟨target, reacts⟩ := protocol_of_status taken
      obtain ⟨followed, -, met | ⟨-, only⟩⟩ := ran.returned server rfl
      · rw [met, target]
      · apply reacts
        subst only
        simpa [Protocol.follow, Protocol.next] using followed

theorem ensureServerStatus_ensures (novaTurns : Nat) (serverId : String) (times : WaitTimes) :
    Effect.Ensures (fun state => state.2 = events)
      (ensureServerStatus nova clock novaTurns (some (.id serverId)) status times)
      (fun server state => ∃ round, state.2 = events ++ round ∧
        StatusRan status round (.ok server : Except (NovaError Exc) Server))
      (fun error state => ∃ round, state.2 = events ++ round ∧
        StatusRan status round (.error error : Except (NovaError Exc) Server)) := by
  intro state start result after ran
  have obeys : ∃ round, after.2 = events ++ round ∧ StatusRan status round result := by
    obtain ⟨follows, refuses⟩ := server_call_follows_protocol nova clock novaTurns
      (.ensure status) (some (.id serverId)) times state after result ran
    cases taken : (ServerCall.ensure status).protocol with
    | some protocol =>
        obtain ⟨round, added, obeyed, -⟩ := follows protocol taken
        exact ⟨round, by rw [added, start], .followed protocol round result taken obeyed⟩
    | none =>
        obtain ⟨rfl, other, same, rfl⟩ := refuses taken
        cases same
        exact ⟨[], by rw [start, List.append_nil], .unsupported taken⟩
  constructor
  · rintro server rfl
    exact obeys
  · rintro error rfl
    exact obeys

/-- What a try leaves: the fixture was set up, and the run of its server followed the protocol. -/
theorem try_ensures (novaTurns : Nat) (attempt : RetryAttempt) (events : List ServerEvent) :
    Effect.Ensures (fun state => state.2 = events)
      (tryServerStatus stack nova clock novaTurns status attempt)
      (fun server state => server.status = status ∧
        ∃ round, state.2 = events ++ .fixture .setUp :: round ∧
          StatusRan status round (.ok server : Except (NovaError Exc) Server))
      (fun error state => ∃ last, state.2 = events ++ last ∧ TryRaised status error last) := by
  apply Effect.ensures_bind (fun _ state => state.2 = events ++ [.fixture .setUp])
  · apply (run_ensures .setUp events).mono (fun _ same => same) (fun _ _ same => same)
    rintro error state ⟨same, exception, rfl⟩
    exact ⟨_, same, .unready exception⟩
  · intro _
    apply Effect.ensures_bind (fun _ state => state.2 = events ++ [.fixture .setUp])
    · apply (getServerId_ensures _).mono (fun _ same => same) (fun _ _ same => same)
      rintro error state ⟨same, exception, rfl⟩
      exact ⟨_, same, .unready exception⟩
    · intro serverId
      apply Effect.ensures_bind (fun server state => ∃ round,
        state.2 = events ++ .fixture .setUp :: round ∧
          StatusRan status round (.ok server : Except (NovaError Exc) Server))
      · apply (ensureServerStatus_ensures novaTurns serverId _).mono (fun _ same => same)
        · rintro server state ⟨round, added, ran⟩
          exact ⟨round, by rw [added, List.append_assoc]; rfl, ran⟩
        · rintro error state ⟨round, added, ran⟩
          exact ⟨_, by rw [added, List.append_assoc]; rfl, .changing error round ran⟩
      · intro server
        split
        · exact Effect.ensures_pure fun _ obeyed => ⟨‹_›, obeyed⟩
        · rename_i different
          apply Effect.ensures_raise
          rintro state ⟨trace, -, ran⟩
          exact absurd ran.status_eq different

/-- The attempts since then, of which the last one has ended with that result. -/
def Ended (limits : RetryLimits) (status : String) (events : List ServerEvent)
    (result : Except (NovaError Exc) Server) (state : World × List ServerEvent) : Prop :=
  ∃ number before last, number ≤ limits.attempts ∧ Recovered Exc status number before ∧
    state.2 = events ++ (before ++ last) ∧ LastRound limits status number result last

theorem statusRecovery_steps (novaTurns : Nat) (events : List ServerEvent) :
    (statusRecovery stack nova clock novaTurns status).Steps limits.retry
      (fun number state => ∃ before, Recovered Exc status number before ∧
        state.2 = events ++ before)
      (fun number error state => ∃ before round, Recovered Exc status number before ∧
        FailedRound status error round ∧ state.2 = events ++ (before ++ round))
      (fun server state =>
        Ended limits status events (.ok server : Except (NovaError Exc) Server) state)
      (fun error state => Ended limits status events (.error error) state) where
  attempt := by
    rintro number attempt allowed state ⟨before, recovered, start⟩
    have few := (limits.allows_iff number).mp allowed
    apply ((try_ensures novaTurns attempt (events ++ before)).mono
      (fun _ same => same) ?_ ?_) state start
    · rintro server after ⟨met, round, added, ran⟩
      refine ⟨number, before, _, few, recovered, ?_, .returned server round met ran⟩
      rw [added, List.append_assoc]
    · rintro error after ⟨last, added, raised⟩
      rw [List.append_assoc] at added
      split
      · rename_i recoverable
        exact ⟨before, last, recovered, ⟨recoverable, raised⟩, added⟩
      · exact ⟨number, before, last, few, recovered, added, .raised error last raised⟩
  recover := by
    rintro number error allowed state ⟨before, round, recovered, failed, start⟩
    have more := (limits.allows_iff (number + 1)).mp allowed
    apply ((run_ensures .cleanUp (events ++ (before ++ round))).mono
      (fun _ same => same) ?_ ?_) state start
    · intro _ after added
      refine ⟨_, .again number before round error recovered failed, ?_⟩
      rw [added]
      simp only [List.append_assoc]
    · rintro other after ⟨added, exception, rfl⟩
      refine ⟨number, before, round ++ [.fixture .cleanUp], by omega, recovered, ?_,
        .deleting error round exception failed more⟩
      rw [added]
      simp only [List.append_assoc]

theorem Ended.stackRun {result : Except (NovaError Exc) Server} {state : World × List ServerEvent}
    (ended : Ended limits status (events ++ [.fixture .closeSsh]) result state) :
    ∃ trace, state.2 = events ++ trace ∧ StackRun limits status result trace := by
  obtain ⟨number, before, last, allowed, earlier, added, round⟩ := ended
  refine ⟨_, ?_, .attempted result number before last allowed earlier round⟩
  rw [added, List.append_assoc]
  rfl

theorem serverStack_ensures (turns novaTurns : Nat) (events : List ServerEvent) :
    Effect.Ensures (fun state => state.2 = events)
      (stack.ensureServerStatus nova clock turns novaTurns status limits)
      (fun server after => ∃ trace, after.2 = events ++ trace ∧
        StackRun limits status (.ok server : Except (NovaError Exc) Server) trace)
      (fun error after => ∃ trace, after.2 = events ++ trace ∧
        StackRun limits status (.error error : Except (NovaError Exc) Server) trace) := by
  have steps := @statusRecovery_steps World Exc stack nova clock status limits novaTurns
    (events ++ [.fixture .closeSsh])
  apply Effect.ensures_bind (fun _ start => start.2 = events ++ [.fixture .closeSsh])
  · apply (run_ensures .closeSsh events).mono (fun _ same => same) (fun _ _ same => same)
    rintro error after ⟨added, exception, rfl⟩
    exact ⟨_, added, .closing exception⟩
  · intro _
    apply (Recovery.run_ensures (fun number => Retry.untimed_paired clock fun later =>
      ∃ before, Recovered Exc status number before ∧
        later = events ++ [.fixture .closeSsh] ++ before) steps turns).mono
    · intro start same
      exact ⟨[], .first, by rw [same, List.append_nil]⟩
    · exact fun server later ended => ended.stackRun
    · intro error later failed
      rcases failed with ended | ⟨-, frame, number, -, allowed, -, before, round, earlier, obeyed,
        added⟩
      · exact ended.stackRun
      · -- the last attempt has failed, and the error is raised as it is
        exact Ended.stackRun ⟨number, before, round, (limits.allows_iff number).mp allowed, earlier,
          added, .raised error round obeyed.2⟩

/-- **Ensuring the status of a stack's server.** Whatever Nova and the stack do, and for every status,
a run that ends has made as many attempts as its count allows at most. It has deleted the stack only
behind an attempt that has failed to change the status and that was not the last one of the count,
and has set it up again; it returns a server with the status, and when it gives up on the status the
stack of the last attempt is still there. -/
theorem ensure_stack_server_status_run (stack : ServerStack World Exc)
    (nova : NovaService World Exc) (clock : Clock World) (turns novaTurns : Nat) (status : String)
    (limits : RetryLimits) (state after : World × List ServerEvent)
    (result : Except (NovaError Exc) Server)
    (ran : stack.ensureServerStatus nova clock turns novaTurns status limits state =
      some (result, after)) :
    ∃ trace, after.2 = state.2 ++ trace ∧ StackRun limits status result trace ∧
      Counted limits result trace := by
  have obeys : ∃ trace, after.2 = state.2 ++ trace ∧ StackRun limits status result trace := by
    obtain ⟨returns, raises⟩ := serverStack_ensures turns novaTurns state.2 state rfl result after ran
    cases result with
    | ok server => exact returns server rfl
    | error error => exact raises error rfl
  obtain ⟨trace, added, obeyed⟩ := obeys
  exact ⟨trace, added, obeyed, obeyed.counted⟩

end Runs

/-! ### A server that is deleted once -/

section Deleted

/-- The steps of the fixture succeed; the first server is in error. -/
def secondStack : ServerStack (ℚ × Bool) Unit where
  step step world := (none, world.1 + 1, world.2 || decide (step = .cleanUp))
  serverId world := (.ok "server", world)

def secondNova : NovaService (ℚ × Bool) Unit where
  get id world := (.ok ⟨id, if world.2 then "ACTIVE" else "ERROR"⟩, world.1 + 1, world.2)
  act _ world := (none, world.1 + 1, world.2)

def secondTrace : List ServerEvent :=
  [.fixture .closeSsh,
    .fixture .setUp, .got ⟨"server", "ERROR"⟩, .sent (.reboot "server" .hard),
      .got ⟨"server", "ERROR"⟩, .fixture .cleanUp,
    .fixture .setUp, .got ⟨"server", "ACTIVE"⟩]

theorem secondStack_returns :
    ((secondStack.ensureServerStatus secondNova (Clock.ideal.paired Bool) 3 2 "ACTIVE" {}
      ((0, false), [])).map fun ended => (ended.1.toOption, ended.2.2)) =
        some (some ⟨"server", "ACTIVE"⟩, secondTrace) := by
  decide +kernel

theorem ensure_stack_server_status_run_second :
    StackRun {} "ACTIVE" (.ok ⟨"server", "ACTIVE"⟩ : Except (NovaError Unit) Server) secondTrace ∧
      Counted {} (.ok ⟨"server", "ACTIVE"⟩ : Except (NovaError Unit) Server) secondTrace := by
  obtain ⟨⟨result, after⟩, ran, same⟩ := Option.map_eq_some_iff.mp secondStack_returns
  cases result with
  | error error => cases same
  | ok server =>
      obtain ⟨returned, events⟩ := Prod.mk.inj same
      obtain rfl : server = ⟨"server", "ACTIVE"⟩ := Option.some.inj returned
      obtain ⟨trace, added, obeyed⟩ := ensure_stack_server_status_run secondStack secondNova
        (Clock.ideal.paired Bool) 3 2 "ACTIVE" {} ((0, false), []) after _ ran
      have all : trace = secondTrace := added.symm.trans events
      rwa [all] at obeyed

end Deleted

end Tobiko.Openstack.Stacks
