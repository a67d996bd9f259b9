import Tobiko.Common.RetryLimits
import Tobiko.Common.StatusWait
import Tobiko.Foundation.Recorded

/-!
Contract: the status of a server and the requests that change it, in
`tobiko/openstack/nova/_client.py`.

Owns: the requests to Nova with the answers that were read, the wait for a status of a server,
and the functions that shut off, activate and reboot a server and that ensure its status.

Does not own: the service, which answers as it likes, and what the runs of these functions have
in common (`ServerProtocol`).
-/

namespace Tobiko.Openstack.Nova.Servers

open Tobiko.Common Tobiko.Common.Time Tobiko.Foundation Tobiko.Foundation.Recorded

structure Server where
  id : String
  status : String
deriving DecidableEq, Repr

inductive ServerType where
  | id (id : String)
  | server (server : Server)

inductive RebootType where
  | soft
  | hard
deriving DecidableEq, Repr

inductive ServerAction where
  | start (id : String)
  | stop (id : String)
  | confirmResize (id : String)
  | reboot (id : String) (rebootType : RebootType)
deriving DecidableEq, Repr

/-- What the fixture of a server is asked for. -/
inductive FixtureStep where
  | closeSsh
  | setUp
  | cleanUp
deriving DecidableEq

/-- A server that was read, a request that was sent, or a step of the fixture that was begun. -/
inductive ServerEvent where
  | got (server : Server)
  | sent (action : ServerAction)
  | fixture (step : FixtureStep)
deriving DecidableEq

inductive NovaError (Exc : Type) where
  | serverNotFound (serverId : String)
  | service (exception : Exc)
  | assertion
  | unsupportedServerStatus (status : String)
  | waitForServerStatus (serverId serverStatus status : String)
  | waitForServerStatusTimeout (serverId serverStatus status : String) (timeout : Option ℚ)
  | retryLimit (error : RetryLimitError)
  | brokenRetryLoop

/-- The service. A server that is not found is told by `none`. -/
structure NovaService (World Exc : Type) where
  get : String → World → Except (Option Exc) Server × World
  act : ServerAction → World → Option Exc × World

def getServerId (server : Option ServerType) (serverId : Option String) :
    Option String :=
  match serverId, server with
  | some serverId, _ => some serverId
  | none, some (.id id) => some id
  | none, some (.server server) => some server.id
  | none, none => none

section Service

variable {World Exc : Type} (nova : NovaService World Exc) (clock : Clock World)

def getServer (server : Option ServerType) (serverId : Option String) :
    Effect (NovaError Exc) (World × List ServerEvent) Server :=
  match getServerId server serverId with
  | none => Effect.raise .assertion
  | some serverId => do
      match ← ask (nova.get serverId) with
      | .error none => Effect.raise (.serverNotFound serverId)
      | .error (some exception) => Effect.raise (.service exception)
      | .ok server =>
          record (.got server)
          pure server

/-- A request, which is on its way before it fails. -/
def requestAction (action : ServerAction) :
    Effect (NovaError Exc) (World × List ServerEvent) Unit := do
  record (.sent action)
  perform .service (nova.act action)

/-! ### Waiting -/

def novaServerTransientStatus : List (String × List String) :=
  [("ACTIVE", ["BUILD", "SHUTOFF", "REBOOT"]),
    ("SHUTOFF", ["ACTIVE"]),
    ("VERIFY_RESIZE", ["RESIZE"])]

/-- `NOVA_SERVER_TRANSIENT_STATUS.get(status) or []` -/
def transientStatusOf (status : String) : List String :=
  (novaServerTransientStatus.lookup status).getD []

/-- The arguments of the waits. -/
structure WaitTimes where
  timeout : Option ℚ := none
  sleepTime : Option ℚ := none

def WaitTimes.retry (times : WaitTimes) : Retry :=
  Tobiko.Common.retry
    { otherRetry := none
      count := none
      timeout := times.timeout
      sleepTime := none
      interval := times.sleepTime
      defaultCount := none
      defaultTimeout := some 300
      defaultSleepTime := none
      defaultInterval := some 3 }

def waitErrors : Retry.LoopErrors (NovaError Exc) := ⟨.retryLimit, .brokenRetryLoop⟩

/-- `check_time_left` raises `RetryTimeLimitError`. -/
def timeIsUp (attempt : RetryAttempt) : Bool :=
  match attempt.checkTimeLeft (none : Option Exc) with
  | .error _ => true
  | .ok _ => false

def statusWait (serverId status : String) (transientStatus : List String)
    (timeout : Option ℚ) :
    StatusWait (NovaError Exc) (World × List ServerEvent) Server where
  read := getServer nova none (some serverId)
  status := Server.status
  expected := status
  transient := transientStatus
  notChanging server := .waitForServerStatus serverId server.status status
  expired := @timeIsUp Exc
  timedOut server := .waitForServerStatusTimeout serverId server.status status timeout

def waitForServerStatus (turns : Nat) (server : ServerType) (status : String)
    (times : WaitTimes) (transientStatus : Option (List String)) :
    Effect (NovaError Exc) (World × List ServerEvent) Server :=
  match getServerId (some server) none with
  | none => Effect.raise .assertion
  | some serverId =>
      (statusWait nova serverId status (transientStatus.getD (transientStatusOf status))
        times.timeout).run times.retry (clock.paired _) waitErrors turns

/-! ### The requests that are due -/

def shutoffServer (turns : Nat) (server : Option ServerType) (times : WaitTimes) :
    Effect (NovaError Exc) (World × List ServerEvent) Server := do
  let server ← getServer nova server none
  if server.status = "SHUTOFF" then
    return server
  requestAction nova (.stop server.id)
  waitForServerStatus nova clock turns (.id server.id) "SHUTOFF" times none

/-- What is done for the status that was read, before the wait; it gives the server to wait for. -/
def activate (turns : Nat) (server : Server) (times : WaitTimes) :
    Effect (NovaError Exc) (World × List ServerEvent) Server := do
  if server.status = "SHUTOFF" then
    requestAction nova (.start server.id)
    return server
  if server.status = "RESIZE" then
    let server ← waitForServerStatus nova clock turns (.id server.id) "VERIFY_RESIZE" times none
    requestAction nova (.confirmResize server.id)
    return server
  if server.status = "VERIFY_RESIZE" then
    requestAction nova (.confirmResize server.id)
    return server
  if server.status ≠ "REBOOT" then
    requestAction nova (.reboot server.id .hard)
    return server
  return server

def activateServer (turns : Nat) (server : Option ServerType) (times : WaitTimes) :
    Effect (NovaError Exc) (World × List ServerEvent) Server := do
  let server ← getServer nova server none
  if server.status = "ACTIVE" then
    return server
  let server ← activate nova clock turns server times
  waitForServerStatus nova clock turns (.id server.id) "ACTIVE" times none

def rebootServer (turns : Nat) (server : Option ServerType) (times : WaitTimes) :
    Effect (NovaError Exc) (World × List ServerEvent) Server := do
  let server ← getServer nova server none
  if server.status = "REBOOT" then
    return server
  if server.status = "SHUTOFF" then
    requestAction nova (.start server.id)
  else
    requestAction nova (.reboot server.id .soft)
  waitForServerStatus nova clock turns (.id server.id) "ACTIVE" times none

def ensureServerStatus (turns : Nat) (server : Option ServerType) (status : String)
    (times : WaitTimes) : Effect (NovaError Exc) (World × List ServerEvent) Server :=
  if status = "ACTIVE" then
    activateServer nova clock turns server times
  else if status = "SHUTOFF" then
    shutoffServer nova clock turns server times
  else
    Effect.raise (.unsupportedServerStatus status)

/-! ### What the parts do to the events -/

/-- The error tells nothing of the statuses that were read. -/
def NovaError.Unread : NovaError Exc → Prop
  | .serverNotFound _ | .service _ | .assertion => True
  | _ => False

variable {nova clock} {raises : NovaError Exc → World × List ServerEvent → Prop}

theorem getServer_ensures (server : Option ServerType) (serverId : Option String)
    (events : List ServerEvent) :
    Effect.Ensures (fun state => state.2 = events) (getServer nova server serverId)
      (fun server state => state.2 = events ++ [.got server])
      (fun error state => error.Unread ∧ state.2 = events) := by
  unfold getServer
  split
  · exact Effect.ensures_raise fun state same => ⟨trivial, same⟩
  · apply Effect.ensures_bind _ (ask_ensures (nova.get _))
    intro answer
    rcases answer with ⟨_ | exception⟩ | server
    · exact Effect.ensures_raise fun _ same => ⟨trivial, same⟩
    · exact Effect.ensures_raise fun _ same => ⟨trivial, same⟩
    · apply Effect.ensures_bind _ (record_ensures (ServerEvent.got server))
      exact fun _ => Effect.ensures_pure fun _ same => same

theorem requestAction_ensures (action : ServerAction) (events : List ServerEvent) :
    Effect.Ensures (fun state => state.2 = events) (requestAction nova action)
      (fun _ state => state.2 = events ++ [.sent action])
      (fun error state => error.Unread ∧ state.2 = events ++ [.sent action]) := by
  apply (recorded_ensures (ServerEvent.sent action) NovaError.service (nova.act action)).mono
  · exact fun _ same => same
  · exact fun _ _ same => same
  · rintro error state ⟨same, exception, rfl⟩
    exact ⟨trivial, same⟩

/-- The servers have been read since then. -/
def Read (events : List ServerEvent) (servers : List Server) (state : World × List ServerEvent) :
    Prop :=
  state.2 = events ++ servers.map .got

theorem timeIsUp_eq_false {attempt : RetryAttempt} (going : @timeIsUp Exc attempt = false) :
    attempt.timeLeft ≠ some 0 := by
  intro none_left
  unfold timeIsUp RetryAttempt.checkTimeLeft at going
  rw [none_left] at going
  cases going

theorem statusWait_reads (serverId status : String) (transientStatus : List String)
    (timeout : Option ℚ) (events : List ServerEvent) :
    StatusWait.Reads (statusWait nova serverId status transientStatus timeout).read
      (Read events) NovaError.Unread := by
  intro seen
  apply (getServer_ensures none (some serverId) (events ++ seen.map ServerEvent.got)).mono
  · exact fun _ same => same
  · intro server state same
    rw [Read, List.map_append, ← List.append_assoc]
    exact same
  · exact fun _ _ failed => failed

theorem statusWait_guarded (serverId status : String) (transientStatus : List String)
    (times : WaitTimes) :
    (statusWait nova serverId status transientStatus times.timeout).Guarded times.retry := by
  intro frame number reached going last
  rcases last with ⟨count, counted, -⟩ | timed
  · rw [reached.count_eq] at counted
    cases counted
  · exact timeIsUp_eq_false going ((RetryAttempt.timeLeft_eq_zero frame.attempt).mpr timed)

/-- **A wait for a server** returns it with the status, or fails as its last status tells. -/
theorem waitForServerStatus_ensures (turns : Nat) (serverId status : String) (times : WaitTimes)
    (transientStatus : Option (List String)) (events : List ServerEvent) :
    Effect.Ensures (fun state => state.2 = events)
      (waitForServerStatus nova clock turns (.id serverId) status times transientStatus)
      ((statusWait nova serverId status (transientStatus.getD (transientStatusOf status))
        times.timeout).Met (Read events))
      ((statusWait nova serverId status (transientStatus.getD (transientStatusOf status))
        times.timeout).Unmet (Read events) NovaError.Unread) := by
  have untimed : ∀ seen, Retry.Untimed (clock.paired (List ServerEvent)) (Read events seen) :=
    fun seen => Retry.untimed_paired clock fun later => later = events ++ seen.map .got
  apply (StatusWait.run_ensures untimed (statusWait_reads serverId status _ times.timeout events)
    (statusWait_guarded serverId status _ times) turns).mono
  · intro state same
    show state.2 = _
    rw [same, List.map_nil, List.append_nil]
  · exact fun _ _ met => met
  · exact fun _ _ unmet => unmet

end Service

end Tobiko.Openstack.Nova.Servers
