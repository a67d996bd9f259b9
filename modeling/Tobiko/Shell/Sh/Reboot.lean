import Tobiko.Common.RetryLimits
import Tobiko.Common.RetryLoop

/-!
Contract: rebooting a host, `RebootHostOperation` in `tobiko/shell/sh/_reboot.py`.

Owns: the operation with its flag, its start time and the SSH connection, the loop that sends the
command, the loop that waits for the host, and what is known in every state that calls of them
lead to.

Does not own: the host and the network, which answer as they like and take their time.

The host counts as rebooted when it tells of an uptime that is shorter than the time since the
command.
-/

namespace Tobiko.Shell.Sh.Reboot

open Tobiko.Common Tobiko.Common.Time Tobiko.Foundation

/-! ### The operation -/

inductive RebootError (Exc : Type) where
  | raised (exception : Exc)
  | rebootHostTimeout (timeout : Seconds)
  | typeError
  | assertion
  | retryLimit (error : RetryLimitError)
  | brokenRetryLoop

/-- The host as the client sees it. A connection attempt tells whether it has left a connection;
a clean-up leaves none, even if it raises. -/
structure Host (World Exc : Type) where
  clock : Clock World
  connect : Option ℚ → World → (Option Exc × Bool) × World
  execCommand : World → Option Exc × World
  cleanup : World → Option Exc × World
  getUptime : World → (Except Exc ℚ × Bool) × World
  connect_later : ∀ timeout world, clock.now world ≤ clock.now (connect timeout world).2
  execCommand_later : ∀ world, clock.now world ≤ clock.now (execCommand world).2
  cleanup_later : ∀ world, clock.now world ≤ clock.now (cleanup world).2
  getUptime_later : ∀ world, clock.now world ≤ clock.now (getUptime world).2

/-- The command was sent, or the uptime was asked for, in that world. -/
inductive HostEvent (World : Type) where
  | command (world : World)
  | uptime (world : World)
deriving DecidableEq

/-- No call reads the events. -/
structure Operation (World : Type) where
  isRebooted : Bool
  startTime : Option ℚ
  connected : Bool
  world : World
  events : List (HostEvent World)
deriving DecidableEq

section Operation

variable {World Exc : Type} (host : Host World Exc)

def Host.stateClock : Clock (Operation World) where
  now state := host.clock.now state.world
  time state := ((host.clock.time state.world).1,
    { state with world := (host.clock.time state.world).2 })
  sleep seconds state := { state with world := host.clock.sleep seconds state.world }
  time_after state := host.clock.time_after state.world
  time_before state := host.clock.time_before state.world
  sleep_after seconds state := host.clock.sleep_after seconds state.world

abbrev RebootEffect (World Exc : Type) := Effect (RebootError Exc) (Operation World)

def raiseIfAny : Option Exc → RebootEffect World Exc Unit
  | none => pure ()
  | some exception => Effect.raise (.raised exception)

/-- `ssh_client.connect(connection_timeout=timeout, retry_count=1)` -/
def connect (timeout : Option ℚ) : RebootEffect World Exc Unit := do
  let failure ← Effect.update fun state =>
    let ((failure, connected), world) := host.connect timeout state.world
    (failure, { state with connected := connected, world := world })
  raiseIfAny failure

def execCommand : RebootEffect World Exc Unit := do
  let failure ← Effect.update fun state =>
    let (failure, world) := host.execCommand state.world
    (failure, { state with world := world, events := state.events ++ [.command state.world] })
  raiseIfAny failure

/-- `tobiko.cleanup_fixture(ssh_client)` -/
def cleanupFixture : RebootEffect World Exc Unit := do
  let failure ← Effect.update fun state =>
    let (failure, world) := host.cleanup state.world
    (failure, { state with connected := false, world := world })
  raiseIfAny failure

/-- `ssh_client.close()`, which does not raise. -/
def close : RebootEffect World Exc Unit := do
  let _ ← (cleanupFixture host).attempt

def readTime : RebootEffect World Exc ℚ := Effect.update host.stateClock.time

def getUptime : RebootEffect World Exc ℚ := do
  let answer ← Effect.update fun state =>
    let ((answer, connected), world) := host.getUptime state.world
    (answer, { state with
      connected := connected, world := world, events := state.events ++ [.uptime state.world] })
  Effect.ofExcept (answer.mapError .raised)

def loopErrors : Retry.LoopErrors (RebootError Exc) := ⟨.retryLimit, .brokenRetryLoop⟩

/-- `default_wait_timeout`, `default_wait_interval` and `default_wait_count` -/
def waitRetry (timeout : Option ℚ) : Retry :=
  Tobiko.Common.retry
    { otherRetry := none
      count := none
      timeout := timeout
      sleepTime := none
      interval := none
      defaultCount := some 60
      defaultTimeout := some 300
      defaultSleepTime := none
      defaultInterval := some 5 }

/-! ### Sending the command -/

/-- The `try` block of the loop. -/
def sendCommand (attempt : RetryAttempt) : RebootEffect World Exc Unit := do
  connect host attempt.timeLeft
  let startTime ← readTime host
  Effect.modify fun state => { state with startTime := some startTime }
  execCommand host

/-- Its `except` and `else` clauses. -/
def sentOrFailed (attempt : RetryAttempt) :
    Except (RebootError Exc) Unit → Except (RebootError Exc) (Retry.Turn Unit Unit)
  | .ok () => .ok (.leave ())
  | .error _ =>
      match attempt.timeLeft with
      | none => .error .typeError
      | some timeLeft =>
          if 0 < timeLeft then .ok (.next ()) else .error (.rebootHostTimeout attempt.timeout)

def runTurn (attempt : RetryAttempt) (_locals : Unit) :
    RebootEffect World Exc (Retry.Turn Unit Unit) := do
  let result ← (sendCommand host attempt).attempt
  close host
  Effect.ofExcept (sentOrFailed attempt result)

def runOperation (turns : Nat) (timeout : Seconds) : RebootEffect World Exc Unit := do
  Effect.modify fun state => { state with isRebooted := false, startTime := none }
  (waitRetry (timeout.map (↑))).loop host.stateClock loopErrors (runTurn host) turns ()

/-! ### Waiting for the host -/

/-- `elapsed_time` -/
def elapsedTime : RebootEffect World Exc (Option ℚ) := do
  let state ← Effect.get
  match state.startTime with
  | none => pure none
  | some startTime =>
      let now ← readTime host
      pure (some (now - startTime))

/-- `time_left`, which reads the elapsed time twice. -/
def timeLeft (timeout : Seconds) : RebootEffect World Exc (Option ℚ) :=
  match timeout with
  | none => pure none
  | some timeout => do
      match ← elapsedTime host with
      | none => pure none
      | some _ =>
          match ← elapsedTime host with
          | none => Effect.raise .typeError
          | some elapsedTime => pure (some (timeout - elapsedTime))

/-- `min_seconds(value, other)` -/
def minSeconds (value other : Option ℚ) : Seconds :=
  match toSeconds value, toSeconds other with
  | none, other => other
  | some value, none => some value
  | some value, some other => some (min value other)

def waitTurn (attempt : RetryAttempt) (_locals : Unit) :
    RebootEffect World Exc (Retry.Turn Unit Unit) := do
  cleanupFixture host
  let state ← Effect.get
  if state.connected then
    Effect.raise .assertion
  match ← (getUptime host).attempt with
  | .error error => do
      Effect.ofExcept ((attempt.checkLimits (some error)).mapError loopErrors.ofRaised)
      pure (.next ())
  | .ok upTime => do
      match ← elapsedTime host with
      | none => Effect.raise .typeError
      | some elapsedTime =>
          if upTime < elapsedTime then do
            let state ← Effect.get
            if state.connected then
              Effect.modify fun state => { state with isRebooted := true }
              pure (.leave ())
            else
              Effect.raise .assertion
          else do
            Effect.ofExcept ((attempt.checkLimits none).mapError loopErrors.ofRaised)
            pure (.next ())

/-- The `try` block of `wait_for_operation`. -/
def waitLoop (turns : Nat) (timeout : Option ℚ) (operationTimeout : Seconds) :
    RebootEffect World Exc Unit := do
  let timeLeft ← timeLeft host operationTimeout
  (waitRetry ((minSeconds timeout timeLeft).map (↑))).loop host.stateClock loopErrors
    (waitTurn host) turns ()

def waitForOperation (turns : Nat) (timeout : Option ℚ) (operationTimeout : Seconds) :
    RebootEffect World Exc Unit := do
  let state ← Effect.get
  if state.isRebooted then
    return ()
  let result ← (waitLoop host turns timeout operationTimeout).attempt
  let state ← Effect.get
  if ¬state.isRebooted then
    close host
  Effect.ofExcept result

def cleanupOperation : RebootEffect World Exc Unit :=
  Effect.modify fun state => { state with isRebooted := false, startTime := none }

end Operation

end Tobiko.Shell.Sh.Reboot
