import Tobiko.Common.RetryLimits
import Tobiko.Common.RetryLoop
import Tobiko.Foundation.Recorded
import Tobiko.Foundation.Text
import Tobiko.Shell.Sh.Command

/-!
Contract: `create_process` of `SSHShellProcessFixture` in `tobiko/shell/sh/_ssh.py`.

Owns: the limits of its retry, the command with its variables and its directory, and the loop that
opens a session and runs the command in it.

Does not own: the client, whose steps may raise, and what the runs of the loop do.

The iterator of a retry does not stop by itself, so nothing comes behind the loop. The command is
a variable of the loop: it is wrapped in each attempt that opens a session.
-/

namespace Tobiko.Shell.Sh.SshProcess

open Tobiko.Common Tobiko.Common.Time Tobiko.Foundation
open Tobiko.Foundation.Recorded (record perform request)
open Tobiko.Shell.Sh.Command (quoteCharacter)

/-! ### Parameters -/

/-- The `connect_parameters` of a client, as far as they are read. -/
structure ConnectParameters where
  connectionTimeout : Option ℚ
  connectionAttempts : Option Int

structure SSHShellProcessParameters where
  environment : List (Text × Text) := []
  currentDir : Option Text := none
  timeout : Option ℚ := none
  retryCount : Option Int := some 3
  retryInterval : Option ℚ := some 5
  retryTimeout : Option ℚ := some 120

/-- A value of the client that is neither `None` nor zero and higher than the own one. -/
def higherOf {Value : Type} [DecidableEq Value] [Zero Value] [LT Value] [DecidableLT Value]
    (client own : Option Value) : Option Value :=
  match client with
  | none => own
  | some value =>
      if value ≠ 0 ∧ (own = none ∨ ∃ limit ∈ own, limit < value) then some value else own

def processRetryTimeout (parameters : SSHShellProcessParameters)
    (connectParameters : Option ConnectParameters) : Option ℚ :=
  higherOf (connectParameters.bind (·.connectionTimeout)) parameters.timeout

def processRetryAttempts (parameters : SSHShellProcessParameters)
    (connectParameters : Option ConnectParameters) : Option Int :=
  higherOf (connectParameters.bind (·.connectionAttempts)) parameters.retryCount

def processRetry (parameters : SSHShellProcessParameters)
    (connectParameters : Option ConnectParameters) : Retry :=
  Tobiko.Common.retry
    { otherRetry := none
      count := none
      timeout := processRetryTimeout parameters connectParameters
      sleepTime := none
      interval := none
      defaultCount := processRetryAttempts parameters connectParameters
      defaultTimeout := parameters.retryTimeout
      defaultSleepTime := none
      defaultInterval := parameters.retryInterval }

/-! ### The command -/

/-- A character that `shlex.quote` takes as safe. -/
def isShlexSafe (character : Char) : Bool :=
  character.isAlphanum || character ∈ ['_', '@', '%', '+', '=', ':', ',', '.', '/', '-']

/-- `shlex.quote` -/
def shlexQuote (text : Text) : Text :=
  if text = [] then ['\'', '\'']
  else if text.all isShlexSafe then text
  else '\'' :: text.flatMap quoteCharacter ++ ['\'']

def variablesText (environment : List (Text × Text)) : Text :=
  [' '].intercalate (environment.map fun variable_ => variable_.1 ++ '=' :: shlexQuote variable_.2)

/-- The command behind its variables. -/
def withVariables (environment : List (Text × Text)) (command : Text) : Text :=
  if environment = [] then command else variablesText environment ++ ' ' :: command

/-- The command behind `cd`. -/
def withDirectory (currentDir : Option Text) (command : Text) : Text :=
  match currentDir with
  | none => command
  | some directory => "cd ".toList ++ directory ++ " && ".toList ++ command

def wrapCommand (parameters : SSHShellProcessParameters) (command : Text) : Text :=
  withDirectory parameters.currentDir (withVariables parameters.environment command)

/-! ### The client -/

/-- The steps of a client. `login` and `close` format the login, which may raise. -/
structure SshClient (World Exc Session : Type) where
  clock : Clock World
  login : World → Option Exc × World
  connect : World → Option Exc × World
  openSession : World → Except Exc Session × World
  execCommand : Session → Text → World → Option Exc × World
  close : World → Option Exc × World

inductive SshEvent (Session : Type) where
  | connect
  | openSession
  | exec (session : Session) (command : Text)
  | close
  deriving DecidableEq

inductive SshError (Exc : Type) where
  | raised (exception : Exc)
  | shellTimeoutExpired (command : Text) (timeout : Option ℚ)
  | retryLimit (error : RetryLimitError)
  | brokenRetryLoop
  deriving DecidableEq

section Create

variable {World Exc Session : Type}

/-- The world, with what has been done to the client. -/
abbrev SshState (World Session : Type) := Recorded.State World (SshEvent Session)

abbrev SshEffect (World Exc Session : Type) := Effect (SshError Exc) (SshState World Session)

variable (client : SshClient World Exc Session) (parameters : SSHShellProcessParameters)

def connectClient : SshEffect World Exc Session Unit := do
  record .connect
  perform .raised client.connect

/-- `client.get_transport().open_session(...)` -/
def openSession : SshEffect World Exc Session Session := do
  record .openSession
  request .raised client.openSession

def execCommand (session : Session) (command : Text) : SshEffect World Exc Session Unit := do
  record (.exec session command)
  perform .raised (client.execCommand session command)

/-- `ssh_client.connect()` and the session that is opened. -/
def connectSession : SshEffect World Exc Session Session := do
  connectClient client
  openSession client

/-- The `try` clause: what it leaves in the variable `command`, and how it ends. -/
def tryProcess (command : Text) :
    SshEffect World Exc Session (Text × Except (SshError Exc) Session) := do
  match ← (connectSession client).attempt with
  | .error error => pure (command, .error error)
  | .ok session =>
      let wrapped := wrapCommand parameters command
      match ← (execCommand client session wrapped).attempt with
      | .error error => pure (wrapped, .error error)
      | .ok () => pure (wrapped, .ok session)

def closeClient : SshEffect World Exc Session Unit := do
  record .close
  perform .raised client.close

/-- The checks of the limits behind the `except` clause. -/
def checkAttempt (attempt : RetryAttempt) (command : Text) : Except (SshError Exc) Unit :=
  match attempt.checkLimits (none : Option (SshError Exc)) with
  | .ok () => .ok ()
  | .error (.active error) => .error error
  | .error (.limit (.time _)) => .error (.shellTimeoutExpired command attempt.timeLeft)
  | .error (.limit (.count attempt)) => .error (.retryLimit (.count attempt))

/-- What follows an error: the connection is closed before the limits are checked. -/
def afterError (attempt : RetryAttempt) (command : Text) :
    SshEffect World Exc Session (Retry.Turn Text Session) := do
  closeClient client
  Effect.ofExcept (checkAttempt attempt command)
  pure (.next command)

/-- The body of the loop. -/
def createTurn (attempt : RetryAttempt) (command : Text) :
    SshEffect World Exc Session (Retry.Turn Text Session) := do
  perform .raised client.login
  let (wrapped, tried) ← tryProcess client parameters command
  match tried with
  | .ok process => pure (.leave process)
  | .error _ => afterError client attempt wrapped

def createErrors : Retry.LoopErrors (SshError Exc) := ⟨.retryLimit, .brokenRetryLoop⟩

/-- `create_process` -/
def createProcess (connectParameters : Option ConnectParameters) (turns : Nat) (command : Text) :
    SshEffect World Exc Session Session :=
  (processRetry parameters connectParameters).loop (client.clock.paired _) createErrors
    (createTurn client parameters) turns command

end Create

end Tobiko.Shell.Sh.SshProcess
