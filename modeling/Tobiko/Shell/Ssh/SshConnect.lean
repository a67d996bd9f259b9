import Tobiko.Common.RetryLimits
import Tobiko.Common.RetryRecovery
import Tobiko.Foundation.Recorded

/-!
Contract: the login to an SSH server, as `ssh_connect` in `tobiko/shell/ssh/_client.py` makes it.

Owns: the private keys that are loaded, the loop over the attempts and the one over the keys, the
proxy sockets that are opened and closed, and how a login ends.

Does not own: how a proxy socket is made, how a key file is decoded, and what the server answers.

Without a proxy the socket is `None`. Its `close` raises then, and that error is swallowed like
those of a real socket. The refusals are kept from one attempt to the next.
-/

namespace Tobiko.Shell.Ssh.SshConnect

open Tobiko.Common Tobiko.Common.Time Tobiko.Foundation
open Tobiko.Foundation.Recorded

/-! ### Private keys -/

inductive KeyClass where
  | rsaKey
  | ecdsaKey
  | ed25519Key
  deriving DecidableEq

/-- `KEY_CLASSES` -/
def keyClasses : List KeyClass := [.rsaKey, .ecdsaKey, .ed25519Key]

/-- How a class reads a file. -/
inductive KeyReading (PKey Exc : Type) where
  | loaded (pkey : PKey)
  /-- `SSHException` or `ValueError` -/
  | unreadable
  | raised (exception : Exc)

inductive LoadError (Exc : Type) where
  /-- Unable to load private key from file {filename} -/
  | loadPrivateKeyError
  | raised (exception : Exc)

section Keys

variable {PKey Exc : Type}

/-- `load_private_key`, with the classes that are left. -/
def loadPrivateKey (read : KeyClass → KeyReading PKey Exc) :
    List KeyClass → Except (LoadError Exc) PKey
  | [] => .error .loadPrivateKeyError
  | keyClass :: others =>
      match read keyClass with
      | .loaded pkey => .ok pkey
      | .unreadable => loadPrivateKey read others
      | .raised exception => .error (.raised exception)

/-- The files that there are, and how they are read. -/
structure KeyFiles (PKey Exc : Type) where
  exists_ : String → Bool
  read : String → KeyClass → KeyReading PKey Exc

/-- The key of a file, where it can be loaded. -/
def KeyFiles.load (files : KeyFiles PKey Exc) (filename : String) : Except Exc (Option PKey) :=
  if files.exists_ filename then
    match loadPrivateKey (files.read filename) keyClasses with
    | .ok pkey => .ok (some pkey)
    | .error .loadPrivateKeyError => .ok none
    | .error (.raised exception) => .error exception
  else .ok none

/-- `load_private_keys` -/
def loadPrivateKeys (files : KeyFiles PKey Exc) : List String → Except Exc (List PKey)
  | [] => .ok []
  | filename :: others => do
      let pkey ← files.load filename
      let pkeys ← loadPrivateKeys files others
      pure (pkey.toList ++ pkeys)

/-- The key of a file that has been read. -/
def KeyFiles.key (files : KeyFiles PKey Exc) (filename : String) : Option PKey :=
  (files.load filename).toOption.join

/-- The keys are those of the files, in their order. -/
theorem loadPrivateKeys_ok {files : KeyFiles PKey Exc} {filenames : List String}
    {pkeys : List PKey} (loaded : loadPrivateKeys files filenames = .ok pkeys) :
    pkeys = filenames.filterMap files.key := by
  induction filenames generalizing pkeys with
  | nil =>
      cases loaded
      rfl
  | cons filename others inductionHypothesis =>
      unfold loadPrivateKeys at loaded
      cases first : files.load filename with
      | error exception =>
          rw [first] at loaded
          cases loaded
      | ok pkey =>
          cases rest : loadPrivateKeys files others with
          | error exception =>
              rw [first, rest] at loaded
              cases loaded
          | ok behind =>
              rw [first, rest] at loaded
              cases loaded
              have known : files.key filename = pkey := by
                unfold KeyFiles.key
                rw [first]
                rfl
              rw [List.filterMap_cons, known, ← inductionHypothesis rest]
              cases pkey <;> rfl

end Keys

/-! ### The login -/

inductive ExceptionKind where
  /-- `AuthenticationException` -/
  | authentication
  | exception
  /-- Not an `Exception` -/
  | base
  deriving DecidableEq

/-- What a login depends on. `connect` is that of the client. -/
structure SshLogin (World Exc PKey Sock : Type) where
  clock : Clock World
  files : KeyFiles PKey Exc
  proxySock : World → Except Exc (Option Sock) × World
  connect : Option PKey → Option Sock → World → Option Exc × World
  close : Sock → World → World
  kind : Exc → ExceptionKind

structure ConnectionLimits where
  connectionAttempts : Option Int
  connectionTimeout : Option ℚ
  connectionInterval : Option ℚ

def connectRetry (limits : ConnectionLimits) : Retry :=
  Tobiko.Common.retry
    { otherRetry := none
      count := limits.connectionAttempts
      timeout := limits.connectionTimeout
      sleepTime := none
      interval := limits.connectionInterval
      defaultCount := some 60
      defaultTimeout := some 300
      defaultSleepTime := none
      defaultInterval := some 5 }

inductive LoginEvent (PKey Sock : Type) where
  | opened (sock : Option Sock)
  | connect (pkey : Option PKey) (sock : Option Sock)
  | closed (sock : Sock)
  deriving DecidableEq

inductive LoginError (Exc : Type) where
  | raised (exception : Exc)
  /-- The last refusal, with those before it as its causes. -/
  | authFailed (refusals : List Exc)
  | retryLimit (error : RetryLimitError)
  | brokenRetryLoop
  deriving DecidableEq

/-- How the `try` statement for a key ends. -/
inductive KeyEnd (Exc Sock : Type) where
  | succeeded (sock : Option Sock)
  | refused (exception : Exc)
  | failed

/-- How the loop over the keys ends, with the refusals so far. -/
inductive KeysEnd (Exc Sock : Type) where
  | succeeded (sock : Option Sock)
  | exhausted (authFailed : List Exc)
  | failed (authFailed : List Exc)

section Connect

variable {World Exc PKey Sock : Type}

/-- The world, with what has been done to the sockets and the client. -/
abbrev LoginState (World PKey Sock : Type) := Recorded.State World (LoginEvent PKey Sock)

abbrev LoginEffect (World Exc PKey Sock : Type) :=
  Effect (LoginError Exc) (LoginState World PKey Sock)

variable (login : SshLogin World Exc PKey Sock)

/-- `ssh_proxy_sock(...)` -/
def openProxySock : LoginEffect World Exc PKey Sock (Option Sock) := do
  let sock ← request .raised login.proxySock
  record (.opened sock)
  pure sock

/-- `proxy_sock.close()`, the errors of which are swallowed. -/
def closeProxySock (sock : Option Sock) : LoginEffect World Exc PKey Sock Unit :=
  match sock with
  | none => pure ()
  | some sock => do
      record (.closed sock)
      ask fun world => ((), login.close sock world)

/-- `client.connect(...)`, with the exception that it raises. -/
def connectClient (pkey : Option PKey) (sock : Option Sock) :
    LoginEffect World Exc PKey Sock (Option Exc) := do
  record (.connect pkey sock)
  ask (login.connect pkey sock)

def connectErrors : Retry.LoopErrors (LoginError Exc) := ⟨.retryLimit, .brokenRetryLoop⟩

/-- The `except` clauses. -/
def handle (attempt : RetryAttempt) (exception : Exc) :
    Except (LoginError Exc) (KeyEnd Exc Sock) :=
  match login.kind exception with
  | .authentication => .ok (.refused exception)
  | .exception => do
      (attempt.checkLimits (some (.raised exception))).mapError connectErrors.ofRaised
      pure .failed
  | .base => .error (.raised exception)

/-- The body of the loop over the keys. -/
def tryKey (attempt : RetryAttempt) (pkey : Option PKey) :
    LoginEffect World Exc PKey Sock (KeyEnd Exc Sock) := do
  let proxySock ← openProxySock login
  match ← connectClient login pkey proxySock with
  | none => pure (.succeeded proxySock)
  | some exception =>
      let handled := handle login attempt exception
      closeProxySock login proxySock
      Effect.ofExcept handled

/-- The keys that are left, with the refusals so far, the last one first. -/
def tryKeys (attempt : RetryAttempt) : List (Option PKey) → List Exc →
    LoginEffect World Exc PKey Sock (KeysEnd Exc Sock)
  | [], authFailed => pure (.exhausted authFailed)
  | pkey :: others, authFailed => do
      match ← tryKey login attempt pkey with
      | .succeeded sock => pure (.succeeded sock)
      | .refused exception => tryKeys attempt others (exception :: authFailed)
      | .failed => pure (.failed authFailed)

/-- `pkeys + [None]` -/
def triedKeys (pkeys : List PKey) : List (Option PKey) := pkeys.map some ++ [none]

/-- The body of the loop over the attempts. -/
def connectTurn (pkeys : List PKey) (attempt : RetryAttempt) (authFailed : List Exc) :
    LoginEffect World Exc PKey Sock (Retry.Turn (List Exc) (Option Sock)) := do
  match ← tryKeys login attempt (triedKeys pkeys) authFailed with
  | .succeeded sock => pure (.leave sock)
  | .failed authFailed => pure (.next authFailed)
  | .exhausted [] => pure (.next [])
  | .exhausted (exception :: causes) => Effect.raise (.authFailed (exception :: causes))

/-- `ssh_connect`, which returns the proxy socket of the client. -/
def sshConnect (limits : ConnectionLimits) (keyFilename : List String) (turns : Nat) :
    LoginEffect World Exc PKey Sock (Option Sock) := do
  let pkeys ← Effect.ofExcept ((loadPrivateKeys login.files keyFilename).mapError .raised)
  (connectRetry limits).loop (login.clock.paired _) connectErrors (connectTurn login pkeys) turns []

end Connect

end Tobiko.Shell.Ssh.SshConnect
