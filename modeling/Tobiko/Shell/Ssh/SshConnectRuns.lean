import Tobiko.Shell.Ssh.SshConnect

/-!
Contract: what a login to an SSH server does to the proxy sockets, the keys and the server.

Owns: the refusals of an attempt, the attempts that fail, how a login ends, and the sockets that it
leaves open.

Does not own: the functions, which are in `SshConnect`.
-/

namespace Tobiko.Shell.Ssh.SshConnect

open Tobiko.Common Tobiko.Common.Time Tobiko.Foundation
open Tobiko.Foundation.Recorded

/-! ### What logins do -/

section Histories

variable {PKey Sock Exc : Type}

/-- What closes a socket, where there is one. -/
def closing : Option Sock → List (LoginEvent PKey Sock)
  | none => []
  | some sock => [.closed sock]

/-- What a login does that fails with that key. -/
def failedLogin (pkey : Option PKey) (sock : Option Sock) : List (LoginEvent PKey Sock) :=
  [.opened sock, .connect pkey sock] ++ closing sock

/-- Keys that have been refused one after the other. The last refusal is the first one. -/
inductive Refused (kind : Exc → ExceptionKind) :
    List (Option PKey) → List Exc → List (LoginEvent PKey Sock) → Prop
  | none : Refused kind [] [] []
  | another {tried : List (Option PKey)} {refusals : List Exc}
      {events : List (LoginEvent PKey Sock)} {pkey : Option PKey} {sock : Option Sock}
      {exception : Exc} (earlier : Refused kind tried refusals events)
      (refused : kind exception = .authentication) :
      Refused kind (tried ++ [pkey]) (exception :: refusals) (events ++ failedLogin pkey sock)

/-- An attempt that has come to a key: the keys before it have been refused. -/
inductive Reaches (kind : Exc → ExceptionKind) (keys : List (Option PKey)) (pkey : Option PKey) :
    List Exc → List (LoginEvent PKey Sock) → Prop
  | behind {tried others : List (Option PKey)} {refusals : List Exc}
      {events : List (LoginEvent PKey Sock)} (split : tried ++ pkey :: others = keys)
      (refused : Refused kind tried refusals events) : Reaches kind keys pkey refusals events

/-- The failed attempts before an attempt of that number, with all refusals so far. -/
inductive FailedAttempts (kind : Exc → ExceptionKind) (keys : List (Option PKey)) :
    Int → List Exc → List (LoginEvent PKey Sock) → Prop
  | none : FailedAttempts kind keys 1 [] []
  | again {number : Int} {authFailed refusals : List Exc} {pkey : Option PKey} {sock : Option Sock}
      {exception : Exc} {before events : List (LoginEvent PKey Sock)}
      (earlier : FailedAttempts kind keys number authFailed before)
      (reached : Reaches kind keys pkey refusals events)
      (failed : kind exception = .exception) :
      FailedAttempts kind keys (number + 1) (refusals ++ authFailed)
        (before ++ events ++ failedLogin pkey sock)

/-- There are as many refusals as refused keys. -/
theorem Refused.length_eq {kind : Exc → ExceptionKind} {tried : List (Option PKey)}
    {refusals : List Exc} {events : List (LoginEvent PKey Sock)}
    (refused : Refused kind tried refusals events) : refusals.length = tried.length := by
  induction refused with
  | none => rfl
  | another earlier refused inductionHypothesis =>
      rw [List.length_cons, List.length_append, inductionHypothesis]
      rfl

/-! ### Open sockets -/

section Balance

variable [DecidableEq PKey] [DecidableEq Sock] {kind : Exc → ExceptionKind}
  {events before : List (LoginEvent PKey Sock)}

/-- The socket is open so many times. -/
def OpenTimes (sock : Sock) (events : List (LoginEvent PKey Sock)) (times : Nat) : Prop :=
  events.count (.opened (some sock)) = events.count (.closed sock) + times

theorem OpenTimes.append {sock : Sock} {first second : Nat}
    (left : OpenTimes sock before first) (right : OpenTimes sock events second) :
    OpenTimes sock (before ++ events) (first + second) := by
  unfold OpenTimes at left right ⊢
  rw [List.count_append, List.count_append, left, right]
  omega

theorem openTimes_nil (sock : Sock) : OpenTimes sock ([] : List (LoginEvent PKey Sock)) 0 := rfl

theorem openTimes_failedLogin (sock : Sock) (pkey : Option PKey) (own : Option Sock) :
    OpenTimes sock (failedLogin pkey own) 0 := by
  cases own with
  | none => simp [OpenTimes, failedLogin, closing]
  | some other =>
      by_cases same : other = sock
      · simp [OpenTimes, failedLogin, closing, same]
      · simp [OpenTimes, failedLogin, closing, same]

/-- A login that succeeds leaves its own socket open. -/
theorem openTimes_succeeded (sock : Sock) (pkey : Option PKey) (own : Option Sock) :
    OpenTimes sock [.opened own, .connect pkey own] (if own = some sock then 1 else 0) := by
  by_cases same : own = some sock
  · simp [OpenTimes, same]
  · simp [OpenTimes, same]

theorem Refused.balanced {tried : List (Option PKey)} {refusals : List Exc}
    (refused : Refused kind tried refusals events) (sock : Sock) : OpenTimes sock events 0 := by
  induction refused with
  | none => exact openTimes_nil sock
  | another earlier refused inductionHypothesis =>
      exact inductionHypothesis.append (openTimes_failedLogin sock _ _)

theorem FailedAttempts.balanced {keys : List (Option PKey)} {number : Int} {authFailed : List Exc}
    (failed : FailedAttempts kind keys number authFailed events) (sock : Sock) :
    OpenTimes sock events 0 := by
  induction failed with
  | none => exact openTimes_nil sock
  | again earlier reached failed inductionHypothesis =>
      obtain ⟨-, refused⟩ := reached
      have during := inductionHypothesis.append (refused.balanced sock)
      exact during.append (openTimes_failedLogin sock _ _)

end Balance

end Histories

/-! ### How a login ends -/

section Runs

variable {World Exc PKey Sock : Type}

/-- What has been done before an attempt of that number. -/
def Before (retry : Retry) (kind : Exc → ExceptionKind) (keys : List (Option PKey)) (number : Int)
    (authFailed : List Exc) (state : LoginState World PKey Sock) : Prop :=
  retry.Allows number ∧ FailedAttempts kind keys number authFailed state.2

/-- The last attempt has logged in with the socket, by the first key that was not refused. -/
def LoggedIn (retry : Retry) (kind : Exc → ExceptionKind) (keys : List (Option PKey))
    (sock : Option Sock) (state : LoginState World PKey Sock) : Prop :=
  ∃ number authFailed before pkey refusals events, retry.Allows number ∧
    FailedAttempts kind keys number authFailed before ∧ Reaches kind keys pkey refusals events ∧
    state.2 = before ++ events ++ [.opened sock, .connect pkey sock]

/-- Why a login fails. -/
inductive NotLoggedIn (retry : Retry) (kind : Exc → ExceptionKind) (keys : List (Option PKey)) :
    LoginError Exc → LoginState World PKey Sock → Prop
  /-- All keys have been refused in one attempt. -/
  | refused {number : Int} {authFailed refusals : List Exc}
      {before events : List (LoginEvent PKey Sock)} {state : LoginState World PKey Sock}
      (allowed : retry.Allows number)
      (failed : FailedAttempts kind keys number authFailed before)
      (all : Refused kind keys refusals events) (same : state.2 = before ++ events) :
      NotLoggedIn retry kind keys (.authFailed (refusals ++ authFailed)) state
  /-- There is no proxy socket for a key. -/
  | noSock {number : Int} {authFailed refusals : List Exc} {pkey : Option PKey} {exception : Exc}
      {before events : List (LoginEvent PKey Sock)} {state : LoginState World PKey Sock}
      (allowed : retry.Allows number)
      (failed : FailedAttempts kind keys number authFailed before)
      (reached : Reaches kind keys pkey refusals events) (same : state.2 = before ++ events) :
      NotLoggedIn retry kind keys (.raised exception) state
  /-- The login has been interrupted. -/
  | interrupted {number : Int} {authFailed refusals : List Exc} {pkey : Option PKey}
      {sock : Option Sock} {exception : Exc} {before events : List (LoginEvent PKey Sock)}
      {state : LoginState World PKey Sock} (allowed : retry.Allows number)
      (failed : FailedAttempts kind keys number authFailed before)
      (reached : Reaches kind keys pkey refusals events) (noException : kind exception = .base)
      (same : state.2 = before ++ events ++ failedLogin pkey sock) :
      NotLoggedIn retry kind keys (.raised exception) state
  /-- The last attempt has failed like those before it. -/
  | gaveUp {number : Int} {authFailed refusals : List Exc} {pkey : Option PKey}
      {sock : Option Sock} {exception : Exc} {before events : List (LoginEvent PKey Sock)}
      {state : LoginState World PKey Sock} {frame : Retry.Frame} (allowed : retry.Allows number)
      (last : frame.Reached retry number) (limit : frame.attempt.AtLimit)
      (failed : FailedAttempts kind keys number authFailed before)
      (reached : Reaches kind keys pkey refusals events) (own : kind exception = .exception)
      (same : state.2 = before ++ events ++ failedLogin pkey sock) :
      NotLoggedIn retry kind keys (.raised exception) state

variable (login : SshLogin World Exc PKey Sock) {events : List (LoginEvent PKey Sock)}

/-! ### One key -/

theorem openProxySock_ensures :
    Effect.Ensures (fun state : LoginState World PKey Sock => state.2 = events)
      (openProxySock login) (fun sock state => state.2 = events ++ [.opened sock])
      fun error state => state.2 = events ∧ ∃ exception, error = .raised exception := by
  unfold openProxySock
  apply Effect.ensures_bind _ (request_ensures LoginError.raised login.proxySock)
  intro sock
  apply Effect.ensures_bind fun _ (state : LoginState World PKey Sock) =>
    state.2 = events ++ [.opened sock]
  · exact record_ensures (LoginEvent.opened sock)
  · exact fun _ => Effect.ensures_pure fun _ same => same

theorem closeProxySock_ensures (sock : Option Sock)
    {raises : LoginError Exc → LoginState World PKey Sock → Prop} :
    Effect.Ensures (fun state : LoginState World PKey Sock => state.2 = events)
      (closeProxySock login sock) (fun _ state => state.2 = events ++ closing sock) raises := by
  cases sock with
  | none => exact Effect.ensures_pure fun _ same => same.trans (List.append_nil events).symm
  | some sock =>
      exact Effect.ensures_bind _ (record_ensures (LoginEvent.closed sock)) fun _ => ask_ensures _

theorem connectClient_ensures (pkey : Option PKey) (sock : Option Sock)
    {raises : LoginError Exc → LoginState World PKey Sock → Prop} :
    Effect.Ensures (fun state : LoginState World PKey Sock => state.2 = events)
      (connectClient login pkey sock) (fun _ state => state.2 = events ++ [.connect pkey sock])
      raises :=
  Effect.ensures_bind _ (record_ensures (LoginEvent.connect pkey sock)) fun _ => ask_ensures _

/-- What is known when the `try` statement of a key returns. -/
def KeyTried (attempt : RetryAttempt) (pkey : Option PKey) (events : List (LoginEvent PKey Sock)) :
    KeyEnd Exc Sock → LoginState World PKey Sock → Prop
  | .succeeded sock, state => state.2 = events ++ [.opened sock, .connect pkey sock]
  | .refused exception, state => login.kind exception = .authentication ∧
      ∃ sock, state.2 = events ++ failedLogin pkey sock
  | .failed, state => ¬attempt.AtLimit ∧
      ∃ exception sock, login.kind exception = .exception ∧
        state.2 = events ++ failedLogin pkey sock

/-- What is known when it raises. -/
inductive KeyRaised (attempt : RetryAttempt) (pkey : Option PKey)
    (events : List (LoginEvent PKey Sock)) : LoginError Exc → LoginState World PKey Sock → Prop
  | noSock {exception : Exc} {state : LoginState World PKey Sock} (same : state.2 = events) :
      KeyRaised attempt pkey events (.raised exception) state
  | interrupted {exception : Exc} {sock : Option Sock} {state : LoginState World PKey Sock}
      (noException : login.kind exception = .base)
      (same : state.2 = events ++ failedLogin pkey sock) :
      KeyRaised attempt pkey events (.raised exception) state
  | gaveUp {exception : Exc} {sock : Option Sock} {state : LoginState World PKey Sock}
      (limit : attempt.AtLimit) (own : login.kind exception = .exception)
      (same : state.2 = events ++ failedLogin pkey sock) :
      KeyRaised attempt pkey events (.raised exception) state

/-- What the `except` clauses make of an exception. -/
theorem handle_ensures (attempt : RetryAttempt) (pkey : Option PKey) (sock : Option Sock)
    (exception : Exc) :
    Effect.Ensures (fun state : LoginState World PKey Sock =>
        state.2 = events ++ failedLogin pkey sock)
      (Effect.ofExcept (handle login attempt exception)) (KeyTried login attempt pkey events)
      (KeyRaised login attempt pkey events) := by
  unfold handle
  cases kind : login.kind exception with
  | authentication => exact Effect.ensures_pure fun _ same => ⟨kind, sock, same⟩
  | base => exact Effect.ensures_raise fun _ same => .interrupted kind same
  | exception =>
      by_cases limit : attempt.AtLimit
      · rw [RetryAttempt.checkLimits_active _ limit]
        exact Effect.ensures_raise fun _ same => .gaveUp limit kind same
      · rw [RetryAttempt.checkLimits_ok limit]
        exact Effect.ensures_pure fun _ same => ⟨limit, exception, sock, kind, same⟩

theorem tryKey_ensures (attempt : RetryAttempt) (pkey : Option PKey) :
    Effect.Ensures (fun state : LoginState World PKey Sock => state.2 = events)
      (tryKey login attempt pkey) (KeyTried login attempt pkey events)
      (KeyRaised login attempt pkey events) := by
  unfold tryKey
  apply Effect.ensures_bind fun sock (state : LoginState World PKey Sock) =>
    state.2 = events ++ [.opened sock]
  · apply (openProxySock_ensures login).mono
    · exact fun _ same => same
    · exact fun _ _ same => same
    · rintro error state ⟨same, exception, rfl⟩
      exact .noSock same
  · intro sock
    have connected := @connectClient_ensures World Exc PKey Sock login (events ++ [.opened sock])
      pkey sock (KeyRaised login attempt pkey events)
    rw [List.append_assoc] at connected
    apply Effect.ensures_bind _ connected
    intro answer
    cases answer with
    | none => exact Effect.ensures_pure fun _ same => same
    | some exception =>
        have closed := @closeProxySock_ensures World Exc PKey Sock login
          (events ++ [.opened sock, .connect pkey sock]) sock (KeyRaised login attempt pkey events)
        rw [List.append_assoc] at closed
        exact Effect.ensures_bind _ closed fun _ =>
          handle_ensures login attempt pkey sock exception

/-! ### All keys -/

variable {keys : List (Option PKey)} {authFailed : List Exc}

/-- What is known when the loop over the keys has ended, with the refusals before it. -/
def KeysTried (attempt : RetryAttempt) (keys : List (Option PKey)) (authFailed : List Exc)
    (before : List (LoginEvent PKey Sock)) : KeysEnd Exc Sock → LoginState World PKey Sock → Prop
  | .succeeded sock, state => ∃ pkey refusals events, Reaches login.kind keys pkey refusals events ∧
      state.2 = before ++ events ++ [.opened sock, .connect pkey sock]
  | .exhausted all, state => ∃ refusals events, Refused login.kind keys refusals events ∧
      all = refusals ++ authFailed ∧ state.2 = before ++ events
  | .failed all, state => ¬attempt.AtLimit ∧ ∃ pkey sock exception refusals events,
      Reaches login.kind keys pkey refusals events ∧ login.kind exception = .exception ∧
      all = refusals ++ authFailed ∧ state.2 = before ++ events ++ failedLogin pkey sock

/-- What is known when it raises. -/
def KeysRaised (attempt : RetryAttempt) (keys : List (Option PKey))
    (before : List (LoginEvent PKey Sock)) (error : LoginError Exc)
    (state : LoginState World PKey Sock) : Prop :=
  ∃ pkey refusals events, Reaches login.kind keys pkey refusals events ∧
    KeyRaised login attempt pkey (before ++ events) error state

theorem tryKeys_ensures (attempt : RetryAttempt) {before : List (LoginEvent PKey Sock)}
    (others : List (Option PKey)) {tried : List (Option PKey)} {refusals : List Exc}
    {events : List (LoginEvent PKey Sock)} (refused : Refused login.kind tried refusals events) :
    Effect.Ensures (fun state : LoginState World PKey Sock => state.2 = before ++ events)
      (tryKeys login attempt others (refusals ++ authFailed))
      (KeysTried login attempt (tried ++ others) authFailed before)
      (KeysRaised login attempt (tried ++ others) before) := by
  induction others generalizing tried refusals events with
  | nil =>
      apply Effect.ensures_pure
      intro state same
      rw [List.append_nil]
      exact ⟨refusals, events, refused, rfl, same⟩
  | cons pkey others inductionHypothesis =>
      have reaches : Reaches login.kind (tried ++ pkey :: others) pkey refusals events :=
        .behind rfl refused
      unfold tryKeys
      apply Effect.ensures_bind (KeyTried login attempt pkey (before ++ events))
      · apply (tryKey_ensures login attempt pkey).mono
        · exact fun _ same => same
        · exact fun _ _ known => known
        · exact fun _ _ raised => ⟨pkey, refusals, events, reaches, raised⟩
      · intro ended
        cases ended with
        | succeeded sock =>
            exact Effect.ensures_pure fun _ same => ⟨pkey, refusals, events, reaches, same⟩
        | failed =>
            apply Effect.ensures_pure
            rintro state ⟨free, exception, sock, kind, same⟩
            exact ⟨free, pkey, sock, exception, refusals, events, reaches, kind, rfl, same⟩
        | refused exception =>
            rintro state ⟨kind, sock, same⟩
            have longer : Refused login.kind (tried ++ [pkey]) (exception :: refusals)
                (events ++ failedLogin pkey sock) := refused.another kind
            have next := inductionHypothesis longer
            rw [List.append_assoc, List.singleton_append] at next
            apply next state
            rw [same, List.append_assoc]

/-! ### The loop over the attempts -/

variable {retry : Retry}

/-- An attempt logs in, raises, or leaves a failed attempt behind it. -/
theorem connectTurn_keeps (pkeys : List PKey) (retry : Retry) :
    Retry.KeepsGuarded retry (connectTurn login pkeys)
      (Before retry login.kind (triedKeys pkeys)) (LoggedIn retry login.kind (triedKeys pkeys))
      (NotLoggedIn retry login.kind (triedKeys pkeys)) := by
  rintro frame number authFailed reached state ⟨allowed, failed⟩
  have turn : Effect.Ensures (fun other : LoginState World PKey Sock => other.2 = state.2 ++ [])
      (connectTurn login pkeys frame.attempt authFailed)
      (Retry.Turn.Holds (fun authFailed after => ¬frame.attempt.AtLimit ∧
        Before retry login.kind (triedKeys pkeys) (number + 1) authFailed after)
        (LoggedIn retry login.kind (triedKeys pkeys)))
      (NotLoggedIn retry login.kind (triedKeys pkeys)) := by
    unfold connectTurn
    apply Effect.ensures_bind
      (KeysTried login frame.attempt (triedKeys pkeys) authFailed state.2)
    · apply (tryKeys_ensures login frame.attempt (triedKeys pkeys) .none).mono
      · exact fun _ same => same
      · exact fun _ _ known => known
      · rintro error after ⟨pkey, refusals, events, reaches, raised⟩
        cases raised with
        | noSock same => exact .noSock allowed failed reaches same
        | interrupted kind same => exact .interrupted allowed failed reaches kind same
        | gaveUp limit kind same => exact .gaveUp allowed reached limit failed reaches kind same
    · intro ended
      cases ended with
      | succeeded sock =>
          apply Effect.ensures_pure
          rintro after ⟨pkey, refusals, events, reaches, same⟩
          exact ⟨number, authFailed, state.2, pkey, refusals, events, allowed, failed, reaches,
            same⟩
      | failed all =>
          apply Effect.ensures_pure
          rintro after ⟨free, pkey, sock, exception, refusals, events, reaches, kind, rfl, same⟩
          have another : FailedAttempts login.kind (triedKeys pkeys) (number + 1)
              (refusals ++ authFailed) (state.2 ++ events ++ failedLogin pkey sock) :=
            failed.again reaches kind
          exact ⟨free, Retry.Allows.next reached free, same ▸ another⟩
      | exhausted all =>
          cases all with
          | nil =>
              apply Effect.ensures_pure
              rintro after ⟨refusals, events, refused, none_, -⟩
              have empty : refusals = [] := (List.append_eq_nil_iff.mp none_.symm).1
              have lengths := refused.length_eq
              simp [empty, triedKeys] at lengths
          | cons exception causes =>
              apply Effect.ensures_raise
              rintro after ⟨refusals, events, refused, all, same⟩
              rw [all]
              exact .refused allowed failed refused same
  exact turn state (List.append_nil state.2).symm

theorem connectTurn_ends (pkeys : List PKey) (attempt : RetryAttempt) (authFailed : List Exc) :
    (connectTurn login pkeys attempt authFailed).Ends := by
  have key_ends : ∀ pkey, (tryKey login attempt pkey).Ends := by
    intro pkey
    apply Effect.ends_bind
    · apply Effect.ends_bind (request_ends LoginError.raised login.proxySock)
      intro sock
      exact Effect.ends_bind (Effect.ends_update _) fun _ _ => rfl
    · intro sock
      apply Effect.ends_bind
      · exact Effect.ends_bind (Effect.ends_update _) fun _ => Effect.ends_update _
      · intro answer
        cases answer with
        | none => exact fun _ => rfl
        | some exception =>
            apply Effect.ends_bind
            · cases sock with
              | none => exact fun _ => rfl
              | some sock =>
                  exact Effect.ends_bind (Effect.ends_update _) fun _ => Effect.ends_update _
            · exact fun _ => Effect.ends_ofExcept _
  have keys_end : ∀ keys authFailed, (tryKeys login attempt keys authFailed).Ends := by
    intro keys
    induction keys with
    | nil => exact fun _ _ => rfl
    | cons pkey others inductionHypothesis =>
        intro authFailed
        apply Effect.ends_bind (key_ends pkey)
        intro ended
        cases ended with
        | succeeded sock => exact fun _ => rfl
        | refused exception => exact inductionHypothesis (exception :: authFailed)
        | failed => exact fun _ => rfl
  apply Effect.ends_bind (keys_end _ _)
  intro ended
  cases ended with
  | succeeded sock => exact fun _ => rfl
  | failed all => exact fun _ => rfl
  | exhausted all => cases all <;> exact fun _ => rfl

/-- The attempts that a login makes at most, sixty if none are given. -/
def connectAttempts (limits : ConnectionLimits) : Int :=
  (orOther limits.connectionAttempts (some 60)).getD 60

theorem connectRetry_count (limits : ConnectionLimits) :
    (connectRetry limits).count = some (connectAttempts limits) := by
  show orOther limits.connectionAttempts (some 60) = some (connectAttempts limits)
  unfold connectAttempts
  cases attempts : limits.connectionAttempts with
  | none => rfl
  | some count =>
      by_cases zero : count = 0
      · rw [orOther_of_falsy (.inr (congrArg some zero))]
        rfl
      · rw [orOther_of_ne_zero zero]
        rfl

theorem untimed_before (retry : Retry) (kind : Exc → ExceptionKind) (keys : List (Option PKey))
    (number : Int) (authFailed : List Exc) :
    Retry.Untimed (login.clock.paired (List (LoginEvent PKey Sock)))
      (Before retry kind keys number authFailed) :=
  ⟨fun _ holds => holds, fun _ _ holds => holds⟩

theorem before_start (retry : Retry) (kind : Exc → ExceptionKind) (keys : List (Option PKey))
    (world : World) : Before retry kind keys 1 [] (world, ([] : List (LoginEvent PKey Sock))) :=
  ⟨fun count _ => le_max_left 1 count, .none⟩

/-- The keys that a login tries. -/
def loginKeys (keyFilename : List String) : List (Option PKey) :=
  triedKeys (keyFilename.filterMap login.files.key)

/-- What is known of the end of a login. -/
structure Ended (limits : ConnectionLimits) (keyFilename : List String)
    (result : Except (LoginError Exc) (Option Sock)) (state : LoginState World PKey Sock) :
    Prop where
  returns : ∀ sock, result = .ok sock →
    LoggedIn (connectRetry limits) login.kind (loginKeys login keyFilename) sock state
  raises : ∀ error, result = .error error →
    (state.2 = [] ∧ ∃ exception, error = .raised exception ∧
      loadPrivateKeys login.files keyFilename = .error exception) ∨
    NotLoggedIn (connectRetry limits) login.kind (loginKeys login keyFilename) error state

/-- How often a socket is open that a login returns, or not. -/
def keptOpen [DecidableEq Sock] (sock : Sock) : Except (LoginError Exc) (Option Sock) → Nat
  | .ok own => if own = some sock then 1 else 0
  | .error _ => 0

variable {login} {limits : ConnectionLimits} {keyFilename : List String}
  {state : LoginState World PKey Sock}

theorem NotLoggedIn.balanced [DecidableEq PKey] [DecidableEq Sock] {kind : Exc → ExceptionKind}
    {error : LoginError Exc} (notLoggedIn : NotLoggedIn retry kind keys error state) (sock : Sock) :
    OpenTimes sock state.2 0 := by
  cases notLoggedIn with
  | refused allowed failed all same =>
      rw [same]
      exact (failed.balanced sock).append (all.balanced sock)
  | noSock allowed failed reached same =>
      obtain ⟨-, refused⟩ := reached
      rw [same]
      exact (failed.balanced sock).append (refused.balanced sock)
  | interrupted allowed failed reached kind same =>
      obtain ⟨-, refused⟩ := reached
      rw [same]
      exact ((failed.balanced sock).append (refused.balanced sock)).append
        (openTimes_failedLogin sock _ _)
  | gaveUp allowed last limit failed reached own same =>
      obtain ⟨-, refused⟩ := reached
      rw [same]
      exact ((failed.balanced sock).append (refused.balanced sock)).append
        (openTimes_failedLogin sock _ _)

theorem Ended.open [DecidableEq PKey] [DecidableEq Sock]
    {result : Except (LoginError Exc) (Option Sock)}
    (ended : Ended login limits keyFilename result state) (sock : Sock) :
    OpenTimes sock state.2 (keptOpen sock result) := by
  cases result with
  | error error =>
      rcases ended.raises error rfl with ⟨empty, -⟩ | notLoggedIn
      · rw [empty]
        exact openTimes_nil sock
      · exact notLoggedIn.balanced sock
  | ok own =>
      obtain ⟨number, authFailed, before, pkey, refusals, events, -, failed, reaches, same⟩ :=
        ended.returns own rfl
      obtain ⟨-, refused⟩ := reaches
      have earlier := (failed.balanced sock).append (refused.balanced sock)
      have all := earlier.append (openTimes_succeeded sock pkey own)
      rw [← same] at all
      unfold keptOpen
      simpa using all

/-- **The login.** With enough turns it ends. It returns with the first key that an attempt does not
see refused; it raises the refusals of all attempts as soon as one of them has seen all keys
refused, and another error when the keys or a socket cannot be had or when the last attempt fails.
Whatever happens, no proxy socket stays open but the one that is returned. -/
theorem ssh_connect_run [DecidableEq PKey] [DecidableEq Sock]
    (login : SshLogin World Exc PKey Sock) (limits : ConnectionLimits) (keyFilename : List String)
    {turns : Nat} (enough : max 1 (connectAttempts limits) ≤ turns) (world : World) :
    ∃ result after, sshConnect login limits keyFilename turns (world, []) = some (result, after) ∧
      Ended login limits keyFilename result after ∧
      ∀ sock, OpenTimes sock after.2 (keptOpen sock result) := by
  cases loads : loadPrivateKeys login.files keyFilename with
  | error exception =>
      refine ⟨.error (.raised exception), (world, []), ?_, ?_⟩
      · unfold sshConnect
        rw [loads]
        rfl
      · have ended : Ended login limits keyFilename
            (.error (.raised exception) : Except (LoginError Exc) (Option Sock))
            (world, ([] : List (LoginEvent PKey Sock))) := by
          refine ⟨fun sock same => (by cases same), fun error same => ?_⟩
          cases same
          exact .inl ⟨rfl, exception, rfl, loads⟩
        exact ⟨ended, ended.open⟩
  | ok pkeys =>
      have same : sshConnect login limits keyFilename turns (world, []) =
          (connectRetry limits).loop (login.clock.paired _) connectErrors (connectTurn login pkeys)
            turns [] (world, []) := by
        unfold sshConnect
        rw [loads]
        rfl
      have keeps := connectTurn_keeps login pkeys (connectRetry limits)
      have start : Before (connectRetry limits) login.kind (triedKeys pkeys) 1 []
          (world, ([] : List (LoginEvent PKey Sock))) := before_start _ _ _ world
      have ends : (sshConnect login limits keyFilename turns (world, [])).isSome := by
        rw [same]
        apply Retry.loop_ends_guarded (untimed_before login _ _ _) keeps
        · intro number authFailed after holds
          show number ≤ ((max 1 (connectAttempts limits)).toNat : Int)
          have within := holds.1 _ (connectRetry_count limits)
          omega
        · exact connectTurn_ends login pkeys
        · omega
        · exact start
      obtain ⟨⟨result, after⟩, ran⟩ := Option.isSome_iff_exists.mp ends
      have keys : triedKeys pkeys = loginKeys login keyFilename := by
        rw [loadPrivateKeys_ok loads]
        rfl
      obtain ⟨returned, raised⟩ := Retry.loop_ensures_guarded (untimed_before login _ _ _) keeps
        turns [] (world, []) start result after (same ▸ ran)
      rw [keys] at returned raised
      have ended : Ended login limits keyFilename result after :=
        ⟨returned, fun error same => .inr (raised error same)⟩
      exact ⟨result, after, ran, ended, ended.open⟩

/-- A host that is not there at first, and that refuses the only key there is. -/
def lateHost : SshLogin ℚ String String ℚ where
  clock := Clock.ideal
  files :=
    { exists_ := fun filename => filename = "id_rsa", read := fun filename _ => .loaded filename }
  proxySock now := (.ok (some now), now)
  connect pkey _ now := (if now < 1 then some "no route" else pkey.map fun _ => "refused", now)
  close _ now := now
  kind exception := if exception = "refused" then .authentication else .exception

theorem ssh_connect_run_late :
    ∃ after, sshConnect lateHost ⟨some 2, none, none⟩ ["id_rsa", "id_ecdsa"] 2 (0, []) =
        some (.ok (some 5), after) ∧
      after.2 = [.opened (some 0), .connect (some "id_rsa") (some 0), .closed 0,
        .opened (some 5), .connect (some "id_rsa") (some 5), .closed 5,
        .opened (some 5), .connect none (some 5)] ∧
      ∀ sock, OpenTimes sock after.2 (if sock = 5 then 1 else 0) := by
  obtain ⟨result, after, ran, -, kept⟩ := ssh_connect_run lateHost ⟨some 2, none, none⟩
    ["id_rsa", "id_ecdsa"] (by decide : max 1 (connectAttempts ⟨some 2, none, none⟩) ≤ (2 : Nat)) 0
  have shown : (sshConnect lateHost ⟨some 2, none, none⟩ ["id_rsa", "id_ecdsa"] 2 (0, [])).map
      (fun ended => (ended.1, ended.2.2)) = some (.ok (some 5),
        [.opened (some 0), .connect (some "id_rsa") (some 0), .closed 0,
          .opened (some 5), .connect (some "id_rsa") (some 5), .closed 5,
          .opened (some 5), .connect none (some 5)]) := by
    decide +kernel
  rw [ran] at shown
  obtain ⟨rfl, events⟩ := Prod.mk.inj (Option.some.inj shown)
  refine ⟨after, ran, events, fun sock => ?_⟩
  have open_ := kept sock
  unfold keptOpen at open_
  simpa [eq_comm] using open_

end Runs

end Tobiko.Shell.Ssh.SshConnect
