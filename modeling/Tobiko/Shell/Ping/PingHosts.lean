import Mathlib.Data.List.Perm.Basic
import Tobiko.Common.RetryRecovery

/-!
Contract: the pings of several hosts in `tobiko/shell/ping/_ping.py`.

Owns: `ping_hosts`, the loop of `wait_for_ping_hosts` with the hosts that are left in it, and which
hosts have answered as they should when a run ends.

Does not own: how a host is pinged (`Rounds`, `Accounting`).
-/

namespace Tobiko.Shell.Ping

open Tobiko.Common Tobiko.Common.Time Tobiko.Foundation

/-- What `ping` raises. -/
inductive PingEnd (Exc : Type) where
  | pingError
  | other (exception : Exc)
  deriving DecidableEq

/-- The pings of hosts: the number of the messages that are received. -/
structure HostPing (World Host Exc : Type) where
  clock : Clock World
  ping : Host → World → Except (PingEnd Exc) Int × World

inductive PingHostsError (Host Exc : Type) where
  | raised (exception : Exc)
  | reachableHosts (hosts : List Host) (timeout : Option ℚ) (elapsedTime : ℚ)
  | unreachableHosts (hosts : List Host) (timeout : Option ℚ) (elapsedTime : ℚ)
  | retryLimit (error : RetryLimitError)
  | brokenRetryLoop
  deriving DecidableEq

section Hosts

variable {World Host Exc : Type}

/-- A host that has been pinged, and what the ping has returned or raised. -/
abbrev Answer (Host Exc : Type) := Host × Except (PingEnd Exc) Int

/-- The world, with the answers of all pings until now. -/
abbrev PingState (World Host Exc : Type) := World × List (Answer Host Exc)

abbrev PingEffect (World Host Exc : Type) :=
  Effect (PingHostsError Host Exc) (PingState World Host Exc)

/-- Which of the lists of `ping_hosts` the host goes to. -/
def isReachable : Except (PingEnd Exc) Int → Except Exc Bool
  | .ok received => .ok (received ≠ 0)
  | .error .pingError => .ok false
  | .error (.other exception) => .error exception

variable (pings : HostPing World Host Exc)

def pingHost (host : Host) : PingEffect World Host Exc Bool := do
  let answer ← Effect.update fun (world, seen) =>
    let (answer, after) := pings.ping host world
    (answer, after, seen ++ [(host, answer)])
  Effect.ofExcept ((isReachable answer).mapError .raised)

/-- The loop of `ping_hosts`, with the two lists. -/
def pingEach : List Host → List Host → List Host → PingEffect World Host Exc (List Host × List Host)
  | [], reachable, unreachable => pure (reachable, unreachable)
  | host :: hosts, reachable, unreachable => do
      if ← pingHost pings host then
        pingEach hosts (reachable ++ [host]) unreachable
      else
        pingEach hosts reachable (unreachable ++ [host])

def pingHosts (hosts : List Host) : PingEffect World Host Exc (List Host × List Host) :=
  pingEach pings hosts [] []

/-- The arguments of `wait_for_ping_hosts`. -/
structure PingRetry where
  checkUnreachable : Bool := false
  retryCount : Option Int := none
  retryTimeout : Option ℚ := none
  retryInterval : Option ℚ := none
  timeout : Option ℚ := none

def PingRetry.retry (arguments : PingRetry) : Retry :=
  Tobiko.Common.retry
    { otherRetry := none
      count := arguments.retryCount
      timeout := arguments.retryTimeout.or arguments.timeout
      sleepTime := none
      interval := arguments.retryInterval
      defaultCount := none
      defaultTimeout := some 300
      defaultSleepTime := none
      defaultInterval := some 5 }

def pingHostsErrors : Retry.LoopErrors (PingHostsError Host Exc) := ⟨.retryLimit, .brokenRetryLoop⟩

def hostsError (checkUnreachable : Bool) (hosts : List Host) (attempt : RetryAttempt) :
    PingHostsError Host Exc :=
  if checkUnreachable then
    .reachableHosts hosts (attempt.timeout.map (↑)) attempt.elapsedTime
  else
    .unreachableHosts hosts (attempt.timeout.map (↑)) attempt.elapsedTime

/-- The body of the loop: the hosts that are left are pinged again. -/
def pingTurn (checkUnreachable : Bool) (attempt : RetryAttempt) (hosts : List Host) :
    PingEffect World Host Exc (Retry.Turn (List Host) Unit) := do
  let (reachable, unreachable) ← pingHosts pings hosts
  let hosts := if checkUnreachable then reachable else unreachable
  if hosts = [] then
    pure (.leave ())
  else if attempt.isLast (none : Option (PingHostsError Host Exc)) then
    Effect.raise (hostsError checkUnreachable hosts attempt)
  else
    pure (.next hosts)

/-- `wait_for_ping_hosts` -/
def waitForPingHosts (arguments : PingRetry) (turns : Nat) (hosts : List Host) :
    PingEffect World Host Exc Unit :=
  arguments.retry.loop (pings.clock.paired _) pingHostsErrors
    (pingTurn pings arguments.checkUnreachable) turns hosts

end Hosts

/-! ### The rounds of a wait -/

section Rounds

variable {World Host Exc : Type}

/-- The hosts with that answer. -/
def answered (reachable : Bool) (answers : List (Answer Host Exc)) : List Host :=
  (answers.filter fun answer => (isReachable answer.2).toOption == some reachable).map Prod.fst

variable (pings : HostPing World Host Exc)

/-- The hosts are pinged one after the other, each in the world that the ping before leaves, and
these are the answers of the pings. -/
inductive Pinged : World → List Host → List (Answer Host Exc) → World → Prop
  | none {world : World} : Pinged world [] [] world
  | host {world after : World} {host : Host} {hosts : List Host} {answers : List (Answer Host Exc)}
      {reachable : Bool} (answer : isReachable (pings.ping host world).1 = .ok reachable)
      (others : Pinged (pings.ping host world).2 hosts answers after) :
      Pinged world (host :: hosts) ((host, (pings.ping host world).1) :: answers) after

/-- The hosts are pinged one after the other, up to one whose ping raises the exception. -/
inductive Interrupted (exception : Exc) : World → List Host → List (Answer Host Exc) → World → Prop
  | raised {world : World} {host : Host} {hosts : List Host}
      (answer : (pings.ping host world).1 = .error (.other exception)) :
      Interrupted exception world (host :: hosts) [(host, (pings.ping host world).1)]
        (pings.ping host world).2
  | later {world after : World} {host : Host} {hosts : List Host}
      {answers : List (Answer Host Exc)} {reachable : Bool}
      (answer : isReachable (pings.ping host world).1 = .ok reachable)
      (others : Interrupted exception (pings.ping host world).2 hosts answers after) :
      Interrupted exception world (host :: hosts) ((host, (pings.ping host world).1) :: answers) after

/-- What has been seen before the round of that number, and the hosts that are left for it: each
round pings these, and leaves those that have not answered as they should. -/
inductive PingRounds (checkUnreachable : Bool) (hosts : List Host) :
    Int → List Host → List (Answer Host Exc) → Prop
  | none : PingRounds checkUnreachable hosts 1 hosts []
  | again {number : Int} {left : List Host} {seen answers : List (Answer Host Exc)}
      {world after : World} (earlier : PingRounds checkUnreachable hosts number left seen)
      (pinged : Pinged pings world left answers after) :
      PingRounds checkUnreachable hosts (number + 1) (answered checkUnreachable answers)
        (seen ++ answers)

variable {pings} {checkUnreachable : Bool} {hosts left : List Host} {number : Int}
  {seen : List (Answer Host Exc)}

theorem answered_append (reachable : Bool) (first second : List (Answer Host Exc)) :
    answered reachable (first ++ second) = answered reachable first ++ answered reachable second := by
  simp [answered]

theorem answered_cons {host : Host} {answer : Except (PingEnd Exc) Int} {reached : Bool}
    (same : isReachable answer = .ok reached) (reachable : Bool) (answers : List (Answer Host Exc)) :
    answered reachable ((host, answer) :: answers) =
      if reached = reachable then host :: answered reachable answers
      else answered reachable answers := by
  unfold answered
  rw [List.filter_cons, same]
  cases reached <;> cases reachable <;> rfl

theorem Pinged.perm {world after : World} {answers : List (Answer Host Exc)}
    (pinged : Pinged pings world hosts answers after) (reachable : Bool) :
    (answered (!reachable) answers ++ answered reachable answers).Perm hosts := by
  induction pinged with
  | none => exact List.Perm.refl _
  | @host world after host hosts answers reached answer others inductionHypothesis =>
      rw [answered_cons answer, answered_cons answer]
      by_cases same : reached = reachable
      · have apart : reached ≠ !reachable := by simp [same]
        rw [if_neg apart, if_pos same]
        exact List.perm_middle.trans (inductionHypothesis.cons host)
      · have other : reached = !reachable := Bool.eq_not_of_ne same
        rw [if_pos other, if_neg same]
        exact inductionHypothesis.cons host

/-- No host is lost: it has answered as it should, once, or it is left. -/
theorem PingRounds.perm (rounds : PingRounds pings checkUnreachable hosts number left seen) :
    (answered (!checkUnreachable) seen ++ left).Perm hosts := by
  induction rounds with
  | none => exact List.Perm.refl _
  | @again number left seen answers world after earlier pinged inductionHypothesis =>
      rw [answered_append, List.append_assoc]
      exact (List.Perm.append_left _ (pinged.perm checkUnreachable)).trans inductionHypothesis

end Rounds

section Waits

variable {World Host Exc : Type} {pings : HostPing World Host Exc}

theorem isReachable_eq_error {answer : Except (PingEnd Exc) Int} {exception : Exc}
    (raised : isReachable answer = .error exception) : answer = .error (.other exception) := by
  cases answer with
  | ok received => cases raised
  | error end_ =>
      cases end_ with
      | pingError => cases raised
      | other exception =>
          cases raised
          rfl

/-- Where one ping leads to. -/
theorem pingHost_ensures (pings : HostPing World Host Exc) (host : Host) (world : World)
    (seen : List (Answer Host Exc)) :
    Effect.Ensures (· = (world, seen)) (pingHost pings host)
      (fun reachable state => isReachable (pings.ping host world).1 = .ok reachable ∧
        state = ((pings.ping host world).2, seen ++ [(host, (pings.ping host world).1)]))
      fun error state => ∃ exception, error = .raised exception ∧
        (pings.ping host world).1 = .error (.other exception) ∧
        state = ((pings.ping host world).2, seen ++ [(host, (pings.ping host world).1)]) := by
  unfold pingHost
  apply Effect.ensures_bind fun answer state => answer = (pings.ping host world).1 ∧
    state = ((pings.ping host world).2, seen ++ [(host, (pings.ping host world).1)])
  · apply Effect.ensures_update
    rintro state rfl
    exact ⟨rfl, rfl⟩
  · intro answer
    cases reached : isReachable answer with
    | ok reachable =>
        apply Effect.ensures_pure
        rintro state ⟨rfl, same⟩
        exact ⟨reached, same⟩
    | error exception =>
        apply Effect.ensures_raise
        rintro state ⟨rfl, same⟩
        exact ⟨exception, rfl, isReachable_eq_error reached, same⟩

/-- Each host goes to one of the lists, in the given order. -/
theorem pingEach_ensures (pings : HostPing World Host Exc) (hosts reachable unreachable : List Host)
    (world : World) (seen : List (Answer Host Exc)) :
    Effect.Ensures (· = (world, seen)) (pingEach pings hosts reachable unreachable)
      (fun lists state => ∃ answers, Pinged pings world hosts answers state.1 ∧
        state.2 = seen ++ answers ∧
        lists = (reachable ++ answered true answers, unreachable ++ answered false answers))
      fun error state => ∃ exception answers, error = .raised exception ∧
        Interrupted pings exception world hosts answers state.1 ∧ state.2 = seen ++ answers := by
  induction hosts generalizing world seen reachable unreachable with
  | nil =>
      apply Effect.ensures_pure
      rintro state rfl
      exact ⟨[], .none, (List.append_nil _).symm, by simp [answered]⟩
  | cons host hosts inductionHypothesis =>
      unfold pingEach
      apply Effect.ensures_bind _
        ((pingHost_ensures pings host world seen).mono (fun _ same => same) (fun _ _ pinged => pinged) ?_)
      · intro reached
        apply Effect.ensures_of fun _ pinged => pinged.1
        intro answer
        -- The host is added to the list of its answer.
        have next : (if reached then pingEach pings hosts (reachable ++ [host]) unreachable
            else pingEach pings hosts reachable (unreachable ++ [host])) =
            pingEach pings hosts (reachable ++ answered true [(host, (pings.ping host world).1)])
              (unreachable ++ answered false [(host, (pings.ping host world).1)]) := by
          rw [answered_cons answer, answered_cons answer]
          cases reached <;> simp [answered]
        rw [next]
        apply (inductionHypothesis _ _ (pings.ping host world).2
          (seen ++ [(host, (pings.ping host world).1)])).mono
        · exact fun _ pinged => pinged.2
        · rintro lists state ⟨answers, others, same, rfl⟩
          refine ⟨_ :: answers, .host answer others, ?_, ?_⟩
          · rw [same, List.append_assoc, List.singleton_append]
          · rw [List.append_assoc, List.append_assoc, ← answered_append, ← answered_append,
              List.singleton_append]
        · rintro error state ⟨exception, answers, rfl, others, same⟩
          refine ⟨exception, _ :: answers, rfl, .later answer others, ?_⟩
          rw [same, List.append_assoc, List.singleton_append]
      · rintro error state ⟨exception, rfl, answer, rfl⟩
        exact ⟨exception, _, rfl, .raised answer, rfl⟩

variable (pings)

/-- All of the hosts have answered as they should, each of them once. -/
def AllAnswered (retry : Retry) (checkUnreachable : Bool) (hosts : List Host)
    (state : PingState World Host Exc) : Prop :=
  (∃ number, retry.Allows number ∧
    PingRounds pings checkUnreachable hosts (number + 1) [] state.2) ∧
    (answered (!checkUnreachable) state.2).Perm hosts

/-- Why a wait fails: some of the hosts have not answered as they should, or a ping raises. -/
inductive NotAnswered (retry : Retry) (checkUnreachable : Bool) (hosts : List Host) :
    PingHostsError Host Exc → PingState World Host Exc → Prop
  | hosts {attempt : RetryAttempt} {number : Int} {left : List Host}
      {state : PingState World Host Exc} (some_left : left ≠ []) (allowed : retry.Allows number)
      (last : attempt.AtLimit)
      (rounds : PingRounds pings checkUnreachable hosts (number + 1) left state.2)
      (others : (answered (!checkUnreachable) state.2 ++ left).Perm hosts) :
      NotAnswered retry checkUnreachable hosts (hostsError checkUnreachable left attempt) state
  | raised {exception : Exc} {number : Int} {left : List Host}
      {before answers : List (Answer Host Exc)} {world : World} {state : PingState World Host Exc}
      (allowed : retry.Allows number)
      (rounds : PingRounds pings checkUnreachable hosts number left before)
      (interrupted : Interrupted pings exception world left answers state.1)
      (after : state.2 = before ++ answers) :
      NotAnswered retry checkUnreachable hosts (.raised exception) state

/-- What is known before the attempt of that number. -/
def PingedBefore (retry : Retry) (checkUnreachable : Bool) (hosts : List Host) (number : Int)
    (left : List Host) (state : PingState World Host Exc) : Prop :=
  retry.Allows number ∧ PingRounds pings checkUnreachable hosts number left state.2

theorem pingTurn_keeps (retry : Retry) (checkUnreachable : Bool) (hosts : List Host) :
    Retry.KeepsGuarded retry (pingTurn pings checkUnreachable)
      (PingedBefore pings retry checkUnreachable hosts)
      (fun _ => AllAnswered pings retry checkUnreachable hosts)
      (NotAnswered pings retry checkUnreachable hosts) := by
  rintro frame number left reached ⟨world, seen⟩ ⟨allowed, rounds⟩
  have turn : Effect.Ensures (· = (world, seen))
      (pingTurn pings checkUnreachable frame.attempt left)
      (Retry.Turn.Holds (fun left after => ¬frame.attempt.AtLimit ∧
          PingedBefore pings retry checkUnreachable hosts (number + 1) left after)
        fun _ => AllAnswered pings retry checkUnreachable hosts)
      (NotAnswered pings retry checkUnreachable hosts) := by
    unfold pingTurn pingHosts
    apply Effect.ensures_bind fun lists (after : PingState World Host Exc) =>
      ∃ answers, Pinged pings world left answers after.1 ∧ after.2 = seen ++ answers ∧
        lists = (answered true answers, answered false answers)
    · apply (pingEach_ensures pings left [] [] world seen).mono
      · exact fun _ same => same
      · exact fun _ _ pinged => pinged
      · rintro error after ⟨exception, answers, rfl, interrupted, same⟩
        exact .raised allowed rounds interrupted same
    · rintro ⟨reachable, unreachable⟩ after ⟨answers, pinged, same, lists⟩
      obtain ⟨rfl, rfl⟩ := Prod.mk.inj lists
      have again : PingRounds pings checkUnreachable hosts (number + 1)
          (answered checkUnreachable answers) after.2 := same ▸ rounds.again pinged
      have left_eq : (if checkUnreachable then answered true answers else answered false answers) =
          answered checkUnreachable answers := by
        cases checkUnreachable <;> rfl
      have others := again.perm
      dsimp only
      rw [left_eq]
      split
      · rename_i none_left
        rw [none_left] at again others
        rw [List.append_nil] at others
        exact Effect.ensures_pure_at ⟨⟨number, allowed, again⟩, others⟩
      · rename_i some_left
        split
        · rename_i last
          exact Effect.ensures_raise_at
            (.hosts some_left allowed (RetryAttempt.isLast_iff.mp last) again others)
        · rename_i free
          have notLast : ¬frame.attempt.AtLimit := fun last =>
            free (RetryAttempt.isLast_iff.mpr last)
          exact Effect.ensures_pure_at ⟨notLast, Retry.Allows.next reached notLast, again⟩
  exact turn (world, seen) rfl

theorem pingEach_ends (hosts reachable unreachable : List Host) :
    (pingEach pings hosts reachable unreachable).Ends := by
  induction hosts generalizing reachable unreachable with
  | nil => exact fun _ => rfl
  | cons host hosts inductionHypothesis =>
      have pinged : (pingHost pings host).Ends :=
        Effect.ends_bind (Effect.ends_update _) fun _ => Effect.ends_ofExcept _
      apply Effect.ends_bind pinged
      intro answer
      cases answer with
      | true => exact inductionHypothesis _ _
      | false => exact inductionHypothesis _ _

theorem pingTurn_ends (checkUnreachable : Bool)
    (attempt : RetryAttempt) (hosts : List Host) :
    (pingTurn pings checkUnreachable attempt hosts).Ends := by
  apply Effect.ends_bind (pingEach_ends pings hosts [] [])
  rintro ⟨reachable, unreachable⟩
  dsimp only
  generalize (if checkUnreachable then reachable else unreachable) = left
  split
  · exact fun _ => rfl
  · split
    · exact fun _ => rfl
    · exact fun _ => rfl

/-- **Each host answers once.** A wait passes only when each of the hosts has answered as it should
in the last round in which it has been pinged, and has not been pinged after that; and it fails
with exactly the hosts that have not answered as they should in the last round of all, or for a
ping that raises. With a count each wait ends. -/
theorem wait_for_ping_hosts_run (arguments : PingRetry) (turns : Nat) (hosts : List Host) :
    Effect.Ensures (fun state : PingState World Host Exc => state.2 = [])
        (waitForPingHosts pings arguments turns hosts)
        (fun _ => AllAnswered pings arguments.retry arguments.checkUnreachable hosts)
        (NotAnswered pings arguments.retry arguments.checkUnreachable hosts) ∧
      ∀ count, arguments.retry.count = some count → max 1 count ≤ turns →
        ∀ state : PingState World Host Exc, state.2 = [] →
          (waitForPingHosts pings arguments turns hosts state).isSome := by
  have untimed : ∀ number left, Retry.Untimed (pings.clock.paired (List (Answer Host Exc)))
      (PingedBefore pings arguments.retry arguments.checkUnreachable hosts number left) :=
    fun number left => ⟨fun _ holds => holds, fun _ _ holds => holds⟩
  have start : ∀ state : PingState World Host Exc, state.2 = [] →
      PingedBefore pings arguments.retry arguments.checkUnreachable hosts 1 hosts state := by
    intro state empty
    refine ⟨fun count _ => le_max_left 1 count, ?_⟩
    rw [empty]
    exact .none
  have keeps := pingTurn_keeps pings arguments.retry arguments.checkUnreachable hosts
  constructor
  · exact fun state empty =>
      Retry.loop_ensures_guarded untimed keeps turns hosts state (start state empty)
  · intro count counted enough state empty
    apply Retry.loop_ends_guarded untimed keeps
    · intro number left after holds
      show number ≤ ((max 1 count).toNat : Int)
      have within := holds.1 count counted
      omega
    · exact pingTurn_ends pings arguments.checkUnreachable
    · omega
    · exact start state empty

/-- The second host answers from the third second on. -/
def slowHost : HostPing ℚ Nat String where
  clock := Clock.ideal
  ping host now := (if host = 2 ∧ now < 3 then .error .pingError else .ok 1, now)

theorem wait_for_ping_hosts_run_slow :
    ∃ after, waitForPingHosts slowHost {} 2 [1, 2] (0, []) = some (.ok (), after) ∧
      AllAnswered slowHost (PingRetry.retry {}) false [1, 2] after ∧
      after.2 = [(1, .ok 1), (2, .error .pingError), (2, .ok 1)] := by
  have ran : (waitForPingHosts slowHost {} 2 [1, 2] (0, [])).map
      (fun ended => (ended.1, ended.2.2)) =
        some (.ok (), [(1, .ok 1), (2, .error .pingError), (2, .ok 1)]) := by
    decide +kernel
  obtain ⟨⟨result, after⟩, ended, same⟩ := Option.map_eq_some_iff.mp ran
  obtain ⟨rfl, seen⟩ := Prod.mk.inj same
  exact ⟨after, ended,
    ((wait_for_ping_hosts_run slowHost {} 2 [1, 2]).1 (0, []) rfl _ _ ended).1 () rfl, seen⟩

end Waits

end Tobiko.Shell.Ping
