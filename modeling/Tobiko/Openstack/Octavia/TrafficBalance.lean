import Tobiko.Common.RetryLimits
import Tobiko.Common.RetryLoop
import Tobiko.Foundation.Histogram
import Tobiko.Foundation.Text

/-!
Contract: `check_members_balanced` of `tobiko/openstack/octavia/_validators.py`.

Owns: the count of the members, the requests with their failures, the counts of the replies
and the checks that are made of them.

Does not own: what a verdict ought to be (`TrafficVerdict`), and what `execute_curl` does in
one request.
-/

namespace Tobiko.Openstack.Octavia

open Tobiko.Common Tobiko.Common.Time Tobiko.Foundation
open Tobiko.Foundation.Text (strip)

/-- The arguments of `execute_curl`. -/
structure CurlRequest where
  hostname : Text
  scheme : Text
  port : Int
  path : Text
  connectTimeout : Option ℚ

/-- How `execute_curl` raises: `sh.ShellCommandFailed` or another exception. -/
inductive RequestFailure (Exc : Type) where
  | shellCommandFailed (exitStatus : Int) (stderr : Text)
  | other (exception : Exc)

/-- What the requests meet: the answer to each of them, by how many went before it, and what
becomes of the world in the meantime. -/
structure Traffic (World Exc : Type) where
  executeCurl : CurlRequest → Nat → Except (RequestFailure Exc) Text
  lasts : Nat → World → World

inductive BalanceError (Exc : Type) where
  | valueError (message : Text)
  | listMembers (exception : Exc)
  | trafficTimeout (reason : Text)
  | roundRobin (message : Text)
  | request (failure : RequestFailure Exc)
  | retryLimit (error : RetryLimitError)
  | brokenRetryLoop

/-- The arguments of `check_members_balanced`. -/
structure BalanceCheck (PoolId : Type) where
  ipAddress : Text
  protocol : Text
  port : Int
  poolId : Option PoolId
  membersCount : Option Nat
  lbAlgorithm : Option Text
  requestsCount : Nat
  connectTimeout : Option ℚ
  interval : Option ℚ

/-- The variables of the loop. -/
structure Balance where
  lastContent : Option Text
  replies : Dict Text Nat

def roundRobinAlgorithm : Text := "ROUND_ROBIN".toList

section Check

variable {World Exc PoolId Member : Type} (check : BalanceCheck PoolId)
  (traffic : Traffic World Exc)

/-- The number of members, given or counted from the pool. -/
def BalanceCheck.countMembers (listMembers : PoolId → Except Exc (List Member)) :
    Except (BalanceError Exc) Nat :=
  match check.membersCount, check.poolId with
  | some membersCount, _ => .ok membersCount
  | none, none => .error (.valueError
      "Either members_count or pool_id has to be passed to the function.".toList)
  | none, some poolId =>
      match listMembers poolId with
      | .ok members => .ok members.length
      | .error exception => .error (.listMembers exception)

def BalanceCheck.curlRequest : CurlRequest where
  hostname := check.ipAddress
  scheme := if check.protocol = "TCP".toList then "HTTP".toList else check.protocol
  port := check.port
  path := "id".toList
  connectTimeout := check.connectTimeout

/-- What becomes of the failure of a request. -/
def BalanceError.ofRequest : RequestFailure Exc → BalanceError Exc
  | .shellCommandFailed exitStatus stderr =>
      if exitStatus = 28 then .trafficTimeout stderr
      else .request (.shellCommandFailed exitStatus stderr)
  | .other exception => .request (.other exception)

/-- One request; the state tells how many have been sent. -/
def sendRequest : Effect (BalanceError Exc) (World × Nat) Text := do
  let reply ← Effect.update fun (world, sent) =>
    (traffic.executeCurl check.curlRequest sent, traffic.lasts sent world, sent + 1)
  match reply with
  | .ok stdout => pure (strip stdout)
  | .error failure => Effect.raise (.ofRequest failure)

def sameHostMessage (membersCount : Nat) (expected actual : Text) : Text :=
  "Request was forwarded two times to the same host:\n".toList ++
    "members_count: ".toList ++ (toString membersCount).toList ++ "\n".toList ++
    "expected: ".toList ++ expected ++ "\n".toList ++
    "actual: ".toList ++ actual ++ "\n".toList

/-- The check of a reply against the one before it. -/
def checkContent (membersCount : Nat) (lastContent : Option Text) (content : Text) :
    Except (BalanceError Exc) Unit :=
  match lastContent with
  | none => .ok ()
  | some lastContent =>
      if check.lbAlgorithm = some roundRobinAlgorithm then
        if 1 < membersCount ∧ lastContent = content then
          .error (.roundRobin (sameHostMessage membersCount lastContent content))
        else
          .ok ()
      else
        .ok ()

/-- The body of the loop. -/
def balanceTurn (membersCount : Nat) (attempt : RetryAttempt) (balance : Balance) :
    Effect (BalanceError Exc) (World × Nat) (Retry.Turn Balance (Dict Text Nat)) := do
  let content ← sendRequest check traffic
  let replies := balance.replies.increment content
  let _ ← Effect.ofExcept (checkContent check membersCount balance.lastContent content)
  if attempt.isLast (none : Option (BalanceError Exc)) then
    pure (.leave replies)
  else
    pure (.next ⟨some content, replies⟩)

/-- `tobiko.retry(count=members_count * requests_count, interval=interval)` -/
def BalanceCheck.retry (membersCount : Nat) : Retry :=
  Tobiko.Common.retry
    { otherRetry := none
      count := some (membersCount * check.requestsCount : Nat)
      timeout := none
      sleepTime := none
      interval := check.interval
      defaultCount := none
      defaultTimeout := none
      defaultSleepTime := none
      defaultInterval := none }

def missingMessage (missingMembersCount : Int) : Text :=
  "Missing replies from ".toList ++ (toString missingMembersCount).toList ++ " members.".toList

/-- The check of the replies behind the loop. -/
def checkReplies (membersCount : Nat) (replies : Dict Text Nat) :
    Except (BalanceError Exc) (Dict Text Nat) :=
  let missingMembersCount : Int := membersCount - replies.keys.length
  if 0 ≠ missingMembersCount then
    .error (.roundRobin (missingMessage missingMembersCount))
  else
    .ok replies

def balanceErrors : Retry.LoopErrors (BalanceError Exc) := ⟨.retryLimit, .brokenRetryLoop⟩

/-- The requests and their check, for so many turns of the loop. -/
def checkTraffic (clock : Clock World) (membersCount turns : Nat) :
    Effect (BalanceError Exc) (World × Nat) (Dict Text Nat) := do
  let replies ← (check.retry membersCount).loop (clock.paired Nat) balanceErrors
    (balanceTurn check traffic membersCount) turns ⟨none, .empty⟩
  Effect.ofExcept (checkReplies membersCount replies)

def checkMembersBalanced (clock : Clock World)
    (listMembers : PoolId → Except Exc (List Member)) (turns : Nat) :
    Effect (BalanceError Exc) (World × Nat) (Dict Text Nat) := do
  let membersCount ← Effect.ofExcept (check.countMembers listMembers)
  checkTraffic check traffic clock membersCount turns

end Check

/-! ### The limits of the loop -/

section Limits

variable {PoolId : Type} {check : BalanceCheck PoolId} {membersCount : Nat}

theorem retry_timeout (check : BalanceCheck PoolId) (membersCount : Nat) :
    (check.retry membersCount).timeout = none := rfl

/-- Without members there is no limit: the zero counts as not given. -/
theorem retry_count_zero (check : BalanceCheck PoolId) : (check.retry 0).count = none := by
  simp [BalanceCheck.retry, retry_eq, Retry.init, merged, orOther, RetryArguments.other]

theorem retry_count (some_members : 0 < membersCount) (some_requests : 1 ≤ check.requestsCount) :
    (check.retry membersCount).count = some ((membersCount * check.requestsCount : Nat) : Int) := by
  have positive : 0 < membersCount * check.requestsCount := Nat.mul_pos some_members some_requests
  have nonzero : ((membersCount * check.requestsCount : Nat) : Int) ≠ 0 := by omega
  rw [BalanceCheck.retry, retry_eq]
  exact merged_of_ne_zero nonzero _ _

/-- Which attempts are the last ones. -/
theorem atLimit_iff {frame : Retry.Frame} {number : Int}
    (follows : frame.Follows (check.retry membersCount) number) :
    frame.attempt.AtLimit ↔
      ∃ count, (check.retry membersCount).count = some count ∧ count ≤ number := by
  rw [RetryAttempt.AtLimit, follows.count_eq, follows.number_eq, follows.timeout_eq,
    retry_timeout]
  simp

end Limits

end Tobiko.Openstack.Octavia
