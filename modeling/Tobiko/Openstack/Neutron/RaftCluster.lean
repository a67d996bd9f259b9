import Tobiko.Common.RetryLimits
import Tobiko.Common.RetryLoop
import Tobiko.Openstack.Neutron.RaftStatus

/-!
Contract: the state of a RAFT cluster of OVN databases, as `tobiko/openstack/neutron/_ovn.py`
collects and checks it, and as `test_raft_cluster` in `tobiko/openstack/tests/_neutron.py` does.

Owns: the loop that collects the statuses of all the hosts, the check of the timers and the check
that there is one leader.

Does not own: how the hosts are asked, the ports that the databases listen on, and what the checks
say of the statuses that the hosts print.
-/

namespace Tobiko.Openstack.Neutron

open Tobiko.Common Tobiko.Common.Time Tobiko.Foundation

inductive ClusterError (Exc : Type) where
  | raised (exception : Exc)
  | status (error : StatusError)
  | keyError (name : Text)
  | attributeError
  | typeError
  | valueError
  | raftStatusError (message : Text)
  | assertion
  | retryLimit (error : RetryLimitError)
  | brokenRetryLoop
  deriving DecidableEq

/-! ### The timers -/

def agePrefix : Text := "last msg ".toList

def ageSuffix : Text := " ms ago".toList

/-- `last msg [0-9]+ ms ago` at the begin of a text: the number. -/
def matchAge (text : Text) : Option Nat :=
  if agePrefix.isPrefixOf text then
    let rest := text.drop agePrefix.length
    let digits := rest.takeWhile Char.isDigit
    if digits ≠ [] ∧ ageSuffix.isPrefixOf (rest.drop digits.length) then some (Text.ofDigits digits)
    else none
  else none

/-- The numbers of `re.findall`. No match begins inside another one, as none has a second `l`. -/
def findAges (text : Text) : List Nat := text.tails.filterMap matchAge

/-- What a loop over the value visits. -/
def Detail.elements : Detail → List Text
  | .value data => data.map fun character => [character]
  | .items lines => lines

section Timers

variable {Exc : Type}

def getDetail (nodeDetails : ClusterStatus) (name : String) : Except (ClusterError Exc) Detail :=
  match nodeDetails.get? name.toList with
  | none => .error (.keyError name.toList)
  | some detail => .ok detail

/-- `int(...)` -/
def Detail.int : Detail → Except (ClusterError Exc) Int
  | .items _ => .error .typeError
  | .value data =>
      match Text.int data with
      | none => .error .valueError
      | some number => .ok number

/-- `srv_str.startswith(...)` -/
def Detail.startsText (server : Text) : Detail → Except (ClusterError Exc) Bool
  | .items _ => .error .typeError
  | .value data => .ok (data.isPrefixOf server)

def unparsedTimerMessage (server : Text) : Text :=
  "Failed to parse connection timer from \"".toList ++ server ++ "\"".toList

def lateMessage (age : Nat) (electionTimer : Int) : Text :=
  "Cluster communication time ".toList ++ Nat.toDigits 10 age ++
    " is higher than election timer ".toList ++ (toString electionTimer).toList

/-- The end of the body: the last message of the server is not too old. -/
def checkAge (electionTimer : Int) (server : Text) : Except (ClusterError Exc) Unit :=
  match findAges server with
  | [age] =>
      if electionTimer < age then .error (.raftStatusError (lateMessage age electionTimer))
      else .ok ()
  | _ => .error (.raftStatusError (unparsedTimerMessage server))

/-- The body of the loop over the servers. -/
def checkServer (nodeDetails : ClusterStatus) (electionTimer : Int) (leaderId : Detail)
    (server : Text) : Except (ClusterError Exc) Unit :=
  if Text.contains "self".toList server then .ok ()
  else do
    let role ← getDetail nodeDetails "Role"
    if role = .value "follower".toList then
      if ← leaderId.startsText server then checkAge electionTimer server else .ok ()
    else checkAge electionTimer server

/-- `check_raft_timers` -/
def checkRaftTimers (nodeDetails : ClusterStatus) : Except (ClusterError Exc) Unit := do
  let electionTimer ← (← getDetail nodeDetails "Election timer").int
  let leaderId ← getDetail nodeDetails "Leader"
  let servers ← getDetail nodeDetails "Servers"
  servers.elements.forM (checkServer nodeDetails electionTimer leaderId)

/-! ### One leader -/

/-- The body of the loop of `test_raft_cluster` over the nodes. -/
def checkNode (leaderFound : Bool) (nodeDetails : ClusterStatus) :
    Except (ClusterError Exc) Bool := do
  checkRaftTimers nodeDetails
  let role ← getDetail nodeDetails "Role"
  if role = .value "leader".toList then
    if leaderFound then .error .assertion else .ok true
  else .ok leaderFound

def checkNodes (clusterDetails : List ClusterStatus) : Except (ClusterError Exc) Unit := do
  let leaderFound ← clusterDetails.foldlM checkNode false
  if leaderFound then .ok () else .error .assertion

/-! ### The statuses of the hosts -/

/-- `.lower()` for the comparison with a word that no other letter has a lower form in. -/
def Detail.lower : Detail → Except (ClusterError Exc) Text
  | .items _ => .error .attributeError
  | .value data => .ok (data.map Char.toLower)

/-- The loop over the answers; it is left at the first candidate. -/
def collectHosts : List (Text × Text) → List ClusterStatus →
    Except (ClusterError Exc) (Option (List ClusterStatus))
  | [], clusterDetails => .ok (some clusterDetails)
  | (hostId, stdout) :: answers, clusterDetails => do
      let parsed ← (parseClusterStatus stdout).mapError .status
      let details := parsed.set "host".toList (.value hostId)
      let role ← (← getDetail details "Role").lower
      if role = "candidate".toList then .ok none
      else collectHosts answers (clusterDetails ++ [details])

end Timers

/-- How the hosts are asked. -/
structure DatabaseHosts (World Exc : Type) where
  clock : Clock World
  runOnHosts : World → Except Exc (List (Text × Text)) × World

section Collect

variable {World Exc : Type} (hosts : DatabaseHosts World Exc)

abbrev ClusterEffect (World Exc : Type) := Effect (ClusterError Exc) World

def runOnHosts : ClusterEffect World Exc (List (Text × Text)) := do
  let answers ← Effect.update hosts.runOnHosts
  Effect.ofExcept (answers.mapError .raised)

/-- `tobiko.retry(timeout=30, interval=1)` -/
def collectRetry : Retry :=
  Tobiko.Common.retry
    { otherRetry := none
      count := none
      timeout := some 30
      sleepTime := none
      interval := some 1
      defaultCount := none
      defaultTimeout := none
      defaultSleepTime := none
      defaultInterval := none }

def collectErrors : Retry.LoopErrors (ClusterError Exc) := ⟨.retryLimit, .brokenRetryLoop⟩

/-- The body of the loop. The details that a round with a candidate has collected are dropped. -/
def collectTurn (_attempt : RetryAttempt) (_locals : Unit) :
    ClusterEffect World Exc (Retry.Turn Unit (List ClusterStatus)) := do
  let answers ← runOnHosts hosts
  let collected ← Effect.ofExcept (collectHosts answers [])
  match collected with
  | none => pure (.next ())
  | some clusterDetails => pure (.leave clusterDetails)

/-- `collect_raft_cluster_details` -/
def collectRaftClusterDetails (turns : Nat) : ClusterEffect World Exc (List ClusterStatus) :=
  collectRetry.loop hosts.clock collectErrors (collectTurn hosts) turns ()

/-- `test_raft_cluster` for a database, without the ports. -/
def testRaftCluster (turns : Nat) : ClusterEffect World Exc Unit := do
  let clusterDetails ← collectRaftClusterDetails hosts turns
  Effect.ofExcept (checkNodes clusterDetails)

end Collect

end Tobiko.Openstack.Neutron
