import Tobiko.Common.RetryLimits
import Tobiko.Common.RetryLoop
import Tobiko.Common.TableComparison
import Tobiko.Foundation.Text

/-!
Contract: `OvercloudProcessesStatus` of `tobiko/tripleo/processes.py`.

Owns: the tables of processes, the processes to check, the two checks of a table and the two
properties that repeat them.

Does not own: what a verdict tells of the tables (`ProcessVerdict`), and how the tables are read
from the nodes.
-/

namespace Tobiko.Tripleo

open Tobiko.Common Tobiko.Common.Time Tobiko.Foundation

/-! ### Processes -/

def processesToCheck : List String :=
  ["ovsdb-server", "pcsd", "corosync", "beam.smp", "mysqld", "redis-server", "haproxy",
    "nova-conductor", "nova-scheduler", "neutron-server", "nova-compute", "glance-api"]

inductive ExpectedNumber where
  | number (number : Int)
  | all
  | other (value : String)
deriving DecidableEq

structure ProcessDict where
  name : String
  nodeGroup : String
  number : ExpectedNumber
deriving DecidableEq

def ovnProcessesToCheckPerNode (isOvnUsingRaft : Bool) : List ProcessDict :=
  [⟨"ovn-controller", "controller", .all⟩,
    ⟨"ovn-controller", "compute", .all⟩,
    ⟨"ovn-northd", "controller", if isOvnUsingRaft then .all else .number 1⟩]

/-- All the names that the checks look for. -/
def queriedNames : List String :=
  processesToCheck ++ ["neutron-server:", "mysqld_safe", "ovn-controller", "ovn-northd"]

/-- A table as it is read from the nodes: texts in two columns of interest, where no name of a
column disturbs the queries for the names of the processes. -/
structure ProcessTable (python : Python) where
  table : TableData Cell
  consistent : table.Consistent
  texts : table.AllTexts
  columns : table.data ≠ [] → "PROCESS" ∈ table.schema ∧ "overcloud_node" ∈ table.schema
  legible : ∀ name ∈ queriedNames,
    Clean python table (tightComparison "PROCESS" name) ["PROCESS"] [name]

/-! ### Nodes -/

/-- The characters of a host name; of these only the dot means something in a pattern. -/
def isHostChar (char : Char) : Bool :=
  char.isAlphanum || char == '-' || char == '.' || char == '_'

structure NodeName where
  text : Text
  hostChars : text.all isHostChar = true
  nonempty : text ≠ []

/-- The groups of the topology, and the names of the nodes of each. -/
structure NodeGroups where
  groups : List String
  nodes : String → List NodeName

/-- The name matches as a pattern at the start of a text. -/
def patternMatches : Text → Text → Bool
  | [], _ => true
  | _ :: _, [] => false
  | char :: name, other :: text =>
      (if char = '.' then decide (other ≠ '\n') else decide (char = other)) &&
        patternMatches name text

/-- `re.compile(r'|'.join(node_list)).match(text)`; without names the pattern is empty. -/
def nodeNamesMatch (nodeList : List NodeName) (text : Text) : Bool :=
  nodeList.isEmpty || nodeList.any fun node => patternMatches node.text text

/-! ### The checks of a table -/

inductive ProcessesError where
  | overcloudProcesses (message : String)
  | valueError (message : String)
  | table (error : TableError)
  | retryLimit (error : RetryLimitError)
  | brokenRetryLoop

section Checks

variable (python : Python) (table : TableData Cell)

/-- `query('PROCESS=="{}"'.format(process_name))` -/
def queryProcess (processName : String) : Except ProcessesError (TableData Cell) :=
  (table.query python (render (tightComparison "PROCESS" processName))).mapError .table

/-- The other name, when the process is looked for under this one and is not found. -/
def renamed (name other processName : String) : Except ProcessesError String :=
  if processName = name then do
    let found ← queryProcess python table processName
    return if found.data.isEmpty then other else processName
  else
    return processName

def redisMessage : String := "redis-server not expected on OSP 17 and later releases by default"

def notRunningMessage (processName : String) : String :=
  "process " ++ processName ++ " is not running "

/-- The redis server, where it is not expected. -/
def checkNotExpected (processName : String) : Except ProcessesError Unit := do
  let found ← queryProcess python table processName
  if found.data.isEmpty then
    return ()
  else
    throw (.overcloudProcesses redisMessage)

def checkRunning (processName : String) : Except ProcessesError Unit := do
  let found ← queryProcess python table processName
  if found.data.isEmpty then
    throw (.overcloudProcesses (notRunningMessage processName))
  else
    return ()

def basicOvercloudProcessRunning (isRedisExpected : Bool) (processName : String) :
    Except ProcessesError Unit := do
  let processName ← renamed python table "neutron-server" "neutron-server:" processName
  let processName ← renamed python table "mysqld" "mysqld_safe" processName
  if processName = "redis-server" && !isRedisExpected then
    checkNotExpected python table processName
  else
    checkRunning python table processName

/-- `row['overcloud_node']`, which `match` takes for a text. -/
def nodeOf (row : Item Cell) : Except ProcessesError Text :=
  match row.column "overcloud_node" with
  | .ok (.str text) => .ok text.toList
  | .ok (.other _) => .error (.table (.typeError "expected string or bytes-like object"))
  | .error error => .error (.table error)

/-- The rows of the nodes whose names match. -/
def filterRows (nodeList : List NodeName) :
    List (Item Cell) → Except ProcessesError (List (Item Cell))
  | [] => .ok []
  | row :: rows => do
      let node ← nodeOf row
      let filtered ← filterRows nodeList rows
      return if nodeNamesMatch nodeList node then row :: filtered else filtered

def ExpectedNumber.resolve (nodeList : List NodeName) :
    ExpectedNumber → Except ProcessesError Int
  | .number count => .ok count
  | .all => .ok nodeList.length
  | .other value => .error (.valueError ("Unexpected value:" ++ value))

def unexpectedNumberMessage (process : ProcessDict) : String :=
  "Unexpected number of processes " ++ process.name ++ " running on " ++ process.nodeGroup ++
    " nodes"

def ovnOvercloudProcessValidations (topology : NodeGroups) (process : ProcessDict) :
    Except ProcessesError Unit := do
  let running ← queryProcess python table process.name
  -- Without any instance of the process nothing is checked.
  if running.data.isEmpty then
    return ()
  let filtered ← queryProcess python table process.name
  if process.nodeGroup ∉ topology.groups then
    return ()
  let nodeList := topology.nodes process.nodeGroup
  let filteredRows ← filterRows nodeList filtered.data
  let perNode ← (TableData.ofRows filteredRows).mapError .table
  let expected ← process.number.resolve nodeList
  if expected ≠ perNode.data.length then
    throw (.overcloudProcesses (unexpectedNumberMessage process))

/-- The check of each of the processes. -/
def checkAll {Process : Type} (check : Process → Except ProcessesError Unit) :
    List Process → Except ProcessesError Unit
  | [] => .ok ()
  | process :: processes => do
      check process
      checkAll check processes

end Checks

/-! ### The properties -/

section Status

variable {World : Type} {python : Python}

/-- `tobiko.retry(timeout=300., interval=1.)` -/
def statusRetry : Retry :=
  retry
    { otherRetry := none
      count := none
      timeout := some 300
      sleepTime := none
      interval := some 1
      defaultCount := none
      defaultTimeout := none
      defaultSleepTime := none
      defaultInterval := none }

variable (tables : Nat → ProcessTable python) (clock : Clock World)

/-- The body of the loops. The state tells which of the tables was read last. -/
def statusTurn (check : TableData Cell → Except ProcessesError Unit) (attempt : RetryAttempt)
    (_ : Unit) : Effect ProcessesError (World × Nat) (Retry.Turn Unit Bool) := do
  let (_, read) ← Effect.get
  match check (tables read).table with
  | .ok () => pure ()
  | .error (.overcloudProcesses message) =>
      if attempt.isLast (some (ProcessesError.overcloudProcesses message)) then
        Effect.raise (.overcloudProcesses message)
      Effect.modify fun (world, read) => (world, read + 1)
  | .error error => Effect.raise error
  -- Also after a check that failed.
  pure (.leave true)

def statusLoop (check : TableData Cell → Except ProcessesError Unit) (turns : Nat) :
    Effect ProcessesError (World × Nat) Bool :=
  statusRetry.loop (clock.paired Nat) ⟨.retryLimit, .brokenRetryLoop⟩ (statusTurn tables check)
    turns ()

def basicCheck (python : Python) (isRedisExpected : Bool) (table : TableData Cell) :
    Except ProcessesError Unit :=
  checkAll (basicOvercloudProcessRunning python table isRedisExpected) processesToCheck

def basicOvercloudProcessesRunning (isRedisExpected : Bool) (turns : Nat) :
    Effect ProcessesError (World × Nat) Bool :=
  statusLoop tables clock (basicCheck python isRedisExpected) turns

def ovnCheck (python : Python) (topology : NodeGroups) (isOvnUsingRaft : Bool)
    (table : TableData Cell) : Except ProcessesError Unit :=
  checkAll (ovnOvercloudProcessValidations python table topology)
    (ovnProcessesToCheckPerNode isOvnUsingRaft)

def ovnOvercloudProcessesValidations (topology : NodeGroups) (hasOvn isOvnUsingRaft : Bool)
    (turns : Nat) : Effect ProcessesError (World × Nat) Bool :=
  if !hasOvn then
    pure true
  else
    statusLoop tables clock (ovnCheck python topology isOvnUsingRaft) turns

end Status

end Tobiko.Tripleo
