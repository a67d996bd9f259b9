import Tobiko.Common.TableWords
import Tobiko.Foundation.Text

/-!
Contract: `assert_containers_running` of `tobiko/tripleo/containers.py`.

Owns: the table of the containers of a node, the containers that match an expected name, the
failures that are collected and what is made of them.

Does not own: queries, how containers are listed, and what is logged.
-/

namespace Tobiko.Tripleo

open Tobiko.Common Tobiko.Foundation
open Tobiko.Foundation.Text (contains)

/-! ### Containers -/

structure Container where
  host : String
  name : String
  state : String
deriving DecidableEq

structure ContainerNode where
  name : String
  containers : List Container

def containerColumns : List String := ["container_host", "container_name", "container_state"]

def getContainerStatesList (containersList : List Container) : List (Item Cell) :=
  containersList.map fun container =>
    .tuple [.str container.host, .str container.name, .str container.state]

def containersListTd (node : ContainerNode) : Except TableError (TableData Cell) :=
  TableData.init ⟨getContainerStatesList node.containers, true⟩ containerColumns

/-! ### Columns -/

/-- `table[key]` -/
def columnData (table : TableData Cell) (key : String) : Except TableError (List Cell) :=
  table.data.mapM fun row => row.column key

/-- `values.item()` -/
def valuesItem : List Cell → Except TableError Cell
  | [value] => .ok value
  | [] => .error (.valueError "Can't call item() on empty data")
  | _ => .error (.valueError "Can only call item() on single-element data")

/-! ### Failures -/

def notFoundMessage (container node : String) : Text :=
  ("expected container " ++ container ++ " not found on node " ++ node ++ " ! : \n\n").toList

def notRunning (container node : String) (state : Text) : Text :=
  ("expected container " ++ container ++ " is not running on node " ++ node ++
    " , its state is ").toList ++ state ++ "! : \n\n".toList

def severalRunning (container node : String) (count : Nat) : Text :=
  ("only one running container " ++ container ++ " was expected on node " ++ node ++
    ", but got " ++ toString count ++ "! : \n\n").toList

inductive ContainersError where
  | table (error : TableError)
  /-- The test case fails, from `ContainerMismatchException`. -/
  | mismatch (message : Text)

section Checks

variable (python : Python)

/-- `container in row['container_name']` -/
def nameContains (container : String) (row : Item Cell) : Except TableError Bool :=
  match row.column "container_name" with
  | .ok (.str name) => .ok (contains container.toList name.toList)
  | .ok (.other _) => .error (.typeError "argument is not iterable")
  | .error error => .error error

/-- The rows whose name contains the expected one. -/
def containerAttrsRows (container : String) :
    List (Item Cell) → Except TableError (List (Item Cell))
  | [] => .ok []
  | row :: rows => do
      let found ← nameContains container row
      let attrsRows ← containerAttrsRows container rows
      return if found then row :: attrsRows else attrsRows

def containerAttrs (table : TableData Cell) (fullName : Bool) (container : String) :
    Except TableError (TableData Cell) :=
  if fullName then
    table.query python (render (comparison "container_name" .equal container))
  else do
    let rows ← containerAttrsRows container table.data
    TableData.ofRows rows

/-- The failures of one container, of which there is at most one. -/
def containerFailures (table : TableData Cell) (fullName : Bool) (node container : String) :
    Except TableError (List Text) := do
  let attrs ← containerAttrs python table fullName container
  if attrs.data.isEmpty then
    return [notFoundMessage container node]
  else
    let running ← attrs.query python (render (tightComparison "container_state" "running"))
    if running.data.isEmpty then
      let states ← columnData attrs "container_state"
      let state ← valuesItem states
      return [notRunning container node state.text]
    else if 1 < running.data.length then
      return [severalRunning container node running.data.length]
    else
      return []

/-- The failures of a list, in its order. -/
def allFailures {Checked : Type} (failures : Checked → Except TableError (List Text)) :
    List Checked → Except TableError (List Text)
  | [] => .ok []
  | head :: tail => do
      let first ← failures head
      let others ← allFailures failures tail
      return first ++ others

def nodeFailures (expectedContainers : List String) (fullName : Bool) (node : ContainerNode) :
    Except TableError (List Text) := do
  let table ← containersListTd node
  allFailures (containerFailures python table fullName node.name) expectedContainers

def mismatchMessage (failures : List Text) : Text :=
  "container states mismatched:\n".toList ++ ['\n'].intercalate failures

def assertContainersRunning (nodes : List ContainerNode) (expectedContainers : List String)
    (fullName boolCheck : Bool) : Except ContainersError Bool := do
  let failures ← (allFailures (nodeFailures python expectedContainers fullName) nodes).mapError
    .table
  if !boolCheck && !failures.isEmpty then
    throw (.mismatch (mismatchMessage failures))
  else if boolCheck && !failures.isEmpty then
    return false
  else
    return true

end Checks

end Tobiko.Tripleo
