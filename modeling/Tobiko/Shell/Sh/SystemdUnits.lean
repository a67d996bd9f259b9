import Tobiko.Common.RetryLimits
import Tobiko.Common.RetryLoop
import Tobiko.Foundation.Dictionary
import Tobiko.Foundation.Text

/-!
Contract: listing and waiting for units in `tobiko/shell/sh/_systemctl.py`.

Owns: the units, the table that `systemctl list-units` prints with its columns, and the loop of
`wait_for_systemd_units_state`, with the listings that it has asked for.

Does not own: the execution of the command, and what the result of the wait tells of the
listings (`SystemdWait`).
-/

namespace Tobiko.Shell.Sh.Systemctl

open Tobiko.Common Tobiko.Common.Time Tobiko.Foundation
open Tobiko.Foundation.Text (isSpace splitLines strip)

structure SystemdUnit where
  unit : Text
  load : Text
  active : Text
  sub : Text
  description : Text
  data : Dict Text Text

inductive SystemdUnitType where
  | name (name : Text)
  | unit (unit : SystemdUnit)

def getSystemdUnitName : SystemdUnitType → Text
  | .name name => name
  | .unit unit => unit.unit

/-- `systemctl list-units` with its units and options. -/
structure ListUnits where
  units : List Text
  all : Bool
  state : Option Text
  type : Option Text

inductive SystemctlError (Exc : Type) where
  | execute (exception : Exc)
  | stopIteration
  | systemdUnitNotFound (command : ListUnits) (output : Text)
  | unexpectedSystemctlUnitState (units : List SystemdUnitType)
  | retryLimit (error : RetryLimitError)
  | brokenRetryLoop

/-! ### The table -/

/-- The matches of `\S+` with their starts, where the text starts at the given position. -/
def findWords : Nat → Text → List (Text × Nat)
  | _, [] => []
  | position, character :: rest =>
      if isSpace character then findWords (position + 1) rest
      else
        match findWords (position + 1) rest with
        | [] => [([character], position)]
        | (word, start) :: words =>
            if start = position + 1 then (character :: word, position) :: words
            else ([character], position) :: (word, start) :: words

/-- The names of the columns, with where each of them starts and ends in a line. -/
def tableColumns (lower : Text → Text) (firstLine : Text) : List (Text × Nat × Option Nat) :=
  let words := findWords 0 firstLine
  let names := words.map fun word => lower word.1
  let starts := words.map Prod.snd
  let ends := starts.tail.map some ++ [none]
  names.zip (starts.zip ends)

/-- `line[start:end]` -/
def cellOf (line : Text) (start : Nat) : Option Nat → Text
  | none => line.drop start
  | some stop => (line.take stop).drop start

def zeroUnitsListed : Text := "0 loaded units listed.".toList

def readUnit (columns : List (Text × Nat × Option Nat)) (line : Text) : SystemdUnit :=
  let data := Dict.ofPairs (columns.map fun column =>
    (column.1, strip (cellOf line column.2.1 column.2.2)))
  { unit := (data.get? "unit".toList).getD []
    load := (data.get? "load".toList).getD []
    active := (data.get? "active".toList).getD []
    sub := (data.get? "sub".toList).getD []
    description := (data.get? "description".toList).getD []
    data := data }

section Wait

variable {World Exc : Type}

/-- The lines of the table, up to the first empty one. -/
def readUnits (command : ListUnits) (output : Text) (columns : List (Text × Nat × Option Nat)) :
    List Text → Except (SystemctlError Exc) (List SystemdUnit)
  | [] => .ok []
  | line :: lines => do
      let message := strip line
      if message = [] then
        return []
      if message = zeroUnitsListed then
        throw (.systemdUnitNotFound command output)
      let units ← readUnits command output columns lines
      return readUnit columns line :: units

/-- What `list_systemd_units` makes of the output of the command. -/
def parseUnits (lower : Text → Text) (command : ListUnits) (output : Text) :
    Except (SystemctlError Exc) (List SystemdUnit) :=
  if zeroUnitsListed.isPrefixOf output then
    .ok []
  else
    match splitLines output with
    | [] => .error .stopIteration
    | firstLine :: lines => readUnits command output (tableColumns lower firstLine) lines

/-! ### The wait -/

/-- A listing: the names that were asked for, and the units that were listed. -/
structure Round where
  asked : List Text
  listed : List SystemdUnit

/-- How commands are executed, and `str.lower`. -/
structure Executor (World Exc : Type) where
  execute : ListUnits → World → Except Exc Text × World
  lower : Text → Text

/-- The arguments of `wait_for_systemd_units_state` besides the matcher and the units. -/
structure WaitOptions where
  state : Option Text
  type : Option Text
  check : Bool
  timeout : Option ℚ
  interval : Option ℚ

/-- The variables of the loop. -/
structure Waiting where
  missingUnits : List SystemdUnitType
  allUnits : Dict Text SystemdUnit

variable (executor : Executor World Exc)

/-- `list_systemd_units(*units, all=True, state=state, type=type)` -/
def listSystemdUnits (units : List SystemdUnitType) (state type : Option Text) :
    Effect (SystemctlError Exc) (World × List Round) (List SystemdUnit) := do
  let command : ListUnits := ⟨units.map getSystemdUnitName, true, state, type⟩
  let answer ← Effect.update fun (world, rounds) =>
    ((executor.execute command world).1, (executor.execute command world).2, rounds)
  let output ← Effect.ofExcept (answer.mapError .execute)
  let listed ← Effect.ofExcept (parseUnits executor.lower command output)
  Effect.modify fun (world, rounds) => (world, rounds ++ [⟨command.units, listed⟩])
  pure listed

/-- `all_units.update((unit.unit, unit) for unit in actual_units)` -/
def updateUnits (allUnits : Dict Text SystemdUnit) (actualUnits : List SystemdUnit) :
    Dict Text SystemdUnit :=
  actualUnits.foldl (fun units unit => units.set unit.unit unit) allUnits

/-- The body of the loop. -/
def waitTurn (matchUnit : SystemdUnit → Bool) (options : WaitOptions) (attempt : RetryAttempt)
    (waiting : Waiting) :
    Effect (SystemctlError Exc) (World × List Round) (Retry.Turn Waiting Waiting) := do
  let actualUnits ← listSystemdUnits executor waiting.missingUnits options.state options.type
  let waiting : Waiting :=
    { allUnits := updateUnits waiting.allUnits actualUnits
      missingUnits := (actualUnits.filter fun unit => !matchUnit unit).map .unit }
  if waiting.missingUnits.isEmpty then
    pure (.leave waiting)
  else if attempt.isLast (none : Option (SystemctlError Exc)) then
    pure (.leave waiting)
  else
    pure (.next waiting)

/-- `tobiko.retry(timeout=timeout, interval=interval, ...)` -/
def waitRetry (options : WaitOptions) : Retry :=
  retry
    { otherRetry := none
      count := none
      timeout := options.timeout
      sleepTime := none
      interval := options.interval
      defaultCount := none
      defaultTimeout := some 30
      defaultSleepTime := none
      defaultInterval := some 5 }

def waitForSystemdUnitsState (clock : Clock World) (matchUnit : SystemdUnit → Bool)
    (units : List SystemdUnitType) (options : WaitOptions) (turns : Nat) :
    Effect (SystemctlError Exc) (World × List Round) (List SystemdUnit) := do
  let waited ← (waitRetry options).loop (clock.paired (List Round))
    ⟨.retryLimit, .brokenRetryLoop⟩ (waitTurn executor matchUnit options) turns ⟨units, .empty⟩
  if options.check && !waited.missingUnits.isEmpty then
    Effect.raise (.unexpectedSystemctlUnitState waited.missingUnits)
  else
    pure (waited.allUnits.entries.map Prod.snd)

end Wait

end Tobiko.Shell.Sh.Systemctl
