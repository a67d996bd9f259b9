import Mathlib.Algebra.Order.Ring.Rat
import Mathlib.Data.List.Sort
import Tobiko.Shell.Files.MultihostLogFileDigger

/-!
Contract: `NeutronNovaResponseReader` of `tobiko/openstack/neutron/neutron_log_reader.py`.

Owns: the set up of a reader with its diggers, `read_responses`, the clean up, and runs of these
calls while lines are appended to the logs.

Does not own: the diggers, the nodes of a topology, and the text of a line. Matching lines are
those that Neutron writes, from which a response can be read.
-/

namespace Tobiko.Openstack.Neutron

open Tobiko.Foundation Tobiko.Shell.Files

/-- `NeutronNovaResponse`; `data` has the fields that are read from the text of the event. -/
structure NovaResponse (Host Line Data : Type) where
  hostname : Host
  timestamp : ℚ
  data : Data
  line : Line
deriving DecidableEq

/-- How a line is read. -/
structure LineReader (Line Data : Type) where
  matching : Line → Bool
  timestamp : Line → ℚ
  data : Line → Data

/-- `responses` is `none` as long as the reader has no such attribute, and `logDigger` while the
reader is not set up. -/
structure NovaResponseReader (Host Line Data : Type) where
  responses : Option (List (NovaResponse Host Line Data))
  logDigger : Option (Diggers Host Line)

section Reader

variable {Host Line Data Exc : Type} [DecidableEq Line] (lineReader : LineReader Line Data)

def NovaResponseReader.new : NovaResponseReader Host Line Data := ⟨none, none⟩

def messagePattern : String := "Nova event response: "

def LineReader.response (hostLine : Host × Line) : NovaResponse Host Line Data where
  hostname := hostLine.1
  timestamp := lineReader.timestamp hostLine.2
  data := lineReader.data hostLine.2
  line := hostLine.2

/-- `responses.sort()`, which is stable. -/
def sortResponses (responses : List (NovaResponse Host Line Data)) :
    List (NovaResponse Host Line Data) :=
  responses.mergeSort fun first second => !decide (second.timestamp < first.timestamp)

/-- What a search of the logs gives on each host. -/
def grepLogs (logs : Host → List Line) (host : Host) : String → Grepped Line Exc :=
  grepLog lineReader.matching (logs host)

namespace NovaResponseReader

variable (reader : NovaResponseReader Host Line Data) (logs : Host → List Line)

def readResponses (diggers : Diggers Host Line) :
    Except (DiggerError Exc) (List (NovaResponse Host Line Data)) ×
      NovaResponseReader Host Line Data :=
  match findHostLines (grepLogs lineReader logs) none reader.responses.isSome diggers with
  | (.error error, diggers) => (.error error, { reader with logDigger := some diggers })
  | (.ok found, diggers) =>
      let responses := sortResponses (found.map lineReader.response)
      (.ok responses,
        { responses := some (reader.responses.getD [] ++ responses), logDigger := some diggers })

/-- `get_log_file_digger` -/
def getLogFileDigger [DecidableEq Host] (nodes : List Host) : Diggers Host Line :=
  nodes.foldl (addHost (some messagePattern)) []

/-- `setup_fixture`. The logs can grow before the responses are read. -/
def setupFixture [DecidableEq Host] (nodes : List Host) (logs later : Host → List Line) :
    Except (DiggerError Exc) (List (NovaResponse Host Line Data)) ×
      NovaResponseReader Host Line Data :=
  match setUpDiggers (grepLogs lineReader logs) (getLogFileDigger nodes) with
  | (.error error, diggers) => (.error error, { reader with logDigger := some diggers })
  | (.ok (), diggers) => reader.readResponses lineReader later diggers

/-- The clean up of the reader and of its diggers, after which the next set up makes new ones. -/
def cleanUp : NovaResponseReader Host Line Data := { reader with logDigger := none }

end NovaResponseReader

/-! ### Runs -/

/-- A call, or lines that are appended to the logs. `setUp` has the lines that are appended while
it runs, after the diggers have been set up. -/
inductive ReaderEvent (Host Line : Type) where
  | grow (lines : Host → List Line)
  | setUp (lines : Host → List Line)
  | read
  | cleanUp

/-- `results` has what the calls of `read_responses` returned, the last one at the end. -/
structure ReaderState (Host Line Data : Type) where
  reader : NovaResponseReader Host Line Data
  logs : Host → List Line
  results : List (List (NovaResponse Host Line Data))

def ReaderState.new (logs : Host → List Line) : ReaderState Host Line Data := ⟨.new, logs, []⟩

/-- The state after a reading, unless it raised. -/
def ReaderState.afterReading (state : ReaderState Host Line Data) (logs : Host → List Line)
    (outcome : Except (DiggerError Exc) (List (NovaResponse Host Line Data)) ×
      NovaResponseReader Host Line Data) : Option (ReaderState Host Line Data) :=
  match outcome with
  | (.ok responses, reader) => some ⟨reader, logs, state.results ++ [responses]⟩
  | (.error _, _) => none

/-- The state after an event. `read_responses` is only called while the reader is set up, and a
second set up does nothing. -/
def ReaderState.step [DecidableEq Host] (nodes : List Host) (state : ReaderState Host Line Data) :
    ReaderEvent Host Line → Option (ReaderState Host Line Data)
  | .grow lines => some { state with logs := fun host => state.logs host ++ lines host }
  | .cleanUp => some { state with reader := state.reader.cleanUp }
  | .read =>
      match state.reader.logDigger with
      | none => none
      | some diggers =>
          state.afterReading state.logs
            (state.reader.readResponses lineReader state.logs diggers :
              Except (DiggerError Empty) _ × _)
  | .setUp lines =>
      match state.reader.logDigger with
      | some _ => some { state with logs := fun host => state.logs host ++ lines host }
      | none =>
          let later := fun host => state.logs host ++ lines host
          state.afterReading later
            (state.reader.setupFixture lineReader nodes state.logs later :
              Except (DiggerError Empty) _ × _)

def ReaderState.run [DecidableEq Host] (nodes : List Host) (state : ReaderState Host Line Data)
    (events : List (ReaderEvent Host Line)) : Option (ReaderState Host Line Data) :=
  events.foldlM (fun state event => state.step lineReader nodes event) state

end Reader

end Tobiko.Openstack.Neutron
