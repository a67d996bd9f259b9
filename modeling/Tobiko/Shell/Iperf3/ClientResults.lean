import Tobiko.Foundation.Json

/-!
Contract: how the results of an iperf3 client are read and checked, as
`check_iperf3_client_results` does.

Owns: the document and the stream a log may be, the loop over the intervals with its three sums, and
the comparison with the limits of the configuration.

Does not own: how the log is fetched, cleaned and truncated, and the rounding of the sums.
-/

namespace Tobiko.Shell.Iperf3

open Tobiko.Foundation

inductive CheckError where
  | jsonDecodeError
  | access (error : Json.AccessError)
  /-- `tobiko.fail`: No intervals data found. -/
  | noIntervals
  /-- `assertLessEqual(longest_break, max_traffic_break_allowed)` -/
  | longestBreak
  /-- `assertLessEqual(breaks_total, max_total_breaks_allowed)` -/
  | breaksTotal
  deriving DecidableEq, Repr

structure RhospConf where
  maxTrafficBreakAllowed : Int
  maxTotalBreaksAllowed : Int

/-! ### Python's operations on the values of a document -/

def getItem (value : Json) (key : Text) : Except CheckError Json := value.getItem .access key

def get (value : Json) (key : Text) : Except CheckError (Option Json) := value.get .access key

/-- `value == 0` -/
def isZero (value : Json) : Bool :=
  match value with
  | .number number => number = .finite 0
  | .bool value => !value
  | _ => false

/-- A `bool` is an `int`. -/
def asNumber (value : Json) : Except CheckError Json.Number :=
  match value with
  | .number number => .ok number
  | .bool value => .ok (.finite (if value then 1 else 0))
  | _ => .error (.access .typeError)

/-- `bool(value)` -/
def isTrue (value : Json) : Bool :=
  match value with
  | .null => false
  | .bool value => value
  | .number number => number ≠ .finite 0
  | .string codes => codes ≠ []
  | .array elements => !elements.isEmpty
  | .object members => !members.isEmpty

/-- `for element in value` -/
def iterate (value : Json) : Except CheckError (List Json) :=
  match value with
  | .array elements => .ok elements
  | .object members => .ok (members.map fun member => .string member.1)
  | .string codes => .ok (codes.map fun code => .string [code])
  | _ => .error (.access .typeError)

/-! ### The two formats of a log -/

def isIntervalEvent (event : Option Json) : Bool :=
  match event with
  | some (.string codes) => codes = Json.codes "interval".toList
  | _ => false

/-- The body of the loop over the lines. -/
def parseLogLine (intervals : List Json) (logLine : Text) : Except CheckError (List Json) :=
  match Json.loads logLine with
  | none => .error .jsonDecodeError
  | some logLineJson => do
      let event ← get logLineJson "event".toList
      if isIntervalEvent event then
        let data ← getItem logLineJson "data".toList
        pure (intervals ++ [data])
      else pure intervals

def parseJsonStreamOutput (iperfLogRaw : Text) : Except CheckError Json := do
  let intervals ← (Text.splitLines iperfLogRaw).foldlM parseLogLine []
  pure (.object [(Json.codes "intervals".toList, .array intervals)])

def loadIperfLog (iperfLogRaw : Text) : Except CheckError Json :=
  match Json.loads iperfLogRaw with
  | some iperfLog => .ok iperfLog
  | none => parseJsonStreamOutput iperfLogRaw

/-! ### The breaks -/

structure TrafficBreaks (Seconds : Type) where
  longestBreak : Seconds
  breaksTotal : Seconds
  currentBreak : Seconds
  deriving DecidableEq, Repr

def TrafficBreaks.map {Seconds Other : Type} (convert : Seconds → Other)
    (breaks : TrafficBreaks Seconds) : TrafficBreaks Other :=
  ⟨convert breaks.longestBreak, convert breaks.breaksTotal, convert breaks.currentBreak⟩

/-- The body of the loop over the intervals. -/
def checkInterval (breaks : TrafficBreaks Json.Number) (interval : Json) :
    Except CheckError (TrafficBreaks Json.Number) := do
  let bytes ← getItem (← getItem interval "sum".toList) "bytes".toList
  if isZero bytes then
    let ending ← getItem (← getItem interval "sum".toList) "end".toList
    let start ← getItem (← getItem interval "sum".toList) "start".toList
    let intervalDuration := (← asNumber ending).sub (← asNumber start)
    let currentBreak := breaks.currentBreak.add intervalDuration
    let longestBreak :=
      if breaks.longestBreak.less currentBreak then currentBreak else breaks.longestBreak
    pure ⟨longestBreak, breaks.breaksTotal.add intervalDuration, currentBreak⟩
  else pure { breaks with currentBreak := .finite 0 }

def noBreaks : TrafficBreaks ℚ := ⟨0, 0, 0⟩

def trafficBreaks (iperfLog : Json) : Except CheckError (TrafficBreaks Json.Number) := do
  let intervals ← get iperfLog "intervals".toList
  match intervals with
  | none => .error .noIntervals
  | some intervals =>
      if isTrue intervals then
        (← iterate intervals).foldlM checkInterval (noBreaks.map .finite)
      else .error .noIntervals

/-- The figures of a log, in front of the comparison with the limits. -/
def loggedBreaks (iperfLogRaw : Text) : Except CheckError (TrafficBreaks Json.Number) := do
  trafficBreaks (← loadIperfLog iperfLogRaw)

def checkIperf3ClientResults (conf : RhospConf) (isPreventCreate : Bool)
    (iperfLogRaw : Option Text) : Except CheckError Unit :=
  if iperfLogRaw.getD [] = [] ∧ isPreventCreate = false then .ok ()
  else
    match iperfLogRaw with
    -- `json.loads(None)`
    | none => .error (.access .typeError)
    | some iperfLogRaw => do
        let breaks ← loggedBreaks iperfLogRaw
        if !breaks.longestBreak.lessEqual (.finite conf.maxTrafficBreakAllowed) then
          .error .longestBreak
        else if !breaks.breaksTotal.lessEqual (.finite conf.maxTotalBreaksAllowed) then
          .error .breaksTotal
        else .ok ()

end Tobiko.Shell.Iperf3
