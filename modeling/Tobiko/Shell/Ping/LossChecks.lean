import Tobiko.Shell.FailureLimit
import Tobiko.Shell.Ping.Output

/-!
Contract: the checks of the logs of background pings, as `check_ping_statistics` and
`check_ping_results` make them.

Owns: Python's comparison of two values of a document, which lines of a log are failures, and the
comparison of the lost packets with the limit.

Does not own: where the logs are found and how they are truncated.
-/

namespace Tobiko.Shell.Ping

open Tobiko.Foundation

/-! ### `left == right` -/

/-- Inside a container two values are compared by identity first: `json` has one `NaN`. -/
def isNan (value : Json) : Bool :=
  match value with
  | .number .nan => true
  | _ => false

mutual

def equal : Json → Json → Bool
  | .null, .null => true
  | .bool left, .bool right => left == right
  | .bool left, .number right => right == .finite (if left then 1 else 0)
  | .number left, .bool right => left == .finite (if right then 1 else 0)
  | .number left, .number right => left == right && left != .nan
  | .string left, .string right => left == right
  | .array left, .array right => equalElements left right
  | .object left, .object right =>
      equalMembers left right && right.all fun entry => left.any fun other => other.1 == entry.1
  | _, _ => false

def equalElements : List Json → List Json → Bool
  | [], [] => true
  | left :: lefts, right :: rights =>
      ((isNan left && isNan right) || equal left right) && equalElements lefts rights
  | _, _ => false

/-- The members of the left `dict` are members of the right one. -/
def equalMembers : List (List Nat × Json) → List (List Nat × Json) → Bool
  | [], _ => true
  | (key, left) :: lefts, rights =>
      ((lefts.any fun other => other.1 == key) ||
        match rights.reverse.find? fun entry => entry.1 = key with
        | none => false
        | some (_, right) => (isNan left && isNan right) || equal left right) &&
      equalMembers lefts rights

end

/-! ### `check_ping_statistics` -/

/-- The body of the loop over the lines of a file. -/
def checkPingLine : LineCheck := fun pingFailuresList line =>
  match Json.loads (Text.rstrip line) with
  | none => .error .jsonDecodeError
  | some pingLine => do
      let transmitted ← pingLine.getItem .access "transmitted".toList
      let received ← pingLine.getItem .access "received".toList
      if equal transmitted received then .ok pingFailuresList
      else .ok (pingFailuresList ++ [pingLine])

/-- The lines of the files are given in the order in which the files are found. -/
def checkPingStatistics (failureLimit : Int) (files : List (List Text)) : Except LogError Unit := do
  checkLogs (checkLog checkPingLine "destination".toList failureLimit) files
  if files = [] then .error .noLogFiles else .ok ()

/-- A line that `ping_to_json` may have written. -/
def PingEntry (line : Text) (failed : Bool) : Prop :=
  ∃ members transmitted received destination,
    Json.loads (Text.rstrip line) = some (.object members) ∧
    Json.member members "transmitted".toList = some transmitted ∧
    Json.member members "received".toList = some received ∧
    Json.member members "destination".toList = some destination ∧
    failed = !equal transmitted received

theorem PingEntry.entry {line : Text} {failed : Bool} (entry : PingEntry line failed) :
    Entry checkPingLine "destination".toList line failed := by
  obtain ⟨members, transmitted, received, destination, loaded, hasTransmitted, hasReceived,
    hasDestination, rfl⟩ := entry
  refine ⟨.object members, fun failures => ?_, destination, ?_⟩
  · unfold checkPingLine
    rw [loaded]
    dsimp only [Json.getItem, bind, Except.bind]
    rw [hasTransmitted, hasReceived]
    dsimp only
    cases equal transmitted received with
    | true => rfl
    | false => rfl
  · unfold Json.getItem
    dsimp only
    rw [hasDestination]

/-! ### `check_ping_results` -/

inductive PingResultsError where
  /-- `assertFalse(ping_alive(address, ssh_client))` -/
  | alive
  /-- `tobiko.fail`: Failed to read ping log from the file. -/
  | unreadableLog
  /-- `tobiko.fail`: Failed empty ping file. -/
  | emptyLog
  /-- `assertGreater(ping_stats.transmitted, 0)` -/
  | transmitted
  /-- `assertGreater(ping_stats.received, 0)` -/
  | received
  /-- `assertLessEqual(transmitted - received, max_ping_loss_allowed)` -/
  | loss
  deriving DecidableEq, Repr

section PingResults

variable {Address AddressError : Type} (ipAddress : Text → Except AddressError Address)

def checkPingCounts (maxPingLossAllowed : Int) (pingStats : PingStatistics Address) :
    Except PingResultsError Unit :=
  if ¬0 < pingStats.transmitted then .error .transmitted
  else if ¬0 < pingStats.received then .error .received
  else if ¬pingStats.transmitted - pingStats.received ≤ maxPingLossAllowed then .error .loss
  else .ok ()

/-- The output of `cat` is none where the command fails. -/
def checkPingResults (maxPingLossAllowed : Int) (pingAlive isPreventCreate : Bool)
    (pingLogRaw : Option Text) : Except PingResultsError Unit :=
  if pingAlive then .error .alive
  else
    match pingLogRaw with
    | none => if isPreventCreate then .error .unreadableLog else .ok ()
    | some pingLogRaw =>
        if pingLogRaw = [] then
          if isPreventCreate then .error .emptyLog else .ok ()
        else checkPingCounts maxPingLossAllowed (parsePingStatistics ipAddress pingLogRaw none none)

variable {ipAddress}

/-- Of a ping that was answered the lost packets are compared with the limit. -/
theorem checkPingResults_eq {maxPingLossAllowed : Int} {isPreventCreate : Bool} {pingLogRaw : Text}
    (nonempty : pingLogRaw ≠ [])
    (transmitted : 0 < (parsePingStatistics ipAddress pingLogRaw none none).transmitted)
    (received : 0 < (parsePingStatistics ipAddress pingLogRaw none none).received) :
    checkPingResults ipAddress maxPingLossAllowed false isPreventCreate (some pingLogRaw) =
      if maxPingLossAllowed < (parsePingStatistics ipAddress pingLogRaw none none).transmitted -
          (parsePingStatistics ipAddress pingLogRaw none none).received then
        .error .loss
      else .ok () := by
  unfold checkPingResults checkPingCounts
  rw [if_neg Bool.false_ne_true]
  dsimp only
  rw [if_neg nonempty, if_neg (not_not.mpr transmitted), if_neg (not_not.mpr received)]
  simp only [not_le]

end PingResults

end Tobiko.Shell.Ping
