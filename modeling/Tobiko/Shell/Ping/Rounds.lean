import Tobiko.Shell.Ping.Parameters
import Tobiko.Shell.Ping.Statistics

/-!
Contract: the rounds in which ping is executed until enough messages are counted.

Owns: the loop of `iter_statistics` with its counters and the parameters of its executions, and its
sum in `get_statistics`.

Does not own: the parser of the output and the ping command. The pause before a round moves only
the clock, whose readings are arbitrary here.
-/

namespace Tobiko.Shell.Ping

/-- What `until` may name. -/
inductive MessageType where
  | transmitted
  | delivered
  | undelivered
  | received
  | unreceived
  deriving DecidableEq

/-- The variables of `iter_statistics` that add up what the rounds gave. -/
structure Counters where
  transmitted : ℤ
  received : ℤ
  undelivered : ℤ
  deriving DecidableEq

/-- The value of `count` for the counters. -/
def MessageType.count : MessageType → Counters → ℤ
  | .transmitted, counters => counters.transmitted
  | .delivered, counters => counters.transmitted - counters.undelivered
  | .undelivered, counters => counters.undelivered
  | .received, counters => counters.received
  | .unreceived, counters => counters.transmitted - counters.received

/-- What happens in one round: what `execute_ping` raises or returns, where an empty output is none,
and the readings of the clock when its output was parsed and when the round was over. -/
structure Round (Output Error : Type) where
  execution : Except Error (Option Output)
  ended : ℚ
  finished : ℚ

structure RoundState where
  now : ℚ
  deadline : ℤ
  counters : Counters
  count : ℤ
  deriving DecidableEq

inductive PingFailure (Error : Type) where
  | parameters (error : ParameterError)
  | execution (error : Error)
  | sum (error : SumError)
  | pingFailed (count expectedCount timeout : ℤ) (messageType : MessageType)
  deriving DecidableEq

/-- The parser of an output, with the bounds of the interval. -/
abbrev OutputParser (Output Address : Type) := Output → ℚ → ℚ → PingStatistics Address

section Loop

variable {Output Address Error : Type} (parse : OutputParser Output Address)
  (isTrue : Address → Bool) (parameters : PingParameters) (untilType : Option MessageType)
  (endOfTime : ℚ)

def initialState (now : ℚ) : RoundState := ⟨now, parameters.deadline.1, ⟨0, 0, 0⟩, 0⟩

/-- The condition of the loop. -/
def continues (state : RoundState) : Bool :=
  0 < state.deadline ∧ state.count < parameters.count.1

/-- The parameters of the next execution. -/
def executeParameters (state : RoundState) : Except ParameterError PingParameters :=
  let missing := ((parameters.count.1 - state.count : ℤ) : ℚ)
  getPingParameters parameters
    (some (if untilType = some .received then missing
      else min missing (parameters.interval.1 * state.deadline)))
    (some state.deadline) none (some (endOfTime - state.now))

/-- The counters after a round; one packet is taken as lost where there is no output. -/
def countRound (counters : Counters) : Option (PingStatistics Address) → Counters
  | some statistics =>
      ⟨counters.transmitted + statistics.transmitted, counters.received + statistics.received,
        counters.undelivered + statistics.undelivered⟩
  | none => ⟨counters.transmitted + 1, counters.received, counters.undelivered + 1⟩

/-- One pass of the loop, with the statistics that it yields. -/
def executeRound (state : RoundState) (round : Round Output Error) :
    Except (PingFailure Error) (Option (PingStatistics Address) × RoundState) :=
  match executeParameters parameters untilType endOfTime state with
  | .error error => .error (.parameters error)
  | .ok _ =>
      match round.execution with
      | .error error => .error (.execution error)
      | .ok output =>
          let statistics := output.map fun output => parse output state.now round.ended
          let counters := countRound state.counters statistics
          .ok (statistics,
            ⟨round.finished, min (toInt (endOfTime - round.finished)) parameters.deadline.1, counters,
              (untilType.map fun messageType => messageType.count counters).getD 0⟩)

/-- What follows the loop. -/
def finish {Total : Type} (state : RoundState) (total : Total) :
    Except (PingFailure Error) Total :=
  match untilType with
  | none => .ok total
  | some messageType =>
      if state.count < parameters.count.1 then
        .error (.pingFailed state.count parameters.count.1 parameters.timeout.1 messageType)
      else .ok total

/-- `get_statistics` from a state of the loop on, where exactly these rounds are executed. -/
def getStatisticsFrom : List (Round Output Error) → RoundState → PingStatistics Address →
    Option (Except (PingFailure Error) (PingStatistics Address))
  | [], state, total =>
      if continues parameters state then none
      else some (finish parameters untilType state total)
  | round :: rounds, state, total =>
      if continues parameters state then
        match executeRound parse parameters untilType endOfTime state round with
        | .error failure => if rounds.isEmpty then some (.error failure) else none
        | .ok (none, next) => getStatisticsFrom rounds next total
        | .ok (some statistics, next) =>
            match total.add isTrue statistics with
            | .error error => if rounds.isEmpty then some (.error (.sum error)) else none
            | .ok total => getStatisticsFrom rounds next total
      else none

/-- `get_statistics(parameters, until)`, started at `now`. -/
def getStatistics (now : ℚ) (rounds : List (Round Output Error)) :
    Option (Except (PingFailure Error) (PingStatistics Address)) :=
  getStatisticsFrom parse isTrue parameters untilType (now + parameters.timeout.1) rounds
    (initialState parameters now) {}

/-- The states of the loop, with the rounds that were executed and what they yielded. -/
inductive Reached (now : ℚ) :
    List (Round Output Error) → List (PingStatistics Address) → RoundState → Prop where
  | start : Reached now [] [] (initialState parameters now)
  | round {rounds yielded state round statistics next} (before : Reached now rounds yielded state)
      (goesOn : continues parameters state = true)
      (executed : executeRound parse parameters untilType (now + parameters.timeout.1) state round =
        .ok (statistics, next)) :
      Reached now (rounds ++ [round]) (yielded ++ statistics.toList) next

/-! ### One round -/

variable {parse isTrue parameters untilType endOfTime}

theorem executeRound_eq_ok {state next : RoundState} {round : Round Output Error}
    {statistics : Option (PingStatistics Address)}
    (executed : executeRound parse parameters untilType endOfTime state round =
      .ok (statistics, next)) :
    ∃ output, round.execution = .ok output ∧
      statistics = output.map (fun output => parse output state.now round.ended) ∧
      next = ⟨round.finished, min (toInt (endOfTime - round.finished)) parameters.deadline.1,
        countRound state.counters statistics,
        (untilType.map fun messageType =>
          messageType.count (countRound state.counters statistics)).getD 0⟩ := by
  unfold executeRound at executed
  split at executed
  · cases executed
  · split at executed
    · cases executed
    · rename_i output run
      cases executed
      exact ⟨output, run, rfl, rfl⟩

theorem continues_eq_true {state : RoundState} (goesOn : continues parameters state = true) :
    0 < state.deadline ∧ state.count < parameters.count.1 :=
  of_decide_eq_true goesOn

/-- The time is not over where the loop goes on. -/
theorem Reached.timeLeft_nonneg {now : ℚ} {rounds : List (Round Output Error)}
    {yielded : List (PingStatistics Address)} {state : RoundState}
    (reached : Reached parse parameters untilType now rounds yielded state)
    (goesOn : continues parameters state = true) :
    0 ≤ now + parameters.timeout.1 - state.now := by
  cases reached with
  | start =>
      have timeout : (0 : ℚ) ≤ parameters.timeout.1 := Int.cast_nonneg parameters.timeout.2
      simpa [initialState] using timeout
  | round before beforeGoesOn executed =>
      obtain ⟨output, -, -, rfl⟩ := executeRound_eq_ok executed
      obtain ⟨positive, -⟩ := continues_eq_true goesOn
      have whole := lt_of_lt_of_le positive (min_le_left _ _)
      by_contra negative
      rw [not_le] at negative
      have early := Int.ceil_nonpos.mpr negative.le
      rw [toInt, if_neg (not_le.mpr negative)] at whole
      exact absurd whole (not_lt.mpr early)

end Loop

end Tobiko.Shell.Ping
