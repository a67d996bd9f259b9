import Tobiko.Shell.Ping.Rounds
import Mathlib.Algebra.BigOperators.Group.List.Basic

/-!
Contract: the counters of the rounds of ping against the statistics that they yield.

Owns: how far the counters are from the sums over the yielded statistics in every state of the loop,
exactly when the deciding count agrees with them, and what `get_statistics` then returns.

Does not own: why an execution gives no output.
-/

namespace Tobiko.Shell.Ping

variable {Output Address Error : Type} {parse : OutputParser Output Address}
  {isTrue : Address → Bool} {parameters : PingParameters} {untilType : Option MessageType}
  {messageType : MessageType} {now : ℚ} {rounds : List (Round Output Error)}
  {yielded : List (PingStatistics Address)} {state : RoundState}

def PingStatistics.counters (statistics : PingStatistics Address) : Counters :=
  ⟨statistics.transmitted, statistics.received, statistics.undelivered⟩

/-- The counters of all the statistics together. -/
def sums (yielded : List (PingStatistics Address)) : Counters where
  transmitted := (yielded.map PingStatistics.transmitted).sum
  received := (yielded.map PingStatistics.received).sum
  undelivered := (yielded.map PingStatistics.undelivered).sum

/-- The round was executed without any output. -/
def Round.silent (round : Round Output Error) : Bool :=
  match round.execution with
  | .ok none => true
  | _ => false

/-- The messages of a kind that a round without output is counted for. -/
def MessageType.lost : MessageType → ℤ
  | .delivered => 0
  | .received => 0
  | _ => 1

/-! ### The counters in every state -/

/-- The counters are the sums, and one packet more for each round without output. -/
structure Accounted (rounds : List (Round Output Error)) (yielded : List (PingStatistics Address))
    (counters : Counters) : Prop where
  transmitted : counters.transmitted = (sums yielded).transmitted + rounds.countP Round.silent
  received : counters.received = (sums yielded).received
  undelivered : counters.undelivered = (sums yielded).undelivered + rounds.countP Round.silent

theorem Accounted.count {counters : Counters} (accounted : Accounted rounds yielded counters)
    (messageType : MessageType) :
    messageType.count counters =
      messageType.count (sums yielded) + messageType.lost * rounds.countP Round.silent := by
  have transmitted := accounted.transmitted
  have received := accounted.received
  have undelivered := accounted.undelivered
  cases messageType <;> simp only [MessageType.count, MessageType.lost] <;> omega

theorem sums_append (yielded : List (PingStatistics Address)) (statistics : PingStatistics Address) :
    sums (yielded ++ [statistics]) = countRound (sums yielded) (some statistics) := by
  simp [sums, countRound]

theorem countP_snoc (rounds : List (Round Output Error)) (round : Round Output Error) :
    (rounds ++ [round]).countP Round.silent =
      rounds.countP Round.silent + if round.silent then 1 else 0 := by
  rw [List.countP_append, List.countP_singleton]

/-- The induction is on the rounds; the two kinds of round differ in what they yield. -/
theorem Reached.accounted
    (reached : Reached parse parameters untilType now rounds yielded state) :
    Accounted rounds yielded state.counters := by
  induction reached with
  | start => exact ⟨rfl, rfl, rfl⟩
  | @round rounds yielded state round statistics next before goesOn executed inductionHypothesis =>
      obtain ⟨output, run, rfl, rfl⟩ := executeRound_eq_ok executed
      obtain ⟨transmitted, received, undelivered⟩ := inductionHypothesis
      cases output with
      | none =>
          have silent : round.silent = true := by rw [Round.silent, run]
          constructor <;>
            simp only [Option.map_none, Option.toList_none, List.append_nil, countRound,
              countP_snoc, silent, if_true] <;> omega
      | some output =>
          have spoken : round.silent = false := by rw [Round.silent, run]
          constructor <;>
            simp only [Option.map_some, Option.toList_some, sums_append, countRound, countP_snoc,
              spoken, Bool.false_eq_true, if_false] <;> omega

/-- The deciding count is always that of the counters. -/
theorem Reached.count_eq
    (reached : Reached parse parameters (some messageType) now rounds yielded state) :
    state.count = messageType.count state.counters := by
  cases reached with
  | start => cases messageType <;> rfl
  | round before goesOn executed =>
      obtain ⟨output, -, -, rfl⟩ := executeRound_eq_ok executed
      rfl

/-- Rounds without output change nothing in the count of these messages, or there are none. -/
def Unaffected (messageType : MessageType) (rounds : List (Round Output Error)) : Prop :=
  messageType = .delivered ∨ messageType = .received ∨ ∀ round ∈ rounds, round.silent = false

theorem lost_mul_eq_zero_iff (messageType : MessageType) (rounds : List (Round Output Error)) :
    messageType.lost * rounds.countP Round.silent = 0 ↔ Unaffected messageType rounds := by
  have none : rounds.countP Round.silent = 0 ↔ ∀ round ∈ rounds, round.silent = false := by
    simp
  rw [mul_eq_zero, Int.natCast_eq_zero, none, Unaffected]
  cases messageType <;> simp [MessageType.lost]

theorem Reached.count_eq_sums_iff
    (reached : Reached parse parameters (some messageType) now rounds yielded state) :
    state.count = messageType.count (sums yielded) ↔ Unaffected messageType rounds := by
  rw [reached.count_eq, reached.accounted.count messageType, ← lost_mul_eq_zero_iff]
  omega

/-! ### The sum of the yielded statistics -/

theorem counters_of_add {left right total : PingStatistics Address}
    (added : left.add isTrue right = .ok total) :
    total.counters = countRound left.counters (some right) := by
  rw [PingStatistics.eq_total_of_add isTrue added]
  rfl

/-- What `get_statistics` returns is the sum over all that was yielded in its last state. -/
theorem getStatisticsFrom_eq_ok {executed : List (Round Output Error)}
    {total result : PingStatistics Address}
    (reached : Reached parse parameters untilType now executed yielded state)
    (summed : total.counters = sums yielded)
    (returned : getStatisticsFrom parse isTrue parameters untilType (now + parameters.timeout.1)
      rounds state total = some (.ok result)) :
    ∃ lastYielded lastState, Reached parse parameters untilType now (executed ++ rounds) lastYielded
        lastState ∧
      result.counters = sums lastYielded ∧
      finish parameters untilType lastState result =
        (.ok result : Except (PingFailure Error) (PingStatistics Address)) := by
  induction rounds generalizing executed yielded state total with
  | nil =>
      unfold getStatisticsFrom at returned
      split at returned
      · cases returned
      · have finished := Option.some.inj returned
        have same : total = result := by
          unfold finish at finished
          cases untilType with
          | none => exact Except.ok.inj finished
          | some messageType =>
              dsimp only at finished
              split at finished
              · cases finished
              · exact Except.ok.inj finished
        subst same
        rw [List.append_nil]
        exact ⟨yielded, state, reached, summed, finished⟩
  | cons round rounds inductionHypothesis =>
      unfold getStatisticsFrom at returned
      split at returned
      · rename_i goesOn
        split at returned
        · split at returned <;> cases returned
        · rename_i next step
          have reachedNext := reached.round goesOn step
          rw [Option.toList_none, List.append_nil] at reachedNext
          rw [List.append_cons]
          exact inductionHypothesis reachedNext summed returned
        · rename_i statistics next step
          split at returned
          · split at returned <;> cases returned
          · rename_i nextTotal added
            have reachedNext := reached.round goesOn step
            have summedNext : nextTotal.counters = sums (yielded ++ [statistics]) := by
              rw [counters_of_add added, summed, sums_append]
            rw [List.append_cons]
            exact inductionHypothesis reachedNext summedNext returned
      · cases returned

/-- **The deciding count agrees with the yielded statistics exactly where no round without output
was counted as messages of its kind; then `get_statistics` returns only what has enough of them.** -/
theorem accounting_iff (parse : OutputParser Output Address) (isTrue : Address → Bool)
    (parameters : PingParameters) (messageType : MessageType) (now : ℚ) :
    (∀ (rounds : List (Round Output Error)) (yielded : List (PingStatistics Address))
        (state : RoundState),
      Reached parse parameters (some messageType) now rounds yielded state →
        (state.count = messageType.count (sums yielded) ↔ Unaffected messageType rounds)) ∧
      ∀ (rounds : List (Round Output Error)) (total : PingStatistics Address),
        getStatistics parse isTrue parameters (some messageType) now rounds = some (.ok total) →
          Unaffected messageType rounds →
            parameters.count.1 ≤ messageType.count total.counters := by
  constructor
  · intro rounds yielded state reached
    exact reached.count_eq_sums_iff
  · intro rounds total returned unaffected
    obtain ⟨yielded, state, reached, summed, finished⟩ :=
      getStatisticsFrom_eq_ok Reached.start rfl returned
    rw [List.nil_append] at reached
    have enough : parameters.count.1 ≤ state.count := by
      rw [finish] at finished
      split at finished
      · cases finished
      · rename_i notLess
        exact not_lt.mp notLess
    rw [summed, ← reached.count_eq_sums_iff.mpr unaffected]
    exact enough

/-- One packet has to be transmitted; the only execution gives no output. -/
def onePacket : PingParameters :=
  ⟨⟨1, by decide⟩, ⟨5, by decide⟩, ⟨1, by norm_num⟩, ⟨300, by decide⟩⟩

theorem silent_round_not_accounted :
    ¬∀ (parse : OutputParser Unit Unit) (isTrue : Unit → Bool) (parameters : PingParameters)
      (messageType : MessageType) (now : ℚ) (rounds : List (Round Unit Unit))
      (total : PingStatistics Unit), 1 ≤ parameters.count.1 →
      getStatistics parse isTrue parameters (some messageType) now rounds = some (.ok total) →
        parameters.count.1 ≤ messageType.count total.counters := by
  intro claimed
  have returned : getStatistics (fun _ _ _ => ({} : PingStatistics Unit)) (fun _ => true) onePacket
      (some .transmitted) 0 [(⟨.ok none, 1, 1⟩ : Round Unit Unit)] = some (.ok {}) := by
    decide +kernel
  exact absurd (claimed _ _ _ _ _ _ _ (by decide) returned) (by decide)

end Tobiko.Shell.Ping
