import Mathlib.Tactic.Linarith
import Tobiko.Foundation.JsonLines
import Tobiko.Foundation.MaximalRuns
import Tobiko.Shell.Iperf3.ClientResults

/-!
Contract: what the figures of the traffic breaks are.

Owns: the intervals of a client, the longest break as the maximum over the maximal runs of intervals
without traffic, the total of the breaks, and that a document and a stream of the same intervals have
the same figures.

Does not own: the loops that compute the figures.
-/

namespace Tobiko.Shell.Iperf3

open Tobiko.Foundation

/-! ### Intervals and their breaks -/

structure Interval where
  start : ℚ
  ending : ℚ
  bytes : ℚ
  ordered : start ≤ ending

namespace Interval

def isBreak (interval : Interval) : Bool := interval.bytes = 0

def duration (interval : Interval) : ℚ := interval.ending - interval.start

theorem duration_nonneg (interval : Interval) : 0 ≤ interval.duration :=
  sub_nonneg.mpr interval.ordered

end Interval

def totalDuration : List Interval → ℚ
  | [] => 0
  | interval :: intervals => interval.duration + totalDuration intervals

theorem totalDuration_concat (intervals : List Interval) (interval : Interval) :
    totalDuration (intervals ++ [interval]) = totalDuration intervals + interval.duration := by
  induction intervals with
  | nil => exact (add_zero _).trans (zero_add _).symm
  | cons first intervals inductionHypothesis =>
      rw [List.cons_append, totalDuration, totalDuration, inductionHypothesis, add_assoc]

theorem totalDuration_nonneg (intervals : List Interval) : 0 ≤ totalDuration intervals := by
  induction intervals with
  | nil => exact le_rfl
  | cons first intervals inductionHypothesis =>
      exact add_nonneg first.duration_nonneg inductionHypothesis

/-- Consecutive intervals without traffic, as many as there are. -/
abbrev BreakRun (intervals before run after : List Interval) : Prop :=
  MaximalRun Interval.isBreak intervals before run after

/-- The maximum of the durations of the breaks, and zero where there is none. -/
structure IsLongestBreak (intervals : List Interval) (seconds : ℚ) : Prop where
  bound : ∀ before run after, BreakRun intervals before run after → totalDuration run ≤ seconds
  attained : (∃ before run after, BreakRun intervals before run after ∧
    totalDuration run = seconds) ∨
      (∀ before run after, ¬BreakRun intervals before run after) ∧ seconds = 0

/-! ### The loop on intervals -/

def TrafficBreaks.next (breaks : TrafficBreaks ℚ) (interval : Interval) : TrafficBreaks ℚ :=
  if interval.isBreak then
    ⟨max breaks.longestBreak (breaks.currentBreak + interval.duration),
      breaks.breaksTotal + interval.duration, breaks.currentBreak + interval.duration⟩
  else { breaks with currentBreak := 0 }

/-- The break that lasts up to the end of the intervals. -/
def lastBreak (intervals : List Interval) : List Interval :=
  intervals.rtakeWhile Interval.isBreak

/-- What the three variables hold once these intervals are done. -/
structure Measured (intervals : List Interval) (breaks : TrafficBreaks ℚ) : Prop where
  current : breaks.currentBreak = totalDuration (lastBreak intervals)
  total : breaks.breaksTotal = totalDuration (intervals.filter Interval.isBreak)
  longest : IsLongestBreak intervals breaks.longestBreak
  currentTotal : breaks.currentBreak ≤ breaks.breaksTotal
  longestTotal : breaks.longestBreak ≤ breaks.breaksTotal

theorem measured_nil : Measured [] noBreaks where
  current := rfl
  total := rfl
  longest := by
    have none_ : ∀ before run after, ¬BreakRun [] before run after := by
      intro before run after maximal
      have split := maximal.split
      simp only [List.nil_eq, List.append_eq_nil_iff] at split
      exact maximal.nonempty split.1.2
    exact ⟨fun _ _ _ maximal => absurd maximal (none_ _ _ _), .inr ⟨none_, rfl⟩⟩
  currentTotal := le_rfl
  longestTotal := le_rfl

variable {intervals : List Interval} {interval : Interval} {breaks : TrafficBreaks ℚ}

/-- Traffic ends the current break, which is maximal then. -/
theorem IsLongestBreak.traffic {seconds : ℚ} (longest : IsLongestBreak intervals seconds)
    (isTraffic : interval.isBreak = false) :
    IsLongestBreak (intervals ++ [interval]) seconds where
  bound := by
    intro before run after maximal
    rcases maximal.of_concat with ⟨-, isBreak⟩ | ⟨earlier, -, earlierRun, -⟩
    · rw [isTraffic] at isBreak
      cases isBreak
    · exact longest.bound _ _ _ earlierRun
  attained := by
    rcases longest.attained with ⟨before, run, after, maximal, same⟩ | ⟨noRun, none_⟩
    · exact .inl ⟨before, run, _, maximal.concat (.inr isTraffic), same⟩
    · refine .inr ⟨fun before run after maximal => ?_, none_⟩
      rcases maximal.of_concat with ⟨-, isBreak⟩ | ⟨earlier, -, earlierRun, -⟩
      · rw [isTraffic] at isBreak
        cases isBreak
      · exact noRun _ _ _ earlierRun

/-- A further interval without traffic makes the current break longer. -/
theorem IsLongestBreak.silence {seconds : ℚ} (longest : IsLongestBreak intervals seconds)
    (isBreak : interval.isBreak = true) :
    IsLongestBreak (intervals ++ [interval])
      (max seconds (totalDuration (lastBreak (intervals ++ [interval])))) where
  bound := by
    intro before run after maximal
    rcases maximal.of_concat with ⟨rfl, -⟩ | ⟨earlier, -, earlierRun, -⟩
    · rw [maximal.eq_trailing]
      exact le_max_right _ _
    · exact le_max_of_le_left (longest.bound _ _ _ earlierRun)
  attained := by
    have lastIs : lastBreak (intervals ++ [interval]) = lastBreak intervals ++ [interval] :=
      List.rtakeWhile_concat_pos _ _ _ isBreak
    have lastRun : BreakRun (intervals ++ [interval]) _ (lastBreak (intervals ++ [interval])) [] :=
      MaximalRun.trailing (by
        change lastBreak (intervals ++ [interval]) ≠ []
        rw [lastIs]
        exact List.concat_ne_nil _ _)
    have longer : totalDuration (lastBreak intervals) ≤
        totalDuration (lastBreak (intervals ++ [interval])) := by
      rw [lastIs, totalDuration_concat]
      exact le_add_of_nonneg_right interval.duration_nonneg
    rcases le_total seconds (totalDuration (lastBreak (intervals ++ [interval]))) with less | less
    · rw [max_eq_right less]
      exact .inl ⟨_, _, _, lastRun, rfl⟩
    · rw [max_eq_left less]
      rcases longest.attained with ⟨before, run, after, maximal, same⟩ | ⟨noRun, none_⟩
      · by_cases open_ : after = []
        · subst open_
          -- The longest break lasted up to here, and the interval takes no time.
          have runIs : run = lastBreak intervals := maximal.eq_trailing
          refine .inl ⟨_, _, _, lastRun, le_antisymm less ?_⟩
          rw [← same, runIs]
          exact longer
        · exact .inl ⟨before, run, _, maximal.concat (.inl open_), same⟩
      · refine .inl ⟨_, _, _, lastRun, le_antisymm less ?_⟩
        rw [none_]
        exact totalDuration_nonneg _

theorem Measured.next (measured : Measured intervals breaks) :
    Measured (intervals ++ [interval]) (breaks.next interval) := by
  have nonneg := interval.duration_nonneg
  have currentTotal := measured.currentTotal
  have longestTotal := measured.longestTotal
  unfold TrafficBreaks.next
  split
  · rename_i isBreak
    have lastIs : totalDuration (lastBreak (intervals ++ [interval])) =
        breaks.currentBreak + interval.duration := by
      have grown : lastBreak (intervals ++ [interval]) = lastBreak intervals ++ [interval] :=
        List.rtakeWhile_concat_pos _ _ _ isBreak
      rw [grown, totalDuration_concat, measured.current]
    refine ⟨lastIs.symm, ?_, ?_, by dsimp only; linarith, max_le (by linarith) (by linarith)⟩
    · rw [List.filter_append, List.filter_singleton, isBreak, cond_true, totalDuration_concat,
        measured.total]
    · have longest := measured.longest.silence isBreak
      rw [lastIs] at longest
      exact longest
  · rename_i notBreak
    have isTraffic := Bool.eq_false_iff.mpr notBreak
    have noBreak : lastBreak (intervals ++ [interval]) = [] :=
      List.rtakeWhile_concat_neg _ _ _ notBreak
    have currentNonneg : 0 ≤ breaks.currentBreak := by
      rw [measured.current]
      exact totalDuration_nonneg _
    refine ⟨?_, ?_, measured.longest.traffic isTraffic, by dsimp only; linarith, longestTotal⟩
    · rw [noBreak]
      rfl
    · rw [List.filter_append, List.filter_singleton, isTraffic, cond_false, List.append_nil,
        measured.total]

theorem measured_foldl (intervals : List Interval) :
    Measured intervals (intervals.foldl TrafficBreaks.next noBreaks) := by
  induction intervals using List.reverseRecOn with
  | nil => exact measured_nil
  | append_singleton intervals interval inductionHypothesis =>
      rw [List.foldl_append]
      exact inductionHypothesis.next

/-! ### The intervals of a log -/

/-- A value that has the start, the end and the bytes of an interval. -/
def Spells (element : Json) (interval : Interval) : Prop :=
  ∃ members sums, element = .object members ∧
    Json.member members "sum".toList = some (.object sums) ∧
    Json.member sums "start".toList = some (.number (.finite interval.start)) ∧
    Json.member sums "end".toList = some (.number (.finite interval.ending)) ∧
    Json.member sums "bytes".toList = some (.number (.finite interval.bytes))

theorem checkInterval_spells {element : Json} (spells : Spells element interval) :
    checkInterval (breaks.map .finite) element = .ok ((breaks.next interval).map .finite) := by
  obtain ⟨members, sums, rfl, sum, start, ending, bytes⟩ := spells
  have getSum : getItem (.object members) "sum".toList = .ok (.object sums) := by
    rw [getItem, Json.getItem, sum]
  have getStart : getItem (.object sums) "start".toList =
      .ok (.number (.finite interval.start)) := by
    rw [getItem, Json.getItem, start]
  have getEnd : getItem (.object sums) "end".toList =
      .ok (.number (.finite interval.ending)) := by
    rw [getItem, Json.getItem, ending]
  have getBytes : getItem (.object sums) "bytes".toList =
      .ok (.number (.finite interval.bytes)) := by
    rw [getItem, Json.getItem, bytes]
  have zero : isZero (.number (.finite interval.bytes)) = interval.isBreak := by
    unfold isZero Interval.isBreak
    simp only [Json.Number.finite.injEq]
  unfold checkInterval TrafficBreaks.next
  rw [getSum]
  dsimp only [Except.bind, bind]
  rw [getBytes]
  dsimp only
  rw [zero]
  split
  · rw [getEnd, getStart]
    dsimp only [asNumber, pure, Except.pure, TrafficBreaks.map]
    simp only [Json.Number.sub_finite, Json.Number.add_finite, Json.Number.less_finite]
    congr 2
    by_cases less : breaks.longestBreak < breaks.currentBreak + (interval.ending - interval.start)
    · rw [if_pos (decide_eq_true less), Interval.duration, max_eq_right less.le]
    · rw [if_neg (fun isLess => less (of_decide_eq_true isLess)), Interval.duration,
        max_eq_left (not_lt.mp less)]
  · rfl

theorem foldlM_spells {elements : List Json} (spells : List.Forall₂ Spells elements intervals) :
    elements.foldlM checkInterval (breaks.map .finite) =
      .ok ((intervals.foldl TrafficBreaks.next breaks).map .finite) := by
  induction spells generalizing breaks with
  | nil => rfl
  | cons spells _ inductionHypothesis =>
      rw [List.foldlM_cons, checkInterval_spells spells]
      exact inductionHypothesis

/-- A log that is one document with these intervals. -/
def IsDocument (iperfLogRaw : Text) (elements : List Json) : Prop :=
  ∃ members, Json.loads iperfLogRaw = some (.object members) ∧
    Json.member members "intervals".toList = some (.array elements)

/-- Lines with one event each, some of them intervals. -/
inductive Events : List Text → List Json → Prop where
  | nil : Events [] []
  | interval {line : Text} {members : List (List Nat × Json)} {data : Json} {lines : List Text}
      {elements : List Json} (loaded : Json.loads line = some (.object members))
      (isInterval : isIntervalEvent (Json.member members "event".toList) = true)
      (hasData : Json.member members "data".toList = some data) (rest : Events lines elements) :
      Events (line :: lines) (data :: elements)
  | other {line : Text} {members : List (List Nat × Json)} {lines : List Text}
      {elements : List Json} (loaded : Json.loads line = some (.object members))
      (isOther : isIntervalEvent (Json.member members "event".toList) = false)
      (rest : Events lines elements) : Events (line :: lines) elements

/-- A log of at least two lines, with one event each. -/
structure IsStream (iperfLogRaw : Text) (lines : List Text) (elements : List Json) : Prop where
  text : iperfLogRaw = ['\n'].intercalate lines
  twoLines : 2 ≤ lines.length
  oneLine : ∀ line ∈ lines, line.any Text.isLineBreak = false
  events : Events lines elements

theorem Events.loaded {lines : List Text} {elements : List Json} (events : Events lines elements)
    {line : Text} (member : line ∈ lines) : ∃ value, Json.loads line = some value := by
  induction events with
  | nil => cases member
  | interval loaded _ _ _ inductionHypothesis =>
      rcases List.mem_cons.mp member with rfl | member
      · exact ⟨_, loaded⟩
      · exact inductionHypothesis member
  | other loaded _ _ inductionHypothesis =>
      rcases List.mem_cons.mp member with rfl | member
      · exact ⟨_, loaded⟩
      · exact inductionHypothesis member

theorem Events.foldlM {lines : List Text} {elements : List Json} (events : Events lines elements)
    (earlier : List Json) :
    lines.foldlM parseLogLine earlier = .ok (earlier ++ elements) := by
  induction events generalizing earlier with
  | nil => exact congrArg Except.ok (List.append_nil _).symm
  | @interval line members data lines elements loaded isInterval hasData _ inductionHypothesis =>
      have parsed : ∀ earlier, parseLogLine earlier line = .ok (earlier ++ [data]) := by
        intro earlier
        unfold parseLogLine
        rw [loaded]
        dsimp only [get, getItem, Json.get, Json.getItem, bind, Except.bind]
        rw [if_pos isInterval, hasData]
        rfl
      rw [List.foldlM_cons, parsed]
      change List.foldlM parseLogLine _ _ = _
      rw [inductionHypothesis, List.append_assoc, List.singleton_append]
  | @other line members lines elements loaded isOther _ inductionHypothesis =>
      have parsed : ∀ earlier, parseLogLine earlier line = .ok earlier := by
        intro earlier
        unfold parseLogLine
        rw [loaded]
        dsimp only [get, Json.get, bind, Except.bind]
        rw [isOther]
        rfl
      rw [List.foldlM_cons, parsed]
      exact inductionHypothesis earlier

theorem IsStream.loads {iperfLogRaw : Text} {lines : List Text} {elements : List Json}
    (stream : IsStream iperfLogRaw lines elements) : Json.loads iperfLogRaw = none := by
  have twoLines := stream.twoLines
  have events := stream.events
  rw [stream.text]
  match lines with
  | [] => exact absurd (show 2 ≤ 0 from twoLines) (by decide)
  | [_] => exact absurd (show 2 ≤ 1 from twoLines) (by decide)
  | first :: second :: lines =>
      obtain ⟨_, loadedFirst⟩ := events.loaded List.mem_cons_self
      obtain ⟨_, loadedSecond⟩ := events.loaded (List.mem_cons_of_mem _ List.mem_cons_self)
      rw [List.intercalate_cons_cons, List.append_assoc, List.singleton_append]
      apply Json.loads_append loadedFirst
      have solid := Json.loads_solid loadedSecond
      have starts : ∃ more, ['\n'].intercalate (second :: lines) = second ++ more := by
        cases lines with
        | nil => exact ⟨[], by rw [List.intercalate_singleton, List.append_nil]⟩
        | cons third lines =>
            exact ⟨_, by rw [List.intercalate_cons_cons, List.append_assoc]⟩
      obtain ⟨more, same⟩ := starts
      rw [same, Json.skipSpaces_append solid]
      exact fun blank => solid (List.append_eq_nil_iff.mp blank).1

theorem IsStream.parsed {iperfLogRaw : Text} {lines : List Text} {elements : List Json}
    (stream : IsStream iperfLogRaw lines elements) :
    parseJsonStreamOutput iperfLogRaw =
      .ok (.object [(Json.codes "intervals".toList, .array elements)]) := by
  have areLines : ∀ line ∈ lines, line ≠ [] ∧ line.any Text.isLineBreak = false := by
    intro line member
    refine ⟨?_, stream.oneLine line member⟩
    rintro rfl
    obtain ⟨_, loaded⟩ := stream.events.loaded member
    exact Json.loads_solid loaded rfl
  unfold parseJsonStreamOutput
  rw [stream.text, Text.splitLines_intercalate areLines, stream.events.foldlM []]
  rfl

/-- The figures of a list of intervals, whichever the format is they were read from. -/
def elementBreaks (elements : List Json) : Except CheckError (TrafficBreaks Json.Number) :=
  if elements = [] then .error .noIntervals
  else elements.foldlM checkInterval (noBreaks.map .finite)

theorem trafficBreaks_array {members : List (List Nat × Json)} {elements : List Json}
    (intervals : Json.member members "intervals".toList = some (.array elements)) :
    trafficBreaks (.object members) = elementBreaks elements := by
  unfold trafficBreaks
  dsimp only [get, Json.get, bind, Except.bind]
  rw [intervals]
  cases elements with
  | nil => rfl
  | cons element elements => rfl

theorem IsDocument.loggedBreaks {iperfLogRaw : Text} {elements : List Json}
    (document : IsDocument iperfLogRaw elements) :
    loggedBreaks iperfLogRaw = elementBreaks elements := by
  obtain ⟨members, loaded, intervals⟩ := document
  unfold Iperf3.loggedBreaks loadIperfLog
  rw [loaded]
  exact trafficBreaks_array intervals

theorem IsStream.loggedBreaks {iperfLogRaw : Text} {lines : List Text} {elements : List Json}
    (stream : IsStream iperfLogRaw lines elements) :
    loggedBreaks iperfLogRaw = elementBreaks elements := by
  unfold Iperf3.loggedBreaks loadIperfLog
  rw [stream.loads]
  dsimp only
  rw [stream.parsed]
  have intervals : Json.member [(Json.codes "intervals".toList, .array elements)]
      "intervals".toList = some (.array elements) := rfl
  exact trafficBreaks_array intervals

/-- A log with these intervals, in one of the two formats. -/
def IsLog (iperfLogRaw : Text) (elements : List Json) : Prop :=
  IsDocument iperfLogRaw elements ∨ ∃ lines, IsStream iperfLogRaw lines elements

theorem IsLog.loggedBreaks {iperfLogRaw : Text} {elements : List Json}
    (isLog : IsLog iperfLogRaw elements) :
    loggedBreaks iperfLogRaw = elementBreaks elements := by
  rcases isLog with document | ⟨lines, stream⟩
  · exact document.loggedBreaks
  · exact stream.loggedBreaks

theorem elementBreaks_spells {elements : List Json} (spells : List.Forall₂ Spells elements intervals)
    (nonempty : intervals ≠ []) :
    elementBreaks elements = .ok ((intervals.foldl TrafficBreaks.next noBreaks).map .finite) := by
  have someElement : elements ≠ [] := by
    rintro rfl
    cases spells
    exact nonempty rfl
  rw [elementBreaks, if_neg someElement]
  exact foldlM_spells spells

theorem checkIperf3ClientResults_eq {iperfLogRaw other : Text} (nonempty : iperfLogRaw ≠ [])
    (otherNonempty : other ≠ []) (same : loggedBreaks iperfLogRaw = loggedBreaks other)
    (conf : RhospConf) (isPreventCreate : Bool) :
    checkIperf3ClientResults conf isPreventCreate (some iperfLogRaw) =
      checkIperf3ClientResults conf isPreventCreate (some other) := by
  unfold checkIperf3ClientResults
  rw [Option.getD_some, Option.getD_some, if_neg fun empty => nonempty empty.1,
    if_neg fun empty => otherNonempty empty.1]
  dsimp only
  rw [same]

theorem IsDocument.nonempty {iperfLogRaw : Text} {elements : List Json}
    (document : IsDocument iperfLogRaw elements) : iperfLogRaw ≠ [] := by
  obtain ⟨members, loaded, -⟩ := document
  rintro rfl
  exact Json.loads_solid loaded rfl

theorem IsStream.nonempty {iperfLogRaw : Text} {lines : List Text} {elements : List Json}
    (stream : IsStream iperfLogRaw lines elements) : iperfLogRaw ≠ [] := by
  rintro rfl
  obtain ⟨line, member⟩ : ∃ line, line ∈ lines :=
    List.exists_mem_of_length_pos (Nat.lt_of_lt_of_le Nat.two_pos stream.twoLines)
  obtain ⟨_, loaded⟩ := stream.events.loaded member
  have within : line <:+: ['\n'].intercalate lines := Text.infix_intercalate member
  rw [← stream.text, List.infix_nil] at within
  rw [within] at loaded
  exact Json.loads_solid loaded rfl

def sumsOf (start ending bytes : ℚ) : Json :=
  .object [(Json.codes "start".toList, .number (.finite start)),
    (Json.codes "end".toList, .number (.finite ending)),
    (Json.codes "bytes".toList, .number (.finite bytes))]

def elementOf (start ending bytes : ℚ) : Json :=
  .object [(Json.codes "sum".toList, sumsOf start ending bytes)]

theorem elementOf_spells (interval : Interval) :
    Spells (elementOf interval.start interval.ending interval.bytes) interval :=
  ⟨_, _, rfl, rfl, rfl, rfl, rfl⟩

def quietInterval : Interval := ⟨0, 1, 0, by decide⟩

def busyInterval : Interval := ⟨1, 3, 5, by decide⟩

def quietText : Text := "\x7b\"sum\": \x7b\"start\": 0, \"end\": 1, \"bytes\": 0\x7d\x7d".toList

def busyText : Text := "\x7b\"sum\": \x7b\"start\": 1, \"end\": 3, \"bytes\": 5\x7d\x7d".toList

def exampleDocument : Text :=
  "\x7b\"intervals\": [".toList ++ quietText ++ ",\n ".toList ++ busyText ++ "]\x7d".toList

def eventLine (event data : Text) : Text :=
  "\x7b\"event\": \"".toList ++ event ++ "\", \"data\": ".toList ++ data ++ "\x7d".toList

def exampleLines : List Text :=
  [eventLine "start".toList "null".toList, eventLine "interval".toList quietText,
    eventLine "interval".toList busyText]

theorem exampleDocument_isDocument :
    IsDocument exampleDocument [elementOf 0 1 0, elementOf 1 3 5] :=
  ⟨[(Json.codes "intervals".toList, .array [elementOf 0 1 0, elementOf 1 3 5])],
    by decide +kernel, rfl⟩

theorem exampleLines_isStream :
    IsStream (['\n'].intercalate exampleLines) exampleLines [elementOf 0 1 0, elementOf 1 3 5] where
  text := rfl
  twoLines := by decide
  oneLine := by decide +kernel
  events :=
    .other (by decide +kernel : Json.loads _ =
        some (.object [(Json.codes "event".toList, .string (Json.codes "start".toList)),
          (Json.codes "data".toList, .null)])) rfl
      (.interval (by decide +kernel : Json.loads _ =
          some (.object [(Json.codes "event".toList, .string (Json.codes "interval".toList)),
            (Json.codes "data".toList, elementOf 0 1 0)])) rfl rfl
        (.interval (by decide +kernel : Json.loads _ =
            some (.object [(Json.codes "event".toList, .string (Json.codes "interval".toList)),
              (Json.codes "data".toList, elementOf 1 3 5)])) rfl rfl .nil))

end Tobiko.Shell.Iperf3
