import Mathlib.Data.List.Induction
import Mathlib.Data.List.Perm.Basic
import Tobiko.Openstack.Neutron.NovaResponseReader

/-!
Contract: what a `NeutronNovaResponseReader` has read after any calls.

Owns: the responses of the lines of some hosts, what one reading adds, the invariant of the runs
in which no line is missed, and what one reading does to it.

Does not own: the reader and its runs.

The diggers of a later set up find the lines that are there before the responses are read, and
only the lines that appear after that are returned as new.
-/

namespace Tobiko.Openstack.Neutron

open Tobiko.Foundation Tobiko.Shell.Files

section Runs

variable {Host Line Data : Type} [DecidableEq Line] (lineReader : LineReader Line Data)

/-! ### Responses of lines -/

/-- The lines that match. -/
def LineReader.matched (logs : Host → List Line) (host : Host) : List Line :=
  (logs host).filter lineReader.matching

/-- One response for each line of each host. -/
def responsesOf (hosts : List Host) (lines : Host → List Line) :
    List (NovaResponse Host Line Data) :=
  hosts.flatMap fun host => (lines host).map fun line => lineReader.response (host, line)

omit [DecidableEq Line] in
theorem mem_responsesOf {hosts : List Host} {lines : Host → List Line}
    {response : NovaResponse Host Line Data} :
    response ∈ responsesOf lineReader hosts lines ↔
      ∃ host ∈ hosts, ∃ line ∈ lines host, lineReader.response (host, line) = response := by
  simp [responsesOf]

omit [DecidableEq Line] in
theorem responsesOf_append (hosts : List Host) (before rest : Host → List Line) :
    (responsesOf lineReader hosts fun host => before host ++ rest host).Perm
      (responsesOf lineReader hosts before ++ responsesOf lineReader hosts rest) := by
  have together := List.flatMap_append_perm hosts
    (fun host => (before host).map fun line => lineReader.response (host, line))
    (fun host => (rest host).map fun line => lineReader.response (host, line))
  have same : (responsesOf lineReader hosts fun host => before host ++ rest host) =
      hosts.flatMap fun host => ((before host).map fun line => lineReader.response (host, line)) ++
        (rest host).map fun line => lineReader.response (host, line) := by
    unfold responsesOf
    congr 1
    funext host
    rw [List.map_append]
  rw [same]
  exact together.symm

/-- What a reading adds. -/
theorem readResponses_eq {Exc : Type} (reader : NovaResponseReader Host Line Data)
    {logs before rest : Host → List Line} {diggers : Diggers Host Line}
    (found : Found messagePattern before diggers)
    (continues : Continues lineReader.matching logs before rest (diggers.map Prod.fst)) :
    ∃ responses after, (reader.readResponses lineReader logs diggers :
        Except (DiggerError Exc) _ × _) =
        (.ok responses, ⟨some (reader.responses.getD [] ++ responses), some after⟩) ∧
      responses.Perm (responsesOf lineReader (diggers.map Prod.fst) fun host =>
        if reader.responses.isSome then rest host else before host ++ rest host) ∧
      after.map Prod.fst = diggers.map Prod.fst ∧
      Found messagePattern (fun host => before host ++ rest host) after := by
  let lines := (diggers.map Prod.fst).flatMap fun host =>
    (if reader.responses.isSome then rest host else before host ++ rest host).map (Prod.mk host)
  obtain ⟨after, searched, names, foundAfter⟩ : ∃ after, findHostLines (fun host =>
      (grepLog lineReader.matching (logs host) : String → Grepped Line Exc)) none
        reader.responses.isSome diggers = (.ok lines, after) ∧ _ ∧ _ :=
    findHostLines_eq found continues reader.responses.isSome
  refine ⟨sortResponses (lines.map lineReader.response), after, ?_, ?_, names, foundAfter⟩
  · unfold NovaResponseReader.readResponses grepLogs
    rw [searched]
  · apply (List.mergeSort_perm _ _).trans
    unfold responsesOf
    rw [List.map_flatMap]
    simp only [List.map_map]
    exact List.Perm.refl _

variable [DecidableEq Host]

/-- The hosts of the nodes, each one once. -/
def hostsOf (nodes : List Host) : List Host := unseen id [] nodes

omit [DecidableEq Line] in
theorem mem_hostsOf {nodes : List Host} {host : Host} : host ∈ hostsOf nodes ↔ host ∈ nodes := by
  have same := @mem_keys_unseen _ _ _ id [] nodes host
  rw [List.map_id, List.map_id] at same
  rw [hostsOf, same]
  simp

/-- The set up of a reader whose logs grow until it reads them. -/
theorem setupFixture_eq {Exc : Type} (reader : NovaResponseReader Host Line Data)
    (nodes : List Host) {logs later rest : Host → List Line}
    (continues : Continues lineReader.matching later (lineReader.matched logs) rest
      (hostsOf nodes)) :
    ∃ responses after, (reader.setupFixture lineReader nodes logs later :
        Except (DiggerError Exc) _ × _) =
        (.ok responses, ⟨some (reader.responses.getD [] ++ responses), some after⟩) ∧
      responses.Perm (responsesOf lineReader (hostsOf nodes) fun host =>
        if reader.responses.isSome then rest host
        else lineReader.matched logs host ++ rest host) ∧
      after.map Prod.fst = hostsOf nodes ∧
      Found messagePattern (fun host => lineReader.matched logs host ++ rest host) after := by
  have names : (NovaResponseReader.getLogFileDigger nodes : Diggers Host Line).map Prod.fst =
      hostsOf nodes := by
    unfold NovaResponseReader.getLogFileDigger
    rw [names_addHosts]
    rfl
  have nothing : Found messagePattern (fun _ => [])
      (NovaResponseReader.getLogFileDigger nodes : Diggers Host Line) :=
    found_addHosts messagePattern nodes fun _ member => absurd member List.not_mem_nil
  have distinct : ∀ host ∈ (NovaResponseReader.getLogFileDigger nodes :
      Diggers Host Line).map Prod.fst, ((logs host).filter lineReader.matching).Nodup := by
    rw [names]
    exact fun host member => ((continues host member).2).of_append_left
  obtain ⟨diggers, setUp, setUpNames, found⟩ : ∃ after, setUpDiggers (fun host =>
      (grepLog lineReader.matching (logs host) : String → Grepped Line Exc))
        (NovaResponseReader.getLogFileDigger nodes) = (.ok (), after) ∧ _ ∧ _ :=
    setUpDiggers_eq nothing distinct
  rw [names] at setUpNames
  have continuesHere : Continues lineReader.matching later (lineReader.matched logs) rest
      (diggers.map Prod.fst) := by
    rw [setUpNames]
    exact continues
  obtain ⟨responses, after, read, perm, afterNames, foundAfter⟩ :
      ∃ responses after, (reader.readResponses lineReader later diggers :
        Except (DiggerError Exc) _ × _) = (.ok responses, _) ∧ _ ∧ _ ∧ _ :=
    readResponses_eq lineReader reader found continuesHere
  rw [setUpNames] at perm afterNames
  refine ⟨responses, after, ?_, perm, afterNames, foundAfter⟩
  unfold NovaResponseReader.setupFixture grepLogs
  rw [setUp]
  exact read

/-! ### The invariant -/

/-- The diggers of a reader that is set up have found these lines, with which the matching lines
of each host begin. -/
structure Tracks (nodes : List Host) (lines : Host → List Line)
    (state : ReaderState Host Line Data) : Prop where
  begins : ∀ host ∈ hostsOf nodes, lines host <+: lineReader.matched state.logs host
  found : ∀ diggers, state.reader.logDigger = some diggers →
    state.reader.responses.isSome = true ∧ diggers.map Prod.fst = hostsOf nodes ∧
      Found messagePattern lines diggers

/-- There is exactly one response for each of the lines, and each response was returned by exactly
one reading. -/
structure HasRead (nodes : List Host) (lines : Host → List Line)
    (state : ReaderState Host Line Data) : Prop where
  responses : (state.reader.responses.getD []).Perm (responsesOf lineReader (hostsOf nodes) lines)
  results : state.results.flatten.Perm (state.reader.responses.getD [])

/-- There is exactly one response for each matching line of each host, and each of them was
returned by exactly one reading. -/
def Complete (nodes : List Host) (state : ReaderState Host Line Data) : Prop :=
  HasRead lineReader nodes (lineReader.matched state.logs) state

/-- The event calls `read_responses`. -/
def ReaderState.Reads (state : ReaderState Host Line Data) : ReaderEvent Host Line → Prop
  | .read => True
  | .setUp _ => state.reader.logDigger = none
  | _ => False

/-- A set up after the first one misses no line: each line that is there when the diggers are
set up has a response. -/
def MissesNothing (nodes : List Host) (state : ReaderState Host Line Data) : Prop :=
  ∀ responses, state.reader.responses = some responses →
    ∀ host ∈ nodes, ∀ line ∈ state.logs host, lineReader.matching line = true →
      ∃ response ∈ responses, response.hostname = host ∧ response.line = line

/-- A set up after the first one is a set up that misses no line. -/
def ReaderState.SetsUpWell (nodes : List Host) (state : ReaderState Host Line Data) :
    ReaderEvent Host Line → Prop
  | .setUp _ => state.reader.logDigger = none → MissesNothing lineReader nodes state
  | _ => True

/-- The lines that are appended to the logs. -/
def ReaderEvent.grown : ReaderEvent Host Line → Host → List Line
  | .grow lines => lines
  | .setUp lines => lines
  | _ => fun _ => []

/-- Whether the reader is set up after an event. -/
def ReaderEvent.setUpAfter (setUp : Bool) : ReaderEvent Host Line → Bool
  | .setUp _ => true
  | .cleanUp => false
  | _ => setUp


section Steps

variable {lineReader} {nodes : List Host} {lines : Host → List Line}
  {state : ReaderState Host Line Data}

omit [DecidableEq Host] [DecidableEq Line] in
theorem matched_append (logs grown : Host → List Line) (host : Host) :
    lineReader.matched (fun host => logs host ++ grown host) host =
      lineReader.matched logs host ++ lineReader.matched grown host :=
  List.filter_append _ _

omit [DecidableEq Line] [DecidableEq Host] in
theorem responsesOf_congr {hosts : List Host} {first second : Host → List Line}
    (same : ∀ host ∈ hosts, first host = second host) :
    responsesOf lineReader hosts first = responsesOf lineReader hosts second := by
  unfold responsesOf
  apply List.flatMap_congr
  intro host member
  rw [same host member]

omit [DecidableEq Line] in
theorem Tracks.grow (tracks : Tracks lineReader nodes lines state) (grown : Host → List Line) :
    Tracks lineReader nodes lines
      { state with logs := fun host => state.logs host ++ grown host } where
  begins host member := by
    rw [matched_append]
    exact (tracks.begins host member).trans (List.prefix_append _ _)
  found := tracks.found

omit [DecidableEq Line] in
theorem Tracks.cleanUp (tracks : Tracks lineReader nodes lines state) :
    Tracks lineReader nodes lines { state with reader := state.reader.cleanUp } where
  begins := tracks.begins
  found diggers present := by cases present

/-! ### One reading -/

section Reading

variable {later before rest : Host → List Line} {responses : List (NovaResponse Host Line Data)}
  {diggers : Diggers Host Line}

omit [DecidableEq Line] in
theorem tracks_afterReading (reader : NovaResponseReader Host Line Data)
    (results : List (List (NovaResponse Host Line Data)))
    (whole : ∀ host ∈ hostsOf nodes, before host ++ rest host = lineReader.matched later host)
    (names : diggers.map Prod.fst = hostsOf nodes)
    (found : Found messagePattern (fun host => before host ++ rest host) diggers)
    (present : reader.responses.isSome = true) (present' : reader.logDigger = some diggers) :
    Tracks lineReader nodes (lineReader.matched later) ⟨reader, later, results⟩ where
  begins host member := List.prefix_refl _
  found others same := by
    cases present'.symm.trans same
    refine ⟨present, names, ?_⟩
    intro entry member
    have ofNodes : entry.1 ∈ hostsOf nodes := names ▸ List.mem_map_of_mem member
    rw [← whole entry.1 ofNodes]
    exact found entry member

omit [DecidableEq Line] in
/-- A reading of all that the earlier readings have not read. -/
theorem complete_afterReading
    (whole : ∀ host ∈ hostsOf nodes, before host ++ rest host = lineReader.matched later host)
    (perm : responses.Perm (responsesOf lineReader (hostsOf nodes) fun host =>
      if state.reader.responses.isSome then rest host else before host ++ rest host))
    (hasRead : HasRead lineReader nodes lines state)
    (same : state.reader.responses.isSome = true → ∀ host ∈ hostsOf nodes,
      lines host = before host) :
    Complete lineReader nodes
      ⟨⟨some (state.reader.responses.getD [] ++ responses), some diggers⟩, later,
        state.results ++ [responses]⟩ where
  responses := by
    show (state.reader.responses.getD [] ++ responses).Perm
      (responsesOf lineReader (hostsOf nodes) (lineReader.matched later))
    rw [← responsesOf_congr whole]
    cases earlier : state.reader.responses with
    | none =>
        rw [earlier] at perm
        exact perm
    | some old =>
        have oldPerm := hasRead.responses
        rw [earlier] at oldPerm same perm
        rw [responsesOf_congr (same rfl)] at oldPerm
        exact (oldPerm.append perm).trans (responsesOf_append lineReader _ before rest).symm
  results := by
    show (state.results ++ [responses]).flatten.Perm (state.reader.responses.getD [] ++ responses)
    rw [List.flatten_append, List.flatten_singleton]
    exact hasRead.results.append_right responses

omit [DecidableEq Line] in
/-- What was there at a later set up has been read before it. -/
theorem missesNothing_of_complete
    (perm : responses.Perm (responsesOf lineReader (hostsOf nodes) rest))
    (whole : ∀ host ∈ hostsOf nodes,
      lineReader.matched state.logs host ++ rest host = lineReader.matched later host)
    (distinct : ∀ host ∈ hostsOf nodes,
      (lineReader.matched state.logs host ++ rest host).Nodup)
    {old : List (NovaResponse Host Line Data)}
    (complete : (old ++ responses).Perm
      (responsesOf lineReader (hostsOf nodes) (lineReader.matched later)))
    {host : Host} (ofNodes : host ∈ nodes) {line : Line} (there : line ∈ state.logs host)
    (matching : lineReader.matching line = true) :
    ∃ response ∈ old, response.hostname = host ∧ response.line = line := by
  have ofHosts : host ∈ hostsOf nodes := mem_hostsOf.mpr ofNodes
  have matchedLine : line ∈ lineReader.matched state.logs host :=
    List.mem_filter.mpr ⟨there, matching⟩
  have laterLine : line ∈ lineReader.matched later host := by
    rw [← whole host ofHosts]
    exact List.mem_append_left _ matchedLine
  have response : lineReader.response (host, line) ∈ old ++ responses :=
    complete.mem_iff.mpr ((mem_responsesOf lineReader).mpr ⟨host, ofHosts, line, laterLine, rfl⟩)
  rcases List.mem_append.mp response with read | new
  · exact ⟨_, read, rfl, rfl⟩
  · exfalso
    obtain ⟨host', _, line', inRest, same⟩ := (mem_responsesOf lineReader).mp (perm.mem_iff.mp new)
    have sameHost : host' = host := congrArg NovaResponse.hostname same
    have sameLine : line' = line := congrArg NovaResponse.line same
    rw [sameHost, sameLine] at inRest
    exact (List.nodup_append'.mp (distinct host ofHosts)).2.2 matchedLine inRest

omit [DecidableEq Line] in
/-- The lines that have a response are all the lines that were there. -/
theorem lines_eq_of_missesNothing (hasRead : HasRead lineReader nodes lines state)
    (begins : ∀ host ∈ hostsOf nodes, lines host <+: lineReader.matched state.logs host)
    (misses : MissesNothing lineReader nodes state)
    (earlier : state.reader.responses.isSome = true)
    (distinct : ∀ host ∈ hostsOf nodes, (lineReader.matched state.logs host).Nodup)
    {host : Host} (ofHosts : host ∈ hostsOf nodes) :
    lines host = lineReader.matched state.logs host := by
  obtain ⟨old, present⟩ := Option.isSome_iff_exists.mp earlier
  obtain ⟨extra, whole⟩ := begins host ofHosts
  have nodup := distinct host ofHosts
  rw [← whole] at nodup
  cases extra with
  | nil => rw [← whole, List.append_nil]
  | cons line others =>
      exfalso
      have matchedLine : line ∈ lineReader.matched state.logs host := by
        rw [← whole]
        exact List.mem_append_right _ List.mem_cons_self
      obtain ⟨there, matching⟩ := List.mem_filter.mp matchedLine
      obtain ⟨response, member, sameHost, sameLine⟩ :=
        misses old present host (mem_hostsOf.mp ofHosts) line there matching
      have perm := hasRead.responses
      rw [present] at perm
      obtain ⟨host', _, line', inLines, same⟩ :=
        (mem_responsesOf lineReader).mp (perm.mem_iff.mp member)
      subst same
      cases sameHost
      cases sameLine
      exact (List.nodup_append'.mp nodup).2.2 inLines List.mem_cons_self

end Reading

end Steps

end Runs

end Tobiko.Openstack.Neutron
