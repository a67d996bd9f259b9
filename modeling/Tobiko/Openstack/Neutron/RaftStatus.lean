import Tobiko.Openstack.Neutron.OvnDbShow

/-!
Contract: the parsed form of what `cluster/status` prints, as `_parse_cluster_status` in
`tobiko/openstack/neutron/_ovn.py` makes it.

Owns: the loop over the lines, the text of a status with its entries, what the parser makes of
such a text, and exactly which texts it accepts.

Does not own: what the entries of a status say about the cluster.
-/

namespace Tobiko.Openstack.Neutron

open Tobiko.Foundation

/-! ### The parser -/

/-- The value of a section: the rest of its line, or the lines below it. -/
inductive Detail where
  | value (data : Text)
  | items (lines : List Text)
  deriving DecidableEq

abbrev ClusterStatus : Type := Dict Text Detail

inductive StatusError where
  | keyError (section_ : Text)
  | attributeError
  deriving DecidableEq

/-- The body of the loop over the lines, with the current section. -/
def parseStatusLine (state : Text × ClusterStatus) (line : Text) :
    Except StatusError (Text × ClusterStatus) :=
  if isIndented line then
    match state.2.get? state.1 with
    | none => .error (.keyError state.1)
    | some (.value _) => .error .attributeError
    | some (.items lines) =>
        .ok (state.1, state.2.set state.1 (.items (lines ++ [Text.strip line])))
  else
    match Text.splitFirst ':' (Text.strip line) with
    | none => .ok state
    | some (section_, data) =>
        if Text.strip data = [] then .ok (section_, state.2.set section_ (.items []))
        else .ok (section_, state.2.set section_ (.value (Text.strip data)))

/-- `_parse_cluster_status` -/
def parseClusterStatus (stdout : Text) : Except StatusError ClusterStatus := do
  let (_, clusterStatus) ← (Text.splitLines stdout).foldlM parseStatusLine ([], Dict.empty)
  .ok clusterStatus

/-! ### Printed statuses -/

/-- What is printed: a line that belongs to no section, a section with a value, or one with lines
below it. -/
inductive Entry where
  | note (line : Text)
  | value (name data : Text)
  | items (name : Text) (lines : List Text)
  deriving DecidableEq

/-- A text that starts a line and has no colon. -/
structure IsName (name : Text) : Prop where
  noColon : ':' ∉ name
  notIndented : isIndented name = false
  oneLine : name.any Text.isLineBreak = false

def Entry.WellFormed : Entry → Prop
  | .note line => IsName line
  | .value name data => IsName name ∧ IsLine data
  | .items name lines => IsName name ∧ ∀ line ∈ lines, IsLine line

def Entry.lines : Entry → List Text
  | .note line => [line]
  | .value name data => [name ++ ':' :: ' ' :: data]
  | .items name lines => (name ++ [':']) :: lines.map (indent 4)

/-- What the entry says. -/
def Entry.pairs : Entry → List (Text × Detail)
  | .note _ => []
  | .value name data => [(name, .value data)]
  | .items name lines => [(name, .items lines)]

/-- What `cluster/status` prints: each line with its line feed. -/
def statusText (entries : List Entry) : Text :=
  Text.endedText ['\n'] (entries.flatMap Entry.lines)

section Printed

variable {section_ name data : Text} {status : ClusterStatus}

theorem IsName.not_indented_append (isName : IsName name) (rest : Text) :
    isIndented (name ++ ':' :: rest) = false := by
  cases name with
  | nil => rfl
  | cons character name => exact isName.notIndented

/-- A line that starts a section keeps what is in front of the colon. -/
theorem IsName.strip_value (isName : IsName name) (isLine : IsLine data) :
    Text.strip (name ++ ':' :: ' ' :: data) = name ++ ':' :: ' ' :: data := by
  have first : ∀ character, (name ++ ':' :: ' ' :: data).head? = some character →
      Text.isSpace character = false := by
    intro character same
    have solid := isName.not_indented_append (' ' :: data)
    unfold isIndented at solid
    rwa [same] at solid
  have last : ∀ character, (name ++ ':' :: ' ' :: data).getLast? = some character →
      Text.isSpace character = false := by
    intro character same
    apply isLine.trimmed.last
    have shape : name ++ ':' :: ' ' :: data = (name ++ [':', ' ']) ++ data := by simp
    rw [shape, List.getLast?_append] at same
    cases ending : data.getLast? with
    | none => exact absurd (List.getLast?_eq_none_iff.mp ending) isLine.nonempty
    | some final => simpa [ending] using same
  rw [Text.strip, Text.lstrip_eq_self first, Text.rstrip_eq_self last]

theorem IsName.strip_items (isName : IsName name) :
    Text.strip (name ++ [':']) = name ++ [':'] := by
  have first : ∀ character, (name ++ [':']).head? = some character →
      Text.isSpace character = false := by
    intro character same
    have solid := isName.not_indented_append []
    unfold isIndented at solid
    rwa [same] at solid
  have last : ∀ character, (name ++ [':']).getLast? = some character →
      Text.isSpace character = false := by
    intro character same
    rw [List.getLast?_concat] at same
    cases same
    decide
  rw [Text.strip, Text.lstrip_eq_self first, Text.rstrip_eq_self last]

theorem IsLine.strip_space (isLine : IsLine data) : Text.strip (' ' :: data) = data :=
  isLine.strip_indent 1

theorem parse_note (isName : IsName name) (state : Text × ClusterStatus) :
    parseStatusLine state name = .ok state := by
  have noColon : ':' ∉ Text.strip name := by
    intro member
    have inFront : ':' ∈ Text.lstrip name := (List.rdropWhile_prefix _ _).subset member
    exact isName.noColon ((List.dropWhile_suffix _).subset inFront)
  unfold parseStatusLine
  rw [if_neg (Bool.eq_false_iff.mp isName.notIndented), Text.splitFirst_eq_none noColon]

theorem parse_value (isName : IsName name) (isLine : IsLine data) (current : Text) :
    parseStatusLine (current, status) (name ++ ':' :: ' ' :: data) =
      .ok (name, status.set name (.value data)) := by
  unfold parseStatusLine
  rw [if_neg (Bool.eq_false_iff.mp (isName.not_indented_append _)), isName.strip_value isLine,
    Text.splitFirst_append _ isName.noColon]
  dsimp only
  rw [isLine.strip_space, if_neg isLine.nonempty]

theorem parse_items (isName : IsName name) (current : Text) :
    parseStatusLine (current, status) (name ++ [':']) =
      .ok (name, status.set name (.items [])) := by
  unfold parseStatusLine
  rw [if_neg (Bool.eq_false_iff.mp (isName.not_indented_append _)), isName.strip_items,
    Text.splitFirst_append _ isName.noColon]
  rfl

/-- The lines below a section are put behind those that it has. -/
theorem foldlM_items {lines before : List Text} (areLines : ∀ line ∈ lines, IsLine line) :
    (lines.map (indent 4)).foldlM parseStatusLine (name, status.set name (.items before)) =
      .ok (name, status.set name (.items (before ++ lines))) := by
  induction lines generalizing before with
  | nil =>
      rw [List.append_nil]
      rfl
  | cons line lines inductionHypothesis =>
      have isLine := areLines line List.mem_cons_self
      have others := @inductionHypothesis (before ++ [line]) fun other member =>
        areLines other (List.mem_cons_of_mem _ member)
      have parsed : parseStatusLine (name, status.set name (.items before)) (indent 4 line) =
          .ok (name, status.set name (.items (before ++ [line]))) := by
        unfold parseStatusLine
        rw [if_pos (isIndented_indent (by decide) line)]
        dsimp only
        rw [Dict.get?_set, if_pos rfl, isLine.strip_indent]
        dsimp only
        rw [Dict.set_set]
      rw [List.map_cons, List.foldlM_cons, parsed]
      rw [List.append_assoc, List.singleton_append] at others
      exact others

/-- Each entry sets what it says. -/
theorem foldlM_entry {entry : Entry} (wellFormed : entry.WellFormed) (current : Text) :
    ∃ last, entry.lines.foldlM parseStatusLine (current, status) =
      .ok (last, entry.pairs.foldl (fun status pair => status.set pair.1 pair.2) status) := by
  cases entry with
  | note line =>
      refine ⟨current, ?_⟩
      rw [Entry.lines, List.foldlM_cons, parse_note wellFormed]
      rfl
  | value name data =>
      refine ⟨name, ?_⟩
      rw [Entry.lines, List.foldlM_cons, parse_value wellFormed.1 wellFormed.2]
      rfl
  | items name lines =>
      refine ⟨name, ?_⟩
      rw [Entry.lines, List.foldlM_cons, parse_items wellFormed.1]
      have folded := @foldlM_items name status lines [] wellFormed.2
      rw [List.nil_append] at folded
      exact folded

theorem foldlM_entries {entries : List Entry}
    (wellFormed : ∀ entry ∈ entries, entry.WellFormed) (current : Text) :
    ∃ last, (entries.flatMap Entry.lines).foldlM parseStatusLine (current, status) =
      .ok (last, (entries.flatMap Entry.pairs).foldl
        (fun status pair => status.set pair.1 pair.2) status) := by
  induction entries generalizing current status with
  | nil => exact ⟨current, rfl⟩
  | cons entry entries inductionHypothesis =>
      obtain ⟨middle, first⟩ :=
        foldlM_entry (wellFormed entry List.mem_cons_self) current
      obtain ⟨last, rest⟩ := inductionHypothesis
        (fun other member => wellFormed other (List.mem_cons_of_mem _ member)) middle
      refine ⟨last, ?_⟩
      rw [List.flatMap_cons, List.flatMap_cons, List.foldlM_append, first, List.foldl_append]
      exact rest

theorem Entry.oneLine {entry : Entry} (wellFormed : entry.WellFormed) :
    ∀ line ∈ entry.lines, line.any Text.isLineBreak = false := by
  intro line member
  cases entry with
  | note text =>
      rw [List.mem_singleton.mp member]
      exact wellFormed.oneLine
  | value name data =>
      rw [List.mem_singleton.mp member, List.any_append, wellFormed.1.oneLine]
      simpa using ⟨by decide, by decide, by simpa using wellFormed.2.oneLine⟩
  | items name lines =>
      rcases List.mem_cons.mp member with rfl | member
      · rw [List.any_append, wellFormed.1.oneLine]
        decide
      · obtain ⟨item, inLines, rfl⟩ := List.mem_map.mp member
        exact oneLine_indent (wellFormed.2 item inLines) 4

theorem parse_printed {entries : List Entry}
    (wellFormed : ∀ entry ∈ entries, entry.WellFormed) :
    parseClusterStatus (statusText entries) = .ok (Dict.ofPairs (entries.flatMap Entry.pairs)) := by
  have oneLine : ∀ line ∈ entries.flatMap Entry.lines, line.any Text.isLineBreak = false := by
    intro line member
    obtain ⟨entry, inEntries, inLines⟩ := List.mem_flatMap.mp member
    exact Entry.oneLine (wellFormed entry inEntries) line inLines
  obtain ⟨last, folded⟩ := @foldlM_entries Dict.empty entries wellFormed []
  unfold parseClusterStatus statusText
  rw [Text.splitLines_endedText (.inl rfl) oneLine, folded]
  rfl

/-- **A printed status is read back:** each name has the value or the lines of its last entry,
whatever entries come in whatever order, and no other name has any. -/
theorem parse_cluster_status_printed (entries : List Entry)
    (wellFormed : ∀ entry ∈ entries, entry.WellFormed) :
    ∃ status, parseClusterStatus (statusText entries) = .ok status ∧
      ∀ name, status.get? name =
        ((entries.flatMap Entry.pairs).reverse.find? fun pair => decide (name = pair.1)).map
          Prod.snd :=
  ⟨_, parse_printed wellFormed, fun _ => Dict.get?_ofPairs⟩

/-- A status of a leader with a peer. -/
def leaderStatus : List Entry :=
  [.note "5a2f".toList, .value "Role".toList "leader".toList, .note [],
    .value "Leader".toList "self".toList, .value "Election timer".toList "1000".toList,
    .items "Servers".toList ["5a2f (5a2f at tcp:10.0.0.1:6643) (self)".toList,
      "8c3d (8c3d at tcp:10.0.0.2:6643) last msg 52 ms ago".toList]]

theorem isLine_of_ends {text : Text} (nonempty : text ≠ [])
    (first : text.head?.any Text.isSpace = false) (last : text.getLast?.any Text.isSpace = false)
    (oneLine : text.any Text.isLineBreak = false) : IsLine text :=
  ⟨nonempty, Text.trimmed_of_ends first last, oneLine⟩

theorem leaderStatus_wellFormed : ∀ entry ∈ leaderStatus, entry.WellFormed := by
  intro entry member
  simp only [leaderStatus, List.mem_cons, List.not_mem_nil, or_false] at member
  rcases member with rfl | rfl | rfl | rfl | rfl | rfl
  · exact ⟨by decide, by decide, by decide⟩
  · exact ⟨⟨by decide, by decide, by decide⟩,
      isLine_of_ends (by decide) (by decide) (by decide) (by decide)⟩
  · exact ⟨by decide, by decide, by decide⟩
  · exact ⟨⟨by decide, by decide, by decide⟩,
      isLine_of_ends (by decide) (by decide) (by decide) (by decide)⟩
  · exact ⟨⟨by decide, by decide, by decide⟩,
      isLine_of_ends (by decide) (by decide) (by decide) (by decide)⟩
  · refine ⟨⟨by decide, by decide, by decide⟩, fun line member => ?_⟩
    simp only [List.mem_cons, List.not_mem_nil, or_false] at member
    rcases member with rfl | rfl
    · exact isLine_of_ends (by decide) (by decide) (by decide) (by decide)
    · exact isLine_of_ends (by decide) (by decide) (by decide) (by decide)

theorem parse_cluster_status_printed_leader :
    ∃ status, parseClusterStatus (statusText leaderStatus) = .ok status ∧
      ∀ name, status.get? name =
        ((leaderStatus.flatMap Entry.pairs).reverse.find? fun pair => decide (name = pair.1)).map
          Prod.snd :=
  parse_cluster_status_printed leaderStatus leaderStatus_wellFormed

end Printed

/-! ### The texts that are accepted -/

section Accepted

/-- Whether the section that the line starts has lines below it; `none` for other lines. -/
def headingOf (line : Text) : Option Bool :=
  if isIndented line then none
  else (Text.splitFirst ':' (Text.strip line)).map fun parts => decide (Text.strip parts.2 = [])

/-- The heading that counts behind these lines. -/
def lastHeading (lines : List Text) : Option Bool :=
  lines.foldl (fun heading line => (headingOf line).or heading) none

/-- The current section is the one of the last heading. -/
def AtHeading (heading : Option Bool) (state : Text × ClusterStatus) : Prop :=
  match heading with
  | none => state.2.get? state.1 = none
  | some true => ∃ lines, state.2.get? state.1 = some (.items lines)
  | some false => ∃ data, state.2.get? state.1 = some (.value data)

variable {heading : Option Bool} {state : Text × ClusterStatus} {line : Text}

theorem parseStatusLine_heading (atHeading : AtHeading heading state) (notIndented : ¬ isIndented line) :
    ∃ after, parseStatusLine state line = .ok after ∧ AtHeading ((headingOf line).or heading) after := by
  unfold parseStatusLine headingOf
  rw [if_neg notIndented, if_neg notIndented]
  cases split : Text.splitFirst ':' (Text.strip line) with
  | none => exact ⟨state, rfl, atHeading⟩
  | some parts =>
      obtain ⟨name, data⟩ := parts
      by_cases empty : Text.strip data = []
      · exact ⟨_, if_pos empty, by simp [AtHeading, empty, Dict.get?_set]⟩
      · exact ⟨_, if_neg empty, by simp [AtHeading, empty, Dict.get?_set]⟩

theorem parseStatusLine_indented (atHeading : AtHeading heading state) (indented : isIndented line) :
    (∃ after, parseStatusLine state line = .ok after) ↔ heading = some true := by
  unfold parseStatusLine
  rw [if_pos indented]
  cases heading with
  | none =>
      have absent : state.2.get? state.1 = none := atHeading
      simp [absent]
  | some below =>
      cases below with
      | true =>
          obtain ⟨lines, present⟩ := atHeading
          simp [present]
      | false =>
          obtain ⟨data, present⟩ := atHeading
          simp [present]

theorem atHeading_indented (atHeading : AtHeading heading state) (indented : isIndented line)
    {after : Text × ClusterStatus} (parsed : parseStatusLine state line = .ok after) :
    AtHeading ((headingOf line).or heading) after := by
  have below : heading = some true := (parseStatusLine_indented atHeading indented).mp ⟨after, parsed⟩
  subst below
  obtain ⟨lines, present⟩ := atHeading
  unfold parseStatusLine at parsed
  rw [if_pos indented, present] at parsed
  cases parsed
  simp [headingOf, indented, AtHeading, Dict.get?_set]

theorem atHeading_parsed (atHeading : AtHeading heading state) {after : Text × ClusterStatus}
    (parsed : parseStatusLine state line = .ok after) :
    AtHeading ((headingOf line).or heading) after := by
  by_cases indented : isIndented line = true
  · exact atHeading_indented atHeading indented parsed
  · obtain ⟨other, same, tracked⟩ := parseStatusLine_heading atHeading indented
    rw [same] at parsed
    cases parsed
    exact tracked

/-- A line is accepted unless it is indented and not below such a section. -/
theorem parseStatusLine_isOk_iff (atHeading : AtHeading heading state) :
    (∃ after, parseStatusLine state line = .ok after) ↔
      (isIndented line = true → heading = some true) := by
  by_cases indented : isIndented line = true
  · simp [parseStatusLine_indented atHeading indented, indented]
  · obtain ⟨after, parsed, -⟩ := parseStatusLine_heading atHeading indented
    exact ⟨fun _ isIndented => absurd isIndented indented, fun _ => ⟨after, parsed⟩⟩

/-- The lines are accepted from a state exactly when each indented one is below a section that has
lines below it. -/
theorem foldlM_isOk_iff {lines : List Text} (atHeading : AtHeading heading state) :
    (∃ after, lines.foldlM parseStatusLine state = .ok after) ↔
      ∀ before line after, lines = before ++ line :: after → isIndented line = true →
        before.foldl (fun heading line => (headingOf line).or heading) heading = some true := by
  induction lines generalizing heading state with
  | nil => exact ⟨fun _ before line after split => by simp at split, fun _ => ⟨state, rfl⟩⟩
  | cons line lines inductionHypothesis =>
      rw [List.foldlM_cons]
      constructor
      · rintro ⟨after, folded⟩ before other rest split indented
        cases parsed : parseStatusLine state line with
        | error error =>
            rw [parsed] at folded
            cases folded
        | ok middle =>
            rw [parsed] at folded
            cases before with
            | nil =>
                obtain ⟨rfl, -⟩ := List.cons.inj split
                exact (parseStatusLine_isOk_iff atHeading).mp ⟨middle, parsed⟩ indented
            | cons first before =>
                obtain ⟨rfl, others⟩ := List.cons.inj split
                exact (inductionHypothesis (atHeading_parsed atHeading parsed)).mp ⟨after, folded⟩
                  before other rest others indented
      · intro fine
        obtain ⟨middle, parsed⟩ := (parseStatusLine_isOk_iff atHeading).mpr
          fun indented => fine [] line lines rfl indented
        rw [parsed]
        apply (inductionHypothesis (atHeading_parsed atHeading parsed)).mpr
        intro before other rest split indented
        exact fine (line :: before) other rest (by rw [split, List.cons_append]) indented

/-- **What is accepted.** A text is parsed without an error exactly when each indented line comes
behind a section whose line has nothing behind the colon, with no other section between. -/
theorem parse_cluster_status_accepts (stdout : Text) :
    (∃ status, parseClusterStatus stdout = .ok status) ↔
      ∀ before line after, Text.splitLines stdout = before ++ line :: after →
        isIndented line = true → lastHeading before = some true := by
  have start : AtHeading none (([], Dict.empty) : Text × ClusterStatus) := Dict.get?_empty
  have accepted := @foldlM_isOk_iff none ([], Dict.empty) (Text.splitLines stdout) start
  unfold lastHeading
  rw [← accepted]
  unfold parseClusterStatus
  constructor
  · rintro ⟨status, parsed⟩
    cases folded : (Text.splitLines stdout).foldlM parseStatusLine ([], Dict.empty) with
    | error error =>
        rw [folded] at parsed
        cases parsed
    | ok after => exact ⟨after, rfl⟩
  · rintro ⟨after, folded⟩
    rw [folded]
    exact ⟨after.2, rfl⟩

end Accepted

end Tobiko.Openstack.Neutron
