import Tobiko.Tripleo.ContainersRunning

/-!
Contract: the verdict of `assert_containers_running`.

Owns: which containers match an expected name, how their states can mismatch, the right verdict
on all the nodes, and the nodes on which the check gives it.

Does not own: the check.

The text of a failure about a container that does not run has the only state that the matching
containers have: the check raises an error of its own when there are several of them.
-/

namespace Tobiko.Tripleo

open Tobiko.Common Tobiko.Foundation
open Tobiko.Foundation.Text (contains infix_intercalate)

/-! ### What a verdict should be -/

/-- The container is one that the expected name means. -/
def Container.Matches (fullName : Bool) (expected : String) (container : Container) : Bool :=
  if fullName then container.name.toList == expected.toList
  else contains expected.toList container.name.toList

def Container.isRunning (container : Container) : Bool :=
  container.state.toList == "running".toList

def ContainerNode.matching (node : ContainerNode) (fullName : Bool) (expected : String) :
    List Container :=
  node.containers.filter (Container.Matches fullName expected)

inductive Mismatch where
  | missing
  | stopped
  | duplicated (count : Nat)

/-- How the containers that match mismatch. -/
def mismatchOf (matching : List Container) : Option Mismatch :=
  if matching = [] then some .missing
  else
    match (matching.filter Container.isRunning).length with
    | 0 => some .stopped
    | 1 => none
    | count => some (.duplicated count)

/-- What a failure says of a mismatch. -/
def Mismatch.line (container node : String) : Mismatch → Text
  | .missing => ("expected container " ++ container ++ " not found on node " ++ node).toList
  | .stopped => ("expected container " ++ container ++ " is not running on node " ++ node).toList
  | .duplicated count =>
      ("only one running container " ++ container ++ " was expected on node " ++ node ++
        ", but got " ++ toString count).toList

/-- Each expected name is matched by exactly one running container on every node. -/
def AllRunning (nodes : List ContainerNode) (expectedContainers : List String)
    (fullName : Bool) : Prop :=
  ∀ node ∈ nodes, ∀ expected ∈ expectedContainers,
    ((node.matching fullName expected).filter Container.isRunning).length = 1

structure RightVerdict (nodes : List ContainerNode) (expectedContainers : List String)
    (fullName boolCheck : Bool) (result : Except ContainersError Bool) : Prop where
  healthy : AllRunning nodes expectedContainers fullName → result = .ok true
  checked : ¬AllRunning nodes expectedContainers fullName → boolCheck = true →
    result = .ok false
  failed : ¬AllRunning nodes expectedContainers fullName → boolCheck = false →
    ∃ message, result = .error (.mismatch message) ∧
      ∀ node ∈ nodes, ∀ expected ∈ expectedContainers, ∀ mismatch,
        mismatchOf (node.matching fullName expected) = some mismatch →
          mismatch.line expected node.name <:+: message

/-- Where no matching container runs there is but one. -/
def OneStopped (nodes : List ContainerNode) (expectedContainers : List String)
    (fullName : Bool) : Prop :=
  ∀ node ∈ nodes, ∀ expected ∈ expectedContainers,
    mismatchOf (node.matching fullName expected) = some .stopped →
      (node.matching fullName expected).length = 1

/-! ### Tables of containers -/

def containerRow (container : Container) : Item Cell :=
  .dict (.ofPairs [("container_host", .str container.host), ("container_name", .str container.name),
    ("container_state", .str container.state)])

theorem containerRow_hasKeys (container : Container) :
    (containerRow container).HasKeys containerColumns :=
  sameKeys_refl containerColumns

theorem containerRow_name (container : Container) :
    (containerRow container).textOf "container_name" = container.name.toList :=
  rfl

theorem containerRow_state (container : Container) :
    (containerRow container).textOf "container_state" = container.state.toList :=
  rfl

theorem containerRow_texts (container : Container) {column : String} {cell : Cell}
    (present : (containerRow container).column column = .ok cell) :
    ∃ text, cell = .str text := by
  have entries : (Dict.ofPairs [("container_host", Cell.str container.host),
      ("container_name", .str container.name), ("container_state", .str container.state)]).entries =
      [("container_host", .str container.host), ("container_name", .str container.name),
        ("container_state", .str container.state)] := rfl
  unfold containerRow Item.column at present
  dsimp only at present
  split at present
  · rename_i value found
    cases present
    have member := Dict.mem_entries_iff.mpr found
    rw [entries] at member
    simp only [List.mem_cons, List.not_mem_nil, or_false, Prod.mk.injEq] at member
    rcases member with ⟨-, same⟩ | ⟨-, same⟩ | ⟨-, same⟩
    · exact ⟨_, same⟩
    · exact ⟨_, same⟩
    · exact ⟨_, same⟩
  · cases present

theorem addTuples_eq (containers : List Container) (data : List (Item Cell)) :
    forEach (TableData.addTuple containerColumns) (getContainerStatesList containers)
      ⟨containerColumns, data⟩ =
      (.ok (), ⟨containerColumns, data ++ containers.map containerRow⟩) := by
  induction containers generalizing data with
  | nil => 
    rw [List.map_nil, List.append_nil]
    rfl
  | cons container containers inductionHypothesis =>
      have added : TableData.addTuple containerColumns ⟨containerColumns, data⟩
          (.tuple [.str container.host, .str container.name, .str container.state]) =
          (.ok (), ⟨containerColumns, data ++ [containerRow container]⟩) := by
        rfl
      have rest := inductionHypothesis (data ++ [containerRow container])
      rw [List.append_assoc, List.singleton_append] at rest
      show (TableData.addTuple containerColumns ⟨containerColumns, data⟩ _).andThen _ = _
      rw [added]
      exact rest

theorem containersListTd_eq (node : ContainerNode) :
    ∃ table, containersListTd node = .ok table ∧
      table.data = node.containers.map containerRow ∧ table.Consistent := by
  by_cases empty : node.containers = []
  · refine ⟨⟨[], []⟩, ?_, ?_, consistent_nil []⟩
    · rw [containersListTd, empty]
      rfl
    · rw [empty]
      rfl
  · have adds := addTuples_eq node.containers []
    have some : (getContainerStatesList node.containers).isEmpty = false := by
      simpa [getContainerStatesList] using empty
    refine ⟨⟨containerColumns, node.containers.map containerRow⟩, ?_, rfl, ?_⟩
    · unfold containersListTd TableData.init Initial.truthy
      rw [some]
      show (forEach _ _ _).table = _
      rw [adds]
      rfl
    · intro row member
      obtain ⟨container, -, rfl⟩ := List.mem_map.mp member
      exact containerRow_hasKeys container

/-! ### Legible containers -/

/-- A text that needs no escape and has no name of a column as a word. -/
structure LegibleText (python : Python) (text : String) : Prop where
  plain : Plain text.toList
  free : NoneIn python containerColumns text.toList

structure LegibleContainer (python : Python) (container : Container) : Prop where
  name : LegibleText python container.name
  state : LegibleText python container.state

theorem isSolid_of_letters {python : Python} (words : python.DocumentedWords) {word : List Char}
    (present : word ≠ [])
    (letters : word.all (fun char => char.isAlphanum || char == '_') = true) :
    IsSolid python.isWord word :=
  ⟨present, fun char member => words.word char (List.all_eq_true.mp letters char member)⟩

theorem areWords_containerColumns {python : Python} (words : python.DocumentedWords) :
    AreWords python containerColumns := by
  have letters : containerColumns.all (fun name =>
      name.toList.all fun char => char.isAlphanum || char == '_') = true := by decide
  have present : ∀ name ∈ containerColumns, name.toList ≠ [] := by decide
  intro name member
  apply isSolid_of_letters words (present name member)
  exact List.all_eq_true.mp letters name member

section Tables

variable {python : Python} (words : python.DocumentedWords) {table : TableData Cell}
  {containers : List Container} (rows : table.data = containers.map containerRow)
  (consistent : table.Consistent)
include rows

theorem hasKeys_of_rows : ∀ item ∈ table.data, item.HasKeys containerColumns := by
  rw [rows]
  intro item member
  obtain ⟨container, -, rfl⟩ := List.mem_map.mp member
  exact containerRow_hasKeys container

include consistent

theorem sameKeys_schema (some : containers ≠ []) : SameKeys containerColumns table.schema := by
  obtain ⟨container, member⟩ := List.exists_mem_of_ne_nil containers some
  have inData : containerRow container ∈ table.data := by
    rw [rows]
    exact List.mem_map_of_mem member
  exact consistent _ inData

include words

/-- A column of legible texts. -/
theorem legible_column (some : containers ≠ []) {column : String} {value : Container → String}
    (reads : ∀ container, (containerRow container).textOf column = (value container).toList)
    (legible : ∀ container ∈ containers, LegibleText python (value container)) :
    Legible python table column := by
  have same := sameKeys_schema rows consistent some
  have isRow : ∀ item ∈ table.data, ∃ container ∈ containers, containerRow container = item := by
    rw [rows]
    exact fun item member => List.mem_map.mp member
  refine ⟨consistent, ?_, ?_, ?_, ?_⟩
  · intro item inData name cell present
    obtain ⟨container, -, rfl⟩ := isRow item inData
    exact containerRow_texts container present
  · intro name member
    exact areWords_containerColumns words name (same.2 member)
  · intro item inData name member
    obtain ⟨container, inContainers, rfl⟩ := isRow item inData
    rw [reads container]
    exact (legible container inContainers).free name (same.2 member)
  · intro item inData
    obtain ⟨container, inContainers, rfl⟩ := isRow item inData
    rw [reads container]
    exact (legible container inContainers).plain

end Tables

/-! ### The matching containers -/

section Matching

variable {python : Python} {table : TableData Cell} {containers : List Container}
  (rows : table.data = containers.map containerRow) (consistent : table.Consistent)

theorem containerAttrsRows_eq (expected : String) (containers : List Container) :
    containerAttrsRows expected (containers.map containerRow) =
      .ok ((containers.filter (Container.Matches false expected)).map containerRow) := by
  induction containers with
  | nil => rfl
  | cons container containers inductionHypothesis =>
      have named : nameContains expected (containerRow container) =
          .ok (Container.Matches false expected container) := rfl
      rw [List.map_cons, containerAttrsRows, named, inductionHypothesis, List.filter_cons]
      show Except.ok (if Container.Matches false expected container = true then _ else _) = _
      split
      · rfl
      · rfl

variable (words : python.DocumentedWords) (documented : python.Documented)
  (documentedTight : python.DocumentedTight)
include rows consistent words

theorem containerAttrs_eq (documented : python.Documented)
    (legible : ∀ container ∈ containers, LegibleContainer python container) (fullName : Bool)
    {expected : String} (legibleName : LegibleText python expected) :
    ∃ attrs, containerAttrs python table fullName expected = .ok attrs ∧
      attrs.data = (containers.filter (Container.Matches fullName expected)).map containerRow ∧
      attrs.Consistent := by
  have hasKeys := hasKeys_of_rows rows
  cases fullName with
  | false =>
      have kept : ∀ item ∈ (containers.filter (Container.Matches false expected)).map containerRow,
          item.HasKeys containerColumns := by
        intro item member
        obtain ⟨container, -, rfl⟩ := List.mem_map.mp member
        exact containerRow_hasKeys container
      obtain ⟨attrs, built, data⟩ := ofRows_eq (by decide) kept
      refine ⟨attrs, ?_, data, ofRows_consistent containerColumns built kept⟩
      show (containerAttrsRows expected table.data >>= _) = _
      rw [rows, containerAttrsRows_eq]
      exact built
  | true =>
      by_cases some : containers = []
      · obtain ⟨attrs, found, empty⟩ := query_of_data_nil (by rw [rows, some]; rfl) python
          (render (comparison "container_name" .equal expected))
        refine ⟨attrs, found, ?_, ?_⟩
        · rw [empty, some]
          rfl
        · exact query_consistent found hasKeys
      · have same := sameKeys_schema rows consistent some
        have column := legible_column words rows consistent some containerRow_name
          fun container member => (legible container member).name
        have free : NoneIn python table.schema expected.toList :=
          fun name member => legibleName.free name (same.2 member)
        obtain ⟨attrs, found, data⟩ := column.query_equal words (same.1 (by decide)) free
          legibleName.plain documented
        refine ⟨attrs, found, ?_, query_consistent found hasKeys⟩
        rw [data, rows, List.filter_map]
        rfl

theorem running_eq (documented : python.DocumentedTight)
    (legible : ∀ container ∈ containers, LegibleContainer python container) :
    ∃ running, table.query python (render (tightComparison "container_state" "running")) =
        .ok running ∧
      running.data = (containers.filter Container.isRunning).map containerRow := by
  by_cases some : containers = []
  · obtain ⟨running, found, empty⟩ := query_of_data_nil (by rw [rows, some]; rfl) python
      (render (tightComparison "container_state" "running"))
    refine ⟨running, found, ?_⟩
    rw [empty, some]
    rfl
  · have same := sameKeys_schema rows consistent some
    have column := legible_column words rows consistent some containerRow_state
      fun container member => (legible container member).state
    have running : IsSolid python.isWord "running".toList :=
      isSolid_of_letters words (by decide) (by decide)
    have others : ∀ name ∈ containerColumns, name.toList ≠ "running".toList := by decide
    have free : NoneIn python table.schema "running".toList := by
      intro name member
      have isColumn := same.2 member
      apply searchWord_other (areWords_containerColumns words name isColumn) running
      exact others name isColumn
    obtain ⟨running, found, data⟩ := column.query_tight words (same.1 (by decide)) free
      (by decide) documented
    refine ⟨running, found, ?_⟩
    rw [data, rows, List.filter_map]
    rfl

end Matching

/-! ### The failures of one container -/

/-- The failures about the containers that match a name. -/
def failuresOf (expected node : String) (matching : List Container) :
    Except TableError (List Text) :=
  match mismatchOf matching, matching with
  | none, _ => .ok []
  | some .missing, _ => .ok [notFoundMessage expected node]
  | some .stopped, [container] => .ok [notRunning expected node container.state.toList]
  | some .stopped, _ =>
      .error (.valueError "Can only call item() on single-element data")
  | some (.duplicated count), _ => .ok [severalRunning expected node count]

theorem columnData_eq {table : TableData Cell} {containers : List Container}
    (rows : table.data = containers.map containerRow) :
    columnData table "container_state" =
      .ok (containers.map fun container => .str container.state) := by
  unfold columnData
  rw [rows]
  clear rows
  induction containers with
  | nil => rfl
  | cons container containers inductionHypothesis =>
      rw [List.map_cons, List.mapM_cons, inductionHypothesis]
      rfl

theorem containerFailures_eq {python : Python} (words : python.DocumentedWords)
    (documented : python.Documented) (documentedTight : python.DocumentedTight)
    {table : TableData Cell} {node : ContainerNode}
    (rows : table.data = node.containers.map containerRow) (consistent : table.Consistent)
    (legible : ∀ container ∈ node.containers, LegibleContainer python container)
    (fullName : Bool) {expected : String} (legibleName : LegibleText python expected) :
    containerFailures python table fullName node.name expected =
      failuresOf expected node.name (node.matching fullName expected) := by
  obtain ⟨attrs, attrsFound, attrsRows, attrsConsistent⟩ :=
    containerAttrs_eq rows consistent words documented legible fullName legibleName
  have legibleAttrs : ∀ container ∈ node.matching fullName expected,
      LegibleContainer python container :=
    fun container member => legible container (List.mem_of_mem_filter member)
  obtain ⟨running, runningFound, runningRows⟩ :=
    running_eq attrsRows attrsConsistent words documentedTight legibleAttrs
  have states := columnData_eq attrsRows
  change attrs.data = (node.matching fullName expected).map containerRow at attrsRows
  change running.data = ((node.matching fullName expected).filter _).map containerRow at runningRows
  change columnData attrs "container_state" =
    .ok ((node.matching fullName expected).map fun container => .str container.state) at states
  have emptyAttrs : attrs.data.isEmpty = (node.matching fullName expected).isEmpty := by
    rw [attrsRows, List.isEmpty_map]
  have runningCount : running.data.length =
      ((node.matching fullName expected).filter Container.isRunning).length := by
    rw [runningRows, List.length_map]
  have emptyRunning : running.data.isEmpty =
      decide (running.data.length = 0) := by
    cases running.data with
    | nil => rfl
    | cons row rows => rfl
  rw [containerFailures, attrsFound]
  show (if attrs.data.isEmpty = true then _ else _) = _
  rw [emptyAttrs]
  generalize node.matching fullName expected = matching at *
  cases matching with
  | nil => rfl
  | cons first others =>
      show (attrs.query python _ >>= _) = _
      rw [runningFound]
      show (if running.data.isEmpty = true then _ else _) = _
      rw [emptyRunning, runningCount, states]
      unfold failuresOf mismatchOf
      rw [if_neg (List.cons_ne_nil first others)]
      generalize ((first :: others).filter Container.isRunning).length = count
      cases count with
      | zero =>
          cases others with
          | nil => rfl
          | cons second more => rfl
      | succ count =>
          cases count with
          | zero => rfl
          | succ count =>
              show (if 1 < count + 1 + 1 then
                  Except.ok [severalRunning expected node.name (count + 1 + 1)]
                else .ok []) = _
              rw [if_pos (by omega)]
              rfl

/-! ### What the failures tell -/

section Failures

variable {expected node : String} {matching : List Container}

theorem mismatchOf_eq_none_iff :
    mismatchOf matching = none ↔ (matching.filter Container.isRunning).length = 1 := by
  unfold mismatchOf
  by_cases missing : matching = []
  · rw [if_pos missing, missing]
    simp
  · rw [if_neg missing]
    split
    · rename_i none_runs
      simp [none_runs]
    · rename_i one_runs
      simp [one_runs]
    · rename_i none_runs one_runs
      exact ⟨fun same => (by cases same), fun one => absurd one one_runs⟩

theorem failuresOf_stopped (stopped : mismatchOf matching = some .stopped)
    (several : matching.length ≠ 1) : ∃ error, failuresOf expected node matching = .error error := by
  unfold failuresOf
  rw [stopped]
  cases matching with
  | nil => exact ⟨_, rfl⟩
  | cons first others =>
      cases others with
      | nil => exact absurd rfl several
      | cons second more => exact ⟨_, rfl⟩

/-- There is a failure for a mismatch, which tells what it is. -/
theorem failuresOf_ok (one : mismatchOf matching = some .stopped → matching.length = 1) :
    ∃ texts, failuresOf expected node matching = .ok texts ∧
      (mismatchOf matching = none → texts = []) ∧
      ∀ mismatch, mismatchOf matching = some mismatch →
        ∃ text ∈ texts, mismatch.line expected node <:+: text := by
  unfold failuresOf
  cases found : mismatchOf matching with
  | none =>
      refine ⟨[], rfl, fun _ => rfl, ?_⟩
      rintro mismatch ⟨⟩
  | some mismatch =>
      cases mismatch with
      | missing =>
          refine ⟨_, rfl, (by rintro ⟨⟩), ?_⟩
          rintro mismatch ⟨⟩
          refine ⟨_, List.mem_singleton_self _, List.IsPrefix.isInfix ?_⟩
          refine ⟨" ! : \n\n".toList, ?_⟩
          simp [Mismatch.line, notFoundMessage, String.toList_append]
      | stopped =>
          have single := one found
          obtain ⟨container, rfl⟩ := List.length_eq_one_iff.mp single
          refine ⟨_, rfl, (by rintro ⟨⟩), ?_⟩
          rintro mismatch ⟨⟩
          refine ⟨_, List.mem_singleton_self _, List.IsPrefix.isInfix ?_⟩
          refine ⟨" , its state is ".toList ++ container.state.toList ++ "! : \n\n".toList, ?_⟩
          simp [Mismatch.line, notRunning, String.toList_append]
      | duplicated count =>
          refine ⟨_, rfl, (by rintro ⟨⟩), ?_⟩
          rintro mismatch ⟨⟩
          refine ⟨_, List.mem_singleton_self _, List.IsPrefix.isInfix ?_⟩
          refine ⟨"! : \n\n".toList, ?_⟩
          simp [Mismatch.line, severalRunning, String.toList_append]

end Failures

/-! ### The verdict -/

theorem allFailures_ok {Checked : Type} {failures : Checked → Except TableError (List Text)}
    {checked : List Checked} (each : ∀ one ∈ checked, ∃ texts, failures one = .ok texts) :
    ∃ all, allFailures failures checked = .ok all ∧
      ∀ text, text ∈ all ↔ ∃ one ∈ checked, ∃ texts, failures one = .ok texts ∧ text ∈ texts := by
  induction checked with
  | nil => exact ⟨[], rfl, by simp⟩
  | cons head tail inductionHypothesis =>
      obtain ⟨first, headOk⟩ := each head List.mem_cons_self
      obtain ⟨others, tailOk, members⟩ :=
        inductionHypothesis fun one member => each one (List.mem_cons_of_mem _ member)
      refine ⟨first ++ others, ?_, fun text => ?_⟩
      · rw [allFailures, headOk, tailOk]
        rfl
      · rw [List.mem_append, members text, List.exists_mem_cons_iff, headOk]
        simp

theorem allFailures_error {Checked : Type} {failures : Checked → Except TableError (List Text)}
    {checked : List Checked} {one : Checked} (member : one ∈ checked) {error : TableError}
    (fails : failures one = .error error) : ∃ first, allFailures failures checked = .error first := by
  induction checked with
  | nil => cases member
  | cons head tail inductionHypothesis =>
      unfold allFailures
      cases headResult : failures head with
      | error error => exact ⟨error, rfl⟩
      | ok texts =>
          rcases List.mem_cons.mp member with rfl | inTail
          · rw [fails] at headResult
            cases headResult
          · obtain ⟨first, tailFails⟩ := inductionHypothesis inTail
            rw [tailFails]
            exact ⟨first, rfl⟩

theorem allFailures_congr {Checked : Type} {failures others : Checked → Except TableError (List Text)}
    {checked : List Checked} (same : ∀ one ∈ checked, failures one = others one) :
    allFailures failures checked = allFailures others checked := by
  induction checked with
  | nil => rfl
  | cons head tail inductionHypothesis =>
      rw [allFailures, allFailures, same head List.mem_cons_self,
        inductionHypothesis fun one member => same one (List.mem_cons_of_mem _ member)]

section Verdict

variable {python : Python} (words : python.DocumentedWords) (documented : python.Documented)
  (documentedTight : python.DocumentedTight) {nodes : List ContainerNode}
  {expectedContainers : List String}
  (legible : ∀ node ∈ nodes, ∀ container ∈ node.containers, LegibleContainer python container)
  (legibleNames : ∀ expected ∈ expectedContainers, LegibleText python expected)
  (fullName : Bool)
include words documented documentedTight legible legibleNames

theorem nodeFailures_eq {node : ContainerNode} (member : node ∈ nodes) :
    nodeFailures python expectedContainers fullName node =
      allFailures (fun expected => failuresOf expected node.name (node.matching fullName expected))
        expectedContainers := by
  obtain ⟨table, built, rows, consistent⟩ := containersListTd_eq node
  have same : ∀ expected ∈ expectedContainers,
      containerFailures python table fullName node.name expected =
        failuresOf expected node.name (node.matching fullName expected) :=
    fun expected inExpected => containerFailures_eq words documented documentedTight rows
      consistent (legible node member) fullName (legibleNames expected inExpected)
  unfold nodeFailures
  rw [built]
  exact allFailures_congr same

/-- With one stopped container at most, the failures tell all that mismatches. -/
theorem failures_ok (one : OneStopped nodes expectedContainers fullName) :
    ∃ failures, allFailures (nodeFailures python expectedContainers fullName) nodes =
        .ok failures ∧
      (AllRunning nodes expectedContainers fullName → failures = []) ∧
      ∀ node ∈ nodes, ∀ expected ∈ expectedContainers, ∀ mismatch,
        mismatchOf (node.matching fullName expected) = some mismatch →
          ∃ text ∈ failures, mismatch.line expected node.name <:+: text := by
  have ofNode : ∀ node ∈ nodes, ∃ texts,
      nodeFailures python expectedContainers fullName node = .ok texts ∧
      ∀ text, text ∈ texts ↔ ∃ expected ∈ expectedContainers, ∃ found,
        failuresOf expected node.name (node.matching fullName expected) = .ok found ∧
          text ∈ found := by
    intro node member
    rw [nodeFailures_eq words documented documentedTight legible legibleNames fullName member]
    apply allFailures_ok
    intro expected inExpected
    obtain ⟨texts, found, -, -⟩ := failuresOf_ok (one node member expected inExpected)
    exact ⟨texts, found⟩
  obtain ⟨failures, collected, members⟩ := allFailures_ok fun node member =>
    (ofNode node member).imp fun texts found => found.1
  refine ⟨failures, collected, fun running => ?_, ?_⟩
  · apply List.eq_nil_iff_forall_not_mem.mpr
    intro text inFailures
    obtain ⟨node, member, texts, found, inTexts⟩ := (members text).mp inFailures
    obtain ⟨sameTexts, same, texts_iff⟩ := ofNode node member
    rw [found] at same
    cases same
    obtain ⟨expected, inExpected, lines, linesFound, inLines⟩ := (texts_iff text).mp inTexts
    obtain ⟨noLines, linesOk, empty, -⟩ := failuresOf_ok (one node member expected inExpected)
    rw [linesFound] at linesOk
    cases linesOk
    rw [empty (mismatchOf_eq_none_iff.mpr (running node member expected inExpected))] at inLines
    cases inLines
  · intro node member expected inExpected mismatch mismatched
    obtain ⟨texts, found, texts_iff⟩ := ofNode node member
    obtain ⟨lines, linesFound, -, told⟩ := failuresOf_ok (one node member expected inExpected)
    obtain ⟨text, inLines, tells⟩ := told mismatch mismatched
    refine ⟨text, (members text).mpr ⟨node, member, texts, found, ?_⟩, tells⟩
    exact (texts_iff text).mpr ⟨expected, inExpected, lines, linesFound, inLines⟩

/-- With several of them the check raises another error. -/
theorem failures_error {node : ContainerNode} (member : node ∈ nodes) {expected : String}
    (inExpected : expected ∈ expectedContainers)
    (stopped : mismatchOf (node.matching fullName expected) = some .stopped)
    (several : (node.matching fullName expected).length ≠ 1) :
    ∃ error, allFailures (nodeFailures python expectedContainers fullName) nodes =
      .error error := by
  obtain ⟨raised, raises⟩ : ∃ error, failuresOf expected node.name
      (node.matching fullName expected) = .error error := failuresOf_stopped stopped several
  obtain ⟨first, nodeFails⟩ : ∃ first, allFailures (fun expected =>
      failuresOf expected node.name (node.matching fullName expected)) expectedContainers =
        .error first := allFailures_error inExpected raises
  have ofNode := nodeFailures_eq words documented documentedTight legible legibleNames fullName
    member
  rw [← ofNode] at nodeFails
  exact allFailures_error member nodeFails

end Verdict

theorem exists_mismatch {nodes : List ContainerNode} {expectedContainers : List String}
    {fullName : Bool} (notAll : ¬AllRunning nodes expectedContainers fullName) :
    ∃ node ∈ nodes, ∃ expected ∈ expectedContainers, ∃ mismatch,
      mismatchOf (node.matching fullName expected) = some mismatch := by
  by_contra none
  apply notAll
  intro node member expected inExpected
  apply mismatchOf_eq_none_iff.mp
  cases found : mismatchOf (node.matching fullName expected) with
  | none => rfl
  | some mismatch => exact absurd ⟨node, member, expected, inExpected, mismatch, found⟩ none

/-- **The verdict on the containers.** On all nodes and for all expected names the check gives
the right verdict if and only if, wherever containers match and none of them runs, one does. -/
theorem assertContainersRunning_right_iff {python : Python} (words : python.DocumentedWords)
    (documented : python.Documented) (documentedTight : python.DocumentedTight)
    (nodes : List ContainerNode) (expectedContainers : List String)
    (legible : ∀ node ∈ nodes, ∀ container ∈ node.containers, LegibleContainer python container)
    (legibleNames : ∀ expected ∈ expectedContainers, LegibleText python expected)
    (fullName boolCheck : Bool) :
    RightVerdict nodes expectedContainers fullName boolCheck
        (assertContainersRunning python nodes expectedContainers fullName boolCheck) ↔
      OneStopped nodes expectedContainers fullName := by
  constructor
  · intro right node member expected inExpected stopped
    by_contra several
    obtain ⟨error, failed⟩ := failures_error words documented documentedTight legible legibleNames
      fullName member inExpected stopped several
    have raised : assertContainersRunning python nodes expectedContainers fullName boolCheck =
        .error (.table error) := by
      rw [assertContainersRunning, failed]
      rfl
    have notAll : ¬AllRunning nodes expectedContainers fullName := by
      intro all
      have none := mismatchOf_eq_none_iff.mpr (all node member expected inExpected)
      rw [stopped] at none
      cases none
    rw [raised] at right
    cases boolCheck with
    | true => cases right.checked notAll rfl
    | false =>
        obtain ⟨message, same, -⟩ := right.failed notAll rfl
        cases same
  · intro one
    obtain ⟨failures, collected, healthy, told⟩ := failures_ok words documented documentedTight
      legible legibleNames fullName one
    have result : assertContainersRunning python nodes expectedContainers fullName boolCheck =
        if failures = [] then .ok true
        else if boolCheck then .ok false else .error (.mismatch (mismatchMessage failures)) := by
      rw [assertContainersRunning, collected]
      cases failures with
      | nil => cases boolCheck <;> rfl
      | cons first others => cases boolCheck <;> rfl
    have some : ¬AllRunning nodes expectedContainers fullName → failures ≠ [] := by
      intro notAll empty
      obtain ⟨node, member, expected, inExpected, mismatch, found⟩ := exists_mismatch notAll
      obtain ⟨text, inFailures, -⟩ := told node member expected inExpected mismatch found
      rw [empty] at inFailures
      cases inFailures
    rw [result]
    refine ⟨fun all => if_pos (healthy all), fun notAll checked => ?_, fun notAll unchecked => ?_⟩
    · rw [if_neg (some notAll), checked]
      rfl
    · refine ⟨mismatchMessage failures, ?_, ?_⟩
      · rw [if_neg (some notAll), unchecked]
        rfl
      · intro node member expected inExpected mismatch found
        obtain ⟨text, inFailures, tells⟩ := told node member expected inExpected mismatch found
        exact tells.trans ((infix_intercalate inFailures).trans (List.suffix_append _ _).isInfix)

/-- A node on which two containers are not running any more. -/
def stoppedNode : ContainerNode :=
  ⟨"controller-0", [⟨"controller-0", "nova_api", "exited"⟩,
    ⟨"controller-0", "nova_scheduler", "exited"⟩]⟩

theorem legible_stoppedNode : ∀ container ∈ stoppedNode.containers,
    LegibleContainer comparingEitherPython container := by
  intro container member
  simp only [stoppedNode, List.mem_cons, List.not_mem_nil, or_false] at member
  rcases member with rfl | rfl
  · exact ⟨⟨by decide, by decide⟩, ⟨by decide, by decide⟩⟩
  · exact ⟨⟨by decide, by decide⟩, ⟨by decide, by decide⟩⟩

theorem assertContainersRunning_right_iff_stopped :
    RightVerdict [stoppedNode] ["nova_api"] true true
        (assertContainersRunning comparingEitherPython [stoppedNode] ["nova_api"] true true) ↔
      OneStopped [stoppedNode] ["nova_api"] true := by
  apply assertContainersRunning_right_iff comparingEitherPython_documentedWords
    comparingEitherPython_documented comparingEitherPython_documentedTight
  · intro node member
    rw [List.mem_singleton.mp member]
    exact legible_stoppedNode
  · intro expected member
    rw [List.mem_singleton.mp member]
    exact ⟨by decide, by decide⟩

/-- Two stopped containers match the expected name. -/
theorem assertContainersRunning_two_stopped :
    assertContainersRunning comparingEitherPython [stoppedNode] ["nova"] false true =
        .error (.table (.valueError "Can only call item() on single-element data")) ∧
      ¬RightVerdict [stoppedNode] ["nova"] false true
        (assertContainersRunning comparingEitherPython [stoppedNode] ["nova"] false true) := by
  have raised : assertContainersRunning comparingEitherPython [stoppedNode] ["nova"] false true =
      .error (.table (.valueError "Can only call item() on single-element data")) := by
    rfl
  refine ⟨raised, fun right => ?_⟩
  have notAll : ¬AllRunning [stoppedNode] ["nova"] false := by
    intro all
    have one := all stoppedNode (by simp) "nova" (by simp)
    revert one
    decide
  have checked := right.checked notAll rfl
  rw [raised] at checked
  cases checked

end Tobiko.Tripleo
