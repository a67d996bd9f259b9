import Tobiko.Tripleo.Processes

/-!
Contract: which tables the checks of `OvercloudProcessesStatus` accept.

Owns: the processes that run in a table, the instances of a process on the nodes of a group,
and what the two checks accept and refuse.

Does not own: the queries and the loops.
-/

namespace Tobiko.Tripleo

open Tobiko.Common Tobiko.Common.Time Tobiko.Foundation

/-! ### What is in a table -/

section Tables

variable {python : Python}

def isProcess (name : String) (row : Item Cell) : Bool := row.textOf "PROCESS" == name.toList

/-- A process of the name runs on one of the nodes. -/
def Runs (table : TableData Cell) (name : String) : Prop :=
  ∃ row ∈ table.data, isProcess name row = true

instance (table : TableData Cell) (name : String) : Decidable (Runs table name) :=
  inferInstanceAs (Decidable (∃ row ∈ table.data, isProcess name row = true))

/-- The number of instances of the process on the nodes that are selected by their names. -/
def instances (table : TableData Cell) (name : String) (selected : Text → Bool) : Nat :=
  table.data.countP fun row => isProcess name row && selected (row.textOf "overcloud_node")

/-- The rows of the process are the result of its query. -/
theorem queryProcess_eq (documented : python.DocumentedTight) (processes : ProcessTable python)
    {name : String} (queried : name ∈ queriedNames) :
    ∃ result, queryProcess python processes.table name = .ok result ∧
      result.data = processes.table.data.filter (isProcess name) := by
  by_cases nothing : processes.table.data = []
  · obtain ⟨result, found, empty⟩ := query_of_data_nil nothing python
      (render (tightComparison "PROCESS" name))
    refine ⟨result, ?_, ?_⟩
    · rw [queryProcess, found]
      rfl
    · rw [empty, nothing]
      rfl
  · obtain ⟨result, found, rows⟩ := query_tight documented processes.consistent processes.texts
      (processes.columns nothing).1 (by decide) (processes.legible name queried)
    refine ⟨result, ?_, rows⟩
    rw [queryProcess, found]
    rfl

theorem isEmpty_filter_iff {table : TableData Cell} {name : String} :
    (table.data.filter (isProcess name)).isEmpty = true ↔ ¬Runs table name := by
  rw [List.isEmpty_iff, List.filter_eq_nil_iff]
  simp [Runs]

/-- The query of a process tells whether it runs. -/
theorem queryProcess_isEmpty (documented : python.DocumentedTight)
    (processes : ProcessTable python) {name : String} (queried : name ∈ queriedNames) :
    ∃ result, queryProcess python processes.table name = .ok result ∧
      (result.data.isEmpty = true ↔ ¬Runs processes.table name) := by
  obtain ⟨result, found, rows⟩ := queryProcess_eq documented processes queried
  exact ⟨result, found, by rw [rows]; exact isEmpty_filter_iff⟩

end Tables

/-! ### The checks -/

/-- The names under which a process may run. -/
def acceptedNames (name : String) : List String :=
  if name = "neutron-server" then [name, "neutron-server:"]
  else if name = "mysqld" then [name, "mysqld_safe"]
  else [name]

/-- Every process to check runs, the redis server when it is expected. -/
def AllRun (isRedisExpected : Bool) (table : TableData Cell) : Prop :=
  ∀ name ∈ processesToCheck, (name = "redis-server" → isRedisExpected = true) →
    ∃ accepted ∈ acceptedNames name, Runs table accepted

instance (isRedisExpected : Bool) (table : TableData Cell) :
    Decidable (AllRun isRedisExpected table) :=
  inferInstanceAs (Decidable (∀ name ∈ processesToCheck,
    (name = "redis-server" → isRedisExpected = true) →
      ∃ accepted ∈ acceptedNames name, Runs table accepted))

/-- The tables that the check of the processes accepts. -/
def BasicAccepts (isRedisExpected : Bool) (table : TableData Cell) : Prop :=
  AllRun isRedisExpected table ∧ (isRedisExpected = false → ¬Runs table "redis-server")

/-- A check accepts a table, or finds that it is not as it should be. -/
structure Decides (result : Except ProcessesError Unit) (accepts : Prop) : Prop where
  accepted : accepts → result = .ok ()
  refused : ¬accepts → ∃ message, result = .error (.overcloudProcesses message)

section Checks

variable {python : Python}

theorem Decides.all {Process : Type} {check : Process → Except ProcessesError Unit}
    {accepts : Process → Prop} {processes : List Process}
    (decides : ∀ process ∈ processes, Decides (check process) (accepts process)) :
    Decides (checkAll check processes) (∀ process ∈ processes, accepts process) := by
  induction processes with
  | nil => exact ⟨fun _ => rfl, fun refused => absurd (by simp) refused⟩
  | cons process processes inductionHypothesis =>
      have first := decides process List.mem_cons_self
      have rest := inductionHypothesis fun other member =>
        decides other (List.mem_cons_of_mem _ member)
      rw [checkAll]
      constructor
      · intro all
        rw [first.accepted (all process List.mem_cons_self)]
        exact rest.accepted fun other member => all other (List.mem_cons_of_mem _ member)
      · intro notAll
        by_cases here : accepts process
        · rw [first.accepted here]
          apply rest.refused
          intro others
          apply notAll
          rw [List.forall_mem_cons]
          exact ⟨here, others⟩
        · obtain ⟨message, failed⟩ := first.refused here
          rw [failed]
          exact ⟨message, rfl⟩

theorem Decides.congr {result : Except ProcessesError Unit} {accepts other : Prop}
    (decides : Decides result accepts) (same : accepts ↔ other) : Decides result other :=
  ⟨fun holds => decides.accepted (same.mpr holds), fun fails => decides.refused (mt same.mp fails)⟩

variable (documented : python.DocumentedTight) (processes : ProcessTable python)
include documented

theorem checkRunning_decides {name : String} (queried : name ∈ queriedNames) :
    Decides (checkRunning python processes.table name) (Runs processes.table name) := by
  obtain ⟨found, query, empty⟩ := queryProcess_isEmpty documented processes queried
  unfold checkRunning
  rw [query]
  constructor
  · intro runs
    show (if found.data.isEmpty = true then _ else _) = _
    rw [if_neg fun nothing => empty.mp nothing runs]
    rfl
  · intro missing
    refine ⟨notRunningMessage name, ?_⟩
    show (if found.data.isEmpty = true then _ else _) = _
    rw [if_pos (empty.mpr missing)]
    rfl

theorem checkNotExpected_decides {name : String} (queried : name ∈ queriedNames) :
    Decides (checkNotExpected python processes.table name) (¬Runs processes.table name) := by
  obtain ⟨found, query, empty⟩ := queryProcess_isEmpty documented processes queried
  unfold checkNotExpected
  rw [query]
  constructor
  · intro missing
    show (if found.data.isEmpty = true then _ else _) = _
    rw [if_pos (empty.mpr missing)]
    rfl
  · intro runs
    refine ⟨redisMessage, ?_⟩
    show (if found.data.isEmpty = true then _ else _) = _
    rw [if_neg fun nothing => runs (empty.mp nothing)]
    rfl

/-- What a process is renamed to. -/
theorem renamed_spec (name other processName : String) (queried : name ∈ queriedNames) :
    ∃ result, renamed python processes.table name other processName = .ok result ∧
      (processName ≠ name → result = processName) ∧
      (processName = name → Runs processes.table name → result = name) ∧
      (processName = name → ¬Runs processes.table name → result = other) ∧
      (processName = name → result = name ∨ result = other) := by
  unfold renamed
  by_cases same : processName = name
  · subst same
    obtain ⟨found, query, empty⟩ := queryProcess_isEmpty documented processes queried
    rw [if_pos rfl, query]
    refine ⟨_, rfl, fun different => absurd rfl different, fun _ runs => ?_, fun _ missing => ?_,
      fun _ => ?_⟩
    · exact if_neg fun nothing => empty.mp nothing runs
    · exact if_pos (empty.mpr missing)
    · split
      · exact .inr rfl
      · exact .inl rfl
  · rw [if_neg same]
    exact ⟨processName, rfl, fun _ => rfl, fun equal => absurd equal same,
      fun equal => absurd equal same, fun equal => absurd equal same⟩

/-- What the check of one of the processes accepts. -/
def RunsAs (isRedisExpected : Bool) (table : TableData Cell) (name : String) : Prop :=
  if name = "redis-server" ∧ isRedisExpected = false then ¬Runs table name
  else ∃ accepted ∈ acceptedNames name, Runs table accepted

omit documented in
/-- A process that is renamed when it does not run runs under one of the two names. -/
theorem runs_renamed {table : TableData Cell} {name other result : String}
    (runs : Runs table name → result = name) (missing : ¬Runs table name → result = other) :
    Runs table result ↔ ∃ accepted ∈ [name, other], Runs table accepted := by
  simp only [List.mem_cons, List.not_mem_nil, or_false, exists_eq_or_imp, exists_eq_left]
  by_cases here : Runs table name
  · rw [runs here]
    simp [here]
  · rw [missing here]
    simp [here]

theorem basicRunning_decides (isRedisExpected : Bool) {name : String}
    (member : name ∈ processesToCheck) :
    Decides (basicOvercloudProcessRunning python processes.table isRedisExpected name)
      (RunsAs isRedisExpected processes.table name) := by
  obtain ⟨first, firstRenamed, firstOther, firstRuns, firstMissing, firstNames⟩ :=
    renamed_spec documented processes "neutron-server" "neutron-server:" name (by decide)
  obtain ⟨second, secondRenamed, secondOther, secondRuns, secondMissing,
      secondNames⟩ :=
    renamed_spec documented processes "mysqld" "mysqld_safe" first (by decide)
  have unfolded : basicOvercloudProcessRunning python processes.table isRedisExpected name =
      if (decide (second = "redis-server") && !isRedisExpected) = true then
        checkNotExpected python processes.table second
      else checkRunning python processes.table second := by
    rw [basicOvercloudProcessRunning, firstRenamed]
    show (renamed python processes.table "mysqld" "mysqld_safe" first >>= _) = _
    rw [secondRenamed]
    rfl
  rw [unfolded]
  unfold RunsAs acceptedNames
  by_cases isNeutron : name = "neutron-server"
  · have runsAs := runs_renamed (firstRuns isNeutron) (firstMissing isNeutron)
    have plain : first ≠ "mysqld" ∧ first ≠ "redis-server" ∧ first ∈ queriedNames := by
      rcases firstNames isNeutron with same | same
      · rw [same]
        decide
      · rw [same]
        decide
    obtain ⟨notMysqld, notRedis, queried⟩ := plain
    subst isNeutron
    rw [secondOther notMysqld, if_neg (by simp [notRedis]), if_neg (by simp), if_pos rfl]
    exact (checkRunning_decides documented processes queried).congr runsAs
  · have isFirst := firstOther isNeutron
    subst isFirst
    by_cases isMysqld : first = "mysqld"
    · have runsAs := runs_renamed (secondRuns isMysqld) (secondMissing isMysqld)
      have plain : second ≠ "redis-server" ∧ second ∈ queriedNames := by
        rcases secondNames isMysqld with same | same
        · rw [same]
          decide
        · rw [same]
          decide
      subst isMysqld
      rw [if_neg (by simp [plain.1]), if_neg (by simp), if_neg isNeutron, if_pos rfl]
      exact (checkRunning_decides documented processes plain.2).congr runsAs
    · have queried : first ∈ queriedNames := List.mem_append_left _ member
      rw [secondOther isMysqld, if_neg isNeutron, if_neg isMysqld]
      by_cases unexpected : first = "redis-server" ∧ isRedisExpected = false
      · rw [if_pos (by simp [unexpected]), if_pos unexpected]
        exact checkNotExpected_decides documented processes queried
      · rw [if_neg (by simpa using unexpected), if_neg unexpected]
        apply (checkRunning_decides documented processes queried).congr
        simp

theorem basicCheck_decides (isRedisExpected : Bool) :
    Decides (basicCheck python isRedisExpected processes.table)
      (BasicAccepts isRedisExpected processes.table) := by
  apply (Decides.all fun name member =>
    basicRunning_decides documented processes isRedisExpected member).congr
  constructor
  · intro all
    refine ⟨fun name member expected => ?_, fun unexpected => ?_⟩
    · have runs := all name member
      unfold RunsAs at runs
      rw [if_neg] at runs
      · exact runs
      · rintro ⟨isRedis, unexpected⟩
        rw [expected isRedis] at unexpected
        cases unexpected
    · have runs := all "redis-server" (by decide)
      unfold RunsAs at runs
      rw [if_pos ⟨rfl, unexpected⟩] at runs
      exact runs
  · rintro ⟨allRun, notRedis⟩ name member
    unfold RunsAs
    by_cases unexpected : name = "redis-server" ∧ isRedisExpected = false
    · rw [if_pos unexpected, unexpected.1]
      exact notRedis unexpected.2
    · rw [if_neg unexpected]
      apply allRun name member
      intro isRedis
      by_contra notExpected
      exact unexpected ⟨isRedis, by simpa using notExpected⟩

/-- What the check of an OVN process accepts: also a table without any instance, and instances
on nodes whose names only start as one of the group. -/
def OvnAccepts (topology : NodeGroups) (table : TableData Cell) (process : ProcessDict) : Prop :=
  ¬Runs table process.name ∨ process.nodeGroup ∉ topology.groups ∨
    process.number.resolve (topology.nodes process.nodeGroup) =
      .ok (instances table process.name (nodeNamesMatch (topology.nodes process.nodeGroup)))

omit documented in
theorem nodeOf_eq {row : Item Cell} (member : row ∈ processes.table.data) :
    nodeOf row = .ok (row.textOf "overcloud_node") := by
  have columns := processes.columns (List.ne_nil_of_mem member)
  obtain ⟨cell, present⟩ := column_of_consistent (processes.consistent row member) columns.2
  obtain ⟨text, rfl⟩ := processes.texts row member _ cell present
  rw [nodeOf, Item.textOf, present]
  rfl

omit documented in
theorem filterRows_eq (nodeList : List NodeName) {rows : List (Item Cell)}
    (within : ∀ row ∈ rows, row ∈ processes.table.data) :
    filterRows nodeList rows =
      .ok (rows.filter fun row => nodeNamesMatch nodeList (row.textOf "overcloud_node")) := by
  induction rows with
  | nil => rfl
  | cons row rows inductionHypothesis =>
      rw [filterRows, nodeOf_eq processes (within row List.mem_cons_self),
        inductionHypothesis fun other member => within other (List.mem_cons_of_mem _ member)]
      rw [List.filter_cons]
      rfl

theorem ovnValidation_decides (topology : NodeGroups) {process : ProcessDict}
    (queried : process.name ∈ queriedNames)
    (resolves : ∃ expected, process.number.resolve (topology.nodes process.nodeGroup) =
      .ok expected) :
    Decides (ovnOvercloudProcessValidations python processes.table topology process)
      (OvnAccepts topology processes.table process) := by
  obtain ⟨found, query, rows⟩ := queryProcess_eq documented processes queried
  obtain ⟨expected, expected_eq⟩ := resolves
  have empty : found.data.isEmpty = true ↔ ¬Runs processes.table process.name := by
    rw [rows]
    exact isEmpty_filter_iff
  unfold OvnAccepts
  rw [expected_eq]
  by_cases runs : Runs processes.table process.name
  · let nodeList := topology.nodes process.nodeGroup
    have within : ∀ row ∈ found.data, row ∈ processes.table.data := by
      rw [rows]
      exact fun row member => List.mem_of_mem_filter member
    have some : processes.table.schema ≠ [] := by
      obtain ⟨row, member, _⟩ := runs
      exact List.ne_nil_of_mem (processes.columns (List.ne_nil_of_mem member)).1
    obtain ⟨perNode, built, perNodeRows⟩ := ofRows_eq some
      fun row (member : row ∈ found.data.filter fun row =>
        nodeNamesMatch nodeList (row.textOf "overcloud_node")) =>
          processes.consistent row (within row (List.mem_of_mem_filter member))
    have counted : perNode.data.length =
        instances processes.table process.name (nodeNamesMatch nodeList) := by
      rw [perNodeRows, rows, List.filter_filter, instances, List.countP_eq_length_filter]
      congr 2
      funext row
      exact Bool.and_comm _ _
    have body : ovnOvercloudProcessValidations python processes.table topology process =
        if process.nodeGroup ∉ topology.groups then .ok ()
        else if expected ≠ perNode.data.length then
          .error (.overcloudProcesses (unexpectedNumberMessage process))
        else .ok () := by
      rw [ovnOvercloudProcessValidations, query]
      show (if found.data.isEmpty = true then _ else _) = _
      rw [if_neg fun nothing => empty.mp nothing runs]
      show (if process.nodeGroup ∉ topology.groups then _ else _) = _
      split
      · rfl
      · show (filterRows nodeList found.data >>= _) = _
        rw [filterRows_eq processes nodeList within]
        show ((TableData.ofRows _).mapError _ >>= _) = _
        rw [built]
        show (process.number.resolve nodeList >>= _) = _
        rw [expected_eq]
        rfl
    rw [body, counted]
    constructor
    · rintro (missing | unknown | same)
      · exact absurd runs missing
      · rw [if_pos unknown]
      · have equal := Except.ok.inj same
        split
        · rfl
        · exact if_neg fun differ => differ equal
    · intro refused
      obtain ⟨known, differ⟩ := not_or.mp (not_or.mp refused).2
      refine ⟨unexpectedNumberMessage process, ?_⟩
      rw [if_neg known, if_pos fun same => differ (congrArg _ same)]
  · constructor
    · intro _
      rw [ovnOvercloudProcessValidations, query]
      show (if found.data.isEmpty = true then _ else _) = _
      rw [if_pos (empty.mpr runs)]
      rfl
    · exact fun refused => absurd (.inl runs) refused

/-- The tables that the check of the OVN processes accepts. -/
def OvnAcceptsAll (topology : NodeGroups) (isOvnUsingRaft : Bool) (table : TableData Cell) :
    Prop :=
  ∀ process ∈ ovnProcessesToCheckPerNode isOvnUsingRaft, OvnAccepts topology table process

theorem ovnCheck_decides (topology : NodeGroups) (isOvnUsingRaft : Bool) :
    Decides (ovnCheck python topology isOvnUsingRaft processes.table)
      (OvnAcceptsAll topology isOvnUsingRaft processes.table) := by
  refine Decides.all fun process member => ?_
  apply ovnValidation_decides documented processes topology
  · have names : ∀ process ∈ ovnProcessesToCheckPerNode isOvnUsingRaft,
        process.name ∈ queriedNames := by
      cases isOvnUsingRaft with
      | false => decide
      | true => decide
    exact names process member
  · have numbers : ∀ process ∈ ovnProcessesToCheckPerNode isOvnUsingRaft,
        process.number = .all ∨ process.number = .number 1 := by
      cases isOvnUsingRaft with
      | false => decide
      | true => decide
    rcases numbers process member with number | number
    · exact ⟨_, by rw [number]; rfl⟩
    · exact ⟨_, by rw [number]; rfl⟩

end Checks

end Tobiko.Tripleo
