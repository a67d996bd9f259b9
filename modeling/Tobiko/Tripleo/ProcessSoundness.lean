import Tobiko.Tripleo.ProcessVerdict

/-!
Contract: the verdicts of `basic_overcloud_processes_running` and
`ovn_overcloud_processes_validations`, over any sequence of tables.

Owns: what the checks of the properties should hold of a table, how a call should end, how each
call ends, and the tables with which it ends as it should.

Does not own: which tables the checks accept.

Both properties return after the first attempt. When its check fails they read the next table
and return without checking it.
-/

namespace Tobiko.Tripleo

open Tobiko.Common Tobiko.Common.Time Tobiko.Foundation

/-! ### How a call should end -/

section Verdicts

variable {World : Type} {python : Python} (tables : Nat → ProcessTable python)
  (clock : Clock World)

/-- The call returned true about the table that it read last, or it raised in its last attempt. -/
structure SoundVerdict (holds : TableData Cell → Prop) (start : World)
    (result : Except ProcessesError Bool) (after : World × Nat) : Prop where
  returned : result = .ok true → holds (tables after.2).table
  raised : ∀ error, result = .error error →
    (∃ message, error = .overcloudProcesses message) ∧
      300 ≤ clock.now after.1 - clock.now start

/-- The call ends, and with a sound verdict. -/
structure Sound (holds : TableData Cell → Prop)
    (call : Nat → Effect ProcessesError (World × Nat) Bool) (state : World × Nat) : Prop where
  ends : ∃ turns, (call turns state).isSome
  verdict : ∀ turns result after, call turns state = some (result, after) →
    SoundVerdict tables clock holds state.1 result after

/-! ### How a call ends -/

/-- The limits are not reached in the first attempt. -/
theorem firstAttempt_free (startTime : ℚ) :
    ¬(statusRetry.firstFrame startTime).attempt.AtLimit := by
  have timeout : statusRetry.timeout = some 300 := by
    decide +kernel
  unfold RetryAttempt.AtLimit
  rintro (⟨count, limited, -⟩ | ⟨limit, limited, reached⟩)
  · cases limited
  · have same : statusRetry.timeout = some limit := limited
    have elapsed : (statusRetry.firstFrame startTime).attempt.elapsedTime = 0 := rfl
    rw [timeout] at same
    cases same
    rw [elapsed] at reached
    norm_num at reached

/-- The loop is its first turn. -/
theorem statusLoop_eq (check : TableData Cell → Except ProcessesError Unit) (turns : Nat)
    (world : World) (read : Nat) :
    statusLoop tables clock check (turns + 1) (world, read) =
      match check (tables read).table with
      | .ok () => some (.ok true, ((clock.time world).2, read))
      | .error (.overcloudProcesses _) => some (.ok true, ((clock.time world).2, read + 1))
      | .error error => some (.error error, ((clock.time world).2, read)) := by
  have first := firstAttempt_free (clock.time world).1
  have started : statusLoop tables clock check (turns + 1) (world, read) =
      statusRetry.loopFrom (clock.paired Nat) ⟨.retryLimit, .brokenRetryLoop⟩
        (statusTurn tables check) (turns + 1) ()
        (.yielded (statusRetry.firstFrame (clock.time world).1))
        ((clock.time world).2, read) := by
    show statusRetry.loopFrom _ _ _ _ _
      (statusRetry.start (clock.paired Nat) (world, read)).1
      (statusRetry.start (clock.paired Nat) (world, read)).2 = _
    rw [Retry.start_eq]
    rfl
  have body : statusTurn tables check (statusRetry.firstFrame (clock.time world).1).attempt ()
      ((clock.time world).2, read) =
      match check (tables read).table with
      | .ok () => some (.ok (.leave true), ((clock.time world).2, read))
      | .error (.overcloudProcesses _) =>
          some (.ok (.leave true), ((clock.time world).2, read + 1))
      | .error error => some (.error error, ((clock.time world).2, read)) := by
    cases checked : check (tables read).table with
    | ok done =>
        simp only [statusTurn, Effect.get, Effect.update, bind, Effect.bind, checked]
        rfl
    | error error =>
        simp only [statusTurn, Effect.get, Effect.update, bind, Effect.bind, checked]
        cases error with
        | overcloudProcesses message =>
            show (if RetryAttempt.isLast _ _ = true then _ else _ : Effect _ _ _) _ = _
            rw [if_neg (mt RetryAttempt.isLast_iff.mp first)]
            rfl
        | valueError message => rfl
        | table error => rfl
        | retryLimit error => rfl
        | brokenRetryLoop => rfl
  rw [started]
  show Effect.bind (statusTurn tables check _ ()) _ ((clock.time world).2, read) = _
  rw [Effect.bind, body]
  cases check (tables read).table with
  | ok done => rfl
  | error error => cases error <;> rfl

section Decided

variable {check : TableData Cell → Except ProcessesError Unit}
  {accepts holds : TableData Cell → Prop}
  (decides : ∀ read, Decides (check (tables read).table) (accepts (tables read).table))
include decides

/-- After the first check the loop returns true, and it has read another table if the check
failed. -/
theorem statusLoop_decided (world : World) (read turns : Nat) :
    (accepts (tables read).table → statusLoop tables clock check (turns + 1) (world, read) =
      some (.ok true, ((clock.time world).2, read))) ∧
    (¬accepts (tables read).table → statusLoop tables clock check (turns + 1) (world, read) =
      some (.ok true, ((clock.time world).2, read + 1))) := by
  constructor
  · intro accepted
    rw [statusLoop_eq, (decides read).accepted accepted]
  · intro refused
    obtain ⟨message, failed⟩ := (decides read).refused refused
    rw [statusLoop_eq, failed]

/-- A loop is sound when the check accepts its first table rightly, or when the next table is
as it should be. -/
theorem statusLoop_sound_iff (world : World) (read : Nat) :
    Sound tables clock holds (statusLoop tables clock check) (world, read) ↔
      (accepts (tables read).table ∧ holds (tables read).table) ∨
        (¬accepts (tables read).table ∧ holds (tables (read + 1)).table) := by
  have run := statusLoop_decided tables clock decides world read
  by_cases accepted : accepts (tables read).table
  · constructor
    · intro sound
      have verdict := sound.verdict 1 _ _ ((run 0).1 accepted)
      exact .inl ⟨accepted, verdict.returned rfl⟩
    · intro right
      have here : holds (tables read).table := by
        rcases right with ⟨-, holdsHere⟩ | ⟨refused, -⟩
        · exact holdsHere
        · exact absurd accepted refused
      refine ⟨⟨1, by rw [(run 0).1 accepted]; rfl⟩, fun turns result after ended => ?_⟩
      cases turns with
      | zero => cases ended
      | succ turns =>
          rw [(run turns).1 accepted] at ended
          cases ended
          exact ⟨fun _ => here, fun error failed => (by cases failed)⟩
  · constructor
    · intro sound
      have verdict := sound.verdict 1 _ _ ((run 0).2 accepted)
      exact .inr ⟨accepted, verdict.returned rfl⟩
    · intro right
      have next : holds (tables (read + 1)).table := by
        rcases right with ⟨accepts, -⟩ | ⟨-, holdsNext⟩
        · exact absurd accepts accepted
        · exact holdsNext
      refine ⟨⟨1, by rw [(run 0).2 accepted]; rfl⟩, fun turns result after ended => ?_⟩
      cases turns with
      | zero => cases ended
      | succ turns =>
          rw [(run turns).2 accepted] at ended
          cases ended
          exact ⟨fun _ => next, fun error failed => (by cases failed)⟩

end Decided

end Verdicts

/-! ### The two properties -/

section Properties

variable {World : Type} {python : Python}

/-- The number of instances on exactly the nodes of each group is the expected one. -/
def OvnHolds (topology : NodeGroups) (isOvnUsingRaft : Bool) (table : TableData Cell) : Prop :=
  ∀ process ∈ ovnProcessesToCheckPerNode isOvnUsingRaft, process.nodeGroup ∈ topology.groups →
    process.number.resolve (topology.nodes process.nodeGroup) =
      .ok (instances table process.name fun text =>
        (topology.nodes process.nodeGroup).any fun node => decide (node.text = text))

/-- **The checks of the processes of the overcloud.** For every sequence of tables the check of
the basic processes ends with a sound verdict if and only if the first table is accepted or all
the processes run in the next one. That of the OVN processes does if and only if there is no
OVN, the first table is accepted and as it should be, or it is refused and the next one is. -/
theorem overcloudProcesses_sound_iff (documented : python.DocumentedTight)
    (tables : Nat → ProcessTable python) (clock : Clock World) (topology : NodeGroups)
    (isRedisExpected hasOvn isOvnUsingRaft : Bool) (world : World) (read : Nat) :
    (Sound tables clock (AllRun isRedisExpected)
        (basicOvercloudProcessesRunning tables clock isRedisExpected) (world, read) ↔
      BasicAccepts isRedisExpected (tables read).table ∨
        AllRun isRedisExpected (tables (read + 1)).table) ∧
    (Sound tables clock (fun table => hasOvn = true → OvnHolds topology isOvnUsingRaft table)
        (ovnOvercloudProcessesValidations tables clock topology hasOvn isOvnUsingRaft)
        (world, read) ↔
      hasOvn = false ∨
        (OvnAcceptsAll topology isOvnUsingRaft (tables read).table ∧
          OvnHolds topology isOvnUsingRaft (tables read).table) ∨
        (¬OvnAcceptsAll topology isOvnUsingRaft (tables read).table ∧
          OvnHolds topology isOvnUsingRaft (tables (read + 1)).table)) := by
  constructor
  · have sound : Sound tables clock (AllRun isRedisExpected)
        (basicOvercloudProcessesRunning tables clock isRedisExpected) (world, read) ↔ _ :=
      statusLoop_sound_iff tables clock
        (fun read => basicCheck_decides documented (tables read) isRedisExpected) world read
    rw [sound]
    constructor
    · rintro (⟨accepted, -⟩ | ⟨-, next⟩)
      · exact .inl accepted
      · exact .inr next
    · intro right
      by_cases accepted : BasicAccepts isRedisExpected (tables read).table
      · exact .inl ⟨accepted, accepted.1⟩
      · exact .inr ⟨accepted, right.resolve_left accepted⟩
  · cases hasOvn with
    | false =>
        refine ⟨fun _ => .inl rfl, fun _ => ⟨⟨0, rfl⟩, fun turns result after ended => ?_⟩⟩
        cases ended
        exact ⟨fun _ ovn => (by cases ovn), fun error failed => (by cases failed)⟩
    | true =>
        have sound : Sound tables clock
            (fun table => true = true → OvnHolds topology isOvnUsingRaft table)
            (ovnOvercloudProcessesValidations tables clock topology true isOvnUsingRaft)
            (world, read) ↔ _ :=
          statusLoop_sound_iff tables clock
            (fun read => ovnCheck_decides documented (tables read) topology isOvnUsingRaft)
            world read
        rw [sound]
        simp

/-- Nothing runs. -/
def noProcesses (python : Python) : ProcessTable python where
  table := ⟨[], []⟩
  consistent := by rintro row ⟨⟩
  texts := by rintro row ⟨⟩
  columns some := absurd rfl some
  legible name member := by
    refine ⟨by rintro row ⟨⟩, by rintro row ⟨⟩, ?_⟩
    rintro literal inLiterals
    rw [List.mem_singleton.mp inLiterals]
    have plain : ∀ name ∈ queriedNames, Plain name.toList := by decide
    exact plain name member

/-- A cloud with one controller. -/
def oneController : NodeGroups where
  groups := ["controller"]
  nodes _ := [⟨"controller-0".toList, by decide, by decide⟩]

/-- The rows of processes that run on nodes. -/
def processRows (running : List (String × String)) : TableData Cell where
  schema := ["PROCESS", "overcloud_node"]
  data := running.map fun entry =>
    .dict (.ofPairs [("PROCESS", .str entry.1), ("overcloud_node", .str entry.2)])

/-- A controller and a compute node. -/
def twoNodes : NodeGroups where
  groups := ["controller", "compute"]
  nodes group :=
    if group = "controller" then [⟨"controller-0".toList, by decide, by decide⟩]
    else [⟨"compute-0".toList, by decide, by decide⟩]

/-- The compute node has no OVN controller yet, and only some of the processes run. -/
def startingRows : TableData Cell :=
  processRows [("ovn-controller", "controller-0"), ("ovn-northd", "controller-0"),
    ("pcsd", "controller-0"), ("nova-compute", "compute-0")]

def runningRows : TableData Cell :=
  processRows [("ovsdb-server", "controller-0"), ("pcsd", "controller-0"),
    ("corosync", "controller-0"), ("beam.smp", "controller-0"), ("mysqld_safe", "controller-0"),
    ("redis-server", "controller-0"), ("haproxy", "controller-0"),
    ("nova-conductor", "controller-0"), ("nova-scheduler", "controller-0"),
    ("neutron-server:", "controller-0"), ("nova-compute", "compute-0"),
    ("glance-api", "controller-0"), ("ovn-controller", "controller-0"),
    ("ovn-controller", "compute-0"), ("ovn-northd", "controller-0")]

theorem queriedNames_plain : ∀ name ∈ queriedNames, ∀ literal ∈ [name], Plain literal.toList := by
  decide

def startingProcesses : ProcessTable comparingEitherPython where
  table := startingRows
  consistent := by decide +kernel
  texts := TableData.allTexts_of_rows (by decide +kernel)
  columns _ := by decide
  legible name member := by
    constructor
    · revert name
      decide +kernel
    · revert name
      decide +kernel
    · exact queriedNames_plain name member

def runningProcesses : ProcessTable comparingEitherPython where
  table := runningRows
  consistent := by decide +kernel
  texts := TableData.allTexts_of_rows (by decide +kernel)
  columns _ := by decide
  legible name member := by
    constructor
    · revert name
      decide +kernel
    · revert name
      decide +kernel
    · exact queriedNames_plain name member

def startingTables (read : Nat) : ProcessTable comparingEitherPython :=
  if read = 0 then startingProcesses else runningProcesses

/-- The table that is read next is right for both properties. -/
theorem overcloudProcesses_sound_iff_starting :
    Sound startingTables Clock.ideal (AllRun true)
        (basicOvercloudProcessesRunning startingTables Clock.ideal true) (0, 0) ∧
      Sound startingTables Clock.ideal (fun table => true = true → OvnHolds twoNodes true table)
        (ovnOvercloudProcessesValidations startingTables Clock.ideal twoNodes true true) (0, 0) := by
  have iffs := overcloudProcesses_sound_iff comparingEitherPython_documentedTight startingTables
    Clock.ideal twoNodes true true true 0 0
  have allRun : AllRun true (startingTables (0 + 1)).table := by
    show AllRun true runningRows
    decide +kernel
  have refused : ¬OvnAcceptsAll twoNodes true (startingTables 0).table := by
    intro accepted
    have onCompute := accepted ⟨"ovn-controller", "compute", .all⟩ (by decide)
    have runs : Runs startingRows "ovn-controller" := by decide +kernel
    have known : "compute" ∈ twoNodes.groups := by decide
    have counted := (onCompute.resolve_left (not_not_intro runs)).resolve_left
      (not_not_intro known)
    have none_there : instances startingRows "ovn-controller"
        (nodeNamesMatch (twoNodes.nodes "compute")) = 0 := by decide +kernel
    have wrong : (Except.ok 1 : Except ProcessesError Int) = .ok 0 := by
      rw [← Nat.cast_zero, ← none_there]
      exact counted
    cases wrong
  have holds : OvnHolds twoNodes true (startingTables (0 + 1)).table := by
    have counts : ∀ process ∈ ovnProcessesToCheckPerNode true,
        (instances runningRows process.name fun text =>
          (twoNodes.nodes process.nodeGroup).any fun node => decide (node.text = text)) =
            (twoNodes.nodes process.nodeGroup).length ∧ process.number = .all := by decide +kernel
    intro process member _
    obtain ⟨same, all⟩ := counts process member
    show _ = Except.ok ((instances runningRows process.name _ : Nat) : Int)
    rw [same, all]
    rfl
  exact ⟨iffs.1.mpr (.inr allRun), iffs.2.mpr (.inr (.inr ⟨refused, holds⟩))⟩

/-- Both return true where nothing runs, the first one after it has read another table that it
does not check. -/
theorem overcloudProcesses_nothing_runs :
    (basicOvercloudProcessesRunning (fun _ => noProcesses comparingEitherPython) Clock.ideal
        true 1 (0, 0) = some (.ok true, (0, 1)) ∧
      ¬AllRun true (noProcesses comparingEitherPython).table) ∧
    (ovnOvercloudProcessesValidations (fun _ => noProcesses comparingEitherPython) Clock.ideal
        oneController true true 1 (0, 0) = some (.ok true, (0, 0)) ∧
      ¬OvnHolds oneController true (noProcesses comparingEitherPython).table) := by
  refine ⟨⟨?_, ?_⟩, ?_, ?_⟩
  · have decides := statusLoop_decided (fun _ => noProcesses comparingEitherPython) Clock.ideal
      (fun read => basicCheck_decides comparingEitherPython_documentedTight
        (noProcesses comparingEitherPython) true) 0 0 0
    apply decides.2
    rintro ⟨running, -⟩
    obtain ⟨accepted, -, row, inNothing, -⟩ := running "pcsd" (by decide) (fun same => rfl)
    cases inNothing
  · intro running
    obtain ⟨accepted, -, row, inNothing, -⟩ := running "pcsd" (by decide) (fun same => rfl)
    cases inNothing
  · have decides := statusLoop_decided (fun _ => noProcesses comparingEitherPython) Clock.ideal
      (fun read => ovnCheck_decides comparingEitherPython_documentedTight
        (noProcesses comparingEitherPython) oneController true) 0 0 0
    apply decides.1
    intro process member
    left
    rintro ⟨row, inNothing, -⟩
    cases inNothing
  · intro holds
    have counted := holds ⟨"ovn-northd", "controller", .all⟩ (by decide) (by decide)
    have wrong : (Except.ok 1 : Except ProcessesError Int) = .ok 0 := counted
    cases wrong

end Properties

end Tobiko.Tripleo
