import Tobiko.Common.Shelves.Registration

/-!
Contract: the removal of the shelves of an earlier run by `initialize_shelves`.

Owns: the stages of the body of `initialize_shelves` with what each action makes
of the directory, the invariant that ties the recorded run id to these stages in
every interleaving, and what becomes of a shelf file of an earlier run.

The run id is recorded before the first file is removed, and `dbm.error` holds
`OSError`, so an `os.unlink` that raises makes the retry loop read the recorded
id and return, or leaves the id recorded when the attempts are used up.
-/

namespace Tobiko.Common.Shelves

open Relation
open Tobiko.Foundation
open Tobiko.Foundation.System (Reachable StepBy)

/-- The `test_run` shelf records the run id. -/
def Records (uid : String) (directory : Store String Shelf) : Prop :=
  (directory testRunShelf).bind (·.testRunUid) = some uid

instance (uid : String) (directory : Store String Shelf) : Decidable (Records uid directory) := by
  unfold Records
  infer_instance

/-- The `test_run` shelf has a file. -/
def HasTestRun (directory : Store String Shelf) : Prop := (directory testRunShelf).isSome = true

theorem isTestRunShelf_testRunShelf : isTestRunShelf testRunShelf = true := by decide

theorem ne_testRunShelf {filename : String} (shared : isTestRunShelf filename = false) :
    filename ≠ testRunShelf := by
  rintro rfl
  rw [isTestRunShelf_testRunShelf] at shared
  contradiction

/-! ### The stages of the body -/

/-- Where the body of `initialize_shelves` is. `removing` holds the files that
are still to be removed. -/
inductive Stage where
  | opening
  | reading
  | recording
  | listing
  | removing (filenames : List String)
  | returned
  | raised

/-- What the handler of an attempt does, when so many attempts are left. -/
def retryHandler (attempt : (Fault → Body) → Body) : Nat → Fault → Body
  | 0, fault => .ret (.raised (.fault fault))
  | attempts + 1, fault =>
      if fault.isDbmError then retryOnDbmError attempt attempts else .ret (.raised (.fault fault))

theorem retryOnDbmError_eq (attempt : (Fault → Body) → Body) (attempts : Nat) :
    retryOnDbmError attempt attempts = attempt (retryHandler attempt attempts) := by
  cases attempts <;> rfl

section Stages

variable (uid : String) (attempts : Nat)

def initializeHandler : Fault → Body := retryHandler (initializeAttempt (some uid)) attempts

def recordUid : Body :=
  .access testRunShelf (Option.map fun db => { db with testRunUid := some uid })
    (fun _ => unlinkShelves (initializeHandler uid attempts)) (initializeHandler uid attempts)

def readUid : Body :=
  .access testRunShelf id
    (fun content =>
      if content.bind (·.testRunUid) = some uid then .ret (.returned none)
      else recordUid uid attempts)
    (initializeHandler uid attempts)

theorem initializeShelves_eq : initializeShelves (some uid) attempts =
    openShelf testRunShelf (initializeHandler uid attempts) (readUid uid attempts) :=
  retryOnDbmError_eq _ _

end Stages

/-- The program is at the given stage of the body. -/
inductive AtStage (uid : String) : Stage → Body → Prop
  | opening (attempts) : AtStage uid .opening (initializeShelves (some uid) attempts)
  | reading (attempts) : AtStage uid .reading (readUid uid attempts)
  | recording (attempts) : AtStage uid .recording (recordUid uid attempts)
  | listing (attempts) : AtStage uid .listing (unlinkShelves (initializeHandler uid attempts))
  | removing (attempts filenames)
      (shared : ∀ filename ∈ filenames, isTestRunShelf filename = false) :
      AtStage uid (.removing filenames) (unlinkEach (initializeHandler uid attempts) filenames)
  | returned : AtStage uid .returned (.ret (.returned none))
  | raised (error) : AtStage uid .raised (.ret (.raised error))

/-- An attempt that failed is followed by another one or by the error. -/
inductive Stage.Retried : Stage → Prop
  | again : Retried .opening
  | given_up : Retried .raised

/-- What one action of the body does to the directory, by the stage it is in. -/
inductive Moves (uid : String) (directory : Store String Shelf) :
    Stage → Event String String Fault → Stage → Store String Shelf → Prop
  | opened : Moves uid directory .opening (.accessed testRunShelf) .reading
      (Function.update directory testRunShelf
        (some ((directory testRunShelf).getD Shelf.empty)))
  | recorded (records : Records uid directory) :
      Moves uid directory .reading (.accessed testRunShelf) .returned directory
  | unrecorded (missing : ¬ Records uid directory) :
      Moves uid directory .reading (.accessed testRunShelf) .recording directory
  | record : Moves uid directory .recording (.accessed testRunShelf) .listing
      (Function.update directory testRunShelf
        ((directory testRunShelf).map fun db => { db with testRunUid := some uid }))
  | listed (filenames)
      (lists : Lists (fun filename => !isTestRunShelf filename) directory filenames) :
      Moves uid directory .listing (.listed filenames) (.removing filenames) directory
  | unlinked (filename rest) (shared : isTestRunShelf filename = false)
      (present : (directory filename).isSome = true) :
      Moves uid directory (.removing (filename :: rest)) (.accessed filename) (.removing rest)
        (Function.update directory filename none)
  | unlinkMissing (filename rest stage) (shared : isTestRunShelf filename = false)
      (absent : directory filename = none) (retried : stage.Retried) :
      Moves uid directory (.removing (filename :: rest)) (.accessed filename) stage directory
  | unlinkRaised (filename rest fault stage) (shared : isTestRunShelf filename = false)
      (retried : stage.Retried) :
      Moves uid directory (.removing (filename :: rest)) (.raised filename fault) stage directory
  | failed (before fault stage)
      (checking : before = .opening ∨ before = .reading ∨ before = .recording)
      (retried : stage.Retried) :
      Moves uid directory before (.raised testRunShelf fault) stage directory

theorem atStage_handler (uid : String) (attempts : Nat) (fault : Fault) :
    ∃ stage, stage.Retried ∧ AtStage uid stage (initializeHandler uid attempts fault) := by
  cases attempts with
  | zero => exact ⟨.raised, .given_up, .raised _⟩
  | succ attempts =>
      show ∃ stage : Stage, stage.Retried ∧ AtStage uid stage
        (if fault.isDbmError then initializeShelves (some uid) attempts
          else .ret (.raised (.fault fault)))
      split
      · exact ⟨.opening, .again, .opening attempts⟩
      · exact ⟨.raised, .given_up, .raised _⟩

theorem AtStage.step {uid : String} {stage : Stage} {program next : Body}
    {directory after : Store String Shelf} {event : Event String String Fault}
    (reached : AtStage uid stage program) (step : Prog.Step program directory event next after) :
    ∃ later, AtStage uid later next ∧ Moves uid directory stage event later after := by
  cases reached with
  | opening attempts =>
      rw [initializeShelves_eq] at step
      cases step with
      | access => exact ⟨.reading, .reading attempts, .opened⟩
      | raise _ _ _ _ _ fault =>
          obtain ⟨later, retried, reached⟩ := atStage_handler uid attempts fault
          exact ⟨later, reached, .failed _ fault later (.inl rfl) retried⟩
  | reading attempts =>
      cases step with
      | access =>
          simp only [id, Function.update_eq_self]
          split
          · rename_i records
            exact ⟨.returned, .returned, .recorded records⟩
          · rename_i missing
            exact ⟨.recording, .recording attempts, .unrecorded missing⟩
      | raise _ _ _ _ _ fault =>
          obtain ⟨later, retried, reached⟩ := atStage_handler uid attempts fault
          exact ⟨later, reached, .failed _ fault later (.inr (.inl rfl)) retried⟩
  | recording attempts =>
      cases step with
      | access => exact ⟨.listing, .listing attempts, .record⟩
      | raise _ _ _ _ _ fault =>
          obtain ⟨later, retried, reached⟩ := atStage_handler uid attempts fault
          exact ⟨later, reached, .failed _ fault later (.inr (.inr rfl)) retried⟩
  | listing attempts =>
      cases step with
      | list _ _ _ filenames lists =>
          refine ⟨.removing filenames, .removing attempts filenames fun filename member => ?_,
            .listed filenames lists⟩
          simpa using ((lists.complete filename).mp member).1
  | removing attempts filenames shared =>
      cases filenames with
      | nil => cases step
      | cons filename rest =>
          have here := shared filename List.mem_cons_self
          cases step with
          | access =>
              cases content : directory filename with
              | none =>
                  obtain ⟨later, retried, reached⟩ :=
                    atStage_handler uid attempts .fileNotFound
                  have same : Function.update directory filename none = directory := by
                    rw [← content, Function.update_eq_self]
                  rw [same]
                  exact ⟨later, reached, .unlinkMissing filename rest later here content retried⟩
              | some db =>
                  exact ⟨.removing rest, .removing attempts rest fun other member =>
                    shared other (List.mem_cons_of_mem _ member),
                    .unlinked filename rest here (by simp [content])⟩
          | raise _ _ _ _ _ fault =>
              obtain ⟨later, retried, reached⟩ := atStage_handler uid attempts fault
              exact ⟨later, reached, .unlinkRaised filename rest fault later here retried⟩
  | returned => cases step
  | raised => cases step

/-! ### The recorded run id in an interleaving -/

/-- The call keeps the recorded run id, and a `test_run` shelf stays there. -/
def keepsRun : Prog.Policy String Shelf :=
  Prog.updates fun filename update => filename = testRunShelf →
    ∀ content : Option Shelf, (update content).bind (·.testRunUid) = content.bind (·.testRunUid) ∧
      (content.isSome = true → (update content).isSome = true)

theorem keepsRun_db (filename : String) : AllowsDb keepsRun filename := by
  intro update db _ content
  cases db with
  | read => exact ⟨rfl, id⟩
  | opened => cases content <;> exact ⟨rfl, fun _ => rfl⟩
  | setItem resource tests => cases content <;> exact ⟨rfl, id⟩

def Call.initializes : Call → Bool
  | .initializeShelves _ _ => true
  | _ => false

theorem Call.body_keepsRun {call : Call} (other : call.initializes = false) :
    call.body.Obeys keepsRun := by
  cases call with
  | addmeToSharedResource => exact addmeToSharedResource_obeys (keepsRun_db _) _
  | removemeFromSharedResource => exact removemeFromSharedResource_obeys (keepsRun_db _) _
  | removeTestFromShelfResources =>
      exact removeTestFromShelfResources_obeys _ fun filename _ => keepsRun_db filename
  | removeTestFromAllSharedResources =>
      exact removeTestFromAllSharedResources_obeys trivial trivial
        fun _ _ filename _ => keepsRun_db filename
  | initializeShelves => simp [initializes] at other

/-- The directory keeps what `initialize_shelves` reads of the `test_run` shelf. -/
structure SameRun (before after : Store String Shelf) : Prop where
  uid : (after testRunShelf).bind (·.testRunUid) = (before testRunShelf).bind (·.testRunUid)
  stays : HasTestRun before → HasTestRun after

theorem SameRun.refl (directory : Store String Shelf) : SameRun directory directory :=
  ⟨rfl, id⟩

theorem SameRun.records {uid : String} {before after : Store String Shelf}
    (same : SameRun before after) : Records uid after ↔ Records uid before := by
  unfold Records
  rw [same.uid]

theorem sameRun_of_step {program next : Body} {before after : Store String Shelf}
    {event : Event String String Fault} (obeys : program.Obeys keepsRun)
    (step : Prog.Step program before event next after) : SameRun before after := by
  let content := before testRunShelf
  have kept : testRunShelf = testRunShelf →
      (after testRunShelf).bind (·.testRunUid) = content.bind (·.testRunUid) ∧
        (content.isSome = true → (after testRunShelf).isSome = true) := by
    refine Prog.Step.keeps (fun filename now => filename = testRunShelf →
      now.bind (·.testRunUid) = content.bind (·.testRunUid) ∧
        (content.isSome = true → now.isSome = true)) step obeys ?_ fun _ => ⟨rfl, id⟩
    intro filename update now allowed holds here
    obtain ⟨uid, stays⟩ := holds here
    obtain ⟨updatedUid, updatedStays⟩ := allowed here now
    exact ⟨updatedUid.trans uid, fun present => updatedStays (stays present)⟩
  exact ⟨(kept rfl).1, (kept rfl).2⟩

section Interleaving

variable {Worker : Type} {uid : String}

/-- A call of `initialize_shelves` of this run has returned. -/
def Initialized (uid : String) (state : State Worker) : Prop :=
  ∃ attempts tests,
    (Call.initializeShelves (some uid) attempts, Outcome.returned tests) ∈ state.done

/-- What is known of the directory while a body is at the stage. `initialized`
tells that a call has already returned. -/
def Stage.Holds (uid : String) (initialized : Prop) (directory : Store String Shelf) :
    Stage → Prop
  | .reading => HasTestRun directory
  | .recording => HasTestRun directory ∧ ¬ Records uid directory
  | .listing | .removing _ => Records uid directory ∧ ¬ initialized
  | .returned => Records uid directory
  | .opening | .raised => True

variable {initialized : Prop} {stage later : Stage} {directory after : Store String Shelf}

theorem Stage.Holds.sameRun {now : Prop} (holds : stage.Holds uid initialized directory)
    (same : SameRun directory after) (done : now → initialized) : stage.Holds uid now after := by
  cases stage with
  | opening => trivial
  | reading => exact same.stays holds
  | recording => exact ⟨same.stays holds.1, fun records => holds.2 (same.records.mp records)⟩
  | listing => exact ⟨same.records.mpr holds.1, fun returned => holds.2 (done returned)⟩
  | removing filenames =>
      exact ⟨same.records.mpr holds.1, fun returned => holds.2 (done returned)⟩
  | returned => exact same.records.mpr holds
  | raised => trivial

theorem Stage.Retried.holds (retried : stage.Retried) :
    stage.Holds uid initialized directory := by
  cases retried <;> trivial

theorem sameRun_unlink {filename : String}
    (shared : isTestRunShelf filename = false) :
    SameRun directory (Function.update directory filename none) := by
  have elsewhere := (ne_testRunShelf shared).symm
  constructor
  · simp [elsewhere]
  · intro present
    simpa [HasTestRun, elsewhere] using present

theorem sameRun_opened (directory : Store String Shelf) :
    SameRun directory (Function.update directory testRunShelf
      (some ((directory testRunShelf).getD Shelf.empty))) := by
  constructor
  · cases content : directory testRunShelf with
    | none => simp [Shelf.empty]
    | some db => simp
  · intro _
    simp [HasTestRun]

theorem records_record (uid : String) (present : HasTestRun directory) :
    Records uid (Function.update directory testRunShelf
      ((directory testRunShelf).map fun db => { db with testRunUid := some uid })) := by
  obtain ⟨db, content⟩ := Option.isSome_iff_exists.mp present
  simp [Records, content]

/-- An action of the body keeps what is known at its stage, and a run id that
is recorded stays recorded. -/
theorem Moves.holds {event : Event String String Fault}
    (moves : Moves uid directory stage event later after)
    (holds : stage.Holds uid initialized directory)
    (returned : initialized → Records uid directory) :
    later.Holds uid initialized after ∧ (Records uid directory → Records uid after) := by
  cases moves with
  | opened => exact ⟨by simp [Stage.Holds, HasTestRun], (sameRun_opened directory).records.mpr⟩
  | recorded records => exact ⟨records, id⟩
  | unrecorded missing => exact ⟨⟨holds, missing⟩, id⟩
  | record =>
      have recorded := records_record uid holds.1
      exact ⟨⟨recorded, fun done => holds.2 (returned done)⟩, fun _ => recorded⟩
  | listed filenames lists => exact ⟨holds, id⟩
  | unlinked filename rest shared present =>
      have records := (sameRun_unlink shared).records.mpr holds.1
      exact ⟨⟨records, holds.2⟩, fun _ => records⟩
  | unlinkMissing filename rest later shared absent retried => exact ⟨retried.holds, id⟩
  | unlinkRaised filename rest fault later shared retried => exact ⟨retried.holds, id⟩
  | failed before fault later checking retried => exact ⟨retried.holds, id⟩

/-- What the bodies that are open know, and what a returned call tells. -/
structure Guarded (uid : String) (state : State Worker) : Prop where
  stage : ∀ worker attempts program,
    state.running worker = some (.initializeShelves (some uid) attempts, program) →
    ∃ stage, AtStage uid stage program ∧ stage.Holds uid (Initialized uid state) state.store
  returned : Initialized uid state → Records uid state.store

theorem AtStage.of_ret {outcome : Outcome} (reached : AtStage uid stage (.ret outcome)) :
    stage = .returned ∨ stage = .removing [] ∨
      (stage = .raised ∧ ∃ error, outcome = .raised error) := by
  generalize program : Prog.ret outcome = body at reached
  cases reached with
  | opening attempts =>
      rw [initializeShelves_eq] at program
      cases program
  | reading => cases program
  | recording => cases program
  | listing => cases program
  | removing attempts filenames shared =>
      cases filenames with
      | nil => exact .inr (.inl rfl)
      | cons filename rest => cases program
  | returned => exact .inl rfl
  | raised error =>
      cases program
      exact .inr (.inr ⟨rfl, error, rfl⟩)

variable [DecidableEq Worker] {issues : Worker → Call → Prop} {start : Store String Shelf}
  {state next : State Worker} {worker other : Worker}

/-- The lock lets one worker at a time into `initialize_shelves`. -/
theorem initializing_alone (reachable : Reachable system issues start state)
    {attempts otherAttempts}
    {program otherProgram : Body} {testRunUid otherUid : Option String}
    (running : state.running worker = some (.initializeShelves testRunUid attempts, program))
    (otherRunning : state.running other =
      some (.initializeShelves otherUid otherAttempts, otherProgram)) :
    worker = other ∧ state.owner "shelves" = some worker := by
  obtain ⟨-, held⟩ := System.lockFree_holds reachable (Call.body_lockFree rfl) running
  obtain ⟨-, otherHeld⟩ := System.lockFree_holds reachable (Call.body_lockFree rfl) otherRunning
  have same := held.symm.trans otherHeld
  exact ⟨Option.some.inj same, held⟩

theorem keepsRun_running (reachable : Reachable system issues start state) {call : Call}
    {program : Body} (running : state.running worker = some (call, program))
    (otherCall : call.initializes = false) : program.Obeys keepsRun := by
  refine System.running_invariant
    (fun call program => call.initializes = false → program.Obeys keepsRun)
    (fun call => Call.body_keepsRun) ?_ reachable running otherCall
  exact fun _ _ _ _ _ _ holds step other => step.obeys (holds other)

/-- The workers that initialize the shelves belong to one run. -/
def SameUid (uid : String) (issues : Worker → Call → Prop) : Prop :=
  ∀ worker testRunUid attempts, issues worker (.initializeShelves testRunUid attempts) →
    testRunUid = some uid

theorem Guarded.enter {call : Call} (guarded : Guarded uid state)
    (step : StepBy system issues worker (.enter call) state next) : Guarded uid next := by
  cases step with
  | enter _ _ idle issued granted =>
      refine ⟨fun other attempts program running => ?_, guarded.returned⟩
      by_cases same : other = worker
      · subst same
        simp only [Function.update_self, Option.some.injEq, Prod.mk.injEq] at running
        obtain ⟨rfl, rfl⟩ := running
        exact ⟨.opening, .opening attempts, trivial⟩
      · exact guarded.stage other attempts program (by simpa [same] using running)

theorem Guarded.inside {event : Event String String Fault} (guarded : Guarded uid state)
    (reachable : Reachable system issues start state) (sameUid : SameUid uid issues)
    (step : StepBy system issues worker (.inside event) state next) : Guarded uid next := by
  cases step with
  | inside _ call program _ following changed open_ action allowed =>
      cases initializes : call.initializes with
      | false =>
          have kept := sameRun_of_step (keepsRun_running reachable open_ initializes) action
          refine ⟨fun other attempts otherProgram running => ?_, fun returned =>
            kept.records.mpr (guarded.returned returned)⟩
          by_cases same : other = worker
          · subst same
            simp only [Function.update_self, Option.some.injEq, Prod.mk.injEq] at running
            obtain ⟨rfl, rfl⟩ := running
            contradiction
          · obtain ⟨stage, reached, holds⟩ :=
              guarded.stage other attempts otherProgram (by simpa [same] using running)
            exact ⟨stage, reached, holds.sameRun kept id⟩
      | true =>
          cases call with
          | initializeShelves testRunUid attempts =>
              obtain rfl := sameUid worker testRunUid attempts
                (System.running_issued reachable open_)
              obtain ⟨stage, reached, holds⟩ := guarded.stage worker attempts program open_
              obtain ⟨later, laterReached, moves⟩ := reached.step action
              obtain ⟨laterHolds, records⟩ := moves.holds holds guarded.returned
              refine ⟨fun other otherAttempts otherProgram running => ?_, fun returned =>
                records (guarded.returned returned)⟩
              by_cases same : other = worker
              · subst same
                simp only [Function.update_self, Option.some.injEq, Prod.mk.injEq] at running
                obtain ⟨-, rfl⟩ := running
                exact ⟨later, laterReached, laterHolds⟩
              · have otherRunning : state.running other =
                    some (.initializeShelves (some uid) otherAttempts, otherProgram) := by
                  simpa [same] using running
                exact absurd (initializing_alone reachable open_ otherRunning).1.symm same
          | addmeToSharedResource => cases initializes
          | removemeFromSharedResource => cases initializes
          | removeTestFromShelfResources => cases initializes
          | removeTestFromAllSharedResources => cases initializes

theorem Guarded.exit {outcome : Outcome} (guarded : Guarded uid state)
    (reachable : Reachable system issues start state)
    (step : StepBy system issues worker (.exit outcome) state next) : Guarded uid next := by
  cases step with
  | exit _ call _ finished =>
      constructor
      · intro other attempts program running
        by_cases same : other = worker
        · subst same
          simp at running
        · have otherRunning : state.running other =
              some (.initializeShelves (some uid) attempts, program) := by
            simpa [same] using running
          obtain ⟨stage, reached, holds⟩ := guarded.stage other attempts program otherRunning
          refine ⟨stage, reached, holds.sameRun (.refl _) ?_⟩
          rintro ⟨otherAttempts, tests, member⟩
          rcases List.mem_append.mp member with earlier | last
          · exact ⟨otherAttempts, tests, earlier⟩
          · obtain ⟨rfl, rfl⟩ := Prod.mk.inj (List.mem_singleton.mp last)
            exact absurd (initializing_alone reachable finished otherRunning).1.symm same
      · rintro ⟨attempts, tests, member⟩
        rcases List.mem_append.mp member with earlier | last
        · exact guarded.returned ⟨attempts, tests, earlier⟩
        · obtain ⟨rfl, rfl⟩ := Prod.mk.inj (List.mem_singleton.mp last)
          obtain ⟨stage, reached, holds⟩ := guarded.stage worker attempts _ finished
          rcases reached.of_ret with rfl | rfl | ⟨rfl, error, raised⟩
          · exact holds
          · exact holds.1
          · cases raised

theorem guarded_reachable (sameUid : SameUid uid issues)
    (reachable : Reachable system issues start state) : Guarded uid state := by
  induction reachable with
  | refl =>
      refine ⟨fun worker attempts program running => by simp [System.start] at running, ?_⟩
      rintro ⟨attempts, tests, member⟩
      simp [System.start] at member
  | tail earlier last inductionHypothesis =>
      obtain ⟨worker, label, step⟩ := last
      cases label with
      | enter call => exact inductionHypothesis.enter step
      | inside event => exact inductionHypothesis.inside earlier sameUid step
      | exit outcome => exact inductionHypothesis.exit earlier step

/-! ### The shelves of an earlier run -/

/-- The step does not make `os.unlink` raise inside `initialize_shelves`. -/
def UnlinkSucceeds (worker : Worker) (label : System.Label String String Fault Outcome Call)
    (before : State Worker) : Prop :=
  ∀ testRunUid attempts program filename,
    before.running worker = some (.initializeShelves testRunUid attempts, program) →
    isTestRunShelf filename = false →
    (label = .inside (.accessed filename) → (before.store filename).isSome = true) ∧
      ∀ fault, label ≠ .inside (.raised filename fault)

/-- The state is reached by steps that satisfy the condition, and the file was
there before the first one and after each of them. -/
structure LeftBehind
    (condition : Worker → System.Label String String Fault Outcome Call → State Worker → Prop)
    (issues : Worker → Call → Prop) (start : Store String Shelf) (filename : String)
    (state : State Worker) : Prop where
  present : (start filename).isSome = true
  run : ReflTransGen (fun before after => (∃ worker label, condition worker label before ∧
    StepBy system issues worker label before after) ∧ (after.store filename).isSome = true)
    (System.start start) state

/-- The body is in the middle of the removal and has not come to the file yet. -/
def Stage.Before (filename : String) (stage : Stage) : Prop :=
  stage = .listing ∨ ∃ filenames, stage = .removing filenames ∧ filename ∈ filenames

/-- Some worker is in the middle of the removal and has not come to the file yet. -/
def Pending (uid filename : String) (state : State Worker) : Prop :=
  ∃ worker attempts program stage,
    state.running worker = some (.initializeShelves (some uid) attempts, program) ∧
    AtStage uid stage program ∧ stage.Before filename

variable {filename : String}
  {condition : Worker → System.Label String String Fault Outcome Call → State Worker → Prop}

theorem LeftBehind.reachable (left : LeftBehind condition issues start filename state) :
    Reachable system issues start state := by
  refine ReflTransGen.mono ?_ _ _ left.run
  rintro before after ⟨⟨worker, label, -, step⟩, -⟩
  exact ⟨worker, label, step⟩

theorem LeftBehind.stillThere (left : LeftBehind condition issues start filename state) :
    (state.store filename).isSome = true := by
  rcases ReflTransGen.cases_tail left.run with same | ⟨_, -, -, stillThere⟩
  · rw [same]
    exact left.present
  · exact stillThere

/-- A removal that is going on goes on to the file, unless `os.unlink` raises. -/
theorem Moves.pending {event : Event String String Fault}
    (moves : Moves uid directory stage event later after)
    (pending : stage.Before filename) (shared : isTestRunShelf filename = false)
    (present : (directory filename).isSome = true)
    (stillThere : (after filename).isSome = true)
    (succeeds : ∀ other, isTestRunShelf other = false →
      (event = .accessed other → (directory other).isSome = true) ∧
        ∀ fault, event ≠ .raised other fault) : later.Before filename := by
  cases moves with
  | opened => simp [Stage.Before] at pending
  | recorded records => simp [Stage.Before] at pending
  | unrecorded missing => simp [Stage.Before] at pending
  | record => exact .inl rfl
  | listed filenames lists =>
      exact .inr ⟨filenames, rfl, (lists.complete filename).mpr ⟨by simp [shared], present⟩⟩
  | unlinked other rest otherShared otherPresent =>
      have different : filename ≠ other := by
        rintro rfl
        simp at stillThere
      have member : filename ∈ other :: rest := by simpa [Stage.Before] using pending
      exact .inr ⟨rest, rfl, List.mem_of_ne_of_mem different member⟩
  | unlinkMissing other rest later otherShared absent retried =>
      have found := (succeeds other otherShared).1 rfl
      simp [absent] at found
  | unlinkRaised other rest fault later otherShared retried =>
      exact absurd rfl ((succeeds other otherShared).2 fault)
  | failed before fault later checking retried =>
      rcases checking with rfl | rfl | rfl <;> simp [Stage.Before] at pending

/-- Recording the run id is followed by the listing. -/
theorem Moves.listing_of_recorded {event : Event String String Fault}
    (moves : Moves uid directory stage event later after) (missing : ¬ Records uid directory)
    (records : Records uid after) : later = .listing := by
  cases moves with
  | opened => exact absurd ((sameRun_opened directory).records.mp records) missing
  | record => rfl
  | unlinked filename rest shared present =>
      exact absurd ((sameRun_unlink shared).records.mp records) missing
  | recorded => exact absurd records missing
  | unrecorded => exact absurd records missing
  | listed => exact absurd records missing
  | unlinkMissing => exact absurd records missing
  | unlinkRaised => exact absurd records missing
  | failed => exact absurd records missing

/-- The next action lists the directory or removes a file. -/
def Removes : Body → Prop
  | .list _ _ => True
  | .access filename _ _ _ => isTestRunShelf filename = false
  | _ => False

theorem AtStage.removes {program : Body} (reached : AtStage uid stage program)
    (pending : stage.Before filename) : Removes program := by
  cases reached with
  | listing => trivial
  | removing attempts filenames shared =>
      cases filenames with
      | nil => simp [Stage.Before] at pending
      | cons first rest => exact shared first List.mem_cons_self
  | opening => simp [Stage.Before] at pending
  | reading => simp [Stage.Before] at pending
  | recording => simp [Stage.Before] at pending
  | returned => simp [Stage.Before] at pending
  | raised => simp [Stage.Before] at pending

theorem AtStage.notInitialized {program : Body} (reached : AtStage uid stage program)
    (removes : Removes program) (holds : stage.Holds uid initialized directory) :
    ¬ initialized := by
  cases reached with
  | listing => exact holds.2
  | removing => exact holds.2
  | opening attempts =>
      rw [initializeShelves_eq] at removes
      exact absurd rfl (ne_testRunShelf removes)
  | reading => exact absurd rfl (ne_testRunShelf removes)
  | recording => exact absurd rfl (ne_testRunShelf removes)
  | returned => exact removes.elim
  | raised => exact removes.elim

/-- What a step of a worker that is inside the removal makes of the pending file. -/
theorem Pending.step {label : System.Label String String Fault Outcome Call}
    (pending : Pending uid filename state) (shared : isTestRunShelf filename = false)
    (present : (state.store filename).isSome = true)
    (stillThere : (next.store filename).isSome = true)
    (succeeds : UnlinkSucceeds worker label state)
    (step : StepBy system issues worker label state next) : Pending uid filename next := by
  obtain ⟨remover, attempts, program, stage, running, reached, pending⟩ := pending
  by_cases same : remover = worker
  · subst same
    cases step with
    | enter _ call idle issued granted =>
        rw [idle] at running
        contradiction
    | inside _ _ _ event following changed open_ action allowed =>
        rw [open_] at running
        obtain ⟨rfl, rfl⟩ := Prod.mk.inj (Option.some.inj running)
        obtain ⟨later, laterReached, moves⟩ := reached.step action
        refine ⟨remover, attempts, following, later, Function.update_self .., laterReached, ?_⟩
        refine moves.pending pending shared present stillThere fun other otherShared => ?_
        obtain ⟨found, notRaised⟩ := succeeds _ attempts _ other open_ otherShared
        exact ⟨fun accessed => found (by rw [accessed]),
          fun fault raised => notRaised fault (by rw [raised])⟩
    | exit _ call outcome finished =>
        rw [finished] at running
        obtain ⟨rfl, rfl⟩ := Prod.mk.inj (Option.some.inj running)
        rcases reached.of_ret with rfl | rfl | ⟨rfl, error, raised⟩ <;>
          simp [Stage.Before] at pending
  · exact ⟨remover, attempts, program, stage, (step.running_other same).trans running, reached,
      pending⟩

/-- While a file of an earlier run is there, the recorded run id tells that its
removal is going on. -/
theorem LeftBehind.pending (sameUid : SameUid uid issues) (fresh : ¬ Records uid start)
    (shared : isTestRunShelf filename = false)
    (left : LeftBehind UnlinkSucceeds issues start filename state) :
    Records uid state.store → Pending uid filename state := by
  obtain ⟨present, run⟩ := left
  induction run with
  | refl => exact fun records => absurd records fresh
  | @tail before after earlier last inductionHypothesis =>
      intro records
      have leftBefore : LeftBehind UnlinkSucceeds issues start filename before := ⟨present, earlier⟩
      obtain ⟨⟨worker, label, succeeds, step⟩, stillThere⟩ := last
      by_cases recordedBefore : Records uid before.store
      · exact (inductionHypothesis recordedBefore).step shared leftBefore.stillThere stillThere
          succeeds step
      -- the step has recorded the run id, so it is the one before the listing
      · have guarded := guarded_reachable sameUid leftBefore.reachable
        cases step with
        | enter => exact absurd records recordedBefore
        | exit => exact absurd records recordedBefore
        | inside _ call program event following changed open_ action allowed =>
            cases initializes : call.initializes with
            | false =>
                have kept := sameRun_of_step
                  (keepsRun_running leftBefore.reachable open_ initializes) action
                exact absurd (kept.records.mp records) recordedBefore
            | true =>
                cases call with
                | initializeShelves testRunUid attempts =>
                    obtain rfl := sameUid worker testRunUid attempts
                      (System.running_issued leftBefore.reachable open_)
                    obtain ⟨stage, reached, holds⟩ :=
                      guarded.stage worker attempts program open_
                    obtain ⟨later, laterReached, moves⟩ := reached.step action
                    refine ⟨worker, attempts, following, later, Function.update_self ..,
                      laterReached, .inl ?_⟩
                    exact moves.listing_of_recorded recordedBefore records
                | addmeToSharedResource => cases initializes
                | removemeFromSharedResource => cases initializes
                | removeTestFromShelfResources => cases initializes
                | removeTestFromAllSharedResources => cases initializes

/-- When a call has returned, no step inside `initialize_shelves` changes a registration. -/
theorem Moves.registered {event : Event String String Fault}
    (moves : Moves uid directory stage event later after)
    (holds : stage.Holds uid initialized directory) (returned : initialized)
    (records : Records uid directory) (shelf resource : String) :
    registered after shelf resource = registered directory shelf resource := by
  cases moves with
  | opened => exact registered_opened shelf resource
  | recorded => rfl
  | unrecorded => rfl
  | record => exact absurd records holds.2
  | listed => rfl
  | unlinked => exact absurd returned holds.2
  | unlinkMissing => rfl
  | unlinkRaised => rfl
  | failed => rfl

/-- **Initialization of a run.** In every run in which no `os.unlink` raises, a
shelf file of an earlier run that is still there when the run id is recorded is
about to be removed by the worker that holds the lock, and no call has returned.
In every run, once a call has returned, none changes a registration. -/
theorem initialization_removes_leftovers (uid : String) (issues : Worker → Call → Prop)
    (start : Store String Shelf) (sameUid : SameUid uid issues) (fresh : ¬ Records uid start) :
    (∀ filename (state : State Worker), isTestRunShelf filename = false →
      LeftBehind UnlinkSucceeds issues start filename state →
      ¬ Initialized uid state ∧ (Records uid state.store →
        ∃ worker attempts program, state.owner "shelves" = some worker ∧
          state.running worker = some (.initializeShelves (some uid) attempts, program))) ∧
    ∀ (state next : State Worker) worker label attempts program,
      Reachable system issues start state → Initialized uid state →
      state.running worker = some (.initializeShelves (some uid) attempts, program) →
      StepBy system issues worker label state next → ∀ shelf resource,
        registered next.store shelf resource = registered state.store shelf resource := by
  constructor
  · intro filename state shared left
    have guarded := guarded_reachable sameUid left.reachable
    constructor
    · intro initialized
      obtain ⟨worker, attempts, program, stage, running, reached, pending⟩ :=
        left.pending sameUid fresh shared (guarded.returned initialized)
      obtain ⟨now, nowReached, holds⟩ := guarded.stage worker attempts program running
      exact nowReached.notInitialized (reached.removes pending) holds initialized
    · intro records
      obtain ⟨worker, attempts, program, stage, running, -, -⟩ :=
        left.pending sameUid fresh shared records
      exact ⟨worker, attempts, program, (initializing_alone left.reachable running running).2,
        running⟩
  · intro state next worker label attempts program reachable initialized running step shelf resource
    have guarded := guarded_reachable sameUid reachable
    cases step with
    | enter => rfl
    | exit => rfl
    | inside _ call _ event following changed open_ action allowed =>
        rw [open_] at running
        obtain ⟨rfl, rfl⟩ := Prod.mk.inj (Option.some.inj running)
        obtain ⟨stage, reached, holds⟩ := guarded.stage worker attempts _ open_
        obtain ⟨later, -, moves⟩ := reached.step action
        exact moves.registered holds initialized (guarded.returned initialized) shelf resource

/-! ### A shelf that is left behind -/

/-- Only `worker` is inside a body, and no call has ended. -/
def lone (worker : Worker) (call : Call) (program : Body) (directory : Store String Shelf) :
    State Worker where
  store := directory
  owner := RecordLock.Table.free.acquire call.lock worker
  running := Function.update (fun _ => none) worker (some (call, program))
  done := []

theorem LeftBehind.lone_step
    {condition : Worker → System.Label String String Fault Outcome Call → State Worker → Prop}
    {call : Call} {program following : Body} {event : Event String String Fault}
    (left : LeftBehind condition issues start filename (lone worker call program directory))
    (meets : condition worker (.inside event) (lone worker call program directory))
    (step : Prog.Step program directory event following after)
    (allowed : System.Allowed (RecordLock.Table.free.acquire call.lock worker) worker event)
    (plain : System.ownerAfter (RecordLock.Table.free.acquire call.lock worker) worker event =
      RecordLock.Table.free.acquire call.lock worker)
    (stillThere : (after filename).isSome = true) :
    LeftBehind condition issues start filename (lone worker call following after) := by
  have moved : StepBy system issues worker (.inside event) (lone worker call program directory)
      (lone worker call following after) := by
    have open_ : (lone worker call program directory).running worker = some (call, program) := by
      simp [lone]
    have action : StepBy system issues worker _ _ _ :=
      .inside _ call program event following after open_ step allowed
    simpa only [lone, plain, Function.update_idem] using action
  exact ⟨left.present, left.run.tail ⟨⟨worker, _, meets, moved⟩, stillThere⟩⟩

omit [DecidableEq Worker] in
/-- An action on the `test_run` shelf is none of `os.unlink`. -/
theorem unlinkSucceeds_testRun (before : State Worker) :
    UnlinkSucceeds worker (.inside (.accessed testRunShelf)) before := by
  intro testRunUid attempts program filename running shared
  constructor
  · intro same
    cases same
    exact absurd rfl (ne_testRunShelf shared)
  · exact nofun

end Interleaving

/-- The shelf of an earlier run. -/
def staleDirectory : Store String Shelf :=
  Function.update (fun _ => none) "heat" (some Shelf.empty)

/-- A worker of the run "run" calls `initialize_shelves` and nothing else. -/
def onlyInitializes (_ : Nat) (call : Call) : Prop :=
  ∃ attempts, call = .initializeShelves (some "run") attempts

theorem onlyInitializes_sameUid : SameUid "run" onlyInitializes := by
  rintro worker testRunUid attempts ⟨_, same⟩
  exact (Call.initializeShelves.inj same).1

theorem staleDirectory_fresh : ¬ Records "run" staleDirectory := by decide

/-- The `test_run` shelf has been opened. -/
def openedDirectory : Store String Shelf :=
  Function.update staleDirectory testRunShelf (some Shelf.empty)

/-- The run id has been recorded in it. -/
def recordedDirectory : Store String Shelf :=
  Function.update openedDirectory testRunShelf (some ⟨∅, some "run"⟩)

/-- The worker has recorded the run id and is about to list the files, the stale one among them. -/
def recordedState (attempts : Nat) : State Nat :=
  lone 0 (.initializeShelves (some "run") attempts)
    (unlinkShelves (initializeHandler "run" attempts)) recordedDirectory

theorem leftBehind_recordedState
    {condition : Nat → System.Label String String Fault Outcome Call → State Nat → Prop}
    (attempts : Nat) (entering : ∀ call state, condition 0 (.enter call) state)
    (meets : ∀ state, condition 0 (.inside (.accessed testRunShelf)) state) :
    LeftBehind condition onlyInitializes staleDirectory "heat" (recordedState attempts) := by
  let call : Call := .initializeShelves (some "run") attempts
  let At (program : Body) (directory : Store String Shelf) : Prop :=
    LeftBehind condition onlyInitializes staleDirectory "heat" (lone 0 call program directory)
  have entered : At (initializeShelves (some "run") attempts) staleDirectory :=
    ⟨rfl, .single ⟨⟨0, _, entering call _, .enter _ call rfl ⟨attempts, rfl⟩ (.inl rfl)⟩, rfl⟩⟩
  rw [initializeShelves_eq] at entered
  have reading : At (readUid "run" attempts) openedDirectory :=
    entered.lone_step (meets _) (.access ..) trivial rfl rfl
  have recording : At (recordUid "run" attempts) openedDirectory := by
    have moved := reading.lone_step (meets _) (.access ..) trivial rfl rfl
    simpa [openedDirectory, Shelf.empty] using moved
  have moved := recording.lone_step (meets _) (.access ..) trivial rfl rfl
  simpa [openedDirectory, recordedDirectory, recordedState, Shelf.empty] using moved

/-- The run id is recorded and the stale shelf is there, so that the worker with the lock removes
it. -/
theorem initialization_removes_leftovers_recorded :
    ¬ Initialized "run" (recordedState 0) ∧
      ∃ worker attempts program, (recordedState 0).owner "shelves" = some worker ∧
        (recordedState 0).running worker =
          some (.initializeShelves (some "run") attempts, program) := by
  have left : LeftBehind UnlinkSucceeds onlyInitializes staleDirectory "heat" (recordedState 0) :=
    leftBehind_recordedState 0 (fun _ _ _ _ _ _ _ _ => ⟨nofun, nofun⟩) unlinkSucceeds_testRun
  have removed := (initialization_removes_leftovers "run" onlyInitializes staleDirectory
    onlyInitializes_sameUid staleDirectory_fresh).1 "heat" (recordedState 0) (by decide) left
  exact ⟨removed.1, removed.2 rfl⟩

/-- `os.unlink` raises once; the next attempt reads the run id and returns. -/
theorem failed_unlink_leaves_shelf :
    ¬ ∀ state : State Nat,
      LeftBehind (fun _ _ _ => True) onlyInitializes staleDirectory "heat" state →
      ¬ Initialized "run" state := by
  intro removed
  let call : Call := .initializeShelves (some "run") 1
  let At (program : Body) (directory : Store String Shelf) : Prop :=
    LeftBehind (fun _ _ _ => True) onlyInitializes staleDirectory "heat"
      (lone 0 call program directory)
  have proceed : ∀ {program following : Body} {directory after : Store String Shelf}
      {event : Event String String Fault}, At program directory →
      Prog.Step program directory event following after →
      System.Allowed (RecordLock.Table.free.acquire call.lock 0) 0 event →
      System.ownerAfter (RecordLock.Table.free.acquire call.lock 0) 0 event =
        RecordLock.Table.free.acquire call.lock 0 →
      (after "heat").isSome = true → At following after :=
    fun left step allowed plain stillThere => left.lone_step trivial step allowed plain stillThere
  have listing : At (unlinkShelves (initializeHandler "run" 1)) recordedDirectory :=
    leftBehind_recordedState 1 (fun _ _ => trivial) fun _ => trivial
  have lists : Lists (fun filename => !isTestRunShelf filename) recordedDirectory ["heat"] := by
    refine ⟨List.nodup_singleton _, fun filename => ?_⟩
    by_cases heat : filename = "heat"
    · subst heat
      decide
    · by_cases testRun : filename = testRunShelf
      · rw [testRun, isTestRunShelf_testRunShelf]
        decide
      · simp [heat, testRun, recordedDirectory, openedDirectory, staleDirectory]
  have removing : At (unlinkEach (initializeHandler "run" 1) ["heat"]) recordedDirectory :=
    proceed listing (.list _ _ _ _ lists) trivial rfl rfl
  have failed : Prog.Step (unlinkEach (initializeHandler "run" 1) ["heat"]) recordedDirectory
      (.raised "heat" .dbmError) (initializeHandler "run" 1 .dbmError) recordedDirectory := .raise ..
  have again : At (initializeShelves (some "run") 0) recordedDirectory :=
    proceed removing failed trivial rfl rfl
  rw [initializeShelves_eq] at again
  have readingAgain : At (readUid "run" 0) recordedDirectory := by
    have moved := proceed again (.access ..) trivial rfl rfl
    simpa [recordedDirectory] using moved
  have returned : At (.ret (.returned none)) recordedDirectory := by
    have moved := proceed readingAgain (.access ..) trivial rfl rfl
    simpa [recordedDirectory] using moved
  refine removed _ ⟨rfl, returned.run.tail ⟨⟨0, _, trivial, .exit _ call (.returned none) ?_⟩, rfl⟩⟩
    ⟨1, none, ?_⟩
  · simp [lone]
  · simp [lone, call]

end Tobiko.Common.Shelves
