import Tobiko.Shell.Ansible.Playbook

/-!
Contract: a run of a playbook as the list of the work files that it asks for.

Owns: the requests of a run, their sequence up to the error that ends it, and that a run does
exactly what its requests do.

Does not own: what a request does to the work files.
-/

namespace Tobiko.Shell.Ansible

open Tobiko.Foundation

/-- One call that brings files to the work directory, or that only makes it. -/
inductive Request where
  | one (filename : PosixPath) (subDir : Option PosixPath)
  | many (filenames : List PosixPath) (subDir : Option PosixPath)
  | dir
  deriving DecidableEq

/-- The requests of a run, and the error that ends it when they are done. -/
structure Program where
  requests : List Request
  error : Option PlaybookError

namespace Program

def done : Program := ⟨[], none⟩

def fails (error : PlaybookError) : Program := ⟨[], some error⟩

def request (request : Request) : Program := ⟨[request], none⟩

def andThen (first next : Program) : Program :=
  match first.error with
  | none => ⟨first.requests ++ next.requests, next.error⟩
  | some _ => first

/-- A program behind a value that may be an error. -/
def behind {Value : Type} (result : Except PlaybookError Value) (next : Value → Program) :
    Program :=
  match result with
  | .error error => fails error
  | .ok value => next value

end Program

section Requests

variable (env : Environment)

def Request.perform : Request → Work Unit
  | .one filename subDir => do
      let _ ← ensureWorkFile env filename subDir
      pure ()
  | .many filenames subDir => do
      let _ ← ensureWorkFiles env filenames subDir
      pure ()
  | .dir => do
      let _ ← workDir env
      pure ()

def performAll : List Request → Work Unit
  | [] => pure ()
  | request :: requests => do
      request.perform env
      performAll requests

def Program.perform (program : Program) : Work Unit := do
  performAll env program.requests
  match program.error with
  | none => pure ()
  | some error => Effect.raise error

variable (fixture : AnsiblePlaybook)

/-! ### The requests of a run -/

def inventoryProgram (inventoryFilenames : List PosixPath) : Program :=
  if inventorySources env fixture inventoryFilenames = [] then .done
  else
    (Program.request (.many (inventorySources env fixture inventoryFilenames)
      (some inventoryDir))).andThen (.request .dir)

def playbookProgram : List PosixPath → Option PosixPath → Option PosixPath → Program
  | [], _, _ => .done
  | playbookFile :: playbookFiles, subDir, dirname =>
      .behind (getPlaybookFilename fixture (some playbookFile) dirname) fun filename =>
        (Program.request (.one filename (nextSubDir env filename subDir dirname))).andThen
          (playbookProgram playbookFiles (nextSubDir env filename subDir dirname) dirname)

def rolesProgram (roles : Option (List Text)) (dirname : Option PosixPath)
    (rolesPath : Option (List PosixPath)) : Program :=
  match roles with
  | none => .done
  | some roles =>
      .behind (findRoles env fixture roles dirname rolesPath) fun roleDirs =>
        .request (.many roleDirs (some rolesDir))

def collectionsProgram (requirementsFiles : Option (List PosixPath)) (dirname : Option PosixPath) :
    Program :=
  let files := allRequirements fixture (requirementsFiles.getD [])
  if files = [] then .done
  else (playbookProgram env fixture files (some requirementsDir) dirname).andThen (.request .dir)

def runProgram (arguments : RunArguments) : Program :=
  (inventoryProgram env fixture arguments.inventoryFilenames).andThen
    (.behind (arguments.filename env fixture) fun filename =>
      (Program.request (.one filename none)).andThen
        ((playbookProgram env fixture (arguments.playbookFiles.getD []) none
            (some filename.dirname)).andThen
          ((rolesProgram env fixture arguments.roles (some filename.dirname)
              arguments.rolesPath).andThen
            ((collectionsProgram env fixture arguments.requirementsFiles
              (some filename.dirname)).andThen (.request .dir)))))

end Requests

/-! ### What a run does -/

/-- The computation raises and changes the state as its requests do. -/
def Performs {Value : Type} (env : Environment) (program : Program) (effect : Work Value) : Prop :=
  (do let _ ← effect; pure ()) = program.perform env

section Rules

variable {env : Environment} {fixture : AnsiblePlaybook} {Value Next : Type}
  {first : Work Value} {next : Value → Work Next} {program later : Program}

theorem performAll_append (left right : List Request) :
    performAll env (left ++ right) = (do performAll env left; performAll env right) := by
  induction left with
  | nil => rfl
  | cons request left inductionHypothesis =>
      rw [List.cons_append, performAll, inductionHypothesis, performAll, bind_assoc]

theorem performs_pure (value : Value) : Performs env .done (pure value : Work Value) := rfl

/-- A single request. -/
theorem performs_request {request : Request}
    (performs : (do let _ ← first; pure ()) = request.perform env) :
    Performs env (.request request) first := by
  unfold Performs Program.perform Program.request
  dsimp only [performAll]
  rw [performs, bind_assoc]
  exact (bind_pure _).symm

theorem performs_bind (firstPerforms : Performs env program first)
    (nextPerforms : ∀ value, Performs env later (next value)) :
    Performs env (program.andThen later) (first >>= next) := by
  have joined : (program.andThen later).perform env =
      (do program.perform env; later.perform env) := by
    obtain ⟨requests, error⟩ := program
    cases error with
    | none =>
        unfold Program.andThen Program.perform
        dsimp only
        rw [performAll_append, bind_assoc, bind_assoc]
        rfl
    | some error =>
        unfold Program.andThen Program.perform
        dsimp only
        rw [bind_assoc]
        rfl
  unfold Performs at *
  rw [joined, ← firstPerforms, bind_assoc, bind_assoc]
  apply bind_congr
  intro value
  rw [nextPerforms value]
  rfl

/-- What raises at once has no requests. -/
theorem performs_behind {result : Except PlaybookError Value} {programs : Value → Program}
    (performs : ∀ value, result = .ok value → Performs env (programs value) (next value)) :
    Performs env (.behind result programs) (Effect.ofExcept result >>= next) := by
  cases result with
  | error error => rfl
  | ok value => exact performs value rfl

/-! ### The parts of a run -/

theorem ensurePlaybookFiles_performs (playbookFiles : List PosixPath)
    (subDir dirname : Option PosixPath) :
    Performs env (playbookProgram env fixture playbookFiles subDir dirname)
      (ensurePlaybookFiles env fixture playbookFiles subDir dirname) := by
  induction playbookFiles generalizing subDir with
  | nil => exact performs_pure _
  | cons playbookFile playbookFiles inductionHypothesis =>
      unfold playbookProgram ensurePlaybookFiles
      apply performs_behind
      intro filename _
      apply performs_bind (performs_request rfl)
      intro workFilename
      have rest := inductionHypothesis (nextSubDir env filename subDir dirname)
      unfold Performs at *
      rw [bind_assoc]
      exact rest

theorem ensureInventoryFiles_performs (inventoryFilenames : List PosixPath) :
    Performs env (inventoryProgram env fixture inventoryFilenames)
      (ensureInventoryFiles env fixture inventoryFilenames) := by
  unfold inventoryProgram ensureInventoryFiles
  dsimp only
  split
  · exact performs_pure _
  · apply performs_bind (performs_request rfl)
    intro workFilenames
    exact performs_request rfl

theorem ensureRoles_performs (roles : List Text) (dirname : Option PosixPath)
    (rolesPath : Option (List PosixPath)) :
    Performs env (rolesProgram env fixture (some roles) dirname rolesPath)
      (ensureRoles env fixture roles dirname rolesPath) := by
  apply performs_behind
  intro roleDirs _
  exact performs_request rfl

/-- There is a work file for each playbook file. -/
theorem ensurePlaybookFiles_nonempty (playbookFile : PosixPath) (playbookFiles : List PosixPath)
    (subDir dirname : Option PosixPath) (absent present : Work Value) :
    (do
      let workFiles ← ensurePlaybookFiles env fixture (playbookFile :: playbookFiles) subDir dirname
      if workFiles = [] then absent else present) =
    (do
      let _ ← ensurePlaybookFiles env fixture (playbookFile :: playbookFiles) subDir dirname
      present) := by
  simp only [ensurePlaybookFiles, bind_assoc, pure_bind, if_neg (List.cons_ne_nil _ _)]

theorem ensureCollections_performs (requirementsFiles : Option (List PosixPath))
    (dirname : Option PosixPath) :
    Performs env (collectionsProgram env fixture requirementsFiles dirname)
      (ensureCollections env fixture requirementsFiles dirname) := by
  unfold collectionsProgram ensureCollections ensureRequirementsFiles
  dsimp only
  cases allRequirements fixture (requirementsFiles.getD []) with
  | nil => rfl
  | cons file files =>
      rw [if_neg (List.cons_ne_nil _ _), if_neg (List.cons_ne_nil _ _)]
      rw [ensurePlaybookFiles_nonempty]
      exact performs_bind (ensurePlaybookFiles_performs _ _ _) fun _ => performs_request rfl

/-- **A run raises and changes the work files as its requests do, one after the other.** -/
theorem runPlaybook_performs (arguments : RunArguments) :
    Performs env (runProgram env fixture arguments) (runPlaybook env fixture arguments) := by
  unfold runProgram runPlaybook getCommand
  simp only [bind_assoc, pure_bind]
  apply performs_bind (ensureInventoryFiles_performs _)
  intro inventory
  apply performs_behind
  intro filename _
  apply performs_bind (performs_request rfl)
  intro playbook
  apply performs_bind (ensurePlaybookFiles_performs _ _ _)
  intro playbookFiles
  have rest : Performs env
      ((collectionsProgram env fixture arguments.requirementsFiles (some filename.dirname)).andThen
        (.request .dir))
      (do
        ensureCollections env fixture arguments.requirementsFiles (some filename.dirname)
        let currentDir ← workDir env
        pure (RunCommand.mk inventory playbook currentDir)) :=
    performs_bind (ensureCollections_performs _ _) fun _ => performs_request rfl
  cases arguments.roles with
  | none =>
      simp only [bind_assoc, pure_bind]
      exact rest
  | some roles =>
      simp only [bind_assoc, pure_bind]
      exact performs_bind (ensureRoles_performs roles _ _) fun _ => rest

end Rules

end Tobiko.Shell.Ansible
