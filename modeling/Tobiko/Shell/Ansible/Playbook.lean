import Mathlib.Data.List.Sort
import Mathlib.Data.List.Lex
import Mathlib.Data.List.Dedup
import Mathlib.Data.Char
import Tobiko.Foundation.Dictionary
import Tobiko.Foundation.Effect
import Tobiko.Foundation.PosixPath

/-!
Contract: how `AnsiblePlaybook` brings the files of a playbook to its work directory.

Owns: the work directory and the map of the work files, the copies of one file and of many, the
inventory, playbook, role and requirement files of a run, and the clean up.

Does not own: the commands that are executed, the directories that are made on the way, and what is
below a directory that is copied.
-/

namespace Tobiko.Shell.Ansible

open Tobiko.Foundation

inductive PlaybookError where
  /-- 'NoneType' object has no attribute 'get' -/
  | attributeError
  /-- 'NoneType' object does not support item assignment, and a `playbook_dirname` that is no text. -/
  | typeError
  /-- Role {role} not found in directories {self.roles_path} -/
  | roleNotFound (role : Text) (rolesPath : List PosixPath)
  deriving DecidableEq

/-- The files of the host, the configuration, and the temporary directories in the order in which
they are made. -/
structure Environment where
  cwd : List Text
  realpath : PosixPath → PosixPath
  realpathIdem : ∀ path, realpath (realpath path) = realpath path
  isFile : PosixPath → Bool
  isDir : PosixPath → Bool
  tobikoConfigPath : PosixPath → PosixPath
  inventoryFiles : List PosixPath
  tempDir : Nat → PosixPath

/-- What an `AnsiblePlaybook` is made with. -/
structure AnsiblePlaybook where
  inventoryFilenames : List PosixPath := []
  playbook : PosixPath := .ofName "main".toList
  playbookDirname : Option PosixPath := none
  requirementFiles : List PosixPath := []
  rolesPath : Option (List PosixPath) := none

structure PlaybookState where
  workDir : Option PosixPath
  workFiles : Option (Dict PosixPath PosixPath)
  madeDirs : Nat
  /-- What has been copied since the work directory was created, and where. -/
  copied : List (PosixPath × PosixPath)

def PlaybookState.new (workDir : Option PosixPath) : PlaybookState :=
  ⟨workDir, some Dict.empty, 0, []⟩

abbrev Work (Value : Type) : Type := Effect PlaybookError PlaybookState Value

/-- `sorted` orders paths as texts. -/
def sortPaths (paths : List PosixPath) : List PosixPath :=
  paths.insertionSort fun left right => left.text ≤ right.text

def inDir (dir : PosixPath) (subDir : Option PosixPath) : PosixPath :=
  match subDir with
  | none => dir
  | some subDir => dir.join subDir

/-- Where a file goes in a directory. -/
def placeIn (dir filename : PosixPath) : PosixPath := dir.join (.ofName filename.basename)

section Files

variable (env : Environment)

/-! ### The work directory -/

def PlaybookState.enterWorkDir (state : PlaybookState) : PosixPath × PlaybookState :=
  match state.workDir with
  | some dir => (dir, state)
  | none =>
      (env.tempDir state.madeDirs,
        ⟨some (env.tempDir state.madeDirs), some Dict.empty, state.madeDirs + 1, []⟩)

def workDir : Work PosixPath := Effect.update (PlaybookState.enterWorkDir env)

/-- `self._work_files.get(filename)` -/
def getWorkFile (filename : PosixPath) : Work (Option PosixPath) := do
  let state ← Effect.get
  match state.workFiles with
  | none => Effect.raise .attributeError
  | some workFiles => pure (workFiles.get? filename)

/-- `self._work_files[filename] = work_filename` -/
def setWorkFile (filename workFilename : PosixPath) : Work Unit := do
  let state ← Effect.get
  match state.workFiles with
  | none => Effect.raise .typeError
  | some workFiles =>
      Effect.modify fun state =>
        { state with workFiles := some (workFiles.set filename workFilename) }

def putFile (filename workFilename : PosixPath) : Work Unit :=
  Effect.modify fun state => { state with copied := state.copied ++ [(filename, workFilename)] }

def putFiles (filenames : List PosixPath) (remoteDir : PosixPath) : Work Unit :=
  Effect.modify fun state =>
    { state with copied := state.copied ++ filenames.map fun name => (name, placeIn remoteDir name) }

def setWorkFiles (workDir : PosixPath) : List PosixPath → Work Unit
  | [] => pure ()
  | filename :: filenames => do
      setWorkFile filename (placeIn workDir filename)
      setWorkFiles workDir filenames

def ensureWorkFile (filename : PosixPath) (subDir : Option PosixPath) : Work PosixPath := do
  let filename := env.realpath filename
  match ← getWorkFile filename with
  | some workFilename => pure workFilename
  | none =>
      let dir ← workDir env
      let workFilename := placeIn (inDir dir subDir) filename
      putFile filename workFilename
      setWorkFile filename workFilename
      pure workFilename

/-- `None.get` is an error as soon as there is a file to look up. -/
def lookUpWorkFiles (filenames : List PosixPath) : Work (Dict PosixPath PosixPath) := do
  let state ← Effect.get
  match state.workFiles with
  | some workFiles => pure workFiles
  | none => if filenames = [] then pure Dict.empty else Effect.raise .attributeError

def ensureWorkFiles (filenames : List PosixPath) (subDir : Option PosixPath) :
    Work (List PosixPath) := do
  let workFiles ← lookUpWorkFiles filenames
  let resolved := filenames.map env.realpath
  let missing := resolved.filter fun filename => workFiles.get? filename = none
  let found := resolved.filterMap workFiles.get?
  if missing = [] then pure (sortPaths found.dedup)
  else
    let dir ← workDir env
    let dir := inDir dir subDir
    putFiles (sortPaths missing.dedup) dir
    setWorkFiles dir filenames
    pure (sortPaths (found ++ filenames.map (placeIn dir)).dedup)

variable (fixture : AnsiblePlaybook)

/-! ### The files of a run -/

def existingFilenames (filenames : List PosixPath) : List PosixPath :=
  filenames.foldl (fun existing filename =>
    let filename := env.tobikoConfigPath filename
    if filename ∉ existing ∧ env.isFile filename then existing ++ [filename] else existing) []

def inventoryDir : PosixPath := .ofName "inventory".toList

/-- The inventory files that there are. -/
def inventorySources (inventoryFilenames : List PosixPath) : List PosixPath :=
  existingFilenames env
    (sortPaths (inventoryFilenames ++ fixture.inventoryFilenames ++ env.inventoryFiles))

def ensureInventoryFiles (inventoryFilenames : List PosixPath) : Work (List PosixPath) := do
  let existing := inventorySources env fixture inventoryFilenames
  if existing = [] then pure []
  else
    let _ ← ensureWorkFiles env existing (some inventoryDir)
    let dir ← workDir env
    pure [dir.join inventoryDir]

def getPlaybookFilename (basename dirname : Option PosixPath) : Except PlaybookError PosixPath :=
  match dirname.or fixture.playbookDirname with
  | none => .error .typeError
  | some dirname => .ok (dirname.join (basename.getD fixture.playbook))

/-- The `sub_dir` behind one turn of the loop, which is computed at most once. -/
def nextSubDir (filename : PosixPath) (subDir dirname : Option PosixPath) : Option PosixPath :=
  match subDir, dirname with
  | none, some dirname =>
      if filename.startsWith dirname then
        some (PosixPath.relpath env.cwd filename.dirname dirname)
      else none
  | subDir, _ => subDir

def ensurePlaybookFiles : List PosixPath → Option PosixPath → Option PosixPath →
    Work (List PosixPath)
  | [], _, _ => pure []
  | playbookFile :: playbookFiles, subDir, dirname => do
      let filename ← Effect.ofExcept (getPlaybookFilename fixture (some playbookFile) dirname)
      let subDir := nextSubDir env filename subDir dirname
      let workFilename ← ensureWorkFile env filename subDir
      let workFilenames ← ensurePlaybookFiles playbookFiles subDir dirname
      pure (workFilename :: workFilenames)

def rolesDir : PosixPath := .ofName "roles".toList

/-- The property `roles_path`; that it keeps its value is not to be seen. -/
def AnsiblePlaybook.getRolesPath : List PosixPath :=
  match fixture.rolesPath with
  | some rolesPath => rolesPath
  | none =>
      match fixture.playbookDirname with
      | none => []
      | some dirname => [dirname.join rolesDir, dirname]

/-- The directories of the roles: the search path grows with each role. -/
def findRoles : List Text → Option PosixPath → Option (List PosixPath) →
    Except PlaybookError (List PosixPath)
  | [], _, _ => .ok []
  | role :: roles, dirname, rolesPath =>
      let rolesPath := rolesPath.getD fixture.getRolesPath
      let dirname := dirname.map env.realpath
      let rolesPath :=
        match dirname with
        | none => rolesPath
        | some dirname => dirname.join rolesDir :: (rolesPath ++ [dirname])
      match rolesPath.find? fun rolesDir => env.isDir (rolesDir.join (.ofName role)) with
      | none => .error (.roleNotFound role fixture.getRolesPath)
      | some found => do
          let roleDirs ← findRoles roles dirname (some rolesPath)
          .ok (found.join (.ofName role) :: roleDirs)

def ensureRoles (roles : List Text) (dirname : Option PosixPath)
    (rolesPath : Option (List PosixPath)) : Work (List PosixPath) := do
  let roleDirs ← Effect.ofExcept (findRoles env fixture roles dirname rolesPath)
  ensureWorkFiles env roleDirs (some rolesDir)

def requirementsDir : PosixPath := .ofName "requirements".toList

def allRequirements (requirementsFiles : List PosixPath) : List PosixPath :=
  fixture.requirementFiles.foldl (fun files filename =>
    if filename ∈ files then files else files ++ [filename]) requirementsFiles

def ensureRequirementsFiles (requirementsFiles : Option (List PosixPath))
    (dirname : Option PosixPath) : Work (List PosixPath) :=
  let files := allRequirements fixture (requirementsFiles.getD [])
  if files = [] then pure []
  else ensurePlaybookFiles env fixture files (some requirementsDir) dirname

/-- With the command that installs them, whose directory is in the work directory. -/
def ensureCollections (requirementsFiles : Option (List PosixPath)) (dirname : Option PosixPath) :
    Work Unit := do
  let workFiles ← ensureRequirementsFiles env fixture requirementsFiles dirname
  if workFiles = [] then pure ()
  else
    let _ ← workDir env
    pure ()

structure RunArguments where
  playbook : Option PosixPath := none
  playbookDirname : Option PosixPath := none
  playbookFilename : Option PosixPath := none
  inventoryFilenames : List PosixPath := []
  playbookFiles : Option (List PosixPath) := none
  requirementsFiles : Option (List PosixPath) := none
  roles : Option (List Text) := none
  rolesPath : Option (List PosixPath) := none

/-- The files that the command of a run names. -/
structure RunCommand where
  inventory : List PosixPath
  playbook : PosixPath
  currentDir : PosixPath
  deriving DecidableEq

def RunArguments.filename (arguments : RunArguments) : Except PlaybookError PosixPath :=
  match arguments.playbookFilename with
  | some filename => .ok (env.realpath filename)
  | none => getPlaybookFilename fixture arguments.playbook arguments.playbookDirname

def getCommand (arguments : RunArguments) : Work (List PosixPath × PosixPath) := do
  let inventory ← ensureInventoryFiles env fixture arguments.inventoryFilenames
  let playbookFilename ← Effect.ofExcept (arguments.filename env fixture)
  let playbookDirname := some playbookFilename.dirname
  let playbook ← ensureWorkFile env playbookFilename none
  let _ ← ensurePlaybookFiles env fixture (arguments.playbookFiles.getD []) none playbookDirname
  let _ ←
    match arguments.roles with
    | none => pure []
    | some roles => ensureRoles env fixture roles playbookDirname arguments.rolesPath
  ensureCollections env fixture arguments.requirementsFiles playbookDirname
  pure (inventory, playbook)

def runPlaybook (arguments : RunArguments) : Work RunCommand := do
  let (inventory, playbook) ← getCommand env fixture arguments
  let currentDir ← workDir env
  pure ⟨inventory, playbook, currentDir⟩

end Files

/-- `cleanup_fixture` -/
def PlaybookState.cleanup (state : PlaybookState) : PlaybookState :=
  { state with workDir := none, workFiles := none, copied := [] }

end Tobiko.Shell.Ansible
