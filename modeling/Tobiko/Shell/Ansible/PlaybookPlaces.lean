import Tobiko.Shell.Ansible.Playbook

/-!
Contract: to which places of the work directory playbook files are copied.

Owns: what one call for a file does to the work files, the places of a list of files, and exactly when
each of them is the one that its own relative path gives.

Does not own: the files of a whole run.
-/

namespace Tobiko.Shell.Ansible

open Tobiko.Foundation

/-! ### One file -/

/-- The work files are these, and there are none without a work directory. -/
structure Ready (state : PlaybookState) (workFiles : Dict PosixPath PosixPath) : Prop where
  known : state.workFiles = some workFiles
  noneBefore : state.workDir = none → workFiles = Dict.empty

/-- The work directory that there is or that is made next. -/
def dirOf (env : Environment) (state : PlaybookState) : PosixPath :=
  state.workDir.getD (env.tempDir state.madeDirs)

section Steps

variable {env : Environment} {state : PlaybookState} {workFiles : Dict PosixPath PosixPath}

/-- A work directory that is made changes nothing of what is known. -/
theorem enterWorkDir_spec (ready : Ready state workFiles) :
    (state.enterWorkDir env).1 = dirOf env state ∧
      Ready (state.enterWorkDir env).2 workFiles ∧
      (state.enterWorkDir env).2.workDir = some (dirOf env state) ∧
      ((state.enterWorkDir env).2.copied = state.copied ∨ workFiles = Dict.empty) := by
  obtain ⟨workDir, files, madeDirs, copied⟩ := state
  cases workDir with
  | some dir => exact ⟨rfl, ready, rfl, .inl rfl⟩
  | none =>
      have empty := ready.noneBefore rfl
      subst empty
      refine ⟨rfl, ⟨rfl, fun absent => ?_⟩, rfl, .inr rfl⟩
      cases absent

theorem getWorkFile_ready (ready : Ready state workFiles) (filename : PosixPath) :
    getWorkFile filename state = some (.ok (workFiles.get? filename), state) := by
  have got : (Effect.get : Work PlaybookState) state = some (.ok state, state) := rfl
  unfold getWorkFile
  rw [Effect.bind_of_ok got, ready.known]
  rfl

theorem setWorkFile_known (known : state.workFiles = some workFiles)
    (filename workFilename : PosixPath) :
    setWorkFile filename workFilename state =
      some (.ok (), { state with workFiles := some (workFiles.set filename workFilename) }) := by
  have got : (Effect.get : Work PlaybookState) state = some (.ok state, state) := rfl
  unfold setWorkFile
  rw [Effect.bind_of_ok got, known]
  rfl

theorem dirOf_some {dir : PosixPath} (isDir : state.workDir = some dir) : dirOf env state = dir := by
  rw [dirOf, isDir]
  rfl

theorem workDir_ready (ready : Ready state workFiles) :
    workDir env state = some (.ok (dirOf env state), (state.enterWorkDir env).2) := by
  unfold workDir Effect.update
  rw [(enterWorkDir_spec ready).1]

theorem ensureWorkFile_recorded {filename place : PosixPath} (ready : Ready state workFiles)
    (found : workFiles.get? (env.realpath filename) = some place) (subDir : Option PosixPath) :
    ensureWorkFile env filename subDir state = some (.ok place, state) := by
  unfold ensureWorkFile
  rw [Effect.bind_of_ok (getWorkFile_ready ready _), found]
  rfl

/-- A file that is not there yet is copied, and the copy is kept in mind. -/
theorem ensureWorkFile_missing {filename : PosixPath} (ready : Ready state workFiles)
    (absent : workFiles.get? (env.realpath filename) = none) (subDir : Option PosixPath) :
    ∃ after, ensureWorkFile env filename subDir state =
        some (.ok (placeIn (inDir (dirOf env state) subDir) (env.realpath filename)), after) ∧
      Ready after (workFiles.set (env.realpath filename)
        (placeIn (inDir (dirOf env state) subDir) (env.realpath filename))) ∧
      after.workDir = some (dirOf env state) ∧
      after.copied = (state.enterWorkDir env).2.copied ++
        [(env.realpath filename,
          placeIn (inDir (dirOf env state) subDir) (env.realpath filename))] := by
  obtain ⟨-, entered, isDir, -⟩ := @enterWorkDir_spec env _ _ ready
  have put : ∀ place, putFile (env.realpath filename) place (state.enterWorkDir env).2 =
      some (.ok (), { (state.enterWorkDir env).2 with
        copied := (state.enterWorkDir env).2.copied ++ [(env.realpath filename, place)] }) :=
    fun _ => rfl
  refine ⟨{ (state.enterWorkDir env).2 with
      workFiles := some (workFiles.set (env.realpath filename)
        (placeIn (inDir (dirOf env state) subDir) (env.realpath filename)))
      copied := (state.enterWorkDir env).2.copied ++ [(env.realpath filename,
        placeIn (inDir (dirOf env state) subDir) (env.realpath filename))] },
    ?_, ⟨rfl, fun noDir => ?_⟩, isDir, rfl⟩
  · unfold ensureWorkFile
    rw [Effect.bind_of_ok (getWorkFile_ready ready _), absent]
    dsimp only
    rw [Effect.bind_of_ok (workDir_ready ready), Effect.bind_of_ok (put _),
      Effect.bind_of_ok (setWorkFile_known (by exact entered.known) _ _)]
    rfl
  · dsimp only at noDir
    rw [isDir] at noDir
    cases noDir

end Steps

/-! ### A list of files -/

section Places

variable {env : Environment} {before : Dict PosixPath PosixPath} {dir : PosixPath}

/-- The place of a source: the one that it had, or the one in the directory. -/
def placeOf (before : Dict PosixPath PosixPath) (dir source : PosixPath) : PosixPath :=
  (before.get? source).getD (placeIn dir source)

/-- Among the loop's turns: every source is where it was, or has been copied to the directory. -/
structure Copying (env : Environment) (before : Dict PosixPath PosixPath)
    (workDir subDir : PosixPath) (state : PlaybookState) (workFiles : Dict PosixPath PosixPath) :
    Prop where
  ready : Ready state workFiles
  sameDir : dirOf env state = workDir
  keys : ∀ source, workFiles.get? source = before.get? source ∨
    (before.get? source = none ∧
      workFiles.get? source = some (placeIn (workDir.join subDir) source) ∧
      (source, placeIn (workDir.join subDir) source) ∈ state.copied)

variable {workDir subDir : PosixPath} {state : PlaybookState}
  {workFiles : Dict PosixPath PosixPath}

theorem ensureWorkFile_copying (copying : Copying env before workDir subDir state workFiles)
    (filename : PosixPath) :
    ∃ after later, ensureWorkFile env filename (some subDir) state =
        some (.ok (placeOf before (workDir.join subDir) (env.realpath filename)), after) ∧
      Copying env before workDir subDir after later ∧
      later.get? (env.realpath filename) =
        some (placeOf before (workDir.join subDir) (env.realpath filename)) ∧
      ∀ source place, workFiles.get? source = some place → later.get? source = some place := by
  cases looked : workFiles.get? (env.realpath filename) with
  | some place =>
      have same : placeOf before (workDir.join subDir) (env.realpath filename) = place := by
        unfold placeOf
        rcases copying.keys (env.realpath filename) with kept | ⟨absent, found, -⟩
        · rw [← kept, looked]
          rfl
        · rw [absent]
          rw [found] at looked
          cases looked
          rfl
      rw [same]
      exact ⟨state, workFiles, ensureWorkFile_recorded copying.ready looked _, copying, looked,
        fun _ _ found => found⟩
  | none =>
      obtain ⟨after, ran, ready, sameDir, copied⟩ :=
        ensureWorkFile_missing copying.ready looked (some subDir)
      have absent : before.get? (env.realpath filename) = none := by
        rcases copying.keys (env.realpath filename) with kept | ⟨absent, -⟩
        · rw [← kept, looked]
        · exact absent
      have same : placeOf before (workDir.join subDir) (env.realpath filename) =
          placeIn (inDir (dirOf env state) (some subDir)) (env.realpath filename) := by
        rw [placeOf, absent, copying.sameDir]
        rfl
      rw [same]
      refine ⟨after, _, ran, ⟨ready, (dirOf_some sameDir).trans copying.sameDir, fun source => ?_⟩,
        by rw [Dict.get?_set, if_pos rfl], fun source place found => ?_⟩
      · by_cases isNew : source = env.realpath filename
        · subst isNew
          refine .inr ⟨absent, ?_, ?_⟩
          · rw [Dict.get?_set, if_pos rfl, copying.sameDir]
            rfl
          · rw [copied, copying.sameDir]
            exact List.mem_append_right _ (List.mem_singleton_self _)
        · rw [Dict.get?_set, if_neg isNew]
          rcases copying.keys source with kept | ⟨absent, found, member⟩
          · exact .inl kept
          · refine .inr ⟨absent, found, ?_⟩
            rw [copied]
            apply List.mem_append_left
            obtain ⟨-, -, -, sameCopies | empty⟩ := @enterWorkDir_spec env _ _ copying.ready
            · rw [sameCopies]
              exact member
            · rw [empty, Dict.get?_empty] at found
              cases found
      · have other : source ≠ env.realpath filename := by
          intro same
          rw [same, looked] at found
          cases found
        rw [Dict.get?_set, if_neg other]
        exact found

variable {fixture : AnsiblePlaybook} {dirname : PosixPath}

/-- With a `sub_dir` all the files go to one directory. -/
theorem ensurePlaybookFiles_copying (playbookFiles : List PosixPath)
    (copying : Copying env before workDir subDir state workFiles) :
    ∃ after later, ensurePlaybookFiles env fixture playbookFiles (some subDir) (some dirname)
        state = some (.ok (playbookFiles.map fun playbookFile =>
          placeOf before (workDir.join subDir) (env.realpath (dirname.join playbookFile))), after) ∧
      Copying env before workDir subDir after later ∧
      (∀ playbookFile ∈ playbookFiles, later.get? (env.realpath (dirname.join playbookFile)) =
        some (placeOf before (workDir.join subDir) (env.realpath (dirname.join playbookFile)))) ∧
      ∀ source place, workFiles.get? source = some place → later.get? source = some place := by
  induction playbookFiles generalizing state workFiles with
  | nil => exact ⟨state, workFiles, rfl, copying, fun _ member => (by cases member),
      fun _ _ found => found⟩
  | cons playbookFile playbookFiles inductionHypothesis =>
      obtain ⟨middle, between, ran, copyingMiddle, first, keptMiddle⟩ :=
        ensureWorkFile_copying copying (dirname.join playbookFile)
      obtain ⟨after, later, ranRest, copyingAfter, rest, keptAfter⟩ :=
        inductionHypothesis copyingMiddle
      have named : (Effect.ofExcept (getPlaybookFilename fixture (some playbookFile)
          (some dirname)) : Work PosixPath) state =
            some (.ok (dirname.join playbookFile), state) := rfl
      refine ⟨after, later, ?_, copyingAfter, fun other member => ?_,
        fun source place found => keptAfter _ _ (keptMiddle _ _ found)⟩
      · have sameSubDir : nextSubDir env (dirname.join playbookFile) (some subDir) (some dirname) =
            some subDir := rfl
        unfold ensurePlaybookFiles
        rw [Effect.bind_of_ok named, sameSubDir, Effect.bind_of_ok ran, Effect.bind_of_ok ranRest]
        rfl
      · rcases List.mem_cons.mp member with rfl | member
        · exact keptAfter _ _ first
        · exact rest other member

end Places

/-! ### Files of a playbook directory -/

/-- A file `p/b`, relative to the directory of the playbook. -/
structure PlaybookFile where
  dir : List Text
  name : Text
  isName : PosixPath.IsName name

def PlaybookFile.path (file : PlaybookFile) : PosixPath := ⟨false, file.dir ++ [file.name]⟩

/-- `work_dir/p` -/
def PlaybookFile.ownDir (workDir : PosixPath) (file : PlaybookFile) : PosixPath :=
  workDir.join ⟨false, file.dir⟩

/-- `work_dir/p/b` -/
def PlaybookFile.ownPlace (workDir : PosixPath) (file : PlaybookFile) : PosixPath :=
  (file.ownDir workDir).join (.ofName file.name)

section Verdict

variable {env : Environment} {fixture : AnsiblePlaybook} {dirname : PosixPath}
  {state : PlaybookState} {before : Dict PosixPath PosixPath}

def PlaybookFile.source (env : Environment) (dirname : PosixPath) (file : PlaybookFile) :
    PosixPath :=
  env.realpath (dirname.join file.path)

/-- Without links a source is its own absolute path. -/
def NoLinks (env : Environment) (dirname : PosixPath) (files : List PlaybookFile) : Prop :=
  ∀ file ∈ files, file.source env dirname = PosixPath.abspath env.cwd (dirname.join file.path)

/-- The directory that is computed for the first file. -/
def subDirOf (env : Environment) (dirname : PosixPath) (file : PlaybookFile) : PosixPath :=
  PosixPath.relpath env.cwd (dirname.join ⟨false, file.dir⟩) dirname

theorem join_path (file : PlaybookFile) :
    dirname.join file.path =
      (dirname.join ⟨false, file.dir⟩).join (.ofName file.name) := by
  rw [PosixPath.join_relative rfl, PosixPath.join_relative rfl, PosixPath.join_relative rfl]
  dsimp only [PlaybookFile.path, PosixPath.ofName]
  rw [List.append_assoc]

theorem nextSubDir_first (file : PlaybookFile) :
    nextSubDir env (dirname.join file.path) none (some dirname) =
      some (subDirOf env dirname file) := by
  have isDir : (dirname.join file.path).dirname = dirname.join ⟨false, file.dir⟩ := by
    rw [PosixPath.join_relative rfl, PosixPath.join_relative rfl, PosixPath.dirname]
    dsimp only [PlaybookFile.path]
    rw [← List.append_assoc, List.dropLast_concat]
  unfold nextSubDir
  dsimp only
  rw [PosixPath.startsWith_join rfl, if_pos rfl, isDir]
  rfl

/-- Each file is where its own relative path says: it had been put there before, or it is copied. -/
structure OwnPlaces (env : Environment) (dirname workDir : PosixPath)
    (before : Dict PosixPath PosixPath) (files : List PlaybookFile) (places : List PosixPath)
    (after : PlaybookState) : Prop where
  places : List.Forall₂ (fun file place => PosixPath.SameFile place (file.ownPlace workDir)) files
    places
  copied : ∀ file ∈ files, (before.get? (file.source env dirname)).isSome ∨
    ∃ place, (file.source env dirname, place) ∈ after.copied ∧
      PosixPath.SameFile place (file.ownPlace workDir)

/-- A file that has no place yet belongs to the directory of the first file of the list, and one that
has a place is at its own. -/
def SharesDir (env : Environment) (dirname workDir : PosixPath)
    (before : Dict PosixPath PosixPath) (first file : PlaybookFile) : Prop :=
  match before.get? (file.source env dirname) with
  | some place => PosixPath.SameFile place (file.ownPlace workDir)
  | none => PosixPath.SameFile (workDir.join (subDirOf env dirname first)) (file.ownDir workDir)

theorem placeIn_source {files : List PlaybookFile} (noLinks : NoLinks env dirname files)
    {file : PlaybookFile} (member : file ∈ files) (dir : PosixPath) :
    placeIn dir (file.source env dirname) = dir.join (.ofName file.name) := by
  rw [placeIn, noLinks file member, join_path, PosixPath.basename_abspath file.isName]

theorem sameFile_placeOf {files : List PlaybookFile} (noLinks : NoLinks env dirname files)
    {file : PlaybookFile} (member : file ∈ files) (first : PlaybookFile) (workDir : PosixPath) :
    PosixPath.SameFile (placeOf before (workDir.join (subDirOf env dirname first))
        (file.source env dirname)) (file.ownPlace workDir) ↔
      SharesDir env dirname workDir before first file := by
  unfold placeOf SharesDir
  cases before.get? (file.source env dirname) with
  | some place => exact .rfl
  | none =>
      dsimp only [Option.getD_none]
      rw [placeIn_source noLinks member]
      exact PosixPath.sameFile_join_name file.isName

theorem ensurePlaybookFiles_first (ready : Ready state before) (first : PlaybookFile)
    (others : List PlaybookFile) :
    ∃ after later, ensurePlaybookFiles env fixture ((first :: others).map PlaybookFile.path) none
        (some dirname) state =
          some (.ok ((first :: others).map fun file =>
            placeOf before ((dirOf env state).join (subDirOf env dirname first))
              (file.source env dirname)), after) ∧
      Copying env before (dirOf env state) (subDirOf env dirname first) after later ∧
      ∀ file ∈ first :: others, later.get? (file.source env dirname) =
        some (placeOf before ((dirOf env state).join (subDirOf env dirname first))
          (file.source env dirname)) := by
  have start : Copying env before (dirOf env state) (subDirOf env dirname first) state before :=
    ⟨ready, rfl, fun _ => .inl rfl⟩
  obtain ⟨middle, between, ran, copyingMiddle, foundFirst, -⟩ :=
    ensureWorkFile_copying start (dirname.join first.path)
  obtain ⟨after, later, ranRest, copyingAfter, found, kept⟩ :=
    @ensurePlaybookFiles_copying _ _ _ _ _ _ fixture dirname (others.map PlaybookFile.path)
      copyingMiddle
  have named : (Effect.ofExcept (getPlaybookFilename fixture (some first.path) (some dirname)) :
      Work PosixPath) state = some (.ok (dirname.join first.path), state) := rfl
  refine ⟨after, later, ?_, copyingAfter, fun file member => ?_⟩
  · rw [List.map_cons]
    unfold ensurePlaybookFiles
    rw [Effect.bind_of_ok named, nextSubDir_first, Effect.bind_of_ok ran, Effect.bind_of_ok ranRest, List.map_map]
    rfl
  · rcases List.mem_cons.mp member with rfl | member
    · exact kept _ _ foundFirst
    · exact found file.path (List.mem_map.mpr ⟨file, member, rfl⟩)

/-- **Playbook files get to their own places exactly as long as they share the directory of the first
one of the list.** -/
theorem ensurePlaybookFiles_places_iff (ready : Ready state before) {files : List PlaybookFile}
    (noLinks : NoLinks env dirname files) :
    ((∃ places after, ensurePlaybookFiles env fixture (files.map PlaybookFile.path) none
        (some dirname) state = some (.ok places, after) ∧
      OwnPlaces env dirname (dirOf env state) before files places after) ↔
        ∀ first ∈ files.head?, ∀ file ∈ files,
          SharesDir env dirname (dirOf env state) before first file) ∧
      ∀ first file : PlaybookFile, before.get? (file.source env dirname) = none →
        (∀ name ∈ first.dir ++ file.dir, PosixPath.IsName name) →
        (SharesDir env dirname (dirOf env state) before first file ↔ file.dir = first.dir) := by
  constructor
  · cases files with
    | nil =>
        refine ⟨fun _ first isFirst => (by cases isFirst), fun _ => ?_⟩
        exact ⟨[], state, rfl, .nil, fun _ member => (by cases member)⟩
    | cons first others =>
        obtain ⟨after, later, ran, copying, found⟩ :=
          @ensurePlaybookFiles_first env fixture dirname state before ready first others
        constructor
        · rintro ⟨places, other, ranAgain, own⟩ _ isFirst file member
          cases isFirst
          rw [ran] at ranAgain
          cases ranAgain
          rw [← sameFile_placeOf noLinks member]
          have alike := own.places
          rw [List.forall₂_map_right_iff, List.forall₂_same] at alike
          exact alike file member
        · intro shares
          have own : ∀ file ∈ first :: others, PosixPath.SameFile
              (placeOf before ((dirOf env state).join (subDirOf env dirname first))
                (file.source env dirname)) (file.ownPlace (dirOf env state)) :=
            fun file member => (sameFile_placeOf noLinks member first _).mpr
              (shares first rfl file member)
          refine ⟨_, after, ran, ?_, fun file member => ?_⟩
          · rw [List.forall₂_map_right_iff, List.forall₂_same]
            exact own
          · rcases copying.keys (file.source env dirname) with kept | ⟨absent, isPlace, copied⟩
            · left
              rw [← kept, found file member]
              rfl
            · right
              have isOwn := own file member
              rw [placeOf, absent] at isOwn
              exact ⟨_, copied, isOwn⟩
  · intro first file absent areNames
    have firstNames : ∀ name ∈ first.dir, PosixPath.IsName name :=
      fun name member => areNames name (List.mem_append_left _ member)
    have fileNames : ∀ name ∈ file.dir, PosixPath.IsName name :=
      fun name member => areNames name (List.mem_append_right _ member)
    unfold SharesDir subDirOf PlaybookFile.ownDir
    rw [absent, PosixPath.relpath_join firstNames]
    dsimp only
    split
    · rename_i empty
      rw [empty, ← @PosixPath.sameFile_join_names (dirOf env state) file.dir [] fileNames
        fun name member => (by cases member)]
      have here := PosixPath.sameFile_here (dirOf env state)
      have root : (dirOf env state).join ⟨false, []⟩ = dirOf env state := by
        rw [PosixPath.join_relative rfl, List.append_nil]
      rw [root]
      exact ⟨fun same => same.symm.trans here, fun same => here.trans same.symm⟩
    · rw [PosixPath.sameFile_join_names _ firstNames fileNames]
      exact eq_comm

/-! ### Two directories -/

/-- A host without links, whose files are all there. -/
def plainHost : Environment where
  cwd := []
  realpath := PosixPath.abspath []
  realpathIdem := PosixPath.abspath_abspath []
  isFile := fun _ => true
  isDir := fun _ => true
  tobikoConfigPath := id
  inventoryFiles := []
  tempDir := fun number => ⟨true, ["tmp".toList, List.replicate number 'x']⟩

def playbooksDir : PosixPath := ⟨true, ["playbooks".toList]⟩

/-- The file `{dir}/{name}`, whose directory and name are single letters. -/
def letterFile (dir name : Char) (isName : PosixPath.IsName [name]) : PlaybookFile :=
  ⟨[[dir]], [name], isName⟩

def fileX : PlaybookFile := letterFile 'a' 'x' ⟨by decide, by decide, by decide⟩

def fileY : PlaybookFile := letterFile 'a' 'y' ⟨by decide, by decide, by decide⟩

def fileZ : PlaybookFile := letterFile 'b' 'z' ⟨by decide, by decide, by decide⟩

theorem ensurePlaybookFiles_ofOneDir :
    ∃ places after, ensurePlaybookFiles plainHost {} ([fileX, fileY].map PlaybookFile.path) none
        (some playbooksDir) (PlaybookState.new none) = some (.ok places, after) ∧
      OwnPlaces plainHost playbooksDir (dirOf plainHost (PlaybookState.new none)) Dict.empty
        [fileX, fileY] places after := by
  have verdict := @ensurePlaybookFiles_places_iff plainHost {} playbooksDir
    (PlaybookState.new none) Dict.empty ⟨rfl, fun _ => rfl⟩ [fileX, fileY]
    (fun _ _ => rfl)
  apply verdict.1.mpr
  intro first isFirst file member
  cases isFirst
  have areNames : ∀ name ∈ fileX.dir ++ file.dir, PosixPath.IsName name := by
    have all : ∀ file ∈ [fileX, fileY], ∀ name ∈ fileX.dir ++ file.dir, name = ['a'] := by decide
    intro name isName
    rw [all file member name isName]
    exact ⟨by decide, by decide, by decide⟩
  apply (verdict.2 fileX file rfl areNames).mpr
  have sameDir : ∀ file ∈ [fileX, fileY], file.dir = fileX.dir := by decide
  exact sameDir file member

/-- A file of another directory follows the first one. -/
theorem ensurePlaybookFiles_ofTwoDirs :
    NoLinks plainHost playbooksDir [fileX, fileZ] ∧
      ¬ ∃ places after, ensurePlaybookFiles plainHost {} ([fileX, fileZ].map PlaybookFile.path) none
          (some playbooksDir) (PlaybookState.new none) = some (.ok places, after) ∧
        OwnPlaces plainHost playbooksDir (dirOf plainHost (PlaybookState.new none)) Dict.empty
          [fileX, fileZ] places after := by
  constructor
  · exact fun _ _ => rfl
  · rintro ⟨places, after, ran, own⟩
    have computed : ∃ later, ensurePlaybookFiles plainHost {}
        ([fileX, fileZ].map PlaybookFile.path) none (some playbooksDir) (PlaybookState.new none) =
          some (.ok [(fileX.ownDir (plainHost.tempDir 0)).join (.ofName ['x']),
            (fileX.ownDir (plainHost.tempDir 0)).join (.ofName ['z'])], later) := ⟨_, rfl⟩
    obtain ⟨later, computed⟩ := computed
    rw [computed] at ran
    cases ran
    cases own.places with
    | cons _ rest =>
        cases rest with
        | cons same _ => exact absurd (same []) (by decide)

end Verdict

end Tobiko.Shell.Ansible
