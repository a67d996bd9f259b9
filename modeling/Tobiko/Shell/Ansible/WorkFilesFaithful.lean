import Tobiko.Shell.Ansible.PlaybookPlaces
import Tobiko.Shell.Ansible.RunRequests

/-!
Contract: when the work files of a playbook are faithful copies of their sources.

Owns: what one request does to the work files, the condition under which it keeps them faithful, the
states that are reached by runs and clean ups, and what becomes of a run behind a clean up.

Does not own: copies that fail.
-/

namespace Tobiko.Shell.Ansible

open Tobiko.Foundation

/-- No two sources have one place, and each has been copied to its own since the work directory was
created. The places are those of a host, with the directory in which its connection works. -/
structure Faithful (env : Environment) (cwd : List Text) (state : PlaybookState) : Prop where
  distinct : ∀ workFiles ∈ state.workFiles, ∀ left right leftPlace rightPlace,
    workFiles.get? left = some leftPlace → workFiles.get? right = some rightPlace →
      env.realpath left ≠ env.realpath right →
        PosixPath.abspath cwd leftPlace ≠ PosixPath.abspath cwd rightPlace
  copied : ∀ workFiles ∈ state.workFiles, ∀ source place, workFiles.get? source = some place →
    ∃ copy, (env.realpath source, copy) ∈ state.copied ∧
      PosixPath.abspath cwd copy = PosixPath.abspath cwd place

/-! ### What keeps the work files faithful -/

/-- Files that are brought together: each source gets to the place that is kept for its name, or is
there already, and no other source has that place. -/
structure BringsApart (env : Environment) (cwd : List Text) (dir : PosixPath)
    (workFiles : Dict PosixPath PosixPath) (copied : List (PosixPath × PosixPath))
    (filenames : List PosixPath) : Prop where
  sources : ∀ filename ∈ filenames,
    (workFiles.get? (env.realpath filename) = none ∧
      PosixPath.abspath cwd (placeIn dir (env.realpath filename)) =
        PosixPath.abspath cwd (placeIn dir filename)) ∨
    ∃ copy, (env.realpath filename, copy) ∈ copied ∧
      PosixPath.abspath cwd copy = PosixPath.abspath cwd (placeIn dir filename)
  together : ∀ left ∈ filenames, ∀ right ∈ filenames, env.realpath left ≠ env.realpath right →
    PosixPath.abspath cwd (placeIn dir left) ≠ PosixPath.abspath cwd (placeIn dir right)
  others : ∀ filename ∈ filenames, ∀ other place, workFiles.get? other = some place →
    other ∉ filenames → env.realpath other ≠ env.realpath filename →
      PosixPath.abspath cwd place ≠ PosixPath.abspath cwd (placeIn dir filename)

/-- Nothing has been cleaned up, and what is copied takes no place of another source. -/
def Request.Meets (env : Environment) (cwd : List Text) (state : PlaybookState) : Request → Prop
  | .one filename subDir => ∃ workFiles ∈ state.workFiles,
      (workFiles.get? (env.realpath filename)).isSome ∨
      ∀ other place, workFiles.get? other = some place →
        env.realpath other ≠ env.realpath filename →
          PosixPath.abspath cwd place ≠ PosixPath.abspath cwd
            (placeIn (inDir (dirOf env state) subDir) (env.realpath filename))
  | .many filenames subDir => filenames = [] ∨ ∃ workFiles ∈ state.workFiles,
      (∀ filename ∈ filenames, (workFiles.get? (env.realpath filename)).isSome) ∨
      BringsApart env cwd (inDir (dirOf env state) subDir) workFiles state.copied filenames
  | .dir => True

/-- The requests that are left of the last run, and the state in which they are. -/
inductive Reached (env : Environment) (fixture : AnsiblePlaybook) (cwd : List Text)
    (givenDir : Option PosixPath) : List Request → PlaybookState → Prop
  | new : Reached env fixture cwd givenDir [] (.new givenDir)
  | run {state : PlaybookState} (arguments : RunArguments) :
      Reached env fixture cwd givenDir [] state →
      Reached env fixture cwd givenDir (runProgram env fixture arguments).requests state
  | perform {request : Request} {pending : List Request} {state after : PlaybookState} :
      Reached env fixture cwd givenDir (request :: pending) state →
      request.Meets env cwd state → request.perform env state = some (.ok (), after) →
      Reached env fixture cwd givenDir pending after
  | cleanup {state : PlaybookState} : Reached env fixture cwd givenDir [] state →
      Reached env fixture cwd givenDir [] state.cleanup

/-- A run ends as it does with a new work directory, which has the same copies then. -/
def LikeFirst (env : Environment) (fixture : AnsiblePlaybook) (arguments : RunArguments)
    (state : PlaybookState) : Prop :=
  (runPlaybook env fixture arguments state).map
      (fun ended => (ended.1, ended.2.workDir, ended.2.copied)) =
    (runPlaybook env fixture arguments ⟨none, some Dict.empty, state.madeDirs, []⟩).map
      (fun ended => (ended.1, ended.2.workDir, ended.2.copied))

/-! ### One request -/

section Steps

variable {env : Environment} {cwd : List Text} {state : PlaybookState}
  {workFiles : Dict PosixPath PosixPath} {filenames : List PosixPath}

theorem enterWorkDir_copied (noneBefore : state.workDir = none → state.copied = []) :
    (state.enterWorkDir env).2.copied = state.copied := by
  obtain ⟨workDir, files, madeDirs, copied⟩ := state
  cases workDir with
  | some dir => rfl
  | none => exact (noneBefore rfl).symm

/-- The sources that are to be copied. -/
def missingFilenames (env : Environment) (workFiles : Dict PosixPath PosixPath)
    (filenames : List PosixPath) : List PosixPath :=
  sortPaths ((filenames.map env.realpath).filter fun filename =>
    workFiles.get? filename = none).dedup

def PlaybookState.withCopies (state : PlaybookState) (filenames : List PosixPath)
    (dir : PosixPath) : PlaybookState :=
  { state with copied := state.copied ++ filenames.map fun name => (name, placeIn dir name) }

theorem setWorkFiles_known (known : state.workFiles = some workFiles) (dir : PosixPath)
    (filenames : List PosixPath) :
    ∃ later, setWorkFiles dir filenames state =
        some (.ok (), { state with workFiles := some later }) ∧
      ∀ key, later.get? key =
        if key ∈ filenames then some (placeIn dir key) else workFiles.get? key := by
  induction filenames generalizing state workFiles with
  | nil =>
      refine ⟨workFiles, ?_, fun key => ?_⟩
      · rw [← known]
        rfl
      · rw [if_neg List.not_mem_nil]
  | cons filename filenames inductionHypothesis =>
      have isKnown : ({ state with
          workFiles := some (workFiles.set filename (placeIn dir filename)) } :
            PlaybookState).workFiles = some (workFiles.set filename (placeIn dir filename)) := rfl
      obtain ⟨later, ran, found⟩ := inductionHypothesis isKnown
      refine ⟨later, ?_, fun key => ?_⟩
      · unfold setWorkFiles
        rw [Effect.bind_of_ok (setWorkFile_known known _ _), ran]
      · rw [found]
        by_cases behind : key ∈ filenames
        · rw [if_pos behind, if_pos (List.mem_cons_of_mem _ behind)]
        · rw [if_neg behind, Dict.get?_set]
          by_cases isFirst : key = filename
          · rw [if_pos isFirst, isFirst, if_pos List.mem_cons_self]
          · rw [if_neg isFirst, if_neg fun member =>
              (List.mem_cons.mp member).elim isFirst behind]

theorem lookUpWorkFiles_known (known : state.workFiles = some workFiles)
    (filenames : List PosixPath) :
    lookUpWorkFiles filenames state = some (.ok workFiles, state) := by
  have got : (Effect.get : Work PlaybookState) state = some (.ok state, state) := rfl
  unfold lookUpWorkFiles
  rw [Effect.bind_of_ok got, known]
  rfl

/-- Nothing is looked up for no files. -/
theorem ensureWorkFiles_none (env : Environment) (state : PlaybookState)
    (subDir : Option PosixPath) :
    ∃ places, ensureWorkFiles env [] subDir state = some (.ok places, state) := by
  obtain ⟨workDir, files, madeDirs, copied⟩ := state
  cases files with
  | none => exact ⟨_, rfl⟩
  | some workFiles => exact ⟨_, rfl⟩

theorem ensureWorkFiles_recorded (known : state.workFiles = some workFiles)
    (found : ∀ filename ∈ filenames, (workFiles.get? (env.realpath filename)).isSome)
    (subDir : Option PosixPath) :
    ∃ places, ensureWorkFiles env filenames subDir state = some (.ok places, state) := by
  have noneMissing :
      (filenames.map env.realpath).filter (fun filename => workFiles.get? filename = none) = [] := by
    rw [List.filter_eq_nil_iff]
    intro source member absent
    obtain ⟨filename, isMember, rfl⟩ := List.mem_map.mp member
    have present := found filename isMember
    rw [of_decide_eq_true absent] at present
    cases present
  unfold ensureWorkFiles
  rw [Effect.bind_of_ok (lookUpWorkFiles_known known _)]
  dsimp only
  rw [if_pos noneMissing]
  exact ⟨_, rfl⟩

/-- Files of which one is not there yet are all kept in mind under their given names. -/
theorem ensureWorkFiles_missing (ready : Ready state workFiles)
    (missing : ∃ filename ∈ filenames, workFiles.get? (env.realpath filename) = none)
    (subDir : Option PosixPath) :
    ∃ places after later, ensureWorkFiles env filenames subDir state = some (.ok places, after) ∧
      after.workDir = some (dirOf env state) ∧ after.workFiles = some later ∧
      (∀ key, later.get? key = if key ∈ filenames
        then some (placeIn (inDir (dirOf env state) subDir) key) else workFiles.get? key) ∧
      (∀ copy ∈ (state.enterWorkDir env).2.copied, copy ∈ after.copied) ∧
      ∀ filename ∈ filenames, workFiles.get? (env.realpath filename) = none →
        (env.realpath filename,
          placeIn (inDir (dirOf env state) subDir) (env.realpath filename)) ∈ after.copied := by
  have isMissing : ∀ filename ∈ filenames, workFiles.get? (env.realpath filename) = none →
      env.realpath filename ∈
        (filenames.map env.realpath).filter (fun filename => workFiles.get? filename = none) :=
    fun filename member absent =>
      List.mem_filter.mpr ⟨List.mem_map_of_mem member, decide_eq_true absent⟩
  have someMissing :
      (filenames.map env.realpath).filter (fun filename => workFiles.get? filename = none) ≠ [] := by
    obtain ⟨filename, member, absent⟩ := missing
    exact List.ne_nil_of_mem (isMissing filename member absent)
  obtain ⟨-, entered, isDir, -⟩ := @enterWorkDir_spec env _ _ ready
  have put : putFiles (missingFilenames env workFiles filenames) (inDir (dirOf env state) subDir)
      (state.enterWorkDir env).2 = some (.ok (), (state.enterWorkDir env).2.withCopies
        (missingFilenames env workFiles filenames) (inDir (dirOf env state) subDir)) := rfl
  obtain ⟨later, ran, found⟩ := @setWorkFiles_known
    ((state.enterWorkDir env).2.withCopies (missingFilenames env workFiles filenames)
      (inDir (dirOf env state) subDir))
    workFiles entered.known (inDir (dirOf env state) subDir) filenames
  refine ⟨sortPaths ((filenames.map env.realpath).filterMap workFiles.get? ++
      filenames.map (placeIn (inDir (dirOf env state) subDir))).dedup,
    { (state.enterWorkDir env).2.withCopies (missingFilenames env workFiles filenames)
        (inDir (dirOf env state) subDir) with workFiles := some later },
    later, ?_, isDir, rfl, found, ?_, ?_⟩
  · unfold ensureWorkFiles
    rw [Effect.bind_of_ok (lookUpWorkFiles_known ready.known _)]
    dsimp only
    rw [if_neg someMissing, Effect.bind_of_ok (workDir_ready ready)]
    apply (Effect.bind_of_ok put).trans
    rw [Effect.bind_of_ok ran]
    rfl
  · intro copy member
    exact List.mem_append_left _ member
  · intro filename member absent
    apply List.mem_append_right
    apply List.mem_map_of_mem
    unfold missingFilenames sortPaths
    rw [List.mem_insertionSort, List.mem_dedup]
    exact isMissing filename member absent

/-! ### What a request keeps -/

/-- A state between two requests. -/
structure Sound (env : Environment) (cwd : List Text) (state : PlaybookState) : Prop where
  faithful : Faithful env cwd state
  noneBefore : state.workDir = none → state.copied = []
  emptyBefore : state.workDir = none → ∀ workFiles ∈ state.workFiles, workFiles = Dict.empty

theorem Sound.ready (sound : Sound env cwd state) (known : state.workFiles = some workFiles) :
    Ready state workFiles :=
  ⟨known, fun noDir => sound.emptyBefore noDir workFiles known⟩

theorem faithful_empty (known : ∀ workFiles ∈ state.workFiles, workFiles = Dict.empty) :
    Faithful env cwd state := by
  constructor
  · intro workFiles isKnown left right leftPlace rightPlace found
    rw [known workFiles isKnown] at found
    cases found
  · intro workFiles isKnown source place found
    rw [known workFiles isKnown] at found
    cases found

theorem ensureWorkFile_sound (sound : Sound env cwd state) {filename : PosixPath}
    {subDir : Option PosixPath} (meets : (Request.one filename subDir).Meets env cwd state) :
    ∃ place after, ensureWorkFile env filename subDir state = some (.ok place, after) ∧
      Sound env cwd after := by
  obtain ⟨workFiles, known, apart⟩ := meets
  have ready := sound.ready known
  cases looked : workFiles.get? (env.realpath filename) with
  | some place => exact ⟨place, state, ensureWorkFile_recorded ready looked _, sound⟩
  | none =>
      have isApart := apart.resolve_left (by rw [looked]; exact Bool.false_ne_true)
      obtain ⟨after, ran, readyAfter, isDir, copied⟩ := ensureWorkFile_missing ready looked subDir
      rw [enterWorkDir_copied sound.noneBefore] at copied
      refine ⟨_, after, ran, ⟨?_, ?_⟩, ?_, ?_⟩
      · intro later isLater left right leftPlace rightPlace leftFound rightFound other
        cases readyAfter.known.symm.trans isLater
        rw [Dict.get?_set] at leftFound rightFound
        split at leftFound
        · rename_i leftNew
          cases leftFound
          split at rightFound
          · rename_i rightNew
            exact absurd (congrArg env.realpath (leftNew.trans rightNew.symm)) other
          · rw [leftNew, env.realpathIdem] at other
            exact (isApart right rightPlace rightFound other.symm).symm
        · split at rightFound
          · rename_i rightNew
            cases rightFound
            rw [rightNew, env.realpathIdem] at other
            exact isApart left leftPlace leftFound other
          · exact sound.faithful.distinct workFiles known left right _ _ leftFound rightFound other
      · intro later isLater source place found
        cases readyAfter.known.symm.trans isLater
        rw [Dict.get?_set] at found
        rw [copied]
        split at found
        · rename_i isNew
          cases found
          rw [isNew, env.realpathIdem]
          exact ⟨_, List.mem_append_right _ (List.mem_singleton_self _), rfl⟩
        · obtain ⟨copy, member, same⟩ := sound.faithful.copied workFiles known source place found
          exact ⟨copy, List.mem_append_left _ member, same⟩
      · intro noDir
        rw [isDir] at noDir
        cases noDir
      · intro noDir
        rw [isDir] at noDir
        cases noDir

theorem ensureWorkFiles_sound (sound : Sound env cwd state) {subDir : Option PosixPath}
    (meets : (Request.many filenames subDir).Meets env cwd state) :
    ∃ places after, ensureWorkFiles env filenames subDir state = some (.ok places, after) ∧
      Sound env cwd after := by
  rcases meets with rfl | ⟨workFiles, known, apart⟩
  · obtain ⟨places, ran⟩ := ensureWorkFiles_none env state subDir
    exact ⟨places, state, ran, sound⟩
  · by_cases recorded : ∀ filename ∈ filenames, (workFiles.get? (env.realpath filename)).isSome
    · obtain ⟨places, ran⟩ := ensureWorkFiles_recorded known recorded subDir
      exact ⟨places, state, ran, sound⟩
    · have brings := apart.resolve_left recorded
      have missing : ∃ filename ∈ filenames, workFiles.get? (env.realpath filename) = none := by
        by_contra noneMissing
        apply recorded
        intro filename member
        rw [← Option.ne_none_iff_isSome]
        exact fun absent => noneMissing ⟨filename, member, absent⟩
      obtain ⟨places, after, later, ran, isDir, isLater, found, kept, brought⟩ :=
        ensureWorkFiles_missing (sound.ready known) missing subDir
      rw [enterWorkDir_copied sound.noneBefore] at kept
      have hasDir : after.workDir ≠ none := by
        rw [isDir]
        exact Option.some_ne_none _
      refine ⟨places, after, ran, ⟨?_, ?_⟩, fun noDir => absurd noDir hasDir,
        fun noDir => absurd noDir hasDir⟩
      · intro others isOthers left right leftPlace rightPlace leftFound rightFound other
        cases isLater.symm.trans isOthers
        rw [found] at leftFound rightFound
        split at leftFound
        · rename_i leftIn
          cases leftFound
          split at rightFound
          · rename_i rightIn
            cases rightFound
            exact brings.together left leftIn right rightIn other
          · rename_i rightOut
            exact (brings.others left leftIn right rightPlace rightFound rightOut other.symm).symm
        · rename_i leftOut
          split at rightFound
          · rename_i rightIn
            cases rightFound
            exact brings.others right rightIn left leftPlace leftFound leftOut other
          · exact sound.faithful.distinct workFiles known left right _ _ leftFound rightFound other
      · intro others isOthers source place isFound
        cases isLater.symm.trans isOthers
        rw [found] at isFound
        split at isFound
        · rename_i isIn
          cases isFound
          rcases brings.sources source isIn with ⟨absent, same⟩ | ⟨copy, member, same⟩
          · exact ⟨_, brought source isIn absent, same⟩
          · exact ⟨copy, kept _ member, same⟩
        · obtain ⟨copy, member, same⟩ := sound.faithful.copied workFiles known source place isFound
          exact ⟨copy, kept _ member, same⟩

theorem enterWorkDir_sound (sound : Sound env cwd state) :
    Sound env cwd (state.enterWorkDir env).2 := by
  obtain ⟨workDir, files, madeDirs, copied⟩ := state
  cases workDir with
  | some dir => exact sound
  | none =>
      refine ⟨faithful_empty fun workFiles known => ?_, fun noDir => ?_, fun noDir => ?_⟩
      · cases known
        rfl
      · cases noDir
      · cases noDir

/-- A request that meets the condition is done, and keeps the work files faithful. -/
theorem perform_sound (sound : Sound env cwd state) {request : Request}
    (meets : request.Meets env cwd state) :
    ∃ after, request.perform env state = some (.ok (), after) ∧ Sound env cwd after := by
  cases request with
  | one filename subDir =>
      obtain ⟨place, after, ran, soundAfter⟩ := ensureWorkFile_sound sound meets
      refine ⟨after, ?_, soundAfter⟩
      rw [Request.perform, Effect.bind_of_ok ran]
      rfl
  | many filenames subDir =>
      obtain ⟨places, after, ran, soundAfter⟩ := ensureWorkFiles_sound sound meets
      refine ⟨after, ?_, soundAfter⟩
      rw [Request.perform, Effect.bind_of_ok ran]
      rfl
  | dir => exact ⟨_, rfl, enterWorkDir_sound sound⟩

theorem reached_sound {fixture : AnsiblePlaybook} {givenDir : Option PosixPath}
    {pending : List Request} (reached : Reached env fixture cwd givenDir pending state) :
    Sound env cwd state := by
  induction reached with
  | new =>
      refine ⟨faithful_empty fun workFiles known => ?_, fun _ => rfl, fun _ workFiles known => ?_⟩
      · cases known
        rfl
      · cases known
        rfl
  | run arguments _ inductionHypothesis => exact inductionHypothesis
  | perform _ meets ran inductionHypothesis =>
      obtain ⟨after, ranAgain, sound⟩ := perform_sound inductionHypothesis meets
      cases ran.symm.trans ranAgain
      exact sound
  | cleanup _ _ =>
      refine ⟨faithful_empty fun workFiles known => ?_, fun _ => rfl, fun _ workFiles known => ?_⟩
      · cases known
      · cases known

/-! ### Behind a clean up -/

section Cleaned

variable {env : Environment} {fixture : AnsiblePlaybook} {state : PlaybookState}
  {workFiles : Dict PosixPath PosixPath} {program : Program} {Value : Type} {effect : Work Value}

theorem raises_iff (performs : Performs env program effect) {error : PlaybookError}
    {after : PlaybookState} :
    effect state = some (.error error, after) ↔
      program.perform env state = some (.error error, after) := by
  rw [← performs]
  constructor
  · exact Effect.bind_of_error
  · intro raised
    change Effect.bind effect (fun _ => pure ()) state = _ at raised
    unfold Effect.bind at raised
    split at raised
    · cases raised
    · rename_i failed
      rw [failed]
      cases raised
      rfl
    · cases raised

/-- As long as the work files are known no request raises. -/
theorem perform_ready (ready : Ready state workFiles) (request : Request) :
    ∃ after later, request.perform env state = some (.ok (), after) ∧ Ready after later := by
  cases request with
  | one filename subDir =>
      cases looked : workFiles.get? (env.realpath filename) with
      | some place =>
          refine ⟨state, workFiles, ?_, ready⟩
          rw [Request.perform, Effect.bind_of_ok (ensureWorkFile_recorded ready looked subDir)]
          rfl
      | none =>
          obtain ⟨after, ran, readyAfter, -⟩ := ensureWorkFile_missing ready looked subDir
          refine ⟨after, _, ?_, readyAfter⟩
          rw [Request.perform, Effect.bind_of_ok ran]
          rfl
  | many filenames subDir =>
      by_cases missing : ∃ filename ∈ filenames, workFiles.get? (env.realpath filename) = none
      · obtain ⟨places, after, later, ran, isDir, isLater, -⟩ :=
          ensureWorkFiles_missing ready missing subDir
        refine ⟨after, later, ?_, isLater, fun noDir => ?_⟩
        · rw [Request.perform, Effect.bind_of_ok ran]
          rfl
        · rw [isDir] at noDir
          cases noDir
      · have found : ∀ filename ∈ filenames,
            (workFiles.get? (env.realpath filename)).isSome := by
          intro filename member
          rw [← Option.ne_none_iff_isSome]
          exact fun absent => missing ⟨filename, member, absent⟩
        obtain ⟨places, ran⟩ := ensureWorkFiles_recorded ready.known found subDir
        refine ⟨state, workFiles, ?_, ready⟩
        rw [Request.perform, Effect.bind_of_ok ran]
        rfl
  | dir =>
      obtain ⟨-, entered, -⟩ := @enterWorkDir_spec env _ _ ready
      exact ⟨_, workFiles, rfl, entered⟩

theorem performAll_ready (ready : Ready state workFiles) (requests : List Request) :
    ∃ after, performAll env requests state = some (.ok (), after) := by
  induction requests generalizing state workFiles with
  | nil => exact ⟨state, rfl⟩
  | cons request requests inductionHypothesis =>
      obtain ⟨middle, later, ran, readyMiddle⟩ := @perform_ready env state workFiles ready request
      obtain ⟨after, ranRest⟩ := inductionHypothesis readyMiddle
      refine ⟨after, ?_⟩
      rw [performAll, Effect.bind_of_ok ran, ranRest]

/-- The errors that a run plans are those of names and roles. -/
def Program.Regular (program : Program) : Prop := program.error ≠ some .attributeError

theorem regular_andThen {first next : Program} (firstRegular : first.Regular)
    (nextRegular : next.Regular) : (first.andThen next).Regular := by
  obtain ⟨requests, error⟩ := first
  cases error with
  | none => exact nextRegular
  | some error => exact firstRegular

theorem regular_request (request : Request) : (Program.request request).Regular :=
  fun isError => (by cases isError)

theorem regular_done : Program.done.Regular := fun isError => (by cases isError)

theorem regular_playbookName {basename dirname : Option PosixPath} {next : PosixPath → Program}
    (nextRegular : ∀ filename, (next filename).Regular) :
    (Program.behind (getPlaybookFilename fixture basename dirname) next).Regular := by
  unfold getPlaybookFilename
  cases dirname.or fixture.playbookDirname with
  | none => exact fun isError => (by cases isError)
  | some dirname => exact nextRegular _

theorem regular_playbookProgram (playbookFiles : List PosixPath)
    (subDir dirname : Option PosixPath) :
    (playbookProgram env fixture playbookFiles subDir dirname).Regular := by
  induction playbookFiles generalizing subDir with
  | nil => exact regular_done
  | cons playbookFile playbookFiles inductionHypothesis =>
      unfold playbookProgram
      apply regular_playbookName
      intro filename
      exact regular_andThen (regular_request _) (inductionHypothesis _)

theorem error_behind {First Last : Type} {result : Except PlaybookError First}
    {next : First → Last} {error : PlaybookError}
    (raised : (do let value ← result; Except.ok (next value)) = .error error) :
    result = .error error := by
  cases result with
  | error other =>
      cases raised
      rfl
  | ok value => cases raised

theorem findRoles_error {roles : List Text} {dirname : Option PosixPath}
    {rolesPath : Option (List PosixPath)} :
    findRoles env fixture roles dirname rolesPath ≠ .error .attributeError := by
  induction roles generalizing dirname rolesPath with
  | nil => exact fun isError => (by cases isError)
  | cons role roles inductionHypothesis =>
      intro isError
      unfold findRoles at isError
      dsimp only at isError
      split at isError
      · cases isError
      · exact inductionHypothesis (error_behind isError)

theorem regular_rolesProgram (roles : Option (List Text)) (dirname : Option PosixPath)
    (rolesPath : Option (List PosixPath)) :
    (rolesProgram env fixture roles dirname rolesPath).Regular := by
  cases roles with
  | none => exact regular_done
  | some roles =>
      unfold rolesProgram
      dsimp only
      cases found : findRoles env fixture roles dirname rolesPath with
      | ok roleDirs => exact regular_request _
      | error error =>
          intro isError
          cases isError
          exact findRoles_error found

theorem regular_runProgram (arguments : RunArguments) :
    (runProgram env fixture arguments).Regular := by
  unfold runProgram
  apply regular_andThen
  · unfold inventoryProgram
    split
    · exact regular_done
    · exact regular_andThen (regular_request _) (regular_request _)
  · have behindName : ∀ filename, ((Program.request (.one filename none)).andThen
        ((playbookProgram env fixture (arguments.playbookFiles.getD []) none
            (some filename.dirname)).andThen
          ((rolesProgram env fixture arguments.roles (some filename.dirname)
              arguments.rolesPath).andThen
            ((collectionsProgram env fixture arguments.requirementsFiles
              (some filename.dirname)).andThen (.request .dir))))).Regular := by
      intro filename
      apply regular_andThen (regular_request _)
      apply regular_andThen (regular_playbookProgram _ _ _)
      apply regular_andThen
      · exact regular_rolesProgram _ _ _
      · apply regular_andThen
        · unfold collectionsProgram
          dsimp only
          split
          · exact regular_done
          · exact regular_andThen (regular_playbookProgram _ _ _) (regular_request _)
        · exact regular_request _
    unfold RunArguments.filename
    split
    · exact behindName _
    · exact regular_playbookName behindName

/-- Behind a clean up a request for a file raises. -/
theorem perform_cleaned (cleaned : state.workFiles = none) {request : Request}
    (asks : (∃ filename subDir, request = .one filename subDir) ∨
      ∃ filenames subDir, request = .many filenames subDir ∧ filenames ≠ []) :
    request.perform env state = some (.error .attributeError, state) := by
  have got : (Effect.get : Work PlaybookState) state = some (.ok state, state) := rfl
  rcases asks with ⟨filename, subDir, rfl⟩ | ⟨filenames, subDir, rfl, some_⟩
  · have raised : ensureWorkFile env filename subDir state =
        some (.error .attributeError, state) := by
      unfold ensureWorkFile
      apply Effect.bind_of_error
      unfold getWorkFile
      rw [Effect.bind_of_ok got, cleaned]
      rfl
    rw [Request.perform, Effect.bind_of_error raised]
  · have raised : ensureWorkFiles env filenames subDir state =
        some (.error .attributeError, state) := by
      unfold ensureWorkFiles
      apply Effect.bind_of_error
      unfold lookUpWorkFiles
      rw [Effect.bind_of_ok got, cleaned]
      dsimp only
      rw [if_neg some_]
      rfl
    rw [Request.perform, Effect.bind_of_error raised]

/-- A run that asks for a file raises behind a clean up, and does not without one. -/
theorem runPlaybook_cleaned (cleaned : state.workFiles = none) {arguments : RunArguments}
    (asks : inventorySources env fixture arguments.inventoryFilenames ≠ [] ∨
      ∃ filename, arguments.filename env fixture = .ok filename) :
    runPlaybook env fixture arguments state = some (.error .attributeError, state) := by
  rw [raises_iff (runPlaybook_performs arguments)]
  have first : ∃ request requests error, runProgram env fixture arguments =
      ⟨request :: requests, error⟩ ∧
        ((∃ filename subDir, request = .one filename subDir) ∨
          ∃ filenames subDir, request = .many filenames subDir ∧ filenames ≠ []) := by
    unfold runProgram inventoryProgram
    by_cases noSources : inventorySources env fixture arguments.inventoryFilenames = []
    · obtain ⟨filename, isName⟩ := asks.resolve_left fun sources => sources noSources
      rw [if_pos noSources, isName]
      exact ⟨_, _, _, rfl, .inl ⟨filename, none, rfl⟩⟩
    · rw [if_neg noSources]
      exact ⟨_, _, _, rfl, .inr ⟨_, _, rfl, noSources⟩⟩
  obtain ⟨request, requests, error, isProgram, isAsking⟩ := first
  rw [isProgram]
  unfold Program.perform
  apply Effect.bind_of_error
  dsimp only [performAll]
  exact Effect.bind_of_error (perform_cleaned cleaned isAsking)

theorem runPlaybook_regular (ready : Ready state workFiles) (arguments : RunArguments)
    (after : PlaybookState) :
    runPlaybook env fixture arguments state ≠ some (.error .attributeError, after) := by
  rw [Ne, raises_iff (runPlaybook_performs arguments)]
  intro raised
  obtain ⟨middle, ran⟩ :=
    @performAll_ready env state workFiles ready (runProgram env fixture arguments).requests
  unfold Program.perform at raised
  rw [Effect.bind_of_ok ran] at raised
  have regular := @regular_runProgram env fixture arguments
  unfold Program.Regular at regular
  cases isError : (runProgram env fixture arguments).error with
  | none =>
      rw [isError] at raised
      cases raised
  | some error =>
      rw [isError] at raised
      cases raised
      exact regular isError

/-- A run behind a clean up is like a first one if and only if it does not ask for any file. -/
theorem likeFirst_cleanup (state : PlaybookState) (arguments : RunArguments) :
    LikeFirst env fixture arguments state.cleanup ↔
      inventorySources env fixture arguments.inventoryFilenames = [] ∧
        ∃ error, arguments.filename env fixture = .error error := by
  constructor
  · intro alike
    by_contra asking
    have asks : inventorySources env fixture arguments.inventoryFilenames ≠ [] ∨
        ∃ filename, arguments.filename env fixture = .ok filename := by
      by_cases noSources : inventorySources env fixture arguments.inventoryFilenames = []
      · right
        cases isName : arguments.filename env fixture with
        | error error => exact (asking ⟨noSources, error, isName⟩).elim
        | ok filename => exact ⟨filename, rfl⟩
      · exact .inl noSources
    have cleaned : state.cleanup.workFiles = none := rfl
    unfold LikeFirst at alike
    rw [runPlaybook_cleaned cleaned asks] at alike
    obtain ⟨⟨result, after⟩, ran, same⟩ := Option.map_eq_some_iff.mp alike.symm
    have isError : result = .error .attributeError := congrArg Prod.fst same
    have isReady : Ready ⟨none, some Dict.empty, state.cleanup.madeDirs, []⟩ Dict.empty :=
      ⟨rfl, fun _ => rfl⟩
    rw [isError] at ran
    exact runPlaybook_regular isReady arguments after ran
  · rintro ⟨noSources, error, isError⟩
    have raised : ∀ state : PlaybookState,
        runPlaybook env fixture arguments state = some (.error error, state) := by
      intro state
      rw [raises_iff (runPlaybook_performs arguments)]
      unfold runProgram inventoryProgram
      rw [if_pos noSources, isError]
      rfl
    unfold LikeFirst
    rw [raised, raised]
    rfl

end Cleaned

/-- **In every state between two requests of a run the work files are faithful, as long as each
request meets its condition; behind a clean up a run is like a first one if and only if it does not
ask for any file.** -/
theorem workFiles_faithful (env : Environment) (fixture : AnsiblePlaybook) (cwd : List Text)
    (givenDir : Option PosixPath) :
    (∀ pending state, Reached env fixture cwd givenDir pending state →
      Faithful env cwd state ∧ ∀ request ∈ pending.head?, request.Meets env cwd state →
        ∃ after, request.perform env state = some (.ok (), after)) ∧
      (∀ arguments, Performs env (runProgram env fixture arguments)
        (runPlaybook env fixture arguments)) ∧
      ∀ (state : PlaybookState) (arguments : RunArguments),
        LikeFirst env fixture arguments state.cleanup ↔
          inventorySources env fixture arguments.inventoryFilenames = [] ∧
            ∃ error, arguments.filename env fixture = .error error := by
  refine ⟨fun pending state reached => ?_, runPlaybook_performs, likeFirst_cleanup⟩
  have sound := reached_sound reached
  refine ⟨sound.faithful, fun request _ meets => ?_⟩
  obtain ⟨after, ran, -⟩ := perform_sound sound meets
  exact ⟨after, ran⟩

/-- A run of the playbook `/playbooks/x`. -/
def runOfX : RunArguments := { playbookFilename := some ⟨true, ["playbooks".toList, ['x']]⟩ }

theorem workFiles_faithful_ofFirstRun :
    ∃ after, (Request.one ⟨true, ["playbooks".toList, ['x']]⟩ none).perform plainHost (.new none) =
        some (.ok (), after) ∧
      Faithful plainHost [] after := by
  have started : Reached plainHost {} [] none
      [.one ⟨true, ["playbooks".toList, ['x']]⟩ none, .dir] (.new none) :=
    .run runOfX .new
  have meets : (Request.one ⟨true, ["playbooks".toList, ['x']]⟩ none).Meets plainHost []
      (.new none) := by
    refine ⟨Dict.empty, rfl, .inr ?_⟩
    intro other place found
    cases found
  obtain ⟨after, ran⟩ :=
    ((workFiles_faithful plainHost {} [] none).1 _ _ started).2 _ rfl meets
  have reached : Reached plainHost {} [] none [.dir] after := .perform started meets ran
  exact ⟨after, ran, ((workFiles_faithful plainHost {} [] none).1 _ _ reached).1⟩

/-- A run with two inventory files of one name. -/
def runOfTwoInventories : RunArguments :=
  { runOfX with inventoryFilenames := [⟨true, [['a'], ['h']]⟩, ⟨true, [['b'], ['h']]⟩] }

/-- A second run behind a clean up raises, and inventory files of one name get to one place. -/
theorem workFiles_unfaithful :
    (∃ command after, runPlaybook plainHost {} runOfX (.new none) = some (.ok command, after) ∧
      runPlaybook plainHost {} runOfX after.cleanup =
        some (.error .attributeError, after.cleanup) ∧
      ¬ LikeFirst plainHost {} runOfX after.cleanup) ∧
    ∃ command after, runPlaybook plainHost {} runOfTwoInventories (.new none) =
        some (.ok command, after) ∧
      ¬ Faithful plainHost [] after := by
  constructor
  · refine ⟨_, _, rfl, rfl, ?_⟩
    rw [likeFirst_cleanup]
    intro ⟨_, error, isError⟩
    cases isError
  · refine ⟨_, _, rfl, fun faithful => ?_⟩
    apply faithful.distinct _ rfl ⟨true, [['a'], ['h']]⟩ ⟨true, [['b'], ['h']]⟩ _ _ rfl rfl
    · decide
    · rfl

end Steps

end Tobiko.Shell.Ansible
