import Tobiko.Foundation.Dictionary
import Tobiko.Foundation.PosixPath

/-!
Contract: the transfer of local files and directories to a remote directory, `put_files` of
`tobiko/shell/sh/_connection.py`.

Owns: the walk of the given directories, the plan of the transfers as a dictionary of real paths, its
run in sorted order with the directories that it makes, and exactly when every file gets where it
belongs.

Does not own: how a connection copies one file and makes one directory, and directories that cannot be
listed.
-/

namespace Tobiko.Shell.Sh

open Tobiko.Foundation

/-- The name of an entry of a directory. -/
abbrev FileName : Type := {name : Text // PosixPath.IsName name}

/-- The entries of a local directory.  A link to a directory is one of its directories, which the walk
does not enter; every other entry that is no directory is one of its files. -/
inductive LocalTree where
  | empty
  | file (name : FileName) (others : LocalTree)
  | dirLink (name : FileName) (others : LocalTree)
  | dir (name : FileName) (entries others : LocalTree)

namespace LocalTree

def fileNames : LocalTree → List Text
  | .empty => []
  | .file name others => name.val :: others.fileNames
  | .dirLink _ others => others.fileNames
  | .dir _ _ others => others.fileNames

/-- The directories below a directory, each with the names of its files. -/
def walkDirs (localDir : List Text) : LocalTree → List (List Text × List Text)
  | .empty => []
  | .file _ others => others.walkDirs localDir
  | .dirLink _ others => others.walkDirs localDir
  | .dir name entries others =>
      (localDir ++ [name.val], entries.fileNames) ::
        entries.walkDirs (localDir ++ [name.val]) ++ others.walkDirs localDir

/-- `os.walk(top)`, with the directories as what stands behind `top`. -/
def walk (tree : LocalTree) : List (List Text × List Text) :=
  ([], tree.fileNames) :: tree.walkDirs []

/-- A file at a path below a directory. -/
inductive FileAt : LocalTree → List Text → Prop where
  | here (name : FileName) (others : LocalTree) : FileAt (.file name others) [name.val]
  | inside (name : FileName) {entries : LocalTree} (others : LocalTree) {names : List Text}
      (file : FileAt entries names) : FileAt (.dir name entries others) (name.val :: names)
  | behindFile (name : FileName) {others : LocalTree} {names : List Text}
      (file : FileAt others names) : FileAt (.file name others) names
  | behindLink (name : FileName) {others : LocalTree} {names : List Text}
      (file : FileAt others names) : FileAt (.dirLink name others) names
  | behindDir (name : FileName) (entries : LocalTree) {others : LocalTree} {names : List Text}
      (file : FileAt others names) : FileAt (.dir name entries others) names

theorem FileAt.areNames {tree : LocalTree} {names : List Text} (file : FileAt tree names) :
    names ≠ [] ∧ ∀ name ∈ names, PosixPath.IsName name := by
  induction file with
  | here name others =>
      constructor
      · exact List.cons_ne_nil _ _
      · intro other member
        rw [List.mem_singleton.mp member]
        exact name.property
  | inside name others file inductionHypothesis =>
      constructor
      · exact List.cons_ne_nil _ _
      · intro other member
        rcases List.mem_cons.mp member with first | later
        · rw [first]
          exact name.property
        · exact inductionHypothesis.2 other later
  | behindFile name file inductionHypothesis => exact inductionHypothesis
  | behindLink name file inductionHypothesis => exact inductionHypothesis
  | behindDir name entries file inductionHypothesis => exact inductionHypothesis

theorem fileAt_file {name : FileName} {others : LocalTree} {names : List Text} :
    FileAt (.file name others) names ↔ names = [name.val] ∨ FileAt others names := by
  constructor
  · intro file
    cases file with
    | here => exact .inl rfl
    | behindFile _ file => exact .inr file
  · rintro (rfl | file)
    · exact .here name others
    · exact .behindFile name file

theorem fileAt_dirLink {name : FileName} {others : LocalTree} {names : List Text} :
    FileAt (.dirLink name others) names ↔ FileAt others names := by
  constructor
  · intro file
    cases file with
    | behindLink _ file => exact file
  · exact .behindLink name

theorem fileAt_dir {name : FileName} {entries others : LocalTree} {names : List Text} :
    FileAt (.dir name entries others) names ↔
      (∃ path, FileAt entries path ∧ name.val :: path = names) ∨ FileAt others names := by
  constructor
  · intro file
    cases file with
    | inside _ _ file => exact .inl ⟨_, file, rfl⟩
    | behindDir _ _ file => exact .inr file
  · rintro (⟨path, file, rfl⟩ | file)
    · exact .inside name others file
    · exact .behindDir name entries file

/-- The files of the directories that a walk visits. -/
def visitedFiles (visited : List (List Text × List Text)) : List (List Text) :=
  visited.flatMap fun entry => entry.2.map fun filename => entry.1 ++ [filename]

theorem visitedFiles_cons (localDir filenames : List Text)
    (visited : List (List Text × List Text)) :
    visitedFiles ((localDir, filenames) :: visited) =
      (filenames.map fun filename => localDir ++ [filename]) ++ visitedFiles visited := by
  rw [visitedFiles, List.flatMap_cons]
  rfl

theorem visitedFiles_append (left right : List (List Text × List Text)) :
    visitedFiles (left ++ right) = visitedFiles left ++ visitedFiles right :=
  List.flatMap_append

/-- A directory with all that is below it: the files come in the order of the walk. -/
theorem mem_visitedFiles_walkDirs (tree : LocalTree) (localDir names : List Text) :
    names ∈ visitedFiles ((localDir, tree.fileNames) :: tree.walkDirs localDir) ↔
      ∃ path, FileAt tree path ∧ localDir ++ path = names := by
  induction tree generalizing localDir names with
  | empty =>
      constructor
      · intro member
        cases member
      · rintro ⟨path, file, _⟩
        cases file
  | file name others inductionHypothesis =>
      have behind := inductionHypothesis localDir names
      rw [visitedFiles_cons] at behind ⊢
      rw [fileNames, walkDirs, List.map_cons, List.cons_append, List.mem_cons, behind]
      simp only [fileAt_file, or_and_right, exists_or, exists_eq_left, eq_comm]
  | dirLink name others inductionHypothesis =>
      simp only [fileAt_dirLink]
      exact inductionHypothesis localDir names
  | dir name entries others entriesHypothesis othersHypothesis =>
      have inside := entriesHypothesis (localDir ++ [name.val]) names
      have behind := othersHypothesis localDir names
      rw [visitedFiles_cons, List.mem_append] at behind
      rw [visitedFiles_cons, fileNames, walkDirs, visitedFiles_append, List.mem_append,
        List.mem_append, or_left_comm, inside, behind]
      have entered : (∃ path, FileAt entries path ∧ localDir ++ [name.val] ++ path = names) ↔
          ∃ path, (∃ more, FileAt entries more ∧ name.val :: more = path) ∧
            localDir ++ path = names := by
        constructor
        · rintro ⟨path, file, whole⟩
          exact ⟨name.val :: path, ⟨path, file, rfl⟩, by rw [← whole]; simp⟩
        · rintro ⟨_, ⟨path, file, rfl⟩, whole⟩
          exact ⟨path, file, by rw [← whole]; simp⟩
      rw [entered]
      simp only [fileAt_dir, or_and_right, exists_or]

/-- **The walk finds the files below a directory, and nothing else.** -/
theorem mem_visitedFiles_walk {tree : LocalTree} {names : List Text} :
    names ∈ visitedFiles tree.walk ↔ FileAt tree names := by
  rw [walk, mem_visitedFiles_walkDirs]
  simp

/-- What the local files look like to one call: a path of a directory has a tree. -/
structure LocalFiles (Error : Type) where
  tree : PosixPath → Option LocalTree
  /-- `os.path.realpath` -/
  realpath : PosixPath → Text
  /-- The read of the file with a real path: there is none behind a broken link. -/
  read : Text → Except Error Unit

/-- What a call does on the connection. -/
inductive TransferStep where
  | makeDirs (name : PosixPath)
  | putFile (localFile : Text) (remoteFile : PosixPath)
  deriving DecidableEq

/-- A file that a call has to transfer: a given path, normalized, and what comes behind it. -/
structure SourceFile where
  given : PosixPath
  names : List Text
  deriving DecidableEq

namespace SourceFile

def path (file : SourceFile) : PosixPath := file.given.join ⟨false, file.names⟩

/-- Where the file belongs: `remote_dir/basename(given)/names` -/
def place (remoteDir : PosixPath) (file : SourceFile) : PosixPath :=
  remoteDir.join ⟨false, file.given.basename :: file.names⟩

end SourceFile

section Transfer

variable {Error : Type}

/-- The directory of a remote file is made once: the step, and the directories that are made then. -/
def makeParent (makeDirs : Bool) (remoteDirs : List PosixPath) (remoteFile : PosixPath) :
    List TransferStep × List PosixPath :=
  if makeDirs && !decide (remoteFile.dirname ∈ remoteDirs) then
    ([.makeDirs remoteFile.dirname], remoteFile.dirname :: remoteDirs)
  else ([], remoteDirs)

/-- The loop over the sorted transfers, with the directories that are made already. -/
def putItems (read : Text → Except Error Unit) (makeDirs : Bool) :
    List PosixPath → List (Text × PosixPath) → List TransferStep × Except Error Unit
  | _, [] => ([], .ok ())
  | remoteDirs, (localFile, remoteFile) :: items =>
      let (made, remoteDirs) := makeParent makeDirs remoteDirs remoteFile
      match read localFile with
      | .error error => (made, .error error)
      | .ok () =>
          let (log, result) := putItems read makeDirs remoteDirs items
          (made ++ .putFile localFile remoteFile :: log, result)

variable (files : LocalFiles Error) (cwd : List Text) (remoteDir : PosixPath)

/-- The local and the remote file of each assignment that a given path, normalized, leads to. -/
def assignments (localFile : PosixPath) : List (PosixPath × PosixPath) :=
  match files.tree localFile with
  | some tree =>
      let topDir := localFile.dirname
      tree.walk.flatMap fun entry => entry.2.map fun filename =>
        let localFile := (localFile.join ⟨false, entry.1⟩).join (.ofName filename)
        (localFile, remoteDir.join (PosixPath.relpath cwd localFile topDir))
  | none => [(localFile, remoteDir.join (.ofName localFile.basename))]

/-- `put_files(*local_files, remote_dir, make_dirs)` -/
def putFiles (localFiles : List PosixPath) (makeDirs : Bool) :
    List TransferStep × Except Error Unit :=
  let remoteDir := remoteDir.normpath
  let pairs := localFiles.flatMap fun localFile =>
    assignments files cwd remoteDir localFile.normpath
  let putFiles := Dict.ofPairs (pairs.map fun pair => (files.realpath pair.1, pair.2))
  let items := putFiles.entries.mergeSort fun first second => !decide (second.1 < first.1)
  putItems files.read makeDirs [] items

/-- The files that a given path leads to, in the order of the walk. -/
def sources (given : PosixPath) : List SourceFile :=
  match files.tree given with
  | some tree => (LocalTree.visitedFiles tree.walk).map fun names => ⟨given, names⟩
  | none => [⟨given, []⟩]

def allSources (localFiles : List PosixPath) : List SourceFile :=
  localFiles.flatMap fun localFile => sources files localFile.normpath

/-- A path is a file, or it is a directory with a file below it. -/
def IsFileOf (file : SourceFile) : Prop :=
  match files.tree file.given with
  | some tree => LocalTree.FileAt tree file.names
  | none => file.names = []

/-- A file that is given, or that is below a given directory. -/
def IsSource (localFiles : List PosixPath) (file : SourceFile) : Prop :=
  file.given ∈ localFiles.map PosixPath.normpath ∧ IsFileOf files file

/-- A file gets to a place, and no other one does. -/
structure Delivered (log : List TransferStep) (localFile : Text) (place : PosixPath) : Prop where
  isPut : ∃ remoteFile, .putFile localFile remoteFile ∈ log ∧ PosixPath.SameFile remoteFile place
  stays : ∀ other remoteFile, .putFile other remoteFile ∈ log →
    PosixPath.SameFile remoteFile place → other = localFile

/-- Before a file is put into a directory, the directory is made. -/
def MakesDirsFirst (log : List TransferStep) : Prop :=
  ∀ before localFile remoteFile after, log = before ++ .putFile localFile remoteFile :: after →
    .makeDirs remoteFile.dirname ∈ before

/-- What a call is for: it returns, and every file is where it belongs. -/
structure Transfers (localFiles : List PosixPath) (makeDirs : Bool) : Prop where
  returns : (putFiles files cwd remoteDir localFiles makeDirs).2 = .ok ()
  delivers : ∀ file, IsSource files localFiles file →
    Delivered (putFiles files cwd remoteDir localFiles makeDirs).1 (files.realpath file.path)
      (file.place remoteDir)
  makesDirsFirst : makeDirs = true →
    MakesDirsFirst (putFiles files cwd remoteDir localFiles makeDirs).1

end Transfer

section Items

variable {Error : Type} {read : Text → Except Error Unit} {makeDirs : Bool}

theorem step_of_mem_makeParent {remoteDirs : List PosixPath} {remoteFile : PosixPath}
    {step : TransferStep} (member : step ∈ (makeParent makeDirs remoteDirs remoteFile).1) :
    step = .makeDirs remoteFile.dirname := by
  unfold makeParent at member
  split at member
  · exact List.mem_singleton.mp member
  · cases member

/-- A directory is among the ones that are made if and only if it was before, or this step makes it. -/
theorem mem_makeParent {remoteDirs : List PosixPath} {remoteFile dir : PosixPath} :
    dir ∈ (makeParent makeDirs remoteDirs remoteFile).2 ↔
      .makeDirs dir ∈ (makeParent makeDirs remoteDirs remoteFile).1 ∨ dir ∈ remoteDirs := by
  unfold makeParent
  split
  · simp
  · simp

theorem dirname_mem_makeParent {remoteDirs : List PosixPath} {remoteFile : PosixPath}
    (makes : makeDirs = true) :
    remoteFile.dirname ∈ (makeParent makeDirs remoteDirs remoteFile).2 := by
  unfold makeParent
  split
  · exact List.mem_cons_self
  · rename_i old
    rw [makes, Bool.true_and, Bool.not_eq_true', decide_eq_false_iff_not, not_not] at old
    exact old

theorem putItems_of_ok {remoteDirs : List PosixPath} {localFile : Text} {remoteFile : PosixPath}
    {items : List (Text × PosixPath)} (isRead : read localFile = .ok ()) :
    putItems read makeDirs remoteDirs ((localFile, remoteFile) :: items) =
      ((makeParent makeDirs remoteDirs remoteFile).1 ++ .putFile localFile remoteFile ::
          (putItems read makeDirs (makeParent makeDirs remoteDirs remoteFile).2 items).1,
        (putItems read makeDirs (makeParent makeDirs remoteDirs remoteFile).2 items).2) := by
  rw [putItems, isRead]

theorem putItems_of_error {remoteDirs : List PosixPath} {localFile : Text} {remoteFile : PosixPath}
    {items : List (Text × PosixPath)} {error : Error} (fails : read localFile = .error error) :
    putItems read makeDirs remoteDirs ((localFile, remoteFile) :: items) =
      ((makeParent makeDirs remoteDirs remoteFile).1, .error error) := by
  rw [putItems, fails]

/-- The loop returns if and only if every file can be read. -/
theorem putItems_returns {remoteDirs : List PosixPath} {items : List (Text × PosixPath)} :
    (putItems read makeDirs remoteDirs items).2 = .ok () ↔
      ∀ item ∈ items, read item.1 = .ok () := by
  induction items generalizing remoteDirs with
  | nil => simp [putItems]
  | cons item items inductionHypothesis =>
      obtain ⟨localFile, remoteFile⟩ := item
      rw [List.forall_mem_cons]
      cases outcome : read localFile with
      | error error => simp [putItems_of_error outcome]
      | ok value =>
          rw [putItems_of_ok outcome, inductionHypothesis]
          simp

/-- A loop that returns puts the files of its items, and no others. -/
theorem putFile_mem_putItems {remoteDirs : List PosixPath} {items : List (Text × PosixPath)}
    (areRead : ∀ item ∈ items, read item.1 = .ok ()) {localFile : Text} {remoteFile : PosixPath} :
    .putFile localFile remoteFile ∈ (putItems read makeDirs remoteDirs items).1 ↔
      (localFile, remoteFile) ∈ items := by
  induction items generalizing remoteDirs with
  | nil => simp [putItems]
  | cons item items inductionHypothesis =>
      obtain ⟨first, target⟩ := item
      obtain ⟨firstRead, othersRead⟩ := List.forall_mem_cons.mp areRead
      have noPut : .putFile localFile remoteFile ∉ (makeParent makeDirs remoteDirs target).1 :=
        fun member => nomatch step_of_mem_makeParent member
      rw [putItems_of_ok firstRead, List.mem_append, or_iff_right noPut, List.mem_cons,
        List.mem_cons, inductionHypothesis othersRead]
      simp

/-- A file that is put in one step or behind it. -/
theorem split_step {made log before after : List TransferStep} {remoteDir : PosixPath}
    (onlyMakes : ∀ step ∈ made, step = .makeDirs remoteDir) {localFile other : Text}
    {remoteFile target : PosixPath}
    (split : made ++ .putFile other target :: log =
      before ++ .putFile localFile remoteFile :: after) :
    before = made ∧ target = remoteFile ∨
      ∃ more, before = made ++ .putFile other target :: more ∧
        log = more ++ .putFile localFile remoteFile :: after := by
  induction made generalizing before with
  | nil =>
      cases before with
      | nil =>
          rw [List.nil_append, List.nil_append, List.cons.injEq, TransferStep.putFile.injEq] at split
          exact .inl ⟨rfl, split.1.2⟩
      | cons step before =>
          rw [List.nil_append, List.cons_append, List.cons.injEq] at split
          rw [← split.1]
          exact .inr ⟨before, rfl, split.2⟩
  | cons first made inductionHypothesis =>
      obtain ⟨isMake, others⟩ := List.forall_mem_cons.mp onlyMakes
      cases before with
      | nil =>
          rw [List.cons_append, List.nil_append, List.cons.injEq, isMake] at split
          cases split.1
      | cons step before =>
          rw [List.cons_append, List.cons_append, List.cons.injEq] at split
          rw [split.1]
          rcases inductionHypothesis others split.2 with ⟨same, place⟩ | ⟨more, whole, rest⟩
          · exact .inl ⟨by rw [same], place⟩
          · exact .inr ⟨more, by rw [whole, List.cons_append], rest⟩

/-- The directory of every file that is put was there, or it is made before. -/
theorem dirname_of_putItems (makes : makeDirs = true) {remoteDirs : List PosixPath}
    {items : List (Text × PosixPath)} {before after : List TransferStep} {localFile : Text}
    {remoteFile : PosixPath}
    (split : (putItems read makeDirs remoteDirs items).1 =
      before ++ .putFile localFile remoteFile :: after) :
    .makeDirs remoteFile.dirname ∈ before ∨ remoteFile.dirname ∈ remoteDirs := by
  induction items generalizing remoteDirs before with
  | nil =>
      rw [putItems] at split
      simp at split
  | cons item items inductionHypothesis =>
      obtain ⟨first, target⟩ := item
      have onlyMakes : ∀ step ∈ (makeParent makeDirs remoteDirs target).1,
          step = .makeDirs target.dirname := fun _ member => step_of_mem_makeParent member
      cases outcome : read first with
      | error error =>
          rw [putItems_of_error outcome] at split
          have isMade : .putFile localFile remoteFile ∈
              (makeParent makeDirs remoteDirs target).1 := by
            rw [split]
            simp
          cases onlyMakes _ isMade
      | ok value =>
          rw [putItems_of_ok outcome] at split
          rcases split_step onlyMakes split with ⟨same, place⟩ | ⟨more, whole, rest⟩
          · rw [same, ← place]
            exact mem_makeParent.mp (dirname_mem_makeParent makes)
          · rw [whole, List.mem_append, List.mem_cons]
            rcases inductionHypothesis rest with later | known
            · exact .inl (.inr (.inr later))
            · rcases mem_makeParent.mp known with isNew | old
              · exact .inl (.inl isNew)
              · exact .inr old

theorem putItems_makesDirsFirst (makes : makeDirs = true) {items : List (Text × PosixPath)} :
    MakesDirsFirst (putItems read makeDirs [] items).1 := by
  intro before localFile remoteFile after split
  rcases dirname_of_putItems makes split with isMade | known
  · exact isMade
  · cases known

end Items

section Plan

variable {Error : Type} (files : LocalFiles Error) (cwd : List Text) (remoteDir : PosixPath)

/-- Where a file is sent. -/
def sentTo (file : SourceFile) : PosixPath :=
  match files.tree file.given with
  | some _ => remoteDir.join (PosixPath.relpath cwd file.path file.given.dirname)
  | none => remoteDir.join (.ofName file.given.basename)

variable {files cwd remoteDir} {localFiles : List PosixPath} {makeDirs : Bool}

theorem assignments_eq (given : PosixPath) :
    assignments files cwd remoteDir given =
      (sources files given).map fun file => (file.path, sentTo files cwd remoteDir file) := by
  unfold assignments sources
  cases isDir : files.tree given with
  | none =>
      have path : (⟨given, []⟩ : SourceFile).path = given := by
        rw [SourceFile.path, PosixPath.join_relative rfl, List.append_nil]
      have sent : sentTo files cwd remoteDir ⟨given, []⟩ =
          remoteDir.join (.ofName given.basename) := by
        rw [sentTo, isDir]
      rw [List.map_singleton, path, sent]
  | some tree =>
      have paths : ∀ (localDir : List Text) (filename : Text),
          (given.join ⟨false, localDir⟩).join (.ofName filename) =
            (⟨given, localDir ++ [filename]⟩ : SourceFile).path := by
        intro localDir filename
        rw [SourceFile.path, PosixPath.join_relative rfl, PosixPath.join_relative rfl,
          PosixPath.join_relative rfl]
        simp [PosixPath.ofName]
      have sent : ∀ names : List Text, sentTo files cwd remoteDir ⟨given, names⟩ =
          remoteDir.join
            (PosixPath.relpath cwd (⟨given, names⟩ : SourceFile).path given.dirname) := by
        intro names
        rw [sentTo, isDir]
      dsimp only
      rw [LocalTree.visitedFiles, List.map_map, List.map_flatMap]
      apply List.flatMap_congr
      intro entry _
      rw [List.map_map]
      apply List.map_congr_left
      intro filename _
      simp only [Function.comp_apply, paths, sent]

theorem mem_allSources {file : SourceFile} :
    file ∈ allSources files localFiles ↔ IsSource files localFiles file := by
  have one : ∀ given : PosixPath, file ∈ sources files given ↔ file.given = given ∧
      IsFileOf files file := by
    intro given
    obtain ⟨path, names⟩ := file
    unfold sources IsFileOf
    constructor
    · intro member
      cases isDir : files.tree given with
      | none =>
          rw [isDir] at member
          cases List.mem_singleton.mp member
          simp [isDir]
      | some tree =>
          rw [isDir] at member
          obtain ⟨_, visited, same⟩ := List.mem_map.mp member
          cases same
          constructor
          · rfl
          · rw [isDir]
            exact LocalTree.mem_visitedFiles_walk.mp visited
    · rintro ⟨rfl, isFile⟩
      cases isDir : files.tree path with
      | none =>
          rw [isDir] at isFile
          rw [show names = [] from isFile]
          exact List.mem_singleton_self _
      | some tree =>
          rw [isDir] at isFile
          exact List.mem_map_of_mem (LocalTree.mem_visitedFiles_walk.mpr isFile)
  rw [allSources, List.mem_flatMap, IsSource, List.mem_map]
  constructor
  · rintro ⟨localFile, member, found⟩
    obtain ⟨same, isFile⟩ := (one _).mp found
    exact ⟨⟨localFile, member, same.symm⟩, isFile⟩
  · rintro ⟨⟨localFile, member, same⟩, isFile⟩
    exact ⟨localFile, member, (one _).mpr ⟨same.symm, isFile⟩⟩

variable (files) in
/-- The last of the files that lead to one real file. -/
def IsLast (localFiles : List PosixPath) (file : SourceFile) : Prop :=
  ∃ before after, allSources files localFiles = before ++ file :: after ∧
    ∀ later ∈ after, files.realpath later.path ≠ files.realpath file.path

variable (files cwd remoteDir) in
/-- The sorted items that a call runs over. -/
def plannedItems (localFiles : List PosixPath) : List (Text × PosixPath) :=
  (Dict.ofPairs ((allSources files localFiles).map fun file =>
    (files.realpath file.path, sentTo files cwd remoteDir.normpath file))).entries.mergeSort
      fun first second => !decide (second.1 < first.1)

theorem putFiles_eq :
    putFiles files cwd remoteDir localFiles makeDirs =
      putItems files.read makeDirs [] (plannedItems files cwd remoteDir localFiles) := by
  have pairs : ((localFiles.flatMap fun localFile =>
      assignments files cwd remoteDir.normpath localFile.normpath).map
        fun pair => (files.realpath pair.1, pair.2)) =
      (allSources files localFiles).map fun file =>
        (files.realpath file.path, sentTo files cwd remoteDir.normpath file) := by
    rw [allSources, List.map_flatMap, List.map_flatMap]
    apply List.flatMap_congr
    intro localFile _
    rw [assignments_eq, List.map_map]
    rfl
  rw [putFiles, pairs]
  rfl

/-- **A real file is planned once, for the last path that leads to it.** -/
theorem mem_plannedItems {localFile : Text} {remoteFile : PosixPath} :
    (localFile, remoteFile) ∈ plannedItems files cwd remoteDir localFiles ↔
      ∃ file, IsLast files localFiles file ∧ files.realpath file.path = localFile ∧
        sentTo files cwd remoteDir.normpath file = remoteFile := by
  rw [plannedItems, List.mem_mergeSort, Dict.mem_entries_iff, Dict.get?_ofPairs_eq_some]
  constructor
  · rintro ⟨before, file, after, split, rfl, sent, last⟩
    exact ⟨file, ⟨before, after, split, last⟩, rfl, sent⟩
  · rintro ⟨file, ⟨before, after, split, last⟩, rfl, sent⟩
    exact ⟨before, file, after, split, rfl, sent, last⟩

end Plan

section Verdict

variable {Error : Type} {files : LocalFiles Error} {cwd : List Text} {remoteDir : PosixPath}
  {localFiles : List PosixPath} {makeDirs : Bool}

variable (files) in
/-- Every file can be read. -/
def CanRead (localFiles : List PosixPath) : Prop :=
  ∀ file, IsSource files localFiles file → files.read (files.realpath file.path) = .ok ()

variable (files remoteDir) in
/-- Two paths lead to one file here if and only if they belong to one place there. -/
def OnePlace (localFiles : List PosixPath) : Prop :=
  ∀ first second, IsSource files localFiles first → IsSource files localFiles second →
    (files.realpath first.path = files.realpath second.path ↔
      PosixPath.SameFile (first.place remoteDir) (second.place remoteDir))

variable (files cwd remoteDir) in
/-- What is below a given path that ends in `..` has a relative path, which may go through the current
directory: it leads to where the file belongs, unless a later path leads to the same file. -/
def ParentsLead (localFiles : List PosixPath) : Prop :=
  ∀ file, IsLast files localFiles file → (files.tree file.given).isSome →
    file.given.basename = PosixPath.parent →
    PosixPath.SameFile (remoteDir.join (PosixPath.relpath cwd file.path file.given.dirname))
      (file.place remoteDir)

theorem IsLast.isSource {file : SourceFile} (last : IsLast files localFiles file) :
    IsSource files localFiles file := by
  obtain ⟨before, after, split, _⟩ := last
  apply mem_allSources.mp
  rw [split]
  exact List.mem_append_right _ List.mem_cons_self

theorem exists_isLast {file : SourceFile} (isSource : IsSource files localFiles file) :
    ∃ last, IsLast files localFiles last ∧
      files.realpath last.path = files.realpath file.path := by
  have present : files.realpath file.path ∈ (Dict.ofPairs ((allSources files localFiles).map
      fun file => (files.realpath file.path, file))).keys := by
    rw [Dict.mem_keys_ofPairs, List.map_map]
    exact List.mem_map_of_mem (mem_allSources.mpr isSource)
  rw [← Dict.isSome_get?] at present
  obtain ⟨found, found_eq⟩ := Option.isSome_iff_exists.mp present
  obtain ⟨before, last, after, split, same, _, isLast⟩ := Dict.get?_ofPairs_eq_some.mp found_eq
  rw [← same] at isLast
  exact ⟨last, ⟨before, after, split, isLast⟩, same⟩

/-- The last path that leads to a file is sent where it belongs. -/
theorem sentTo_sameFile (parents : ParentsLead files cwd remoteDir localFiles) {file : SourceFile}
    (last : IsLast files localFiles file) :
    PosixPath.SameFile (sentTo files cwd remoteDir.normpath file) (file.place remoteDir) := by
  obtain ⟨isGiven, isFile⟩ := last.isSource
  have normal := PosixPath.sameFile_normpath remoteDir
  unfold sentTo
  unfold IsFileOf at isFile
  cases isDir : files.tree file.given with
  | none =>
      rw [isDir] at isFile
      dsimp only at isFile ⊢
      rw [SourceFile.place, isFile]
      exact normal.join rfl
  | some tree =>
      rw [isDir] at isFile
      dsimp only at isFile ⊢
      apply (normal.join (PosixPath.relpath_relative _ _ _)).trans
      by_cases isParent : file.given.basename = PosixPath.parent
      · exact parents file last (by rw [isDir]; rfl) isParent
      · obtain ⟨localFile, _, given⟩ := List.mem_map.mp isGiven
        obtain ⟨below, areNames⟩ := isFile.areNames
        rw [← given] at isParent
        rw [SourceFile.path, SourceFile.place, ← given]
        exact PosixPath.relpath_dirname_normpath areNames below isParent remoteDir

theorem putFiles_returns :
    (putFiles files cwd remoteDir localFiles makeDirs).2 = .ok () ↔ CanRead files localFiles := by
  rw [putFiles_eq, putItems_returns]
  constructor
  · intro areRead file isSource
    obtain ⟨last, isLast, same⟩ := exists_isLast isSource
    rw [← same]
    exact areRead (_, _) (mem_plannedItems.mpr ⟨last, isLast, rfl, rfl⟩)
  · intro canRead item member
    obtain ⟨file, isLast, same, _⟩ := mem_plannedItems.mp member
    rw [← same]
    exact canRead file isLast.isSource

theorem putFile_mem_putFiles (canRead : CanRead files localFiles) {localFile : Text}
    {remoteFile : PosixPath} :
    .putFile localFile remoteFile ∈ (putFiles files cwd remoteDir localFiles makeDirs).1 ↔
      ∃ file, IsLast files localFiles file ∧ files.realpath file.path = localFile ∧
        sentTo files cwd remoteDir.normpath file = remoteFile := by
  have returns := (@putFiles_returns Error files cwd remoteDir localFiles makeDirs).mpr canRead
  rw [putFiles_eq] at returns ⊢
  rw [putFile_mem_putItems (putItems_returns.mp returns), mem_plannedItems]

/-- A real file is put to one place only. -/
theorem eq_of_putFile (canRead : CanRead files localFiles) {localFile : Text}
    {left right : PosixPath}
    (leftPut : .putFile localFile left ∈ (putFiles files cwd remoteDir localFiles makeDirs).1)
    (rightPut : .putFile localFile right ∈ (putFiles files cwd remoteDir localFiles makeDirs).1) :
    left = right := by
  rw [putFile_mem_putFiles canRead, ← mem_plannedItems, plannedItems, List.mem_mergeSort,
    Dict.mem_entries_iff] at leftPut rightPut
  exact Option.some.inj (leftPut.symm.trans rightPut)

/-- Where every file is transferred, two paths that lead to one file belong to one place. -/
theorem Transfers.onePlace (transfers : Transfers files cwd remoteDir localFiles makeDirs) :
    OnePlace files remoteDir localFiles := by
  intro first second isFirst isSecond
  have canRead := putFiles_returns.mp transfers.returns
  obtain ⟨firstFile, firstPut, firstPlace⟩ := (transfers.delivers first isFirst).isPut
  constructor
  · intro same
    obtain ⟨secondFile, secondPut, secondPlace⟩ := (transfers.delivers second isSecond).isPut
    rw [← same] at secondPut
    rw [eq_of_putFile canRead firstPut secondPut] at firstPlace
    exact firstPlace.symm.trans secondPlace
  · intro same
    exact (transfers.delivers second isSecond).stays _ _ firstPut (firstPlace.trans same)

theorem Transfers.parentsLead (transfers : Transfers files cwd remoteDir localFiles makeDirs) :
    ParentsLead files cwd remoteDir localFiles := by
  intro file last isDir _
  have canRead := putFiles_returns.mp transfers.returns
  obtain ⟨remoteFile, isPut, place⟩ := (transfers.delivers file last.isSource).isPut
  have sent := (@putFile_mem_putFiles Error files cwd remoteDir localFiles makeDirs canRead _ _).mpr
    ⟨file, last, rfl, rfl⟩
  rw [eq_of_putFile canRead isPut sent] at place
  obtain ⟨tree, isTree⟩ := Option.isSome_iff_exists.mp isDir
  rw [sentTo, isTree] at place
  exact (((PosixPath.sameFile_normpath remoteDir).join
    (PosixPath.relpath_relative _ _ _)).symm).trans place

theorem delivered_of_onePlace (onePlace : OnePlace files remoteDir localFiles)
    (canRead : CanRead files localFiles) (parents : ParentsLead files cwd remoteDir localFiles)
    {file : SourceFile} (isSource : IsSource files localFiles file) :
    Delivered (putFiles files cwd remoteDir localFiles makeDirs).1 (files.realpath file.path)
      (file.place remoteDir) := by
  constructor
  · obtain ⟨last, isLast, same⟩ := exists_isLast isSource
    have place := (onePlace last file isLast.isSource isSource).mp same
    exact ⟨_, (putFile_mem_putFiles canRead).mpr ⟨last, isLast, same, rfl⟩,
      (sentTo_sameFile parents isLast).trans place⟩
  · intro other remoteFile isPut place
    obtain ⟨last, isLast, same, sent⟩ := (putFile_mem_putFiles canRead).mp isPut
    rw [← same]
    apply (onePlace last file isLast.isSource isSource).mpr
    rw [← sent] at place
    exact (sentTo_sameFile parents isLast).symm.trans place

theorem transfers_iff :
    Transfers files cwd remoteDir localFiles makeDirs ↔
      OnePlace files remoteDir localFiles ∧ CanRead files localFiles ∧
        ParentsLead files cwd remoteDir localFiles := by
  constructor
  · intro transfers
    exact ⟨transfers.onePlace, putFiles_returns.mp transfers.returns, transfers.parentsLead⟩
  · rintro ⟨onePlace, canRead, parents⟩
    constructor
    · exact putFiles_returns.mpr canRead
    · exact fun file => delivered_of_onePlace onePlace canRead parents
    · intro makes
      rw [putFiles_eq]
      exact putItems_makesDirsFirst makes

/-- Files below paths with distinct names belong to distinct places. -/
theorem sameFile_place_iff
    (areNames : ∀ localFile ∈ localFiles, PosixPath.IsName localFile.normpath.basename)
    (distinct : (localFiles.map fun localFile => localFile.normpath.basename).Nodup)
    {first second : SourceFile} (isFirst : IsSource files localFiles first)
    (isSecond : IsSource files localFiles second) :
    PosixPath.SameFile (first.place remoteDir) (second.place remoteDir) ↔ first = second := by
  have names : ∀ file, IsSource files localFiles file →
      ∀ name ∈ file.given.basename :: file.names, PosixPath.IsName name := by
    rintro file ⟨isGiven, isFile⟩ name member
    rcases List.mem_cons.mp member with isBase | inNames
    · obtain ⟨localFile, inGiven, given⟩ := List.mem_map.mp isGiven
      rw [isBase, ← given]
      exact areNames localFile inGiven
    · unfold IsFileOf at isFile
      split at isFile
      · exact isFile.areNames.2 name inNames
      · rw [isFile] at inNames
        cases inNames
  rw [SourceFile.place, SourceFile.place,
    PosixPath.sameFile_join_names remoteDir (names first isFirst) (names second isSecond)]
  constructor
  · intro same
    obtain ⟨firstFile, inFirst, firstGiven⟩ := List.mem_map.mp isFirst.1
    obtain ⟨secondFile, inSecond, secondGiven⟩ := List.mem_map.mp isSecond.1
    obtain ⟨sameBase, sameNames⟩ := List.cons.inj same
    rw [← firstGiven, ← secondGiven] at sameBase
    have sameGiven := List.inj_on_of_nodup_map distinct inFirst inSecond sameBase
    rw [sameGiven] at firstGiven
    obtain ⟨given, firstNames⟩ := first
    obtain ⟨secondPath, secondNames⟩ := second
    rw [SourceFile.mk.injEq]
    exact ⟨firstGiven.symm.trans secondGiven, sameNames⟩
  · intro same
    rw [same]

theorem parentsLead_of_areNames
    (areNames : ∀ localFile ∈ localFiles, PosixPath.IsName localFile.normpath.basename) :
    ParentsLead files cwd remoteDir localFiles := by
  intro file last _ isParent
  obtain ⟨localFile, inGiven, given⟩ := List.mem_map.mp last.isSource.1
  rw [← given] at isParent
  exact absurd isParent (areNames localFile inGiven).notParent

end Verdict

section Claim

/-- **When every file is transferred.**  The destinations are kept by real path, so that of several
paths to one real file only the last one is sent: they have to belong to one place.  Below given paths
with distinct names every file has a place of its own, hence no file may be reached twice there, and
all of them have to be readable. -/
theorem putFiles_transfers_iff {Error : Type} (files : LocalFiles Error) (cwd : List Text)
    (remoteDir : PosixPath) (localFiles : List PosixPath) (makeDirs : Bool) :
    (Transfers files cwd remoteDir localFiles makeDirs ↔
      OnePlace files remoteDir localFiles ∧ CanRead files localFiles ∧
        ParentsLead files cwd remoteDir localFiles) ∧
    ((∀ localFile ∈ localFiles, PosixPath.IsName localFile.normpath.basename) →
      (localFiles.map fun localFile => localFile.normpath.basename).Nodup →
        (Transfers files cwd remoteDir localFiles makeDirs ↔
          (∀ first second, IsSource files localFiles first → IsSource files localFiles second →
            files.realpath first.path = files.realpath second.path → first = second) ∧
          CanRead files localFiles)) := by
  constructor
  · exact transfers_iff
  · intro areNames distinct
    rw [transfers_iff]
    constructor
    · rintro ⟨onePlace, canRead, _⟩
      constructor
      · intro first second isFirst isSecond same
        exact (sameFile_place_iff areNames distinct isFirst isSecond).mp
          ((onePlace first second isFirst isSecond).mp same)
      · exact canRead
    · rintro ⟨noneTwice, canRead⟩
      refine ⟨?_, canRead, parentsLead_of_areNames areNames⟩
      intro first second isFirst isSecond
      rw [sameFile_place_iff areNames distinct isFirst isSecond]
      constructor
      · exact noneTwice first second isFirst isSecond
      · intro same
        rw [same]

def nameA : FileName := ⟨['a'], ⟨by decide, by decide, by decide⟩⟩

def nameB : FileName := ⟨['b'], ⟨by decide, by decide, by decide⟩⟩

/-- The directory `a` with a file `b` in its directory `a`, and the file `b`, with no link. -/
def treeFiles : LocalFiles Unit where
  tree path :=
    if path = .ofName ['a'] then some (.dir nameA (.file nameB .empty) .empty) else none
  realpath path := (PosixPath.abspath [] path).text
  read _ := .ok ()

theorem putFiles_transfers_iff_tree :
    Transfers treeFiles [] (.ofName ['r']) [.ofName ['a'], .ofName ['b']] true := by
  apply ((putFiles_transfers_iff treeFiles [] (.ofName ['r']) [.ofName ['a'], .ofName ['b']]
    true).2 _ (by decide)).mpr
  · constructor
    · intro first second isFirst isSecond same
      have listed : allSources treeFiles [.ofName ['a'], .ofName ['b']] =
          [⟨.ofName ['a'], [['a'], ['b']]⟩, ⟨.ofName ['b'], []⟩] := rfl
      rw [← mem_allSources, listed] at isFirst isSecond
      simp only [List.mem_cons, List.not_mem_nil, or_false] at isFirst isSecond
      rcases isFirst with rfl | rfl
      · rcases isSecond with rfl | rfl
        · rfl
        · exact absurd same (by decide)
      · rcases isSecond with rfl | rfl
        · exact absurd same (by decide)
        · rfl
    · exact fun _ _ => rfl
  · intro localFile member
    simp only [List.mem_cons, List.not_mem_nil, or_false] at member
    rcases member with rfl | rfl
    · exact nameA.property
    · exact nameB.property

/-- The file `a`, and `b` as a link to it. -/
def linkedFiles : LocalFiles Unit where
  tree _ := none
  realpath _ := ['/', 'a']
  read _ := .ok ()

/-- A file and a link to it have distinct names, and one of them is left out. -/
theorem putFiles_leaves_link_out :
    (∀ localFile ∈ [PosixPath.ofName ['a'], .ofName ['b']],
      PosixPath.IsName localFile.normpath.basename) ∧
    ([PosixPath.ofName ['a'], .ofName ['b']].map
      fun localFile => localFile.normpath.basename).Nodup ∧
    CanRead linkedFiles [.ofName ['a'], .ofName ['b']] ∧
    ¬ Transfers linkedFiles [] (.ofName ['r']) [.ofName ['a'], .ofName ['b']] true := by
  refine ⟨?_, by decide, fun _ _ => rfl, ?_⟩
  · intro localFile member
    simp only [List.mem_cons, List.not_mem_nil, or_false] at member
    rcases member with rfl | rfl
    · exact nameA.property
    · exact nameB.property
  · intro transfers
    have same := (transfers.onePlace ⟨.ofName ['a'], []⟩ ⟨.ofName ['b'], []⟩
      (mem_allSources.mp (by decide)) (mem_allSources.mp (by decide))).mp rfl []
    exact absurd same (by decide)

end Claim

end LocalTree

end Tobiko.Shell.Sh
