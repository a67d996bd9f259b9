import Mathlib.Data.List.Infix
import Tobiko.Foundation.Text

/-!
Contract: paths as the names between their slashes, and the functions of `os.path` on them.

Owns: `join`, `dirname`, `basename`, `normpath`, `abspath` and `relpath`, the prefix of a path as a
text, and when two paths lead to one file.

Does not own: links, and paths that start with two slashes.
-/

namespace Tobiko.Foundation

structure PosixPath where
  absolute : Bool
  parts : List Text
  deriving DecidableEq, Repr

namespace PosixPath

def here : Text := ['.']

def parent : Text := ['.', '.']

/-- The path of one name. -/
def ofName (name : Text) : PosixPath := ⟨false, [name]⟩

def text (path : PosixPath) : Text :=
  (if path.absolute then ['/'] else []) ++ ['/'].intercalate path.parts

/-- `os.path.join(dir, file)` -/
def join (dir file : PosixPath) : PosixPath :=
  if file.absolute then file else ⟨dir.absolute, dir.parts ++ file.parts⟩

def dirname (path : PosixPath) : PosixPath := ⟨path.absolute, path.parts.dropLast⟩

def basename (path : PosixPath) : Text := path.parts.getLast?.getD []

/-- `path.startswith(dirname)` on the texts. -/
def startsWith (path dirname : PosixPath) : Bool := dirname.text.isPrefixOf path.text

/-- One name of a path that starts at the root. -/
def enter (names : List Text) (name : Text) : List Text :=
  if name = [] ∨ name = here then names
  else if name = parent then names.dropLast
  else names ++ [name]

def normalize (names : List Text) : List Text := names.foldl enter []

/-- One name in `os.path.normpath`, which keeps `..` at the start of a relative path. -/
def normalEnter (absolute : Bool) (names : List Text) (name : Text) : List Text :=
  if name = [] ∨ name = here then names
  else if name ≠ parent ∨ (absolute = false ∧ names = []) ∨ names.getLast? = some parent then
    names ++ [name]
  else names.dropLast

/-- `os.path.normpath` -/
def normpath (path : PosixPath) : PosixPath :=
  let names := path.parts.foldl (normalEnter path.absolute) []
  if path.absolute = false ∧ names = [] then ofName here else ⟨path.absolute, names⟩

section CurrentDirectory

variable (cwd : List Text)

def abspath (path : PosixPath) : PosixPath :=
  ⟨true, normalize (if path.absolute then path.parts else cwd ++ path.parts)⟩

/-- What is left of both lists behind the names that they have in common. -/
def behindCommon : List Text → List Text → List Text × List Text
  | first :: firsts, second :: seconds =>
      if first = second then behindCommon firsts seconds else (first :: firsts, second :: seconds)
  | firsts, seconds => (firsts, seconds)

/-- `os.path.relpath(path, start)` -/
def relpath (path start : PosixPath) : PosixPath :=
  let (up, down) := behindCommon (abspath cwd start).parts (abspath cwd path).parts
  if up = [] ∧ down = [] then ofName here else ⟨false, List.replicate up.length parent ++ down⟩

end CurrentDirectory

/-- Two paths that lead to one file, wherever the relative ones start. -/
def SameFile (left right : PosixPath) : Prop := ∀ cwd, abspath cwd left = abspath cwd right

theorem SameFile.refl (path : PosixPath) : SameFile path path := fun _ => rfl

theorem SameFile.symm {left right : PosixPath} (same : SameFile left right) :
    SameFile right left := fun cwd => (same cwd).symm

theorem SameFile.trans {left middle right : PosixPath} (first : SameFile left middle)
    (second : SameFile middle right) : SameFile left right :=
  fun cwd => (first cwd).trans (second cwd)

/-- A name that is neither empty nor one of the two special ones. -/
structure IsName (name : Text) : Prop where
  nonempty : name ≠ []
  notHere : name ≠ here
  notParent : name ≠ parent

theorem join_relative {dir file : PosixPath} (relative : file.absolute = false) :
    dir.join file = ⟨dir.absolute, dir.parts ++ file.parts⟩ := by
  rw [join, relative]
  rfl

theorem enter_isName {name : Text} (isName : IsName name) (names : List Text) :
    enter names name = names ++ [name] := by
  rw [enter, if_neg (not_or.mpr ⟨isName.nonempty, isName.notHere⟩), if_neg isName.notParent]

theorem foldl_enter {more : List Text} (areNames : ∀ name ∈ more, IsName name)
    (names : List Text) : more.foldl enter names = names ++ more := by
  induction more generalizing names with
  | nil => exact (List.append_nil _).symm
  | cons name more inductionHypothesis =>
      rw [List.foldl_cons, enter_isName (areNames name List.mem_cons_self),
        inductionHypothesis fun other member => areNames other (List.mem_cons_of_mem _ member),
        List.append_assoc, List.singleton_append]

theorem isName_foldl (more : List Text) {names : List Text}
    (areNames : ∀ name ∈ names, IsName name) : ∀ name ∈ more.foldl enter names, IsName name := by
  induction more generalizing names with
  | nil => exact areNames
  | cons name more inductionHypothesis =>
      rw [List.foldl_cons]
      apply inductionHypothesis
      intro other member
      unfold enter at member
      split at member
      · exact areNames other member
      · rename_i notDropped
        split at member
        · exact areNames other (List.mem_of_mem_dropLast member)
        · rename_i notParent
          rcases List.mem_append.mp member with old | isNew
          · exact areNames other old
          · rw [List.mem_singleton.mp isNew]
            exact ⟨fun empty => notDropped (.inl empty), fun isHere => notDropped (.inr isHere),
              notParent⟩

theorem abspath_join (cwd : List Text) (dir : PosixPath) (names : List Text) :
    abspath cwd (dir.join ⟨false, names⟩) = ⟨true, names.foldl enter (abspath cwd dir).parts⟩ := by
  rw [join_relative rfl, abspath, abspath]
  dsimp only
  split
  · rw [normalize, List.foldl_append]
    rfl
  · rw [← List.append_assoc, normalize, List.foldl_append]
    rfl

theorem abspath_abspath (cwd : List Text) (path : PosixPath) :
    abspath cwd (abspath cwd path) = abspath cwd path := by
  have plain : ∀ names, normalize (normalize names) = normalize names := by
    intro names
    have areNames := isName_foldl names (fun _ member => (by cases member) : ∀ name ∈ [], _)
    exact foldl_enter areNames []
  have isAbsolute : (abspath cwd path).absolute = true := rfl
  rw [abspath, if_pos isAbsolute, abspath, plain]

theorem abspath_join_names {cwd : List Text} {dir : PosixPath} {names : List Text}
    (areNames : ∀ name ∈ names, IsName name) :
    abspath cwd (dir.join ⟨false, names⟩) = ⟨true, (abspath cwd dir).parts ++ names⟩ := by
  rw [abspath_join, foldl_enter areNames]

theorem abspath_join_name {cwd : List Text} {dir : PosixPath} {name : Text}
    (isName : IsName name) :
    abspath cwd (dir.join (ofName name)) = ⟨true, (abspath cwd dir).parts ++ [name]⟩ := by
  rw [ofName, abspath_join, List.foldl_cons, List.foldl_nil, enter_isName isName]

theorem basename_abspath {cwd : List Text} {dir : PosixPath} {name : Text} (isName : IsName name) :
    (abspath cwd (dir.join (ofName name))).basename = name := by
  rw [abspath_join_name isName, basename, List.getLast?_concat]
  rfl

/-- One name behind two paths leads to one file if and only if the paths do. -/
theorem sameFile_join_name {left right : PosixPath} {name : Text} (isName : IsName name) :
    SameFile (left.join (ofName name)) (right.join (ofName name)) ↔ SameFile left right := by
  constructor
  · intro same cwd
    have sameParts := same cwd
    rw [abspath_join_name isName, abspath_join_name isName, PosixPath.mk.injEq] at sameParts
    have parts := (List.append_inj' sameParts.2 rfl).1
    exact congrArg (PosixPath.mk true) parts
  · intro same cwd
    rw [abspath_join_name isName, abspath_join_name isName, same cwd]

theorem sameFile_here (dir : PosixPath) : SameFile (dir.join (ofName here)) dir := by
  intro cwd
  rw [ofName, abspath_join, List.foldl_cons, List.foldl_nil, enter, if_pos (.inr rfl)]
  rfl

/-- Plain names behind one directory lead to one file if and only if they are the same. -/
theorem sameFile_join_names (dir : PosixPath) {left right : List Text}
    (leftNames : ∀ name ∈ left, IsName name) (rightNames : ∀ name ∈ right, IsName name) :
    SameFile (dir.join ⟨false, left⟩) (dir.join ⟨false, right⟩) ↔ left = right := by
  constructor
  · intro same
    have sameParts := congrArg parts (same [])
    rw [abspath_join_names leftNames, abspath_join_names rightNames] at sameParts
    exact List.append_cancel_left sameParts
  · rintro rfl
    exact .refl _

theorem SameFile.join {left right file : PosixPath} (same : SameFile left right)
    (relative : file.absolute = false) : SameFile (left.join file) (right.join file) := by
  obtain ⟨absolute, names⟩ := file
  intro cwd
  rw [show absolute = false from relative, abspath_join, abspath_join, same cwd]

/-- An empty name and `.` stay where they are. -/
theorem sameFile_join_stays (dir : PosixPath) {name : Text} (stays : name = [] ∨ name = here)
    (names : List Text) : SameFile (dir.join ⟨false, name :: names⟩) (dir.join ⟨false, names⟩) := by
  intro cwd
  rw [abspath_join, abspath_join, List.foldl_cons, enter, if_pos stays]

/-- What `normpath` keeps of a path. -/
def IsNormal (names : List Text) : Prop := ∀ name ∈ names, IsName name ∨ name = parent

theorem isNormal_normalEnter {absolute : Bool} {names : List Text} (normal : IsNormal names)
    (name : Text) : IsNormal (normalEnter absolute names name) := by
  unfold normalEnter
  split
  · exact normal
  · rename_i notDropped
    split
    · intro other member
      rcases List.mem_append.mp member with old | isNew
      · exact normal other old
      · rw [List.mem_singleton.mp isNew]
        by_cases isParent : name = parent
        · exact .inr isParent
        · exact .inl ⟨fun empty => notDropped (.inl empty), fun isHere => notDropped (.inr isHere),
            isParent⟩
    · exact fun other member => normal other (List.mem_of_mem_dropLast member)

theorem isNormal_foldl {absolute : Bool} (parts : List Text) {names : List Text}
    (normal : IsNormal names) : IsNormal (parts.foldl (normalEnter absolute) names) := by
  induction parts generalizing names with
  | nil => exact normal
  | cons name parts inductionHypothesis =>
      exact inductionHypothesis (isNormal_normalEnter normal name)

theorem isNormal_nil : IsNormal [] := fun _ member => nomatch member

theorem isNormal_normpath (path : PosixPath) :
    path.normpath = ofName here ∨ IsNormal path.normpath.parts := by
  unfold normpath
  dsimp only
  split
  · exact .inl rfl
  · exact .inr (isNormal_foldl path.parts isNormal_nil)

/-- A step of `normpath` enters one name, wherever the path starts. -/
theorem foldl_enter_normalEnter {absolute : Bool} {names start : List Text} {name : Text}
    (normal : IsNormal names) (fromRoot : absolute = true → start = []) :
    (normalEnter absolute names name).foldl enter start =
      enter (names.foldl enter start) name := by
  unfold normalEnter
  split
  · rename_i stays
    rw [enter, if_pos stays]
  · rename_i notDropped
    split
    · rw [List.foldl_append]
      rfl
    · rename_i goesUp
      have isParent : name = parent := not_not.mp fun other => goesUp (.inl other)
      have up : enter (names.foldl enter start) name = (names.foldl enter start).dropLast := by
        rw [enter, if_neg notDropped, if_pos isParent]
      rw [up]
      rcases List.eq_nil_or_concat' names with empty | ⟨before, last, whole⟩
      · -- At the root there is nothing to leave.
        cases isAbsolute : absolute with
        | false => exact absurd (.inr (.inl ⟨isAbsolute, empty⟩)) goesUp
        | true =>
            rw [empty, fromRoot isAbsolute]
            rfl
      · have notParent : last ≠ parent := by
          intro again
          apply goesUp
          rw [whole, List.getLast?_concat, again]
          exact .inr (.inr rfl)
        have isName : IsName last :=
          (normal last (by rw [whole]; simp)).resolve_right notParent
        rw [whole, List.dropLast_concat, List.foldl_append, List.foldl_cons, List.foldl_nil,
          enter_isName isName, List.dropLast_concat]

theorem foldl_enter_foldl {absolute : Bool} (parts : List Text) {names start : List Text}
    (normal : IsNormal names) (fromRoot : absolute = true → start = []) :
    (parts.foldl (normalEnter absolute) names).foldl enter start =
      parts.foldl enter (names.foldl enter start) := by
  induction parts generalizing names with
  | nil => rfl
  | cons name parts inductionHypothesis =>
      rw [List.foldl_cons, List.foldl_cons, inductionHypothesis (isNormal_normalEnter normal name),
        foldl_enter_normalEnter normal fromRoot]

/-- **`normpath` leads to the same file.** -/
theorem sameFile_normpath (path : PosixPath) : SameFile path.normpath path := by
  intro cwd
  unfold normpath
  dsimp only
  cases isAbsolute : path.absolute with
  | true =>
      rw [if_neg (by simp), abspath, abspath, if_pos isAbsolute]
      exact congrArg (PosixPath.mk true) (foldl_enter_foldl path.parts isNormal_nil fun _ => rfl)
  | false =>
      have entered := @foldl_enter_foldl false path.parts [] (normalize cwd) isNormal_nil
        fun impossible => nomatch impossible
      have whole : abspath cwd path = ⟨true, path.parts.foldl enter (normalize cwd)⟩ := by
        rw [abspath, isAbsolute, if_neg (by simp), normalize, List.foldl_append]
        rfl
      rw [whole]
      split
      · rename_i empty
        rw [empty.2] at entered
        rw [abspath, if_neg (by simp [ofName]), normalize, List.foldl_append]
        exact congrArg (PosixPath.mk true) entered
      · rw [abspath, if_neg (by simp), normalize, List.foldl_append]
        exact congrArg (PosixPath.mk true) entered

theorem behindCommon_append (common more : List Text) :
    behindCommon common (common ++ more) = ([], more) := by
  induction common with
  | nil =>
      cases more with
      | nil => rfl
      | cons name more => rfl
  | cons name common inductionHypothesis =>
      rw [List.cons_append, behindCommon, if_pos rfl, inductionHypothesis]

/-- The relative path of what is below a directory. -/
theorem relpath_join {cwd : List Text} {start : PosixPath} {names : List Text}
    (areNames : ∀ name ∈ names, IsName name) :
    relpath cwd (start.join ⟨false, names⟩) start =
      if names = [] then ofName here else ⟨false, names⟩ := by
  have below : (abspath cwd (start.join ⟨false, names⟩)).parts =
      (abspath cwd start).parts ++ names := by
    rw [abspath_join_names areNames]
  unfold relpath
  rw [below, behindCommon_append]
  dsimp only
  by_cases empty : names = []
  · rw [if_pos ⟨rfl, empty⟩, if_pos empty]
  · rw [if_neg fun both => empty both.2, if_neg empty]
    rfl

theorem relpath_relative (cwd : List Text) (path start : PosixPath) :
    (relpath cwd path start).absolute = false := by
  unfold relpath
  dsimp only
  split
  · rfl
  · rfl

theorem relpath_congr {cwd : List Text} {left right start : PosixPath}
    (same : abspath cwd left = abspath cwd right) :
    relpath cwd left start = relpath cwd right start := by
  unfold relpath
  rw [same]

/-- **What is below a path, seen from the directory of the path.**  The name of the path comes first,
unless the path ends in `..`. -/
theorem relpath_dirname_normpath {cwd : List Text} {path : PosixPath} {names : List Text}
    (areNames : ∀ name ∈ names, IsName name) (below : names ≠ [])
    (notParent : path.normpath.basename ≠ parent) (dir : PosixPath) :
    SameFile (dir.join (relpath cwd (path.normpath.join ⟨false, names⟩) path.normpath.dirname))
      (dir.join ⟨false, path.normpath.basename :: names⟩) := by
  rcases isNormal_normpath path with isHere | normal
  · rw [isHere]
    have start : (ofName here).dirname = ⟨false, []⟩ := rfl
    have same : abspath cwd ((ofName here).join ⟨false, names⟩) =
        abspath cwd ((⟨false, []⟩ : PosixPath).join ⟨false, names⟩) :=
      sameFile_join_stays ⟨false, []⟩ (.inr rfl) names cwd
    rw [start, relpath_congr same, relpath_join areNames, if_neg below]
    exact (sameFile_join_stays dir (.inr rfl) names).symm
  · generalize path.normpath = given at normal notParent
    obtain ⟨absolute, parts⟩ := given
    rcases List.eq_nil_or_concat' parts with empty | ⟨before, last, whole⟩
    · subst empty
      have root : (⟨absolute, []⟩ : PosixPath).dirname = ⟨absolute, []⟩ := rfl
      rw [root, relpath_join areNames, if_neg below]
      exact (sameFile_join_stays dir (.inl rfl) names).symm
    · subst whole
      have start : (⟨absolute, before ++ [last]⟩ : PosixPath).dirname = ⟨absolute, before⟩ := by
        rw [dirname, List.dropLast_concat]
      have name : (⟨absolute, before ++ [last]⟩ : PosixPath).basename = last := by
        rw [basename, List.getLast?_concat]
        rfl
      rw [name] at notParent ⊢
      have isName : IsName last := (normal last (by simp)).resolve_right notParent
      have allNames : ∀ other ∈ last :: names, IsName other := by
        intro other member
        rcases List.mem_cons.mp member with isLast | inNames
        · rw [isLast]
          exact isName
        · exact areNames other inNames
      have path : (⟨absolute, before ++ [last]⟩ : PosixPath).join ⟨false, names⟩ =
          (⟨absolute, before⟩ : PosixPath).join ⟨false, last :: names⟩ := by
        rw [join_relative rfl, join_relative rfl, List.append_assoc, List.singleton_append]
      rw [start, path, relpath_join allNames, if_neg (List.cons_ne_nil _ _)]
      exact .refl _

/-- The text of what is below a directory starts with that of the directory. -/
theorem startsWith_join {dir file : PosixPath} (relative : file.absolute = false) :
    (dir.join file).startsWith dir = true := by
  rw [startsWith, List.isPrefixOf_iff_prefix, join_relative relative, text, text]
  dsimp only
  apply List.prefix_append_right_inj _ |>.mpr
  obtain ⟨absolute, names⟩ := dir
  dsimp only
  induction names with
  | nil => exact List.nil_prefix
  | cons name names inductionHypothesis =>
      cases names with
      | nil =>
          rw [List.intercalate_singleton]
          cases more : file.parts with
          | nil =>
              rw [List.append_nil, List.intercalate_singleton]
          | cons first rest =>
              rw [List.singleton_append, List.intercalate_cons_cons, List.append_assoc]
              exact List.prefix_append _ _
      | cons second names =>
          rw [List.cons_append, List.intercalate_cons_cons, List.cons_append,
            List.intercalate_cons_cons]
          exact (List.prefix_append_right_inj _).mpr inductionHypothesis

end PosixPath

end Tobiko.Foundation
