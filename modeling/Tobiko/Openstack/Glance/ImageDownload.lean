import Mathlib.Logic.Function.Basic
import Tobiko.Foundation.Effect

/-!
Contract: the download of an image in `UrlGlanceImageFixture.get_image_from_url` of
`tobiko/openstack/glance/_image.py`, wherever a step of it raises.

Owns: the files of the image directory, the loop that writes the chunks to a temporary file, the
check of its size, and exactly when a call that raises leaves the directory as it was.

Does not own: the request, and the order of the messages in the log.
-/

namespace Tobiko.Openstack.Glance

open Tobiko.Foundation

/-- The files of the image directory. -/
abbrev ImageDir (Name Byte : Type) : Type := Name → Option (List Byte)

inductive DownloadError (Error : Type) where
  | external (error : Error)
  /-- Download file size mismatch: {!s} != {!r} -/
  | sizeMismatch (expectedSize actualSize : Int)
  | fileNotFound

/-- The answer to the request: the status may raise. -/
structure ImageResponse (Error Byte : Type) where
  contentLength : Option Int
  status : Except Error Unit
  chunks : List (List Byte)

/-- What the operations of a call do: each of them may raise. -/
structure DownloadSteps (Error Name Byte : Type) where
  response : Except Error (ImageResponse Error Byte)
  makedirs : Except Error Unit
  /-- The name of the temporary file. -/
  mkstemp : Except Error Name
  /-- The read of a chunk, and behind the last one that of the end. -/
  readChunk : Nat → Except Error Unit
  writeChunk : Nat → Except Error Unit
  close : Except Error Unit
  /-- How much of the data has reached the temporary file when its block raises. -/
  flushed : Nat
  temporarySize : Except Error Unit
  rename : Except Error Unit
  cachedSize : Except Error Unit
  openImageFile : Except Error Unit

section Loop

variable {Error Name Byte : Type}

abbrev Download (Error Name Byte Result : Type) : Type :=
  Effect (DownloadError Error) (ImageDir Name Byte) Result

def step {Result : Type} (outcome : Except Error Result) : Download Error Name Byte Result :=
  Effect.ofExcept (outcome.mapError .external)

variable (steps : DownloadSteps Error Name Byte)

/-- The loop over the chunks, from a place in them on, with the data that is written so far. -/
def writeChunks : Nat → List (List Byte) → List Byte → Except Error Unit × List Byte
  | index, [], data => (steps.readChunk index, data)
  | index, chunk :: chunks, data =>
      match steps.readChunk index with
      | .error error => (.error error, data)
      | .ok () =>
          match steps.writeChunk index with
          | .error error => (.error error, data)
          | .ok () => writeChunks (index + 1) chunks (data ++ chunk)

end Loop

section Download

variable {Error Name Byte : Type} [DecidableEq Name] (steps : DownloadSteps Error Name Byte)

/-- The block that writes the temporary file, which is closed at its end. -/
def writeTemporary (temporary : Name) (chunks : List (List Byte)) :
    Download Error Name Byte Unit := do
  let (result, data) := writeChunks steps 0 chunks []
  match result.bind fun _ => steps.close with
  | .error error =>
      Effect.modify fun files => Function.update files temporary (some (data.take steps.flushed))
      Effect.raise (.external error)
  | .ok () => Effect.modify fun files => Function.update files temporary (some data)

/-- `os.rename` -/
def renameFile (source target : Name) (files : ImageDir Name Byte) : ImageDir Name Byte :=
  Function.update (Function.update files source none) target (files source)

/-- The end of `_download_image_file`: the check of the size, and the move. -/
def moveTemporary (imageFile : Name) (expectedSize : Int) (temporary : Name) :
    Download Error Name Byte Unit := do
  step steps.temporarySize
  let files ← Effect.get
  let actualSize : Int := ((files temporary).getD []).length
  if expectedSize ≠ 0 ∧ actualSize ≠ expectedSize then
    Effect.raise (.sizeMismatch expectedSize actualSize)
  else do
    step steps.rename
    Effect.modify (renameFile temporary imageFile)

/-- `_download_image_file` -/
def downloadImageFile (imageFile : Name) (chunks : List (List Byte)) (expectedSize : Int) :
    Download Error Name Byte Unit := do
  step steps.makedirs
  let temporary ← step steps.mkstemp
  Effect.modify fun files => Function.update files temporary (some [])
  writeTemporary steps temporary chunks
  moveTemporary steps imageFile expectedSize temporary

/-- `get_image_from_file`: the data of the image, and its size. -/
def getImageFromFile (imageFile : Name) : Download Error Name Byte (List Byte × Nat) := do
  step steps.openImageFile
  let files ← Effect.get
  match files imageFile with
  | none => Effect.raise .fileNotFound
  | some data => pure (data, data.length)

/-- Whether the image file that there is has the size that is expected. -/
def isCached (imageFile : Name) (expectedSize : Int) (files : ImageDir Name Byte) : Bool :=
  expectedSize ≠ 0 && steps.cachedSize.toBool &&
    (files imageFile).any fun data => (data.length : Int) = expectedSize

def getImageFromUrl (imageFile : Name) : Download Error Name Byte (List Byte × Nat) := do
  let response ← step steps.response
  let expectedSize := response.contentLength.getD 0
  step response.status
  let files ← Effect.get
  if isCached steps imageFile expectedSize files then
    getImageFromFile steps imageFile
  else do
    downloadImageFile steps imageFile response.chunks expectedSize
    getImageFromFile steps imageFile

end Download

/-! ### The transfer -/

section Transfer

variable {Error Name Byte : Type} (steps : DownloadSteps Error Name Byte)

/-- Every chunk is read and written, and the temporary file is closed. -/
structure Writes (chunks : List (List Byte)) : Prop where
  reads : ∀ index ≤ chunks.length, steps.readChunk index = .ok ()
  writes : ∀ index < chunks.length, steps.writeChunk index = .ok ()
  closes : steps.close = .ok ()

/-- Every step behind `mkstemp` succeeds, and the size is as expected. -/
structure Transfers (chunks : List (List Byte)) (expectedSize : Int) : Prop
    extends Writes steps chunks where
  sized : steps.temporarySize = .ok ()
  matching : expectedSize = 0 ∨ (chunks.flatten.length : Int) = expectedSize
  renames : steps.rename = .ok ()

variable {steps} {chunks : List (List Byte)}

/-- The loop ends where each of its reads and writes succeeds. -/
theorem writeChunks_ok_iff {index : Nat} {data : List Byte} :
    (writeChunks steps index chunks data).1 = .ok () ↔
      (∀ later ≤ chunks.length, steps.readChunk (index + later) = .ok ()) ∧
        ∀ later < chunks.length, steps.writeChunk (index + later) = .ok () := by
  induction chunks generalizing index data with
  | nil =>
      constructor
      · intro read
        refine ⟨fun later within => ?_, fun later within => absurd within (Nat.not_lt_zero _)⟩
        rw [Nat.le_zero.mp within]
        exact read
      · intro both
        exact both.1 0 (Nat.le_refl 0)
  | cons chunk chunks inductionHypothesis =>
      have shift : ∀ later, index + 1 + later = index + (later + 1) := fun later => by omega
      rw [writeChunks]
      constructor
      · intro ended
        cases read : steps.readChunk index with
        | error error =>
            rw [read] at ended
            cases ended
        | ok _ =>
            cases written : steps.writeChunk index with
            | error error =>
                rw [read, written] at ended
                cases ended
            | ok _ =>
                rw [read, written] at ended
                obtain ⟨reads, writes⟩ := inductionHypothesis.mp ended
                constructor
                · intro later within
                  cases later with
                  | zero => exact read
                  | succ later => exact shift later ▸ reads later (Nat.le_of_succ_le_succ within)
                · intro later within
                  cases later with
                  | zero => exact written
                  | succ later => exact shift later ▸ writes later (Nat.lt_of_succ_lt_succ within)
      · intro both
        obtain ⟨reads, writes⟩ := both
        have read : steps.readChunk index = .ok () := reads 0 (Nat.zero_le _)
        have written : steps.writeChunk index = .ok () := writes 0 (Nat.zero_lt_succ _)
        rw [read, written]
        apply inductionHypothesis.mpr
        constructor
        · intro later within
          rw [shift]
          exact reads (later + 1) (Nat.succ_le_succ within)
        · intro later within
          rw [shift]
          exact writes (later + 1) (Nat.succ_lt_succ within)

theorem writeChunks_data {index : Nat} {data : List Byte}
    (ended : (writeChunks steps index chunks data).1 = .ok ()) :
    (writeChunks steps index chunks data).2 = data ++ chunks.flatten := by
  induction chunks generalizing index data with
  | nil => exact (List.append_nil data).symm
  | cons chunk chunks inductionHypothesis =>
      rw [writeChunks] at ended ⊢
      cases read : steps.readChunk index with
      | error error =>
          rw [read] at ended
          cases ended
      | ok _ =>
          cases written : steps.writeChunk index with
          | error error =>
              rw [read, written] at ended
              cases ended
          | ok _ =>
              rw [read, written] at ended
              dsimp only at ended ⊢
              rw [inductionHypothesis ended, List.flatten_cons, List.append_assoc]

theorem step_ok {Result : Type} (value : Result) :
    (step (.ok value) : Download Error Name Byte Result) files = some (.ok value, files) := rfl

end Transfer

section Cases

variable {Error Name Byte : Type} [DecidableEq Name] {steps : DownloadSteps Error Name Byte}
  {chunks : List (List Byte)} {expectedSize : Int} {files : ImageDir Name Byte}
  {imageFile temporary : Name}

/-- The block writes everything, or raises with something in the temporary file. -/
theorem writeTemporary_cases (temporary : Name) (chunks : List (List Byte))
    (files : ImageDir Name Byte) :
    (Writes steps chunks ∧ writeTemporary steps temporary chunks files =
        some (.ok (), Function.update files temporary (some chunks.flatten))) ∨
      (¬Writes steps chunks ∧ ∃ error data, writeTemporary steps temporary chunks files =
        some (.error error, Function.update files temporary (some data))) := by
  have ends := @writeChunks_ok_iff _ _ _ steps chunks 0 []
  simp only [Nat.zero_add] at ends
  unfold writeTemporary
  cases loop : writeChunks steps 0 chunks [] with
  | mk result data =>
      rw [loop] at ends
      dsimp only at ends ⊢
      cases result with
      | error error =>
          refine Or.inr ⟨fun all => ?_, _, _, rfl⟩
          cases ends.mpr ⟨all.reads, all.writes⟩
      | ok _ =>
          obtain ⟨reads, writes⟩ := ends.mp rfl
          cases closed : steps.close with
          | error error =>
              refine Or.inr ⟨fun all => ?_, _, _, rfl⟩
              cases closed.symm.trans all.closes
          | ok _ =>
              have written : data = chunks.flatten := by
                have whole := @writeChunks_data _ _ _ steps chunks 0 [] (by rw [loop])
                rw [loop] at whole
                exact whole
              rw [written]
              exact Or.inl ⟨⟨reads, writes, closed⟩, rfl⟩

/-- Nothing is made where the directory or the temporary file cannot be. -/
theorem download_refused {error : Error}
    (refused : steps.makedirs = .error error ∨ steps.mkstemp = .error error) :
    ∃ raised, downloadImageFile steps imageFile chunks expectedSize files =
      some (.error raised, files) := by
  unfold downloadImageFile
  cases makes : steps.makedirs with
  | error other => exact ⟨_, rfl⟩
  | ok _ =>
      obtain refused | refused := refused
      · cases makes.symm.trans refused
      · rw [Effect.bind_of_ok (step_ok ()), refused]
        exact ⟨_, rfl⟩

theorem downloadImageFile_eq (makes : steps.makedirs = .ok ())
    (made : steps.mkstemp = .ok temporary) :
    downloadImageFile steps imageFile chunks expectedSize files =
      (writeTemporary steps temporary chunks >>= fun _ =>
        moveTemporary steps imageFile expectedSize temporary)
          (Function.update files temporary (some [])) := by
  unfold downloadImageFile
  rw [makes, made, Effect.bind_of_ok (step_ok ()), Effect.bind_of_ok (step_ok temporary)]
  rfl

/-- What is behind the block either moves the temporary file or leaves it. -/
theorem moveTemporary_cases (written : files temporary = some chunks.flatten) :
    (steps.temporarySize = .ok () ∧
        (expectedSize = 0 ∨ (chunks.flatten.length : Int) = expectedSize) ∧
        steps.rename = .ok () ∧ moveTemporary steps imageFile expectedSize temporary files =
          some (.ok (), renameFile temporary imageFile files)) ∨
      (¬(steps.temporarySize = .ok () ∧
          (expectedSize = 0 ∨ (chunks.flatten.length : Int) = expectedSize) ∧
          steps.rename = .ok ()) ∧
        ∃ error, moveTemporary steps imageFile expectedSize temporary files =
          some (.error error, files)) := by
  unfold moveTemporary
  cases sized : steps.temporarySize with
  | error error =>
      refine Or.inr ⟨fun all => ?_, _, rfl⟩
      cases all.1
  | ok _ =>
      rw [Effect.bind_of_ok (step_ok ())]
      have read : (Effect.get : Download Error Name Byte (ImageDir Name Byte)) files =
          some (.ok files, files) := rfl
      rw [Effect.bind_of_ok read, written, Option.getD_some]
      by_cases mismatch : expectedSize ≠ 0 ∧ (chunks.flatten.length : Int) ≠ expectedSize
      · rw [if_pos mismatch]
        refine Or.inr ⟨fun all => ?_, _, rfl⟩
        exact all.2.1.elim mismatch.1 mismatch.2
      · rw [if_neg mismatch]
        cases renamed : steps.rename with
        | error error =>
            refine Or.inr ⟨fun all => ?_, _, rfl⟩
            cases all.2.2
        | ok _ =>
            refine Or.inl ⟨rfl, ?_, rfl, rfl⟩
            by_cases zero : expectedSize = 0
            · exact Or.inl zero
            · exact Or.inr (not_not.mp fun different => mismatch ⟨zero, different⟩)

/-- A transfer that breaks leaves its temporary file. -/
theorem download_torn (makes : steps.makedirs = .ok ()) (made : steps.mkstemp = .ok temporary)
    (broken : ¬Transfers steps chunks expectedSize) :
    ∃ error data, downloadImageFile steps imageFile chunks expectedSize files =
      some (.error error, Function.update files temporary (some data)) := by
  rw [downloadImageFile_eq makes made]
  obtain ⟨writes, ran⟩ | ⟨-, error, data, ran⟩ := @writeTemporary_cases _ _ _ _ steps temporary
    chunks (Function.update files temporary (some []))
  · rw [Function.update_idem] at ran
    rw [Effect.bind_of_ok ran]
    have written : Function.update files temporary (some chunks.flatten) temporary =
        some chunks.flatten := Function.update_self _ _ _
    obtain ⟨sized, matching, renames, -⟩ | ⟨-, error, raised⟩ :=
      @moveTemporary_cases _ _ _ _ steps chunks expectedSize _ imageFile temporary written
    · exact absurd ⟨writes, sized, matching, renames⟩ broken
    · exact ⟨error, chunks.flatten, raised⟩
  · rw [Function.update_idem] at ran
    rw [Effect.bind_of_error ran]
    exact ⟨error, data, rfl⟩

/-- A transfer moves the body to the image file. -/
theorem download_done (makes : steps.makedirs = .ok ()) (made : steps.mkstemp = .ok temporary)
    (transfers : Transfers steps chunks expectedSize) (fresh : files temporary = none) :
    downloadImageFile steps imageFile chunks expectedSize files =
      some (.ok (), Function.update files imageFile (some chunks.flatten)) := by
  rw [downloadImageFile_eq makes made]
  obtain ⟨-, ran⟩ | ⟨broken, -⟩ := @writeTemporary_cases _ _ _ _ steps temporary
    chunks (Function.update files temporary (some []))
  · rw [Function.update_idem] at ran
    rw [Effect.bind_of_ok ran]
    have written : Function.update files temporary (some chunks.flatten) temporary =
        some chunks.flatten := Function.update_self _ _ _
    obtain ⟨-, -, -, moved⟩ | ⟨broken, -⟩ :=
      @moveTemporary_cases _ _ _ _ steps chunks expectedSize _ imageFile temporary written
    · have removed : Function.update files temporary none = files := by
        rw [← fresh, Function.update_eq_self]
      rw [moved, renameFile, written, Function.update_idem, removed]
    · exact absurd ⟨transfers.sized, transfers.matching, transfers.renames⟩ broken
  · exact absurd transfers.toWrites broken

end Cases

section Image

variable {Error Name Byte : Type} {steps : DownloadSteps Error Name Byte}
  {files : ImageDir Name Byte} {imageFile : Name}

/-- Nothing is changed by the read of the image file. -/
theorem getImageFromFile_keeps (steps : DownloadSteps Error Name Byte) (imageFile : Name)
    (files : ImageDir Name Byte) :
    ∃ result, getImageFromFile steps imageFile files = some (result, files) := by
  unfold getImageFromFile
  cases opens : steps.openImageFile with
  | error error => exact ⟨_, rfl⟩
  | ok _ =>
      have read : (Effect.get : Download Error Name Byte (ImageDir Name Byte)) files =
          some (.ok files, files) := rfl
      rw [Effect.bind_of_ok (step_ok ()), Effect.bind_of_ok read]
      cases files imageFile with
      | none => exact ⟨_, rfl⟩
      | some data => exact ⟨_, rfl⟩

theorem getImageFromFile_returns {data : List Byte} (present : files imageFile = some data)
    (opens : steps.openImageFile = .ok ()) :
    getImageFromFile steps imageFile files = some (.ok (data, data.length), files) := by
  have read : (Effect.get : Download Error Name Byte (ImageDir Name Byte)) files =
      some (.ok files, files) := rfl
  unfold getImageFromFile
  rw [opens, Effect.bind_of_ok (step_ok ()), Effect.bind_of_ok read, present]
  rfl

theorem getImageFromFile_raises {error : Error} (raises : steps.openImageFile = .error error) :
    getImageFromFile steps imageFile files = some (.error (.external error), files) := by
  unfold getImageFromFile
  rw [raises]
  rfl

end Image

/-! ### Calls that raise -/

section Verdict

variable {Error Name Byte : Type} [DecidableEq Name]

/-- The image file has its earlier content or the whole body. -/
def WholeImage (steps : DownloadSteps Error Name Byte) (imageFile : Name)
    (before after : ImageDir Name Byte) : Prop :=
  after imageFile = before imageFile ∨
    ∃ response, steps.response = .ok response ∧ after imageFile = some response.chunks.flatten

/-- Nothing raises once there is a temporary file. -/
def RaisesEarly (steps : DownloadSteps Error Name Byte) (imageFile : Name)
    (files : ImageDir Name Byte) : Prop :=
  ∀ response, steps.response = .ok response → response.status = .ok () →
    isCached steps imageFile (response.contentLength.getD 0) files = false →
    steps.makedirs = .ok () → ∀ temporary, steps.mkstemp = .ok temporary →
    Transfers steps response.chunks (response.contentLength.getD 0) ∧
      (steps.openImageFile = .ok () ∨ files imageFile = some response.chunks.flatten)

/-- A run whose image file is whole, and which leaves the files as they were if it raises, where the
condition holds. -/
def LeavesFiles (steps : DownloadSteps Error Name Byte) (imageFile : Name)
    (files : ImageDir Name Byte) (condition : Prop) : Prop :=
  ∃ result after, getImageFromUrl steps imageFile files = some (result, after) ∧
    WholeImage steps imageFile files after ∧
    ((∀ error, result = .error error → after = files) ↔ condition)

variable {steps : DownloadSteps Error Name Byte} {imageFile : Name} {files : ImageDir Name Byte}
  {response : ImageResponse Error Byte}

/-- A call that raises or returns without a change. -/
theorem leavesFiles_unchanged {condition : Prop}
    {result : Except (DownloadError Error) (List Byte × Nat)}
    (ran : getImageFromUrl steps imageFile files = some (result, files)) (holds : condition) :
    LeavesFiles steps imageFile files condition :=
  ⟨result, files, ran, Or.inl rfl, fun _ => holds, fun _ _ _ => rfl⟩

theorem getImageFromUrl_answered (answers : steps.response = .ok response)
    (succeeds : response.status = .ok ()) :
    getImageFromUrl steps imageFile files =
      (if isCached steps imageFile (response.contentLength.getD 0) files then
        getImageFromFile steps imageFile
      else do
        downloadImageFile steps imageFile response.chunks (response.contentLength.getD 0)
        getImageFromFile steps imageFile) files := by
  have read : (Effect.get : Download Error Name Byte (ImageDir Name Byte)) files =
      some (.ok files, files) := rfl
  unfold getImageFromUrl
  rw [answers, Effect.bind_of_ok (step_ok response), succeeds, Effect.bind_of_ok (step_ok ()),
    Effect.bind_of_ok read]

/-- A download that is made: it depends on what happens behind `mkstemp`. -/
theorem leavesFiles_downloads {temporary : Name} (answers : steps.response = .ok response)
    (succeeds : response.status = .ok ())
    (uncached : isCached steps imageFile (response.contentLength.getD 0) files = false)
    (makes : steps.makedirs = .ok ()) (made : steps.mkstemp = .ok temporary)
    (fresh : files temporary = none) (other : temporary ≠ imageFile) :
    LeavesFiles steps imageFile files
      (Transfers steps response.chunks (response.contentLength.getD 0) ∧
        (steps.openImageFile = .ok () ∨ files imageFile = some response.chunks.flatten)) := by
  have called := @getImageFromUrl_answered _ _ _ _ steps imageFile files response answers succeeds
  rw [uncached, if_neg Bool.false_ne_true] at called
  by_cases transfers : Transfers steps response.chunks (response.contentLength.getD 0)
  · have present : Function.update files imageFile (some response.chunks.flatten) imageFile =
        some response.chunks.flatten := Function.update_self _ _ _
    have whole : WholeImage steps imageFile files
        (Function.update files imageFile (some response.chunks.flatten)) :=
      Or.inr ⟨response, answers, present⟩
    rw [Effect.bind_of_ok (download_done makes made transfers fresh)] at called
    cases opens : steps.openImageFile with
    | ok _ =>
        rw [getImageFromFile_returns present opens] at called
        refine ⟨_, _, called, whole, fun _ => ⟨transfers, Or.inl rfl⟩, fun _ error raised => ?_⟩
        cases raised
    | error error =>
        rw [getImageFromFile_raises opens] at called
        refine ⟨_, _, called, whole, fun same => ⟨transfers, Or.inr ?_⟩, fun both _ _ => ?_⟩
        · rw [← same _ rfl]
          exact present
        · obtain opened | already := both.2
          · cases opened
          · rw [← already, Function.update_eq_self]
  · obtain ⟨error, data, torn⟩ := @download_torn _ _ _ _ steps response.chunks
      (response.contentLength.getD 0) files imageFile temporary makes made transfers
    rw [Effect.bind_of_error torn] at called
    refine ⟨_, _, called, Or.inl (Function.update_of_ne other.symm _ _), fun same => ?_,
      fun both => absurd both.1 transfers⟩
    have left : Function.update files temporary (some data) temporary = some data :=
      Function.update_self _ _ _
    rw [same error rfl, fresh] at left
    cases left

/-- A call that is not answered changes nothing. -/
theorem leavesFiles_unanswered (steps : DownloadSteps Error Name Byte) (imageFile : Name)
    (files : ImageDir Name Byte)
    (refused : ∀ response, steps.response = .ok response → response.status ≠ .ok ()) :
    LeavesFiles steps imageFile files (RaisesEarly steps imageFile files) := by
  have holds : RaisesEarly steps imageFile files :=
    fun response answered succeeds => absurd succeeds (refused response answered)
  cases answers : steps.response with
  | error error =>
      have ran : getImageFromUrl steps imageFile files = some (.error (.external error), files) := by
        unfold getImageFromUrl
        rw [answers]
        rfl
      exact leavesFiles_unchanged ran holds
  | ok response =>
      cases fails : response.status with
      | error error =>
          have ran : getImageFromUrl steps imageFile files =
              some (.error (.external error), files) := by
            unfold getImageFromUrl
            rw [answers, Effect.bind_of_ok (step_ok response), fails]
            rfl
          exact leavesFiles_unchanged ran holds
      | ok _ => exact absurd fails (refused response answers)

/-- A call that makes no temporary file changes nothing. -/
theorem leavesFiles_unmade (answers : steps.response = .ok response)
    (succeeds : response.status = .ok ())
    (unmade : isCached steps imageFile (response.contentLength.getD 0) files = false →
      ∃ error, steps.makedirs = .error error ∨ steps.mkstemp = .error error) :
    LeavesFiles steps imageFile files (RaisesEarly steps imageFile files) := by
  have called := @getImageFromUrl_answered _ _ _ _ steps imageFile files response answers succeeds
  have same : ∀ {other}, steps.response = .ok other → other = response := by
    intro other answered
    exact (Except.ok.inj (answers.symm.trans answered)).symm
  cases cached : isCached steps imageFile (response.contentLength.getD 0) files with
  | true =>
      rw [cached, if_pos rfl] at called
      obtain ⟨result, ran⟩ := getImageFromFile_keeps steps imageFile files
      apply leavesFiles_unchanged (called.trans ran)
      intro other answered _ notCached
      rw [same answered, cached] at notCached
      cases notCached
  | false =>
      rw [cached, if_neg Bool.false_ne_true] at called
      obtain ⟨error, refused⟩ := unmade cached
      obtain ⟨raised, ran⟩ := @download_refused _ _ _ _ steps response.chunks
        (response.contentLength.getD 0) files imageFile error refused
      rw [Effect.bind_of_error ran] at called
      apply leavesFiles_unchanged called
      intro other _ _ _ makes temporary made
      rw [makes, made] at refused
      cases refused with
      | inl impossible => cases impossible
      | inr impossible => cases impossible

/-- **The image file has its earlier content or the whole body, but a call that raises once it has
made its temporary file leaves this file behind.** -/
theorem getImageFromUrl_leavesFiles_iff (steps : DownloadSteps Error Name Byte) (imageFile : Name)
    (files : ImageDir Name Byte)
    (fresh : ∀ temporary, steps.mkstemp = .ok temporary →
      files temporary = none ∧ temporary ≠ imageFile) :
    LeavesFiles steps imageFile files (RaisesEarly steps imageFile files) := by
  by_cases refused : ∀ response, steps.response = .ok response → response.status ≠ .ok ()
  · exact leavesFiles_unanswered steps imageFile files refused
  · obtain ⟨response, answers, succeeds⟩ :
        ∃ response, steps.response = .ok response ∧ response.status = .ok () := by
      simpa using refused
    by_cases unmade : isCached steps imageFile (response.contentLength.getD 0) files = false →
        ∃ error, steps.makedirs = .error error ∨ steps.mkstemp = .error error
    · exact leavesFiles_unmade answers succeeds unmade
    · obtain ⟨uncached, neverRaises⟩ := Classical.not_imp.mp unmade
      cases makes : steps.makedirs with
      | error error => exact absurd ⟨error, .inl makes⟩ neverRaises
      | ok _ =>
          cases made : steps.mkstemp with
          | error error => exact absurd ⟨error, .inr made⟩ neverRaises
          | ok temporary =>
              obtain ⟨result, after, ran, whole, early⟩ := leavesFiles_downloads answers succeeds
                uncached makes made (fresh temporary made).1 (fresh temporary made).2
              refine ⟨result, after, ran, whole, early.trans ⟨fun both => ?_, fun all => ?_⟩⟩
              · intro other answered _ _ _ _ _
                rw [← Except.ok.inj (answers.symm.trans answered)]
                exact both
              · exact all response answers succeeds uncached makes temporary made

end Verdict

/-- A body of two chunks, with what happens when the second one is read. -/
def twoChunks (secondRead : Except String Unit) : DownloadSteps String String Nat where
  response := .ok ⟨some 3, .ok (), [[1, 2], [3]]⟩
  makedirs := .ok ()
  mkstemp := .ok "tmpk2x1"
  readChunk index := if index = 1 then secondRead else .ok ()
  writeChunk _ := .ok ()
  close := .ok ()
  flushed := 2
  temporarySize := .ok ()
  rename := .ok ()
  cachedSize := .ok ()
  openImageFile := .ok ()

/-- Both chunks are read. -/
theorem twoChunks_leavesFiles :
    LeavesFiles (twoChunks (.ok ())) "image" (fun _ => none)
      (RaisesEarly (twoChunks (.ok ())) "image" fun _ => none) := by
  apply getImageFromUrl_leavesFiles_iff
  intro temporary made
  cases made
  exact ⟨rfl, by decide⟩

/-- The second chunk cannot be read: the call raises and leaves its temporary file. -/
theorem twoChunks_left :
    ∃ error after, getImageFromUrl (twoChunks (.error "ConnectionError")) "image" (fun _ => none) =
        some (.error (.external error), after) ∧ after "tmpk2x1" = some [1, 2] :=
  ⟨"ConnectionError", _, rfl, rfl⟩

end Tobiko.Openstack.Glance
