import Mathlib
import Tobiko.Foundation.Probing

/-!
Contract: the details of test cases, which are gathered from one dictionary into another.

Owns: `gather_details` with the names and contents that it makes, and that it keeps, adds and
repeats what it should.

Does not own: how the bytes of a content are produced from texts, JSON or YAML.
-/

namespace Tobiko.Common.Details

open Tobiko.Foundation

/-- `testtools.content.Content` -/
structure Content (Id ContentType Chunk Error : Type) where
  /-- `id(content_object)` -/
  objectId : Id
  /-- The attribute `content_id`, which not every content has. -/
  contentId : Option Id
  contentType : Option ContentType
  /-- `list(content_object.iter_bytes())` -/
  iterBytes : Except Error (List Chunk)

section Gathering

variable {Id ContentType Chunk Error : Type} [DecidableEq Id]
  (utf8Text : ContentType) (allocate : String → Id)

def getDetailsContentId (content : Content Id ContentType Chunk Error) : Id :=
  content.contentId.getD content.objectId

/-- `details_content` with the given bytes; `objectId` is the identity of the new object. -/
def detailsContent (objectId contentId : Id) (contentType : Option ContentType)
    (getBytes : List Chunk) : Content Id ContentType Chunk Error where
  objectId := objectId
  contentId := some contentId
  contentType := some (contentType.getD utf8Text)
  iterBytes := .ok getBytes

def copyDetailsContent (objectId : Id) (content : Content Id ContentType Chunk Error)
    (contentId : Id) : Except Error (Content Id ContentType Chunk Error) :=
  content.iterBytes.map fun contentBytes =>
    detailsContent utf8Text objectId contentId content.contentType contentBytes

/-- The names that are tried for a detail: its own one, then `'{!s}-{!s}'.format(name, index)`. -/
def detailName (name : String) : Nat → String
  | 0 => name
  | index + 1 => name ++ "-" ++ toString (index + 1)

def getUniqueDetailName (fuel : Nat) (name : String) (contentId : Id)
    (target : Dict String (Content Id ContentType Chunk Error)) : Option String :=
  probe (fun content => decide (contentId = getDetailsContentId content)) target
    (detailName name) fuel 0

/-- The body of the loop of `gather_details`, which logs the exceptions that are raised in it. -/
def gatherDetail (fuel : Nat) (target : Dict String (Content Id ContentType Chunk Error))
    (detail : String × Content Id ContentType Chunk Error) :
    Option (Dict String (Content Id ContentType Chunk Error)) :=
  match getUniqueDetailName fuel detail.1 (getDetailsContentId detail.2) target with
  | none => none
  | some newName =>
      match target.get? newName with
      | some _ => some target
      | none =>
          match copyDetailsContent utf8Text (allocate newName) detail.2
              (getDetailsContentId detail.2) with
          | .ok content => some (target.set newName content)
          | .error _ => some target

/-- `gather_details(source_dict, target_dict)` returns the target as it is left. -/
def gatherDetails (fuel : Nat) (source target : Dict String (Content Id ContentType Chunk Error)) :
    Option (Dict String (Content Id ContentType Chunk Error)) :=
  source.entries.foldlM (gatherDetail utf8Text allocate fuel) target

/-! ### Names -/

theorem detailName_injective (name : String) : Function.Injective (detailName name) := by
  have longer : ∀ index, name ≠ detailName name (index + 1) := by
    intro index same
    have lengths := congrArg String.length same
    simp only [detailName, String.length_append] at lengths
    have dash : "-".length = 1 := rfl
    omega
  intro one two same
  cases one with
  | zero =>
      cases two with
      | zero => rfl
      | succ two => exact (longer two same).elim
  | succ one =>
      cases two with
      | zero => exact (longer one same.symm).elim
      | succ two => exact Nat.repr_injective ((String.append_right_inj _).mp same)

/-! ### One detail -/

/-- The target holds an entry with the content id of the detail, and a search for it finds
that entry. -/
def Gathered (target : Dict String (Content Id ContentType Chunk Error))
    (detail : String × Content Id ContentType Chunk Error) : Prop :=
  ∃ index entry,
    FirstFit (fun content => decide (getDetailsContentId detail.2 = getDetailsContentId content))
      target (detailName detail.1) index ∧
    target.get? (detailName detail.1 index) = some entry ∧
    getDetailsContentId entry = getDetailsContentId detail.2

/-- The content id, the type and the bytes are those of the source content. -/
structure CopyOf (content entry : Content Id ContentType Chunk Error) : Prop where
  contentId : getDetailsContentId entry = getDetailsContentId content
  contentType : entry.contentType = some (content.contentType.getD utf8Text)
  iterBytes : entry.iterBytes = content.iterBytes

/-- The entry is a copy of the detail, under one of the names that are tried for it. -/
def CopiedFrom (detail : String × Content Id ContentType Chunk Error) (name : String)
    (entry : Content Id ContentType Chunk Error) : Prop :=
  ∃ index, name = detailName detail.1 index ∧ CopyOf utf8Text detail.2 entry

variable {target after : Dict String (Content Id ContentType Chunk Error)}
  {detail : String × Content Id ContentType Chunk Error}

theorem Gathered.extend (gathered : Gathered target detail) (grown : target.Extends after) :
    Gathered after detail := by
  obtain ⟨index, entry, firstFit, found, same⟩ := gathered
  have still := grown _ _ found
  refine ⟨index, entry, firstFit.extend grown fun value again => ?_, still, same⟩
  rw [still] at again
  cases again
  exact decide_eq_true same.symm

theorem Gathered.gatherDetail_eq (gathered : Gathered target detail) :
    ∃ bound, ∀ fuel, bound ≤ fuel → ∀ allocate,
      gatherDetail utf8Text allocate fuel target detail = some target := by
  obtain ⟨index, entry, firstFit, found, _⟩ := gathered
  refine ⟨index + 1, fun fuel enough allocate => ?_⟩
  unfold gatherDetail getUniqueDetailName
  rw [firstFit.probe_eq enough]
  simp only [found]

/-- A content that is put into the first fitting place stays there for the next search. -/
theorem gathered_set {index : Nat} (entry : Content Id ContentType Chunk Error)
    (firstFit : FirstFit
      (fun content => decide (getDetailsContentId detail.2 = getDetailsContentId content))
      target (detailName detail.1) index)
    (free : target.get? (detailName detail.1 index) = none)
    (same : getDetailsContentId entry = getDetailsContentId detail.2) :
    Gathered (target.set (detailName detail.1 index) entry) detail := by
  have placed :
      (target.set (detailName detail.1 index) entry).get? (detailName detail.1 index) =
        some entry := by
    rw [Dict.get?_set, if_pos rfl]
  refine ⟨index, entry, firstFit.extend (Dict.extends_set free) fun value found => ?_, placed,
    same⟩
  rw [placed] at found
  cases found
  exact decide_eq_true same.symm

omit [DecidableEq Id] in
theorem copyOf_detailsContent {content : Content Id ContentType Chunk Error} {chunks : List Chunk}
    (objectId : Id) (readable : content.iterBytes = .ok chunks) :
    CopyOf utf8Text content
      (detailsContent utf8Text objectId (getDetailsContentId content) content.contentType chunks) where
  contentId := rfl
  contentType := rfl
  iterBytes := readable.symm

/-- A detail is gathered into a larger target, unless its bytes cannot be read. What is new there
is a copy of it. -/
theorem gatherDetail_extends (target : Dict String (Content Id ContentType Chunk Error))
    (detail : String × Content Id ContentType Chunk Error) :
    ∃ bound after, (∀ fuel, bound ≤ fuel →
        gatherDetail utf8Text allocate fuel target detail = some after) ∧
      target.Extends after ∧
      (∀ chunks, detail.2.iterBytes = .ok chunks → Gathered after detail) ∧
      ∀ name entry, after.get? name = some entry →
        target.get? name = some entry ∨ CopiedFrom utf8Text detail name entry := by
  have search : ∃ index, FirstFit
      (fun content => decide (getDetailsContentId detail.2 = getDetailsContentId content))
      target (detailName detail.1) index :=
    exists_firstFit (detailName_injective detail.1)
  obtain ⟨index, firstFit⟩ := search
  have unique : ∀ fuel, index + 1 ≤ fuel →
      getUniqueDetailName fuel detail.1 (getDetailsContentId detail.2) target =
        some (detailName detail.1 index) :=
    fun fuel enough => firstFit.probe_eq enough
  cases found : target.get? (detailName detail.1 index) with
  | some entry =>
      have same := of_decide_eq_true (firstFit.fits entry found)
      refine ⟨index + 1, target, fun fuel enough => ?_, Dict.Extends.refl target, fun _ _ =>
        ⟨index, entry, firstFit, found, same.symm⟩, fun _ _ present => .inl present⟩
      unfold gatherDetail
      simp only [unique fuel enough, found]
  | none =>
      cases readable : detail.2.iterBytes with
      | error error =>
          refine ⟨index + 1, target, fun fuel enough => ?_, Dict.Extends.refl target,
            fun chunks same => ?_, fun _ _ present => .inl present⟩
          · unfold gatherDetail copyDetailsContent
            simp only [unique fuel enough, found, readable, Except.map]
          · cases same
      | ok chunks =>
          have gathered := gathered_set (detailsContent utf8Text
            (allocate (detailName detail.1 index)) (getDetailsContentId detail.2)
            detail.2.contentType chunks) firstFit found rfl
          refine ⟨index + 1, _, fun fuel enough => ?_, Dict.extends_set found, fun _ _ => gathered,
            fun name entry present => ?_⟩
          · unfold gatherDetail copyDetailsContent
            simp only [unique fuel enough, found, readable, Except.map]
          · rw [Dict.get?_set] at present
            split at present
            · rename_i own
              cases present
              exact .inr ⟨index, own, copyOf_detailsContent utf8Text _ readable⟩
            · exact .inl present

/-! ### All details -/

/-- **Every existing entry of the target is kept, every detail of the source is found in it, and
what is new in it are copies of them.** -/
structure Merges (source target after : Dict String (Content Id ContentType Chunk Error)) :
    Prop where
  keeps : ∀ name content, target.get? name = some content → after.get? name = some content
  holds : ∀ name content, source.get? name = some content → ∃ index entry,
    after.get? (detailName name index) = some entry ∧
      getDetailsContentId entry = getDetailsContentId content
  copies : ∀ name entry, after.get? name = some entry → target.get? name = some entry ∨
    ∃ original content, source.get? original = some content ∧
      CopiedFrom utf8Text (original, content) name entry

/-- The loop over some details: the target grows by copies of them, and all that can be read are
found in it. -/
theorem foldlM_gatherDetail
    (details : List (String × Content Id ContentType Chunk Error))
    (target : Dict String (Content Id ContentType Chunk Error)) :
    ∃ bound after, (∀ fuel, bound ≤ fuel →
        details.foldlM (gatherDetail utf8Text allocate fuel) target = some after) ∧
      target.Extends after ∧
      (∀ detail ∈ details, ∀ chunks, detail.2.iterBytes = .ok chunks → Gathered after detail) ∧
      ∀ name entry, after.get? name = some entry → target.get? name = some entry ∨
        ∃ detail ∈ details, CopiedFrom utf8Text detail name entry := by
  induction details generalizing target with
  | nil =>
      exact ⟨0, target, fun _ _ => rfl, Dict.Extends.refl target,
        fun _ member => (List.not_mem_nil member).elim, fun _ _ present => .inl present⟩
  | cons detail details inductionHypothesis =>
      obtain ⟨first, middle, gathers, grown, gathered, new⟩ :=
        gatherDetail_extends utf8Text allocate target detail
      obtain ⟨second, after, gathersRest, grownRest, gatheredRest, newRest⟩ :=
        inductionHypothesis middle
      refine ⟨max first second, after, fun fuel enough => ?_, grown.trans grownRest, ?_, ?_⟩
      · rw [List.foldlM_cons, gathers fuel (le_trans (le_max_left _ _) enough)]
        exact gathersRest fuel (le_trans (le_max_right _ _) enough)
      · intro other member chunks readable
        rcases List.mem_cons.mp member with rfl | later
        · exact (gathered chunks readable).extend grownRest
        · exact gatheredRest other later chunks readable
      · intro name entry present
        obtain before | ⟨other, later, copied⟩ := newRest name entry present
        · exact (new name entry before).imp_right fun copied =>
            ⟨detail, List.mem_cons_self, copied⟩
        · exact .inr ⟨other, List.mem_cons_of_mem _ later, copied⟩

theorem foldlM_gathered {details : List (String × Content Id ContentType Chunk Error)}
    (gathered : ∀ detail ∈ details, Gathered target detail) :
    ∃ bound, ∀ fuel, bound ≤ fuel → ∀ allocate,
      details.foldlM (gatherDetail utf8Text allocate fuel) target = some target := by
  induction details with
  | nil => exact ⟨0, fun _ _ _ => rfl⟩
  | cons detail details inductionHypothesis =>
      obtain ⟨first, gathers⟩ :=
        (gathered detail List.mem_cons_self).gatherDetail_eq utf8Text
      obtain ⟨second, gathersRest⟩ := inductionHypothesis fun other member =>
        gathered other (List.mem_cons_of_mem _ member)
      refine ⟨max first second, fun fuel enough allocate => ?_⟩
      rw [List.foldlM_cons, gathers fuel (le_trans (le_max_left _ _) enough)]
      exact gathersRest fuel (le_trans (le_max_right _ _) enough) allocate

/-- **Gathering ends and merges without loss, and doing it again changes nothing.** -/
theorem gatherDetails_merges (source target : Dict String (Content Id ContentType Chunk Error))
    (readable : ∀ name content, source.get? name = some content →
      ∃ chunks, content.iterBytes = .ok chunks) :
    ∃ bound after, Merges utf8Text source target after ∧ ∀ fuel, bound ≤ fuel →
      gatherDetails utf8Text allocate fuel source target = some after ∧
        ∀ later, gatherDetails utf8Text later fuel source after = some after := by
  obtain ⟨first, after, gathers, grown, gathered, new⟩ :=
    foldlM_gatherDetail utf8Text allocate source.entries target
  have all : ∀ detail ∈ source.entries, Gathered after detail := by
    intro detail member
    obtain ⟨chunks, read⟩ := readable detail.1 detail.2 (Dict.mem_entries_iff.mp member)
    exact gathered detail member chunks read
  obtain ⟨second, again⟩ := foldlM_gathered utf8Text all
  refine ⟨max first second, after, ⟨grown, fun name content found => ?_, fun name entry present => ?_⟩,
    fun fuel enough => ⟨gathers fuel (le_trans (le_max_left _ _) enough),
      again fuel (le_trans (le_max_right _ _) enough)⟩⟩
  · obtain ⟨index, entry, _, present, same⟩ := all _ (Dict.mem_entries_iff.mpr found)
    exact ⟨index, entry, present, same⟩
  · obtain before | ⟨detail, member, copied⟩ := new name entry present
    · exact .inl before
    · exact .inr ⟨detail.1, detail.2, Dict.mem_entries_iff.mp member, copied⟩

end Gathering

def newLog : Dict String (Content Nat String String Unit) :=
  Dict.ofPairs [("log", ⟨3, some 3, none, .ok ["new"]⟩)]

/-- Both names that are tried first for the new log are taken. -/
def oldLogs : Dict String (Content Nat String String Unit) :=
  Dict.ofPairs [("log", ⟨1, some 1, none, .ok ["old"]⟩), ("log-1", ⟨2, some 2, none, .ok []⟩)]

theorem gatherDetails_merges_logs :
    ∃ bound after, Merges "text" newLog oldLogs after ∧ ∀ fuel, bound ≤ fuel →
      gatherDetails "text" (fun _ => 4) fuel newLog oldLogs = some after ∧
        ∀ later, gatherDetails "text" later fuel newLog after = some after := by
  refine gatherDetails_merges "text" (fun _ => 4) newLog oldLogs fun name content found => ?_
  have entry : (name, content) ∈ [("log", ⟨3, some 3, none, .ok ["new"]⟩)] :=
    Dict.mem_entries_iff.mpr found
  cases List.mem_singleton.mp entry
  exact ⟨["new"], rfl⟩

end Tobiko.Common.Details
