import Mathlib.Data.List.Sort
import Mathlib.Data.List.Lex
import Mathlib.Data.Char
import Tobiko.Foundation.Dictionary
import Tobiko.Foundation.FirstOccurrences
import Tobiko.Foundation.Text

/-!
Contract: the parsed form of what `ovn-nbctl show` and `ovn-sbctl show` print, as
`_parse_ovn_db_show` makes it.

Owns: the loop over the lines, the text of an output with its records, and what the parser makes of
such a text.

Does not own: the commands that print the text, and what two dictionaries say about their outputs.
-/

namespace Tobiko.Openstack.Neutron

open Tobiko.Foundation

/-! ### The parser -/

abbrev Sections : Type := Dict Text (List Text)

inductive ShowError where
  | keyError (section_ : Text)
  deriving DecidableEq

/-- `re.match(r'^\s+', line)` -/
def isIndented (line : Text) : Bool := line.head?.any Text.isSpace

/-- The body of the loop over the lines, with the current section. -/
def parseShowLine (state : Text × Sections) (line : Text) : Except ShowError (Text × Sections) :=
  if isIndented line then
    match state.2.get? state.1 with
    | none => .error (.keyError state.1)
    | some lines => .ok (state.1, state.2.set state.1 (lines ++ [Text.strip line]))
  else .ok (Text.strip line, state.2.set (Text.strip line) [])

def sortLines (lines : List Text) : List Text := lines.insertionSort (· ≤ ·)

def sortSections (sections : Sections) : Sections where
  entries := sections.entries.map fun entry => (entry.1, sortLines entry.2)
  distinct := by
    rw [List.map_map]
    exact sections.distinct

def parseOvnDbShow (ovnDbShowStr : Text) : Except ShowError Sections := do
  let (_, ovnDbDict) ← (Text.splitLines ovnDbShowStr).foldlM parseShowLine ([], Dict.empty)
  .ok (sortSections ovnDbDict)

/-- Both texts are parsed, to equal dictionaries. -/
def EqualDumps (left right : Text) : Prop :=
  ∃ leftDict rightDict, parseOvnDbShow left = .ok leftDict ∧ parseOvnDbShow right = .ok rightDict ∧
    ∀ header, leftDict.get? header = rightDict.get? header

/-! ### Outputs -/

/-- What a line has behind its indentation. -/
structure IsLine (text : Text) : Prop where
  nonempty : text ≠ []
  trimmed : Text.Trimmed text
  oneLine : text.any Text.isLineBreak = false

structure NestedRecord where
  name : Text
  attributes : List Text
  deriving DecidableEq

structure TopRecord where
  header : Text
  nested : List NestedRecord
  deriving DecidableEq

def NestedRecord.lines (record : NestedRecord) : List Text := record.name :: record.attributes

/-- The indented lines of a record: the names of what is nested in it, and their attributes. -/
def TopRecord.lines (record : TopRecord) : List Text := record.nested.flatMap NestedRecord.lines

structure WellFormed (output : List TopRecord) : Prop where
  distinct : (output.map TopRecord.header).Nodup
  header : ∀ record ∈ output, IsLine record.header
  lines : ∀ record ∈ output, ∀ line ∈ record.lines, IsLine line

/-- How many spaces are in front of the nested records and of their attributes. -/
structure Layout where
  nestedIndent : Nat
  attributeIndent : Nat
  indented : 0 < nestedIndent
  deeper : nestedIndent < attributeIndent

def indent (width : Nat) (line : Text) : Text := List.replicate width ' ' ++ line

namespace Layout

variable (layout : Layout)

def nestedLines (record : NestedRecord) : List Text :=
  indent layout.nestedIndent record.name ::
    record.attributes.map (indent layout.attributeIndent)

def recordLines (record : TopRecord) : List Text :=
  record.header :: record.nested.flatMap layout.nestedLines

/-- What `show` prints: each line with its line feed. -/
def showText (output : List TopRecord) : Text :=
  (output.flatMap layout.recordLines).flatMap (· ++ ['\n'])

end Layout

/-! ### The lines of an output -/

theorem splitLines_flatMap {lines : List Text}
    (oneLine : ∀ line ∈ lines, line.any Text.isLineBreak = false) :
    Text.splitLines (lines.flatMap (· ++ ['\n'])) = lines := by
  induction lines with
  | nil => rfl
  | cons line lines inductionHypothesis =>
      rw [List.flatMap_cons, List.append_assoc, List.singleton_append,
        Text.splitLines_append_line (oneLine line List.mem_cons_self),
        inductionHypothesis fun other member => oneLine other (List.mem_cons_of_mem _ member)]

theorem IsLine.not_indented {text : Text} (isLine : IsLine text) : isIndented text = false := by
  cases text with
  | nil => exact absurd rfl isLine.nonempty
  | cons character text => exact isLine.trimmed.first character rfl

theorem IsLine.strip {text : Text} (isLine : IsLine text) : Text.strip text = text := by
  rw [Text.strip, Text.lstrip_eq_self isLine.trimmed.first,
    Text.rstrip_eq_self isLine.trimmed.last]

theorem isBlank_spaces (width : Nat) : Text.IsBlank (List.replicate width ' ') := by
  intro character member
  rw [List.eq_of_mem_replicate member]
  rfl

theorem IsLine.strip_indent {text : Text} (isLine : IsLine text) (width : Nat) :
    Text.strip (indent width text) = text := by
  rw [indent, Text.strip, Text.lstrip_append (isBlank_spaces width)]
  exact isLine.strip

theorem isIndented_indent {width : Nat} (positive : 0 < width) (text : Text) :
    isIndented (indent width text) = true := by
  obtain ⟨more, rfl⟩ := Nat.exists_eq_succ_of_ne_zero positive.ne'
  rfl

theorem oneLine_indent {text : Text} (isLine : IsLine text) (width : Nat) :
    (indent width text).any Text.isLineBreak = false := by
  rw [indent, List.any_append, isLine.oneLine, Bool.or_false, List.any_eq_false]
  intro character member
  rw [List.eq_of_mem_replicate member]
  decide

/-! ### The loop -/

/-- Indented lines are put behind those of the current section. -/
theorem foldlM_indented {indented : List Text} {lines : List Text}
    (stripped : List.Forall₂ (fun line text => isIndented line = true ∧ Text.strip line = text)
      indented lines)
    {header : Text} {sections : Sections} {before : List Text}
    (present : sections.get? header = some before) :
    ∃ after : Sections, indented.foldlM parseShowLine (header, sections) = .ok (header, after) ∧
      ∀ key, after.get? key =
        if key = header then some (before ++ lines) else sections.get? key := by
  induction stripped generalizing sections before with
  | nil =>
      refine ⟨sections, rfl, fun key => ?_⟩
      split
      · rename_i same
        rw [same, present, List.append_nil]
      · rfl
  | @cons line text indented lines first _ inductionHypothesis =>
      obtain ⟨isIndented, rfl⟩ := first
      have parsed : parseShowLine (header, sections) line =
          .ok (header, sections.set header (before ++ [Text.strip line])) := by
        unfold parseShowLine
        rw [if_pos isIndented]
        dsimp only
        rw [present]
      have presentNow : (sections.set header (before ++ [Text.strip line])).get? header =
          some (before ++ [Text.strip line]) := by
        rw [Dict.get?_set, if_pos rfl]
      obtain ⟨after, folded, found⟩ := inductionHypothesis presentNow
      refine ⟨after, ?_, fun key => ?_⟩
      · rw [List.foldlM_cons, parsed]
        exact folded
      · rw [found, List.append_assoc, List.singleton_append, Dict.get?_set]
        split
        · rfl
        · rfl

theorem Layout.nestedLines_stripped (layout : Layout) {record : NestedRecord}
    (areLines : ∀ line ∈ record.lines, IsLine line) :
    List.Forall₂ (fun line text => isIndented line = true ∧ Text.strip line = text)
      (layout.nestedLines record) record.lines := by
  have attributeIndented : 0 < layout.attributeIndent := layout.indented.trans layout.deeper
  refine .cons ⟨isIndented_indent layout.indented _,
    (areLines _ List.mem_cons_self).strip_indent _⟩ ?_
  rw [List.forall₂_map_left_iff, List.forall₂_same]
  intro attribute_ member
  exact ⟨isIndented_indent attributeIndented _,
    (areLines _ (List.mem_cons_of_mem _ member)).strip_indent _⟩

theorem Layout.flatMap_stripped (layout : Layout) {nested : List NestedRecord}
    (areLines : ∀ line ∈ nested.flatMap NestedRecord.lines, IsLine line) :
    List.Forall₂ (fun line text => isIndented line = true ∧ Text.strip line = text)
      (nested.flatMap layout.nestedLines) (nested.flatMap NestedRecord.lines) := by
  induction nested with
  | nil => exact .nil
  | cons record nested inductionHypothesis =>
      rw [List.flatMap_cons, List.flatMap_cons]
      apply List.rel_append
      · exact layout.nestedLines_stripped fun line member =>
          areLines line (List.mem_append_left _ member)
      · exact inductionHypothesis fun line member => areLines line (List.mem_append_right _ member)

/-- A record starts a section and fills it. -/
theorem foldlM_record (layout : Layout) {record : TopRecord} (header : IsLine record.header)
    (areLines : ∀ line ∈ record.lines, IsLine line) (current : Text) (sections : Sections) :
    ∃ after : Sections, (layout.recordLines record).foldlM parseShowLine (current, sections) =
        .ok (record.header, after) ∧
      ∀ key, after.get? key =
        if key = record.header then some record.lines else sections.get? key := by
  have started : parseShowLine (current, sections) record.header =
      .ok (record.header, sections.set record.header []) := by
    unfold parseShowLine
    rw [if_neg (Bool.eq_false_iff.mp header.not_indented), header.strip]
  have present : (sections.set record.header []).get? record.header = some [] := by
    rw [Dict.get?_set, if_pos rfl]
  obtain ⟨after, folded, found⟩ :=
    foldlM_indented (@Layout.flatMap_stripped layout record.nested areLines) present
  refine ⟨after, ?_, fun key => ?_⟩
  · rw [Layout.recordLines, List.foldlM_cons, started]
    exact folded
  · rw [found, Dict.get?_set, List.nil_append]
    split
    · rfl
    · rfl

theorem foldlM_output (layout : Layout) {output : List TopRecord} (wellFormed : WellFormed output)
    (current : Text) (sections : Sections) :
    ∃ last after, (output.flatMap layout.recordLines).foldlM parseShowLine (current, sections) =
        .ok (last, after) ∧
      (∀ record ∈ output, after.get? record.header = some record.lines) ∧
      ∀ key, key ∉ output.map TopRecord.header → after.get? key = sections.get? key := by
  induction output generalizing current sections with
  | nil => exact ⟨current, sections, rfl, fun _ member => (by cases member), fun _ _ => rfl⟩
  | cons record output inductionHypothesis =>
      have distinct := wellFormed.distinct
      rw [List.map_cons, List.nodup_cons] at distinct
      have others : WellFormed output :=
        ⟨distinct.2, fun other member => wellFormed.header other (List.mem_cons_of_mem _ member),
          fun other member => wellFormed.lines other (List.mem_cons_of_mem _ member)⟩
      obtain ⟨middle, folded, found⟩ := foldlM_record layout
        (wellFormed.header record List.mem_cons_self) (wellFormed.lines record List.mem_cons_self)
        current sections
      obtain ⟨last, after, foldedRest, foundRest, otherwise_⟩ :=
        inductionHypothesis others record.header middle
      refine ⟨last, after, ?_, ?_, fun key absent => ?_⟩
      · rw [List.flatMap_cons, List.foldlM_append, folded]
        exact foldedRest
      · intro other member
        rcases List.mem_cons.mp member with rfl | member
        · rw [otherwise_ _ distinct.1, found, if_pos rfl]
        · exact foundRest other member
      · rw [List.map_cons, List.mem_cons, not_or] at absent
        rw [otherwise_ key absent.2, found, if_neg absent.1]

theorem get?_sortSections (sections : Sections) (key : Text) :
    (sortSections sections).get? key = (sections.get? key).map sortLines := by
  obtain ⟨entries, distinct⟩ := sections
  unfold sortSections Dict.get?
  dsimp only
  clear distinct
  induction entries with
  | nil => rfl
  | cons entry entries inductionHypothesis =>
      obtain ⟨first, lines⟩ := entry
      rw [List.map_cons, Dict.lookup_cons_eq, Dict.lookup_cons_eq, inductionHypothesis]
      split
      · rfl
      · rfl

theorem sortLines_eq_iff {first second : List Text} :
    sortLines first = sortLines second ↔ first.Perm second :=
  insertionSort_eq_iff

/-- **What the parser makes of an output:** under each header the sorted lines of its record. -/
theorem parseOvnDbShow_showText (layout : Layout) {output : List TopRecord}
    (wellFormed : WellFormed output) :
    ∃ dict, parseOvnDbShow (layout.showText output) = .ok dict ∧
      (∀ record ∈ output, dict.get? record.header = some (sortLines record.lines)) ∧
      ∀ key, key ∉ output.map TopRecord.header → dict.get? key = none := by
  obtain ⟨last, after, folded, found, otherwise_⟩ :=
    foldlM_output layout wellFormed [] Dict.empty
  have oneLine : ∀ line ∈ output.flatMap layout.recordLines,
      line.any Text.isLineBreak = false := by
    intro line member
    obtain ⟨record, recordMember, member⟩ := List.mem_flatMap.mp member
    rcases List.mem_cons.mp member with rfl | member
    · exact (wellFormed.header record recordMember).oneLine
    · obtain ⟨nested, nestedMember, member⟩ := List.mem_flatMap.mp member
      have areLines : ∀ line ∈ nested.lines, IsLine line := fun line lineMember =>
        wellFormed.lines record recordMember line
          (List.mem_flatMap.mpr ⟨nested, nestedMember, lineMember⟩)
      rcases List.mem_cons.mp member with rfl | member
      · exact oneLine_indent (areLines _ List.mem_cons_self) _
      · obtain ⟨attribute_, attributeMember, rfl⟩ := List.mem_map.mp member
        exact oneLine_indent (areLines _ (List.mem_cons_of_mem _ attributeMember)) _
  refine ⟨sortSections after, ?_, fun record member => ?_, fun key absent => ?_⟩
  · unfold parseOvnDbShow Layout.showText
    rw [splitLines_flatMap oneLine, folded]
    rfl
  · rw [get?_sortSections, found record member]
    rfl
  · rw [get?_sortSections, otherwise_ key absent]
    rfl

end Tobiko.Openstack.Neutron
