import Tobiko.Foundation.FirstOccurrences
import Tobiko.Openstack.Neutron.OvnDbShow

/-!
Contract: what the comparison of two parsed dumps of an OVN database sees.

Owns: when two outputs are the same up to the order of sibling lines, exactly which outputs have
equal dictionaries, and from which outputs every other one is told apart.

Does not own: the parser.
-/

namespace Tobiko.Openstack.Neutron

open Tobiko.Foundation

/-! ### Which outputs have equal dictionaries -/

/-- The same headers, each with the same indented lines, in any order. -/
structure SameLines (left right : List TopRecord) : Prop where
  headers : (left.map TopRecord.header).Perm (right.map TopRecord.header)
  lines : ∀ record ∈ left, ∀ other ∈ right, record.header = other.header →
    record.lines.Perm other.lines

/-- The same nested record, with its attributes in any order. -/
structure NestedRecord.Same (left right : NestedRecord) : Prop where
  name : left.name = right.name
  attributes : left.attributes.Perm right.attributes

/-- The same record, with what is nested in it in any order. -/
structure TopRecord.Same (left right : TopRecord) : Prop where
  header : left.header = right.header
  nested : ∃ reordered, reordered.Perm right.nested ∧
    List.Forall₂ NestedRecord.Same left.nested reordered

/-- The same records, each with the same nested records and these with the same attributes, up to the
order of sibling lines. -/
def SameOutput (left right : List TopRecord) : Prop :=
  ∃ reordered : List TopRecord, reordered.Perm right ∧ List.Forall₂ TopRecord.Same left reordered

theorem equalDumps_iff (leftLayout rightLayout : Layout) {left right : List TopRecord}
    (leftFormed : WellFormed left) (rightFormed : WellFormed right) :
    EqualDumps (leftLayout.showText left) (rightLayout.showText right) ↔ SameLines left right := by
  obtain ⟨leftDict, leftParsed, leftFound, leftAbsent⟩ :=
    parseOvnDbShow_showText leftLayout leftFormed
  obtain ⟨rightDict, rightParsed, rightFound, rightAbsent⟩ :=
    parseOvnDbShow_showText rightLayout rightFormed
  have isSome : ∀ {output : List TopRecord} {dict : Sections},
      (∀ record ∈ output, dict.get? record.header = some (sortLines record.lines)) →
      (∀ key, key ∉ output.map TopRecord.header → dict.get? key = none) →
      ∀ key, key ∈ output.map TopRecord.header ↔ dict.get? key ≠ none := by
    intro output dict found absent key
    constructor
    · intro member
      obtain ⟨record, recordMember, rfl⟩ := List.mem_map.mp member
      rw [found record recordMember]
      exact Option.some_ne_none _
    · intro present
      by_contra notMember
      exact present (absent key notMember)
  constructor
  · rintro ⟨_, _, leftSame, rightSame, same⟩
    rw [leftParsed] at leftSame
    rw [rightParsed] at rightSame
    cases leftSame
    cases rightSame
    refine ⟨(List.perm_ext_iff_of_nodup leftFormed.distinct rightFormed.distinct).mpr fun key => ?_,
      fun record member other otherMember sameHeader => ?_⟩
    · rw [isSome leftFound leftAbsent, isSome rightFound rightAbsent, same]
    · have sameLines := same record.header
      rw [leftFound record member, sameHeader, rightFound other otherMember,
        Option.some_inj] at sameLines
      exact sortLines_eq_iff.mp sameLines
  · intro sameLines
    refine ⟨leftDict, rightDict, leftParsed, rightParsed, fun key => ?_⟩
    by_cases member : key ∈ left.map TopRecord.header
    · obtain ⟨other, otherMember, otherHeader⟩ :=
        List.mem_map.mp (sameLines.headers.mem_iff.mp member)
      obtain ⟨record, recordMember, rfl⟩ := List.mem_map.mp member
      rw [leftFound record recordMember, ← otherHeader, rightFound other otherMember,
        sortLines_eq_iff.mpr (sameLines.lines record recordMember other otherMember
          otherHeader.symm)]
    · have otherAbsent : key ∉ right.map TopRecord.header :=
        fun otherMember => member (sameLines.headers.mem_iff.mpr otherMember)
      rw [leftAbsent key member, rightAbsent key otherAbsent]

/-! ### What is told apart -/

theorem SameLines.refl {output : List TopRecord} (wellFormed : WellFormed output) :
    SameLines output output where
  headers := .refl _
  lines := by
    intro record member other otherMember same
    rw [List.inj_on_of_nodup_map wellFormed.distinct member otherMember same]

/-- The lines of a record, nested in another way: each by itself where one record holds them, and
all in the first one where there are several. -/
def TopRecord.rearranged (record : TopRecord) : TopRecord :=
  match record.nested with
  | [nested] => ⟨record.header, nested.lines.map fun line => ⟨line, []⟩⟩
  | [] => record
  | first :: others =>
      ⟨record.header, [⟨first.name, first.attributes ++ others.flatMap NestedRecord.lines⟩]⟩

theorem TopRecord.rearranged_header (record : TopRecord) :
    record.rearranged.header = record.header := by
  unfold rearranged
  split
  · rfl
  · rfl
  · rfl

theorem TopRecord.rearranged_lines (record : TopRecord) :
    record.rearranged.lines = record.lines := by
  unfold rearranged
  split
  · rename_i nested isNested
    have alone : ∀ lines : List Text,
        (lines.map fun line => (⟨line, []⟩ : NestedRecord)).flatMap NestedRecord.lines = lines := by
      intro lines
      induction lines with
      | nil => rfl
      | cons line lines inductionHypothesis =>
          rw [List.map_cons, List.flatMap_cons, inductionHypothesis]
          rfl
    rw [lines, lines, isNested, alone, List.flatMap_singleton]
  · rfl
  · rename_i first others _ isNested
    rw [lines, lines, isNested, List.flatMap_singleton, List.flatMap_cons]
    rfl

/-- Of two or more lines the rearranged record has another number of nested ones. -/
theorem TopRecord.rearranged_length {record : TopRecord} (several : 2 ≤ record.lines.length) :
    record.rearranged.nested.length ≠ record.nested.length := by
  unfold rearranged
  split
  · rename_i nested isNested
    rw [lines, isNested, List.flatMap_singleton] at several
    rw [isNested, List.length_map, List.length_singleton]
    omega
  · rename_i isNested
    rw [lines, isNested] at several
    exact absurd several (by decide)
  · rename_i first others notSingle isNested
    rw [isNested]
    intro same
    rw [List.length_singleton, List.length_cons, eq_comm, Nat.add_eq_right,
      List.length_eq_zero_iff] at same
    subst same
    exact notSingle rfl

theorem TopRecord.Same.length {left right : TopRecord} (same : left.Same right) :
    left.nested.length = right.nested.length := by
  obtain ⟨reordered, perm, alike⟩ := same.nested
  rw [alike.length_eq, perm.length_eq]

theorem SameOutput.record {left right : List TopRecord} (same : SameOutput left right)
    {record : TopRecord} (member : record ∈ left) : ∃ other ∈ right, record.Same other := by
  obtain ⟨reordered, perm, alike⟩ := same
  obtain ⟨other, otherMember, sameRecord⟩ := exists_related alike member
  exact ⟨other, perm.mem_iff.mp otherMember, sameRecord⟩

/-- A record of at most one line is what its header and its line say. -/
theorem TopRecord.eq_of_lines {left right : TopRecord} (header : left.header = right.header)
    (few : left.lines.length ≤ 1) (same : left.lines.Perm right.lines) : left = right := by
  have structure_ : ∀ record : TopRecord, record.lines.length ≤ 1 →
      record.nested = record.lines.map fun line => ⟨line, []⟩ := by
    intro record few
    obtain ⟨header, nested⟩ := record
    cases nested with
    | nil => rfl
    | cons first others =>
        obtain ⟨name, attributes⟩ := first
        simp only [lines, List.flatMap_cons, NestedRecord.lines, List.length_append,
          List.length_cons] at few
        have noAttribute : attributes = [] := List.length_eq_zero_iff.mp (by omega)
        cases others with
        | nil =>
            subst noAttribute
            rfl
        | cons second others =>
            rw [List.flatMap_cons, List.length_append, NestedRecord.lines,
              List.length_cons] at few
            omega
  have sameLines : left.lines = right.lines := by
    match leftLines : left.lines with
    | [] => rw [leftLines, List.nil_perm] at same; exact same.symm
    | [line] => rw [leftLines, List.singleton_perm] at same; exact same
    | first :: second :: others =>
        rw [leftLines] at few
        exact absurd few (by simp)
  have sameNested : left.nested = right.nested := by
    rw [structure_ left few, structure_ right (sameLines ▸ few), sameLines]
  obtain ⟨leftHeader, leftNested⟩ := left
  obtain ⟨rightHeader, rightNested⟩ := right
  cases header
  cases sameNested
  rfl

theorem sameOutput_of_lines {left right : List TopRecord} (leftFormed : WellFormed left)
    (rightFormed : WellFormed right) (few : ∀ record ∈ left, record.lines.length ≤ 1)
    (same : SameLines left right) : SameOutput left right := by
  have leftInRight : ∀ record ∈ left, record ∈ right := by
    intro record member
    obtain ⟨other, otherMember, header⟩ := List.mem_map.mp
      (same.headers.mem_iff.mp (List.mem_map.mpr ⟨record, member, rfl⟩))
    rw [TopRecord.eq_of_lines header.symm (few record member)
      (same.lines record member other otherMember header.symm)]
    exact otherMember
  have rightInLeft : ∀ record ∈ right, record ∈ left := by
    intro record member
    obtain ⟨other, otherMember, header⟩ := List.mem_map.mp
      (same.headers.mem_iff.mpr (List.mem_map.mpr ⟨record, member, rfl⟩))
    rw [← TopRecord.eq_of_lines header (few other otherMember)
      (same.lines other otherMember record member header)]
    exact otherMember
  refine ⟨left, (List.perm_ext_iff_of_nodup (.of_map _ leftFormed.distinct)
    (.of_map _ rightFormed.distinct)).mpr fun record => ⟨leftInRight record, rightInLeft record⟩, ?_⟩
  rw [List.forall₂_same]
  intro record _
  refine ⟨rfl, record.nested, .refl _, ?_⟩
  rw [List.forall₂_same]
  exact fun nested _ => ⟨rfl, .refl _⟩

/-- The output with one record rearranged. -/
def rearrange (header : Text) (output : List TopRecord) : List TopRecord :=
  output.map fun record => if record.header = header then record.rearranged else record

section Rearrange

variable (header : Text) (output : List TopRecord)

theorem rearrange_headers :
    (rearrange header output).map TopRecord.header = output.map TopRecord.header := by
  rw [rearrange, List.map_map]
  apply List.map_congr_left
  intro record _
  rw [Function.comp_apply]
  split
  · exact record.rearranged_header
  · rfl

theorem mem_rearrange {record : TopRecord} (member : record ∈ rearrange header output) :
    ∃ other ∈ output, record.header = other.header ∧ record.lines = other.lines := by
  obtain ⟨other, otherMember, rfl⟩ := List.mem_map.mp member
  refine ⟨other, otherMember, ?_⟩
  split
  · exact ⟨other.rearranged_header, other.rearranged_lines⟩
  · exact ⟨rfl, rfl⟩

variable {output}

theorem wellFormed_rearrange (wellFormed : WellFormed output) :
    WellFormed (rearrange header output) where
  distinct := by
    rw [rearrange_headers]
    exact wellFormed.distinct
  header := by
    intro record member
    obtain ⟨other, otherMember, same, -⟩ := mem_rearrange header output member
    rw [same]
    exact wellFormed.header other otherMember
  lines := by
    intro record member
    obtain ⟨other, otherMember, -, same⟩ := mem_rearrange header output member
    rw [same]
    exact wellFormed.lines other otherMember

theorem sameLines_rearrange (wellFormed : WellFormed output) :
    SameLines output (rearrange header output) where
  headers := by rw [rearrange_headers]
  lines := by
    intro record member other otherMember same
    obtain ⟨origin, originMember, sameHeader, sameLines⟩ := mem_rearrange header output otherMember
    rw [sameLines]
    exact (SameLines.refl wellFormed).lines record member origin originMember
      (same.trans sameHeader)

theorem rearrange_differs {record : TopRecord} (wellFormed : WellFormed output)
    (member : record ∈ output) (several : 2 ≤ record.lines.length) :
    ¬SameOutput output (rearrange record.header output) := by
  intro same
  obtain ⟨other, otherMember, sameRecord⟩ := same.record member
  obtain ⟨origin, originMember, rfl⟩ := List.mem_map.mp otherMember
  have isOrigin : origin = record := by
    apply List.inj_on_of_nodup_map wellFormed.distinct originMember member
    have sameHeader := sameRecord.header
    split at sameHeader
    · rename_i isHeader
      exact isHeader
    · exact sameHeader.symm
  rw [isOrigin, if_pos rfl] at sameRecord
  exact TopRecord.rearranged_length several sameRecord.length.symm

end Rearrange

/-- **Two dumps are equal if and only if the outputs have the same headers with the same indented
lines, so that every other output is told apart from one of which no record has two of them.** -/
theorem parseOvnDbShow_separates (layout : Layout) {output : List TopRecord}
    (wellFormed : WellFormed output) :
    (∀ (otherLayout : Layout) (other : List TopRecord), WellFormed other →
      (EqualDumps (layout.showText output) (otherLayout.showText other) ↔
        SameLines output other)) ∧
    ((∀ (otherLayout : Layout) (other : List TopRecord), WellFormed other →
      EqualDumps (layout.showText output) (otherLayout.showText other) →
        SameOutput output other) ↔
      ∀ record ∈ output, record.lines.length ≤ 1) := by
  refine ⟨fun otherLayout other otherFormed =>
    equalDumps_iff layout otherLayout wellFormed otherFormed, fun separates record member => ?_,
    fun few otherLayout other otherFormed equal => ?_⟩
  · by_contra several
    have rearrangedFormed := wellFormed_rearrange record.header wellFormed
    apply rearrange_differs wellFormed member (Nat.lt_of_not_le several)
    apply separates layout _ rearrangedFormed
    rw [equalDumps_iff layout layout wellFormed rearrangedFormed]
    exact sameLines_rearrange record.header wellFormed
  · rw [equalDumps_iff layout otherLayout wellFormed otherFormed] at equal
    exact sameOutput_of_lines wellFormed otherFormed few equal

/-! ### A switch with two ports -/

def ovnLayout : Layout := ⟨4, 8, by decide, by decide⟩

/-- The type is an attribute of the first port in one output, and of the second in the other. -/
def switchOutput (firstAttributes secondAttributes : List Text) : List TopRecord :=
  [⟨"switch net0".toList,
    [⟨"port a".toList, firstAttributes⟩, ⟨"port b".toList, secondAttributes⟩]⟩]

def routerType : Text := "type: router".toList

def checkLine (text : Text) : Bool :=
  !text.isEmpty && (!text.head?.any Text.isSpace && !text.getLast?.any Text.isSpace) &&
    !text.any Text.isLineBreak

theorem isLine_of_check {text : Text} (checked : checkLine text = true) : IsLine text := by
  simp only [checkLine, Bool.and_eq_true, Bool.not_eq_true', List.isEmpty_eq_false_iff] at checked
  obtain ⟨⟨nonempty, first, last⟩, oneLine⟩ := checked
  refine ⟨nonempty, ⟨fun character isFirst => ?_, fun character isLast => ?_⟩, oneLine⟩
  · rw [isFirst] at first
    exact first
  · rw [isLast] at last
    exact last

theorem switchOutput_wellFormed {firstAttributes secondAttributes : List Text}
    (attributes : ∀ line ∈ firstAttributes ++ secondAttributes, line = routerType) :
    WellFormed (switchOutput firstAttributes secondAttributes) where
  distinct := List.nodup_singleton _
  header := by
    intro record member
    rw [List.mem_singleton.mp member]
    exact isLine_of_check (show checkLine "switch net0".toList = true by decide +kernel)
  lines := by
    intro record member line lineMember
    rw [List.mem_singleton.mp member] at lineMember
    simp only [TopRecord.lines, NestedRecord.lines, List.flatMap_cons, List.flatMap_nil,
      List.append_nil, List.mem_append, List.mem_cons] at lineMember
    rcases lineMember with (rfl | first) | (rfl | second)
    · exact isLine_of_check (by decide +kernel)
    · rw [attributes line (List.mem_append_left _ first)]
      exact isLine_of_check (by decide +kernel)
    · exact isLine_of_check (by decide +kernel)
    · rw [attributes line (List.mem_append_right _ second)]
      exact isLine_of_check (by decide +kernel)

theorem sameLines_moved : SameLines (switchOutput [routerType] []) (switchOutput [] [routerType]) := by
  refine ⟨.refl _, fun record member other otherMember _ => ?_⟩
  rw [List.mem_singleton.mp member, List.mem_singleton.mp otherMember]
  exact .cons _ (.swap _ _ _)

theorem not_sameLines_removed : ¬SameLines (switchOutput [routerType] []) (switchOutput [] []) := by
  intro same
  have lines := same.lines _ (List.mem_singleton_self _) _ (List.mem_singleton_self _) rfl
  exact absurd lines.length_eq (by decide)

/-- An attribute that is gone is seen, and one that moves from one port to the other is not. -/
theorem parseOvnDbShow_separates_ofSwitch :
    ¬EqualDumps (ovnLayout.showText (switchOutput [routerType] []))
        (ovnLayout.showText (switchOutput [] [])) ∧
      EqualDumps (ovnLayout.showText (switchOutput [routerType] []))
        (ovnLayout.showText (switchOutput [] [routerType])) ∧
      ¬∀ (otherLayout : Layout) (other : List TopRecord), WellFormed other →
        EqualDumps (ovnLayout.showText (switchOutput [routerType] []))
          (otherLayout.showText other) → SameOutput (switchOutput [routerType] []) other := by
  obtain ⟨equal, separates⟩ :=
    parseOvnDbShow_separates ovnLayout (@switchOutput_wellFormed [routerType] [] (by decide))
  refine ⟨fun dumps => ?_, ?_, fun apart => ?_⟩
  · exact not_sameLines_removed
      ((equal ovnLayout _ (switchOutput_wellFormed (by decide))).mp dumps)
  · exact (equal ovnLayout _ (switchOutput_wellFormed (by decide))).mpr sameLines_moved
  · exact absurd (separates.mp apart _ (List.mem_singleton_self _)) (by decide)

/-- An attribute that moves from one port to the other is not seen. -/
theorem parseOvnDbShow_movedAttribute :
    EqualDumps (ovnLayout.showText (switchOutput [routerType] []))
        (ovnLayout.showText (switchOutput [] [routerType])) ∧
      ¬SameOutput (switchOutput [routerType] []) (switchOutput [] [routerType]) := by
  constructor
  · rw [equalDumps_iff ovnLayout ovnLayout (switchOutput_wellFormed (by decide))
      (switchOutput_wellFormed (by decide))]
    exact sameLines_moved
  · intro same
    obtain ⟨other, otherMember, sameRecord⟩ := same.record (List.mem_singleton_self _)
    rw [List.mem_singleton.mp otherMember] at sameRecord
    obtain ⟨reordered, perm, alike⟩ := sameRecord.nested
    obtain ⟨nested, nestedMember, sameNested⟩ := exists_related alike List.mem_cons_self
    have among := perm.mem_iff.mp nestedMember
    rcases List.mem_cons.mp among with rfl | among
    · exact absurd sameNested.attributes.length_eq (by decide)
    · rw [List.mem_singleton.mp among] at sameNested
      exact absurd sameNested.name (by decide)

end Tobiko.Openstack.Neutron
