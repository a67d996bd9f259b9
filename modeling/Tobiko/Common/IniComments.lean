import Tobiko.Common.IniFile

/-!
Contract: the comments of an INI file and its options.

Owns: the settings of a file with the headers above them, the options that a file without its
comments has, and which comments change them.

Does not own: what one line does.
-/

namespace Tobiko.Common

open Tobiko.Foundation Tobiko.Foundation.Text

/-- What the settings of a section stand below. -/
inductive Heading where
  | default (name : Text)
  | header (sectionHeader : SectionHeader) (gap : Text) (further : Option Text)

namespace Heading

/-- The section that the heading names. -/
def name : Heading → Text
  | .default name => name
  | .header sectionHeader _ _ => strip sectionHeader.name

/-- The section that is read from the heading. -/
def readName : Heading → Text
  | .default name => name
  | .header sectionHeader gap further => readSection sectionHeader gap further

/-- The comment of the heading has a further `#`. -/
def IsMisread : Heading → Prop
  | .default _ => False
  | .header _ _ further => further ≠ none

theorem readName_eq {heading : Heading} (wellRead : ¬heading.IsMisread) :
    heading.readName = heading.name := by
  cases heading with
  | default name => rfl
  | header sectionHeader gap further =>
      rw [readName, name, not_not.mp wellRead]
      rfl

theorem mem_readName {heading : Heading} (misread : heading.IsMisread) :
    ']' ∈ heading.readName := by
  cases heading with
  | default name => exact misread.elim
  | header sectionHeader gap further =>
      obtain ⟨kept, rfl⟩ := Option.ne_none_iff_exists'.mp misread
      exact readSection_some sectionHeader gap kept

end Heading

/-- A setting with its heading and what stands behind it. -/
structure IniEntry where
  heading : Heading
  setting : Setting
  gap : Text
  gapBlank : IsBlank gap
  further : Option Text

namespace IniEntry

/-- The section and the key. -/
def option (entry : IniEntry) : Text × Text := (entry.heading.name, entry.setting.key)

/-- The option as the line has it without its comment. -/
def assignment (entry : IniEntry) : (Text × Text) × Text := (entry.option, entry.setting.value)

/-- The section and the key as they are read. -/
def readOption (entry : IniEntry) : Text × Text := (entry.heading.readName, entry.setting.key)

def readAssignment (entry : IniEntry) : (Text × Text) × Text :=
  (entry.readOption, readValue entry.setting entry.gap entry.further)

end IniEntry

/-- The settings of the lines below a heading. -/
def entries : Heading → List IniLine → List IniEntry
  | _, [] => []
  | heading, line :: rest =>
      match line.content with
      | .nothing => entries heading rest
      | .header sectionHeader => entries (.header sectionHeader line.gap line.further) rest
      | .setting setting =>
          ⟨heading, setting, line.gap, line.gapBlank, line.further⟩ :: entries heading rest

/-- The options of a file as if its comments were removed; the last setting wins. -/
def optionsOf (defaultSection : Text) (lines : List IniLine) : Dict (Text × Text) Text :=
  Dict.ofPairs ((entries (.default defaultSection) lines).map IniEntry.assignment)

/-- Where the comments change no option: none of them is read as an option itself, every setting
is read as an option of the file, and what is read last of an option has the value of its last
setting and no further `#` behind it. -/
structure LastSettingsRead (defaultSection : Text) (lines : List IniLine) : Prop where
  comments : ∀ line ∈ lines, line.content = .nothing → ∀ kept, line.further = some kept →
    '=' ∉ kept
  options : ∀ entry ∈ entries (.default defaultSection) lines,
    ∃ other ∈ entries (.default defaultSection) lines, other.option = entry.readOption
  settings : ∀ before entry after,
    entries (.default defaultSection) lines = before ++ entry :: after →
      (∀ later ∈ after, later.option ≠ entry.option) →
        ∃ beforeRead read afterRead,
          entries (.default defaultSection) lines = beforeRead ++ read :: afterRead ∧
            read.readOption = entry.option ∧
              (∀ later ∈ afterRead, later.readOption ≠ entry.option) ∧
                read.further = none ∧ read.setting.value = entry.setting.value

/-- The same where no name of a section has a closing bracket: no setting stands below a header
whose comment has a further `#`, and each setting whose comment has one is followed by another
setting of the option. -/
structure CommentsHarmless (defaultSection : Text) (lines : List IniLine) : Prop where
  comments : ∀ line ∈ lines, line.content = .nothing → ∀ kept, line.further = some kept →
    '=' ∉ kept
  headings : ∀ entry ∈ entries (.default defaultSection) lines, ¬entry.heading.IsMisread
  settings : ∀ before entry after,
    entries (.default defaultSection) lines = before ++ entry :: after → entry.further ≠ none →
      ∃ later ∈ after, later.option = entry.option

/-! ### The options that are read -/

/-- The options that the lines below a heading are read as. -/
def readAssignments : Heading → List IniLine → List ((Text × Text) × Text)
  | _, [] => []
  | heading, line :: rest =>
      match line.content with
      | .nothing =>
          (readComment heading.readName line.further).toList ++ readAssignments heading rest
      | .header sectionHeader =>
          readAssignments (.header sectionHeader line.gap line.further) rest
      | .setting setting =>
          (IniEntry.mk heading setting line.gap line.gapBlank line.further).readAssignment ::
            readAssignments heading rest

/-- **The lines set the options that they are read as**; the induction carries the heading. -/
theorem foldl_parseLine (lines : List IniLine) (heading : Heading)
    (content : Dict (Text × Text) Text) :
    ((lines.map IniLine.render).foldl parseLine ⟨heading.readName, content⟩).content =
      (readAssignments heading lines).foldl (fun dict pair => dict.set pair.1 pair.2) content := by
  induction lines generalizing heading content with
  | nil => rfl
  | cons line rest inductionHypothesis =>
      rw [List.map_cons, List.foldl_cons, readAssignments]
      cases shape : line.content with
      | nothing =>
          rw [parseLine_nothing _ shape]
          cases readComment heading.readName line.further with
          | none => exact inductionHypothesis heading content
          | some option => exact inductionHypothesis heading _
      | header sectionHeader =>
          rw [parseLine_header _ shape]
          exact inductionHypothesis (.header sectionHeader line.gap line.further) content
      | setting setting =>
          rw [parseLine_setting _ shape]
          exact inductionHypothesis heading _

theorem parseIniFile_render (defaultSection : Text) (lines : List IniLine) :
    parseIniFile (.lines (lines.map IniLine.render)) defaultSection =
      Dict.ofPairs (readAssignments (.default defaultSection) lines) :=
  foldl_parseLine lines (.default defaultSection) Dict.empty

theorem readAssignments_eq {lines : List IniLine}
    (comments : ∀ line ∈ lines, line.content = .nothing → ∀ kept, line.further = some kept →
      '=' ∉ kept) (heading : Heading) :
    readAssignments heading lines = (entries heading lines).map IniEntry.readAssignment := by
  induction lines generalizing heading with
  | nil => rfl
  | cons line rest inductionHypothesis =>
      have others := inductionHypothesis fun other member =>
        comments other (List.mem_cons_of_mem _ member)
      rw [readAssignments, entries]
      cases shape : line.content with
      | nothing =>
          have quiet : readComment heading.readName line.further = none := by
            cases further : line.further with
            | none => rfl
            | some kept =>
                exact readComment_eq_none.mpr
                  (comments line List.mem_cons_self shape kept further)
          simp only [quiet, Option.toList_none, List.nil_append]
          exact others heading
      | header sectionHeader => exact others _
      | setting setting =>
          rw [List.map_cons]
          exact congrArg (List.cons _) (others heading)

/-- Every setting is read as an option. -/
theorem mem_readAssignments {lines : List IniLine} {heading : Heading} {entry : IniEntry}
    (member : entry ∈ entries heading lines) :
    entry.readAssignment ∈ readAssignments heading lines := by
  induction lines generalizing heading with
  | nil => cases member
  | cons line rest inductionHypothesis =>
      rw [entries] at member
      rw [readAssignments]
      cases shape : line.content with
      | nothing =>
          rw [shape] at member
          exact List.mem_append_right _ (inductionHypothesis member)
      | header sectionHeader =>
          rw [shape] at member
          exact inductionHypothesis member
      | setting setting =>
          rw [shape] at member
          obtain same | inRest := List.mem_cons.mp member
          · rw [same]
            exact List.mem_cons_self
          · exact List.mem_cons_of_mem _ (inductionHypothesis inRest)

/-- A comment with an equals sign in front of its last further `#` is read as an option. -/
theorem comment_mem_readAssignments {lines : List IniLine} {line : IniLine} {kept : Text}
    (member : line ∈ lines) (nothing : line.content = .nothing)
    (further : line.further = some kept) (equals : '=' ∈ kept) (heading : Heading) :
    ∃ option ∈ readAssignments heading lines, '#' ∈ option.1.2 := by
  induction lines generalizing heading with
  | nil => cases member
  | cons first rest inductionHypothesis =>
      rw [readAssignments]
      obtain rfl | inRest := List.mem_cons.mp member
      · obtain ⟨option, read⟩ : ∃ option,
            readComment heading.readName (some kept) = some option := by
          rw [← Option.ne_none_iff_exists']
          exact fun quiet => readComment_eq_none.mp quiet equals
        rw [nothing, further]
        simp only [read]
        exact ⟨option, List.mem_append_left _ (by simp), readComment_hash read⟩
      · cases shape : first.content with
        | nothing =>
            obtain ⟨option, inside, hash⟩ := inductionHypothesis inRest heading
            exact ⟨option, List.mem_append_right _ inside, hash⟩
        | header sectionHeader => exact inductionHypothesis inRest _
        | setting setting =>
            obtain ⟨option, inside, hash⟩ := inductionHypothesis inRest heading
            exact ⟨option, List.mem_cons_of_mem _ inside, hash⟩

/-! ### The comments that do no harm -/

section Reading

variable {defaultSection : Text} {lines : List IniLine}

/-- The file is read as if its comments were removed. -/
def IgnoresComments (defaultSection : Text) (lines : List IniLine) : Prop :=
  ∀ option, (parseIniFile (.lines (lines.map IniLine.render)) defaultSection).get? option =
    (optionsOf defaultSection lines).get? option

theorem parseIniFile_eq
    (comments : ∀ line ∈ lines, line.content = .nothing → ∀ kept, line.further = some kept →
      '=' ∉ kept) :
    parseIniFile (.lines (lines.map IniLine.render)) defaultSection =
      Dict.ofPairs ((entries (.default defaultSection) lines).map fun entry =>
        (entry.readOption, readValue entry.setting entry.gap entry.further)) := by
  rw [parseIniFile_render, readAssignments_eq comments]
  rfl

theorem readOption_eq {entry : IniEntry} (wellRead : ¬entry.heading.IsMisread) :
    entry.readOption = entry.option := by
  rw [IniEntry.readOption, Heading.readName_eq wellRead]
  rfl

/-- Whatever is read is an option of the file. -/
theorem IgnoresComments.mem_option (ignores : IgnoresComments defaultSection lines)
    {assignment : (Text × Text) × Text}
    (read : assignment ∈ readAssignments (.default defaultSection) lines) :
    ∃ entry ∈ entries (.default defaultSection) lines, entry.option = assignment.1 := by
  have present : assignment.1 ∈ (optionsOf defaultSection lines).keys := by
    rw [← Dict.isSome_get?, ← ignores assignment.1, parseIniFile_render, Dict.isSome_get?,
      Dict.mem_keys_ofPairs]
    exact List.mem_map_of_mem read
  rw [optionsOf, Dict.mem_keys_ofPairs, List.map_map] at present
  exact List.mem_map.mp present

theorem IgnoresComments.comments (ignores : IgnoresComments defaultSection lines) :
    ∀ line ∈ lines, line.content = .nothing → ∀ kept, line.further = some kept → '=' ∉ kept := by
  intro line member nothing kept further equals
  obtain ⟨assignment, read, hash⟩ :=
    comment_mem_readAssignments member nothing further equals (.default defaultSection)
  obtain ⟨entry, -, same⟩ := ignores.mem_option read
  rw [← same] at hash
  exact entry.setting.keyNoComment hash

/-- The value of the last setting is the one of a setting without a further `#`. -/
theorem IgnoresComments.settings (ignores : IgnoresComments defaultSection lines) :
    ∀ before entry after,
      entries (.default defaultSection) lines = before ++ entry :: after →
        (∀ later ∈ after, later.option ≠ entry.option) →
          ∃ beforeRead read afterRead,
            entries (.default defaultSection) lines = beforeRead ++ read :: afterRead ∧
              read.readOption = entry.option ∧
                (∀ later ∈ afterRead, later.readOption ≠ entry.option) ∧
                  read.further = none ∧ read.setting.value = entry.setting.value := by
  intro before entry after split last
  have written : (optionsOf defaultSection lines).get? entry.option =
      some entry.setting.value :=
    Dict.get?_ofPairs_eq_some.mpr ⟨before, entry, after, split, rfl, rfl, last⟩
  rw [← ignores entry.option, parseIniFile_eq ignores.comments] at written
  obtain ⟨beforeRead, read, afterRead, splitRead, sameOption, sameValue, lastRead⟩ :=
    Dict.get?_ofPairs_eq_some.mp written
  have clean : read.further = none := by
    by_contra further
    obtain ⟨kept, keeps⟩ := Option.ne_none_iff_exists'.mp further
    have hash := readValue_some read.setting read.gap kept
    rw [← keeps, sameValue] at hash
    exact entry.setting.valueNoComment hash
  rw [clean, readValue_none read.setting read.gapBlank] at sameValue
  exact ⟨beforeRead, read, afterRead, splitRead, sameOption, lastRead, clean, sameValue⟩

theorem LastSettingsRead.ignoresComments (lastRead : LastSettingsRead defaultSection lines) :
    IgnoresComments defaultSection lines := by
  intro option
  rw [parseIniFile_eq lastRead.comments]
  cases present : (optionsOf defaultSection lines).get? option with
  | none =>
      rw [Dict.get?_ofPairs_eq_none, List.map_map]
      intro member
      obtain ⟨entry, inside, same⟩ := List.mem_map.mp member
      obtain ⟨other, otherInside, otherSame⟩ := lastRead.options entry inside
      rw [optionsOf, Dict.get?_ofPairs_eq_none, List.map_map] at present
      exact present (List.mem_map.mpr ⟨other, otherInside, otherSame.trans same⟩)
  | some value =>
      obtain ⟨before, entry, after, split, sameOption, sameValue, last⟩ :=
        Dict.get?_ofPairs_eq_some.mp present
      subst sameOption
      obtain ⟨beforeRead, read, afterRead, splitRead, readSame, readLast, clean, readValueSame⟩ :=
        lastRead.settings before entry after split last
      refine Dict.get?_ofPairs_eq_some.mpr
        ⟨beforeRead, read, afterRead, splitRead, readSame, ?_, readLast⟩
      rw [clean, readValue_none read.setting read.gapBlank, readValueSame]
      exact sameValue

theorem ignoresComments_iff :
    IgnoresComments defaultSection lines ↔ LastSettingsRead defaultSection lines := by
  refine ⟨fun ignores => ⟨ignores.comments, fun entry member => ?_, ignores.settings⟩,
    LastSettingsRead.ignoresComments⟩
  exact ignores.mem_option (mem_readAssignments member)

/-! ### Names of sections without brackets -/

theorem CommentsHarmless.ignoresComments (harmless : CommentsHarmless defaultSection lines) :
    IgnoresComments defaultSection lines := by
  have read : ((entries (.default defaultSection) lines).map fun entry =>
      (entry.readOption, readValue entry.setting entry.gap entry.further)) =
        (entries (.default defaultSection) lines).map fun entry =>
          (entry.option, readValue entry.setting entry.gap entry.further) := by
    refine List.map_congr_left fun entry member => ?_
    rw [readOption_eq (harmless.headings entry member)]
  intro option
  rw [parseIniFile_eq harmless.comments, read]
  refine Dict.get?_ofPairs_congr (fun before entry after split different => ?_) option
  refine harmless.settings before entry after split fun clean => different ?_
  rw [clean]
  exact readValue_none entry.setting entry.gapBlank

theorem LastSettingsRead.harmless (lastRead : LastSettingsRead defaultSection lines)
    (noBracket : ∀ entry ∈ entries (.default defaultSection) lines, ']' ∉ entry.heading.name) :
    CommentsHarmless defaultSection lines := by
  have headings : ∀ entry ∈ entries (.default defaultSection) lines, ¬entry.heading.IsMisread := by
    intro entry member misread
    obtain ⟨other, inside, same⟩ := lastRead.options entry member
    have bracket := Heading.mem_readName misread
    rw [← show other.heading.name = entry.heading.readName from congrArg Prod.fst same] at bracket
    exact noBracket other inside bracket
  refine ⟨lastRead.comments, headings, fun before entry after split further => ?_⟩
  by_contra never
  have last : ∀ later ∈ after, later.option ≠ entry.option :=
    fun later member same => never ⟨later, member, same⟩
  obtain ⟨beforeRead, read, afterRead, splitRead, readSame, readLast, clean, -⟩ :=
    lastRead.settings before entry after split last
  have inside : ∀ later ∈ read :: afterRead, later ∈ entries (.default defaultSection) lines := by
    intro later member
    rw [splitRead]
    exact List.mem_append_right _ member
  have sameOption : read.option = entry.option := by
    rw [← readOption_eq (headings read (inside read List.mem_cons_self))]
    exact readSame
  have lastOption : ∀ later ∈ afterRead, later.option ≠ entry.option := by
    intro later member
    rw [← readOption_eq (headings later (inside later (List.mem_cons_of_mem _ member)))]
    exact readLast later member
  -- Both are the last setting of the option, so their comments have the same further `#`.
  have ofEntry : (Dict.ofPairs ((entries (.default defaultSection) lines).map fun item =>
      (item.option, item.further))).get? entry.option = some entry.further :=
    Dict.get?_ofPairs_eq_some.mpr ⟨before, entry, after, split, rfl, rfl, last⟩
  have ofRead : (Dict.ofPairs ((entries (.default defaultSection) lines).map fun item =>
      (item.option, item.further))).get? entry.option = some read.further :=
    Dict.get?_ofPairs_eq_some.mpr
      ⟨beforeRead, read, afterRead, splitRead, sameOption, rfl, lastOption⟩
  have same : entry.further = read.further :=
    Option.some.inj (ofEntry.symm.trans ofRead)
  exact further (same.trans clean)

/-- **A file is read as if its comments were removed exactly where its last settings are read, which
for names of sections without brackets means that the comments are harmless.** -/
theorem parseIniFile_comments (defaultSection : Text) (lines : List IniLine) :
    (IgnoresComments defaultSection lines ↔ LastSettingsRead defaultSection lines) ∧
      ((∀ entry ∈ entries (.default defaultSection) lines, ']' ∉ entry.heading.name) →
        (LastSettingsRead defaultSection lines ↔ CommentsHarmless defaultSection lines)) :=
  ⟨ignoresComments_iff, fun noBracket => ⟨fun lastRead => lastRead.harmless noBracket,
    fun harmless => ignoresComments_iff.mp harmless.ignoresComments⟩⟩

end Reading

/-- `debug = on` -/
def debugOn : Setting where
  key := ['d', 'e', 'b', 'u', 'g']
  keyNonempty := List.cons_ne_nil _ _
  keyTrimmed := trimmed_of_ends (by decide) (by decide)
  keyNoComment := by decide
  keyNoEquals := by decide
  keyNoBracket := by decide
  beforeEquals := [' ']
  beforeBlank := by decide
  afterEquals := [' ']
  afterBlank := by decide
  value := ['o', 'n']
  valueTrimmed := trimmed_of_ends (by decide) (by decide)
  valueNoComment := by decide

/-- `debug = on # see #7` -/
def commentedLine : IniLine where
  indent := []
  indentBlank := by decide
  content := .setting debugOn
  gap := [' ']
  gapBlank := by decide
  comment := some " see #7".toList

/-- The option is read as `on # see`. -/
theorem commentedLine_read :
    ¬∀ (defaultSection : Text) (lines : List IniLine), IgnoresComments defaultSection lines := by
  intro claimed
  have ignored := claimed [] [commentedLine] ([], debugOn.key)
  have read : (parseIniFile (.lines ([commentedLine].map IniLine.render)) []).get?
      ([], debugOn.key) = some "on # see".toList := by
    decide
  have written : (optionsOf [] [commentedLine]).get? ([], debugOn.key) = some ['o', 'n'] := by
    decide
  rw [read, written] at ignored
  exact absurd (Option.some.inj ignored) (by decide)

end Tobiko.Common
