import Tobiko.Foundation.Dictionary
import Tobiko.Foundation.Text

/-!
Contract: the options that are read from an INI file.

Owns: `parse_ini_file` with the section that it carries from line to line, the lines of an INI
file with their comments, and what each of these lines does.

Does not own: which comments change the options.
-/

namespace Tobiko.Common

open Tobiko.Foundation Tobiko.Foundation.Text

/-- The variables of `parse_ini_file`: the section, and the values by section and name. -/
structure IniState where
  currentSection : Text
  content : Dict (Text × Text) Text

/-- `line.rsplit('#', 1)[0]` -/
def removeComment (line : Text) : Text :=
  match splitLast '#' line with
  | none => line
  | some (left, _) => left

/-- What a line does once its comment and the blanks around it are removed. -/
def parseStripped (state : IniState) (line : Text) : IniState :=
  if line = [] then state
  else if line.head? = some '[' then
    { state with currentSection := strip (line.drop 1).dropLast }
  else
    match splitFirst '=' line with
    | none => state
    | some (left, right) =>
        { state with
          content := state.content.set (state.currentSection, strip left) (strip right) }

def parseLine (state : IniState) (line : Text) : IniState :=
  parseStripped state (strip (removeComment line))

inductive IniFileText where
  | text (text : Text)
  | lines (lines : List Text)

def IniFileText.toLines : IniFileText → List Text
  | .text whole => splitLines whole
  | .lines separate => separate

def parseIniFile (text : IniFileText) (defaultSection : Text) : Dict (Text × Text) Text :=
  (text.toLines.foldl parseLine ⟨defaultSection, Dict.empty⟩).content

/-! ### The lines of an INI file -/

/-- `[name]` -/
structure SectionHeader where
  name : Text
  noComment : '#' ∉ name

/-- `key = value`, with any blanks around the equals sign. -/
structure Setting where
  key : Text
  keyNonempty : key ≠ []
  keyTrimmed : Trimmed key
  keyNoComment : '#' ∉ key
  keyNoEquals : '=' ∉ key
  keyNoBracket : key.head? ≠ some '['
  beforeEquals : Text
  beforeBlank : IsBlank beforeEquals
  afterEquals : Text
  afterBlank : IsBlank afterEquals
  value : Text
  valueTrimmed : Trimmed value
  valueNoComment : '#' ∉ value

inductive IniContent where
  | nothing
  | header (header : SectionHeader)
  | setting (setting : Setting)

/-- A line: its content, if any, between blanks, and a comment with any text, if any. -/
structure IniLine where
  indent : Text
  indentBlank : IsBlank indent
  content : IniContent
  gap : Text
  gapBlank : IsBlank gap
  comment : Option Text

def SectionHeader.render (header : SectionHeader) : Text := '[' :: header.name ++ [']']

def Setting.render (setting : Setting) : Text :=
  setting.key ++ setting.beforeEquals ++ '=' :: (setting.afterEquals ++ setting.value)

def IniContent.render : IniContent → Text
  | .nothing => []
  | .header sectionHeader => sectionHeader.render
  | .setting option => option.render

def renderComment : Option Text → Text
  | none => []
  | some text => '#' :: text

namespace IniLine

def render (line : IniLine) : Text :=
  line.indent ++ line.content.render ++ line.gap ++ renderComment line.comment

/-- The text of the comment in front of its last further `#`. -/
def further (line : IniLine) : Option Text :=
  (line.comment.bind (splitLast '#')).map Prod.fst

end IniLine

/-! ### The comment that is removed -/

theorem IniContent.notMem_hash (content : IniContent) : '#' ∉ content.render := by
  cases content with
  | nothing => exact List.not_mem_nil
  | header sectionHeader =>
      simpa [IniContent.render, SectionHeader.render] using sectionHeader.noComment
  | setting option =>
      have before := option.beforeBlank.notMem (by decide : isSpace '#' = false)
      have after := option.afterBlank.notMem (by decide : isSpace '#' = false)
      simp [IniContent.render, Setting.render, option.keyNoComment, option.valueNoComment, before,
        after]

/-- **Only the text behind the last `#` is removed.** -/
theorem removeComment_render (line : IniLine) : removeComment line.render =
    line.indent ++ line.content.render ++ line.gap ++ renderComment line.further := by
  have indent := line.indentBlank.notMem (by decide : isSpace '#' = false)
  have gap := line.gapBlank.notMem (by decide : isSpace '#' = false)
  have front : '#' ∉ line.indent ++ line.content.render ++ line.gap := by
    simp [indent, gap, line.content.notMem_hash]
  unfold removeComment IniLine.render IniLine.further
  generalize line.indent ++ line.content.render ++ line.gap = start at front
  cases line.comment with
  | none =>
      rw [renderComment, List.append_nil, splitLast_eq_none front]
      exact (List.append_nil start).symm
  | some text =>
      rw [renderComment, Option.bind_some]
      cases split : splitLast '#' text with
      | none =>
          rw [splitLast_append start (notMem_of_splitLast split)]
          exact (List.append_nil start).symm
      | some parts =>
          have whole := splitLast_append_left split (start ++ ['#'])
          rw [List.append_assoc, List.singleton_append] at whole
          rw [whole]
          exact List.append_assoc start ['#'] parts.1

/-! ### What a line does -/

/-- The section that is read from a header. -/
def readSection (header : SectionHeader) (gap : Text) : Option Text → Text
  | none => strip header.name
  | some kept => strip (header.name ++ ']' :: (gap ++ '#' :: rstrip kept)).dropLast

/-- The value that is read from a setting. -/
def readValue (setting : Setting) (gap : Text) (further : Option Text) : Text :=
  strip (rstrip (setting.afterEquals ++ setting.value ++ gap ++ renderComment further))

/-- The option that is read from a line without content. -/
def readComment (currentSection : Text) : Option Text → Option ((Text × Text) × Text)
  | none => none
  | some kept =>
      (splitFirst '=' ('#' :: rstrip kept)).map fun parts =>
        ((currentSection, strip parts.1), strip parts.2)

def IniState.assign (state : IniState) (option : (Text × Text) × Text) : IniState :=
  { state with content := state.content.set option.1 option.2 }

theorem strip_indented {indent text : Text} (indentBlank : IsBlank indent)
    (first : ∀ character, text.head? = some character → isSpace character = false) :
    strip (indent ++ text) = rstrip text := by
  rw [strip, lstrip_append indentBlank, lstrip_eq_self first]

theorem rstrip_comment {gap : Text} (gapBlank : IsBlank gap) (start : Text)
    (further : Option Text) : rstrip (start ++ gap ++ renderComment further) =
      match further with
      | none => rstrip start
      | some kept => start ++ gap ++ '#' :: rstrip kept := by
  cases further with
  | none =>
      rw [renderComment, List.append_nil]
      exact rstrip_append gapBlank
  | some kept => exact rstrip_append_cons (by decide) _ _

theorem parseLine_nothing (state : IniState) {line : IniLine} (nothing : line.content = .nothing) :
    parseLine state line.render =
      match readComment state.currentSection line.further with
      | none => state
      | some option => state.assign option := by
  rw [parseLine, removeComment_render, nothing, IniContent.render, List.append_nil]
  have blank : IsBlank (line.indent ++ line.gap) := line.indentBlank.append line.gapBlank
  cases line.further with
  | none =>
      rw [renderComment, List.append_nil, strip_eq_nil blank]
      rfl
  | some kept =>
      have hash : ∀ character, (renderComment (some kept)).head? = some character →
          isSpace character = false := by
        intro character same
        cases same
        decide
      have stripped : strip (line.indent ++ line.gap ++ renderComment (some kept)) =
          '#' :: rstrip kept := by
        rw [strip_indented blank hash]
        exact rstrip_append_cons (by decide) [] kept
      have notHeader : ('#' :: rstrip kept).head? ≠ some '[' := by
        intro same
        cases same
      rw [stripped, parseStripped, if_neg (List.cons_ne_nil _ _), if_neg notHeader, readComment]
      cases splitFirst '=' ('#' :: rstrip kept) with
      | none => rfl
      | some parts => rfl

theorem parseLine_header (state : IniState) {line : IniLine} {header : SectionHeader}
    (isHeader : line.content = .header header) :
    parseLine state line.render =
      { state with currentSection := readSection header line.gap line.further } := by
  have first : ∀ character,
      (header.render ++ line.gap ++ renderComment line.further).head? = some character →
        isSpace character = false := by
    intro character same
    cases same
    decide
  have last : rstrip header.render = header.render := by
    refine rstrip_eq_self fun character same => ?_
    rw [SectionHeader.render, List.getLast?_append_of_ne_nil _ (List.cons_ne_nil _ _)] at same
    cases same
    decide
  have shape : line.indent ++ header.render ++ line.gap ++ renderComment line.further =
      line.indent ++ (header.render ++ line.gap ++ renderComment line.further) := by
    simp only [List.append_assoc]
  rw [parseLine, removeComment_render, isHeader, IniContent.render, shape,
    strip_indented line.indentBlank first, rstrip_comment line.gapBlank]
  cases line.further with
  | none =>
      rw [last]
      have inner : (header.render.drop 1).dropLast = header.name := by
        simp [SectionHeader.render]
      simp only [parseStripped, readSection, ← inner]
      rfl
  | some kept =>
      have inner : ((header.render ++ line.gap ++ '#' :: rstrip kept).drop 1).dropLast =
          (header.name ++ ']' :: (line.gap ++ '#' :: rstrip kept)).dropLast := by
        simp [SectionHeader.render]
      simp only [parseStripped, readSection, ← inner]
      rfl

theorem parseLine_setting (state : IniState) {line : IniLine} {setting : Setting}
    (isSetting : line.content = .setting setting) :
    parseLine state line.render = state.assign
      ((state.currentSection, setting.key), readValue setting line.gap line.further) := by
  obtain ⟨initial, others, key⟩ := List.exists_cons_of_ne_nil setting.keyNonempty
  have first : ∀ character, (setting.key ++ setting.beforeEquals ++ '=' ::
      (setting.afterEquals ++ setting.value ++ line.gap ++
        renderComment line.further)).head? = some character → isSpace character = false := by
    intro character same
    refine setting.keyTrimmed.first character ?_
    rw [key] at same ⊢
    exact same
  have shape : line.indent ++ setting.render ++ line.gap ++ renderComment line.further =
      line.indent ++ (setting.key ++ setting.beforeEquals ++ '=' ::
        (setting.afterEquals ++ setting.value ++ line.gap ++ renderComment line.further)) := by
    simp [Setting.render]
  rw [parseLine, removeComment_render, isSetting, IniContent.render, shape,
    strip_indented line.indentBlank first, rstrip_append_cons (by decide)]
  have notHeader : (setting.key ++ setting.beforeEquals ++ '=' :: rstrip (setting.afterEquals ++
      setting.value ++ line.gap ++ renderComment line.further)).head? ≠ some '[' := by
    have bracket := setting.keyNoBracket
    rw [key] at bracket ⊢
    exact bracket
  have noEquals : '=' ∉ setting.key ++ setting.beforeEquals := by
    rw [List.mem_append, not_or]
    exact ⟨setting.keyNoEquals, setting.beforeBlank.notMem (by decide)⟩
  have keyStripped : strip (setting.key ++ setting.beforeEquals) = setting.key :=
    strip_padded (List.forall_mem_nil _) setting.beforeBlank setting.keyTrimmed
  rw [parseStripped, if_neg (by simp), if_neg notHeader, splitFirst_append _ noEquals]
  simp only [keyStripped]
  rfl

/-! ### What is read with and without a further `#` -/

theorem readValue_none (setting : Setting) {gap : Text} (gapBlank : IsBlank gap) :
    readValue setting gap none = setting.value := by
  rw [readValue, rstrip_comment gapBlank]
  by_cases nothing : setting.value = []
  · rw [nothing, List.append_nil, rstrip_eq_nil setting.afterBlank]
    rfl
  · have solid : rstrip (setting.afterEquals ++ setting.value) =
        setting.afterEquals ++ setting.value := by
      refine rstrip_eq_self fun character same => setting.valueTrimmed.last character ?_
      rwa [List.getLast?_append_of_ne_nil _ nothing] at same
    have padded := @strip_padded setting.afterEquals setting.value [] setting.afterBlank
      (List.forall_mem_nil _) setting.valueTrimmed
    rw [List.append_nil] at padded
    rw [solid]
    exact padded

theorem readValue_some (setting : Setting) (gap kept : Text) :
    '#' ∈ readValue setting gap (some kept) := by
  refine mem_strip (mem_rstrip ?_ (by decide)) (by decide)
  rw [renderComment, List.mem_append]
  exact .inr List.mem_cons_self

theorem readSection_some (header : SectionHeader) (gap kept : Text) :
    ']' ∈ readSection header gap (some kept) := by
  refine mem_strip ?_ (by decide)
  have split : header.name ++ ']' :: (gap ++ '#' :: rstrip kept) =
      header.name ++ [']'] ++ (gap ++ '#' :: rstrip kept) := by
    rw [List.append_assoc, List.singleton_append]
  rw [split, List.dropLast_append_of_ne_nil (by simp)]
  simp

theorem readComment_eq_none {currentSection kept : Text} :
    readComment currentSection (some kept) = none ↔ '=' ∉ kept := by
  rw [readComment, Option.map_eq_none_iff]
  constructor
  · intro split member
    have inside : '=' ∈ '#' :: rstrip kept :=
      List.mem_cons_of_mem _ (mem_rstrip member (by decide))
    obtain ⟨left, right, whole, absent⟩ := List.eq_append_cons_of_mem inside
    rw [whole, splitFirst_append right absent] at split
    cases split
  · intro absent
    refine splitFirst_eq_none ?_
    rw [List.mem_cons, not_or]
    exact ⟨by decide, fun member => absent ((List.rdropWhile_prefix _ _).subset member)⟩

/-- The name of an option that is read from a comment is the name of no setting. -/
theorem readComment_hash {currentSection kept : Text} {option : (Text × Text) × Text}
    (read : readComment currentSection (some kept) = some option) : '#' ∈ option.1.2 := by
  obtain ⟨parts, split, rfl⟩ := Option.map_eq_some_iff.mp read
  obtain ⟨whole, -⟩ := splitFirst_spec split
  refine mem_strip ?_ (by decide)
  obtain nothing | ⟨initial, others, left⟩ : parts.1 = [] ∨ ∃ initial others,
      parts.1 = initial :: others := by
    cases parts.1 with
    | nil => exact .inl rfl
    | cons initial others => exact .inr ⟨initial, others, rfl⟩
  · rw [nothing] at whole
    cases whole
  · rw [left, List.cons_append] at whole
    rw [left, ← (List.cons.inj whole).1]
    exact List.mem_cons_self

end Tobiko.Common
