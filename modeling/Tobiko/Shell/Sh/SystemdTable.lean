import Tobiko.Foundation.FirstOccurrences
import Tobiko.Shell.Sh.SystemdUnits

/-!
Contract: what is read from a table of `systemctl list-units`.

Owns: the layouts of a table with left aligned columns, its header and its rows, and the units that
are read back from them.

Does not own: the execution of the command.
-/

namespace Tobiko.Shell.Sh.Systemctl

open Tobiko.Common Tobiko.Foundation
open Tobiko.Foundation.Text (isSpace isLineBreak splitLines strip rstrip lstrip)

/-! ### Tables -/

/-- A text that is not empty and has no white space. -/
structure IsWord (text : Text) : Prop where
  nonempty : text ≠ []
  solid : ∀ character ∈ text, isSpace character = false

theorem isWord_of_all {text : Text} (nonempty : text ≠ [])
    (solid : text.all (fun character => !isSpace character) = true) : IsWord text := by
  refine ⟨nonempty, fun character member => ?_⟩
  have isSolid := List.all_eq_true.mp solid character member
  rwa [Bool.not_eq_true'] at isSolid

/-- A unit that can be printed in a row. -/
structure TableUnit where
  unit : Text
  load : Text
  active : Text
  sub : Text
  description : Text
  isUnit : IsWord unit
  isLoad : IsWord load
  isActive : IsWord active
  isSub : IsWord sub
  oneLine : description.any isLineBreak = false
  trimmed : Text.Trimmed description

def TableUnit.listed (unit : TableUnit) : SystemdUnit where
  unit := unit.unit
  load := unit.load
  active := unit.active
  sub := unit.sub
  description := unit.description
  data := .ofPairs [("unit".toList, unit.unit), ("load".toList, unit.load),
    ("active".toList, unit.active), ("sub".toList, unit.sub),
    ("description".toList, unit.description)]

/-- The widths of the columns, which leave a blank behind the words of the header. -/
structure TableLayout where
  margin : Nat
  unitWidth : Nat
  loadWidth : Nat
  activeWidth : Nat
  subWidth : Nat
  unitHeader : 4 < unitWidth
  loadHeader : 4 < loadWidth
  activeHeader : 6 < activeWidth
  subHeader : 3 < subWidth

/-- The text in a left aligned column. -/
def pad (width : Nat) (text : Text) : Text := text ++ List.replicate (width - text.length) ' '

/-- Blanks at the end of a line. -/
structure AreTrailing (blanks : Text) : Prop where
  isBlank : Text.IsBlank blanks
  oneLine : blanks.any isLineBreak = false

namespace TableLayout

/-- The columns in front of the fourth one. -/
def front (layout : TableLayout) (unit load active : Text) : Text :=
  List.replicate layout.margin ' ' ++
    (pad layout.unitWidth unit ++ (pad layout.loadWidth load ++ pad layout.activeWidth active))

/-- The columns are wide enough for the unit. -/
structure Fits (layout : TableLayout) (unit : TableUnit) : Prop where
  unitFits : unit.unit.length ≤ layout.unitWidth
  loadFits : unit.load.length ≤ layout.loadWidth
  activeFits : unit.active.length ≤ layout.activeWidth
  subFits : unit.sub.length ≤ layout.subWidth

def headerLine (layout : TableLayout) (trailing : Text) : Text :=
  layout.front "UNIT".toList "LOAD".toList "ACTIVE".toList ++
    (pad layout.subWidth "SUB".toList ++ ("DESCRIPTION".toList ++ trailing))

/-- The lines that show a unit. Nothing need follow the fourth column where nothing is described. -/
inductive IsRow (layout : TableLayout) (unit : TableUnit) : Text → Prop
  | described {trailing : Text} (areTrailing : AreTrailing trailing) :
      IsRow layout unit (layout.front unit.unit unit.load unit.active ++
        (pad layout.subWidth unit.sub ++ (unit.description ++ trailing)))
  | bare {trailing : Text} (nothing : unit.description = []) (areTrailing : AreTrailing trailing) :
      IsRow layout unit (layout.front unit.unit unit.load unit.active ++ (unit.sub ++ trailing))

end TableLayout

/-! ### The words of the header -/

theorem findWords_blanks {blanks : Text} (isBlank : Text.IsBlank blanks) (position : Nat)
    (rest : Text) :
    findWords position (blanks ++ rest) = findWords (position + blanks.length) rest := by
  induction blanks generalizing position with
  | nil => rfl
  | cons character blanks inductionHypothesis =>
      have others : Text.IsBlank blanks :=
        fun other member => isBlank other (List.mem_cons_of_mem _ member)
      rw [List.cons_append, findWords, if_pos (isBlank character List.mem_cons_self),
        inductionHypothesis others, List.length_cons, Nat.add_assoc, Nat.add_comm 1]

theorem findWords_start {position : Nat} {text : Text} :
    ∀ word ∈ findWords position text, position ≤ word.2 := by
  induction text generalizing position with
  | nil =>
      intro word member
      cases member
  | cons character rest inductionHypothesis =>
      intro word member
      rw [findWords] at member
      split at member
      · have later := inductionHypothesis word member
        omega
      · split at member
        · obtain rfl := List.mem_singleton.mp member
          exact Nat.le_refl position
        · rename_i first start words found
          have later : ∀ other ∈ (first, start) :: words, position + 1 ≤ other.2 := by
            intro other isOther
            rw [← found] at isOther
            exact inductionHypothesis other isOther
          split at member
          · obtain rfl | inWords := List.mem_cons.mp member
            · exact Nat.le_refl position
            · have after := later word (List.mem_cons_of_mem _ inWords)
              omega
          · obtain rfl | inWords := List.mem_cons.mp member
            · exact Nat.le_refl position
            · have after := later word inWords
              omega

/-- Nothing else of a word follows. -/
def Stops (rest : Text) : Prop := ∀ character, rest.head? = some character → isSpace character = true

/-- What is found behind a word starts behind it. -/
theorem findWords_stops {rest : Text} (stops : Stops rest) {position : Nat} :
    ∀ word ∈ findWords position rest, word.2 ≠ position := by
  cases rest with
  | nil =>
      intro word member
      cases member
  | cons character rest =>
      intro word member
      rw [findWords, if_pos (stops character rfl)] at member
      have later := findWords_start word member
      omega

theorem findWords_word {word : Text} (isWord : IsWord word) {rest : Text} (stops : Stops rest)
    (position : Nat) :
    findWords position (word ++ rest) =
      (word, position) :: findWords (position + word.length) rest := by
  obtain ⟨nonempty, solid⟩ := isWord
  induction word generalizing position with
  | nil => exact absurd rfl nonempty
  | cons character word inductionHypothesis =>
      have isSolid : ¬isSpace character = true := by
        rw [solid character List.mem_cons_self]
        exact Bool.false_ne_true
      rw [List.cons_append, findWords, if_neg isSolid]
      cases word with
      | nil =>
          rw [List.nil_append, List.length_singleton]
          cases found : findWords (position + 1) rest with
          | nil => rfl
          | cons first words =>
              have later : first.2 ≠ position + 1 := by
                apply findWords_stops stops first
                rw [found]
                exact List.mem_cons_self
              dsimp only
              rw [if_neg later]
      | cons next word =>
          have found := inductionHypothesis (position + 1) (List.cons_ne_nil next word)
            fun other member => solid other (List.mem_cons_of_mem _ member)
          have shifted : position + (character :: next :: word).length =
              position + 1 + (next :: word).length := by
            simp only [List.length_cons]
            omega
          rw [found, shifted]
          exact if_pos rfl

theorem isBlank_replicate (count : Nat) : Text.IsBlank (List.replicate count ' ') := by
  intro character member
  rw [List.eq_of_mem_replicate member]
  rfl

/-- A word in a column that is wider than it. -/
theorem findWords_pad {word : Text} (isWord : IsWord word) {width : Nat} (wider : word.length < width)
    (position : Nat) (rest : Text) :
    findWords position (pad width word ++ rest) =
      (word, position) :: findWords (position + width) rest := by
  have stops : Stops (List.replicate (width - word.length) ' ' ++ rest) := by
    intro character same
    obtain ⟨count, isCount⟩ : ∃ count, width - word.length = count + 1 :=
      ⟨width - word.length - 1, by omega⟩
    rw [isCount, List.replicate_succ, List.cons_append] at same
    cases same
    rfl
  unfold pad
  rw [List.append_assoc, findWords_word isWord stops, findWords_blanks (isBlank_replicate _),
    List.length_replicate, Nat.add_assoc, Nat.add_sub_cancel' (Nat.le_of_lt wider)]

/-- The names of the columns in the header, in lower case. -/
def LowersNames (lower : Text → Text) : Prop :=
  ["UNIT", "LOAD", "ACTIVE", "SUB", "DESCRIPTION"].map (fun name => lower name.toList) =
    ["unit", "load", "active", "sub", "description"].map String.toList

namespace TableLayout

def loadStart (layout : TableLayout) : Nat := layout.margin + layout.unitWidth

def activeStart (layout : TableLayout) : Nat := layout.loadStart + layout.loadWidth

def subStart (layout : TableLayout) : Nat := layout.activeStart + layout.activeWidth

def descriptionStart (layout : TableLayout) : Nat := layout.subStart + layout.subWidth

/-- The columns of a layout. -/
def columns (layout : TableLayout) : List (Text × Nat × Option Nat) :=
  [("unit".toList, layout.margin, some layout.loadStart),
    ("load".toList, layout.loadStart, some layout.activeStart),
    ("active".toList, layout.activeStart, some layout.subStart),
    ("sub".toList, layout.subStart, some layout.descriptionStart),
    ("description".toList, layout.descriptionStart, none)]

theorem findWords_header (layout : TableLayout) {trailing : Text} (areTrailing : AreTrailing trailing) :
    findWords 0 (layout.headerLine trailing) =
      [("UNIT".toList, layout.margin), ("LOAD".toList, layout.loadStart),
        ("ACTIVE".toList, layout.activeStart), ("SUB".toList, layout.subStart),
        ("DESCRIPTION".toList, layout.descriptionStart)] := by
  have areWords : ∀ name ∈ ["UNIT", "LOAD", "ACTIVE", "SUB", "DESCRIPTION"],
      name.toList ≠ [] ∧ name.toList.all (fun character => !isSpace character) = true := by
    decide
  have word : ∀ name ∈ ["UNIT", "LOAD", "ACTIVE", "SUB", "DESCRIPTION"], IsWord name.toList :=
    fun name member => isWord_of_all (areWords name member).1 (areWords name member).2
  have stops : Stops trailing := by
    intro character same
    exact areTrailing.isBlank character (List.mem_of_mem_head? same)
  have nothing : ∀ position, findWords position trailing = [] := by
    intro position
    have skipped := findWords_blanks areTrailing.isBlank position []
    rwa [List.append_nil] at skipped
  unfold headerLine front
  simp only [List.append_assoc]
  rw [findWords_blanks (isBlank_replicate _), List.length_replicate, Nat.zero_add,
    findWords_pad (word "UNIT" (by decide)) layout.unitHeader,
    findWords_pad (word "LOAD" (by decide)) layout.loadHeader,
    findWords_pad (word "ACTIVE" (by decide)) layout.activeHeader,
    findWords_pad (word "SUB" (by decide)) layout.subHeader,
    findWords_word (word "DESCRIPTION" (by decide)) stops, nothing]
  rfl

theorem tableColumns_header {lower : Text → Text} (lowersNames : LowersNames lower)
    (layout : TableLayout) {trailing : Text} (areTrailing : AreTrailing trailing) :
    tableColumns lower (layout.headerLine trailing) = layout.columns := by
  unfold tableColumns
  rw [layout.findWords_header areTrailing]
  change List.zip (["UNIT", "LOAD", "ACTIVE", "SUB", "DESCRIPTION"].map
    fun name => lower name.toList) _ = layout.columns
  rw [lowersNames]
  rfl

end TableLayout

/-! ### The cells of a row -/

theorem cellOf_column (before rest : Text) (width : Nat) :
    cellOf (before ++ rest) before.length (some (before.length + width)) = rest.take width := by
  change ((before ++ rest).take (before.length + width)).drop before.length = rest.take width
  rw [List.take_length_add_append, List.drop_left]

theorem cellOf_last (before rest : Text) (width : Nat) :
    cellOf (before ++ rest) (before.length + width) none = rest.drop width := by
  change (before ++ rest).drop (before.length + width) = rest.drop width
  rw [List.drop_length_add_append]

theorem length_pad {width : Nat} {text : Text} (fits : text.length ≤ width) :
    (pad width text).length = width := by
  unfold pad
  rw [List.length_append, List.length_replicate]
  omega

theorem IsWord.trimmed {text : Text} (isWord : IsWord text) : Text.Trimmed text where
  first := fun character same => isWord.solid character (List.mem_of_mem_head? same)
  last := fun character same => isWord.solid character (List.mem_of_mem_getLast? same)

theorem strip_behind {text blanks : Text} (trimmed : Text.Trimmed text)
    (isBlank : Text.IsBlank blanks) : strip (text ++ blanks) = text := by
  have noBlank : Text.IsBlank [] := fun _ member => absurd member List.not_mem_nil
  exact Text.strip_padded noBlank isBlank trimmed

/-- What is cut out for a column that is wide enough. -/
theorem strip_take_pad {width : Nat} {text : Text} (isWord : IsWord text)
    (fits : text.length ≤ width) (rest : Text) : strip ((pad width text ++ rest).take width) = text := by
  rw [List.take_left' (length_pad fits)]
  exact strip_behind isWord.trimmed (isBlank_replicate _)

/-- The word of a column that is wide enough, from where it starts to where the next one does. -/
theorem strip_column {before after text : Text} {width start stop : Nat} (isWord : IsWord text)
    (fits : text.length ≤ width) (starts : before.length = start) (stops : start + width = stop) :
    strip (cellOf (before ++ (pad width text ++ after)) start (some stop)) = text := by
  rw [← stops, ← starts, cellOf_column]
  exact strip_take_pad isWord fits after

/-- What is shown behind the third column, with its two cells. -/
structure ShowsEnd (layout : TableLayout) (unit : TableUnit) (rest : Text) : Prop where
  sub : strip (rest.take layout.subWidth) = unit.sub
  description : strip (rest.drop layout.subWidth) = unit.description
  oneLine : rest.any isLineBreak = false

theorem isSpace_of_isLineBreak {character : Char} (isBreak : isLineBreak character = true) :
    isSpace character = true := by
  unfold isLineBreak at isBreak
  unfold isSpace
  simp only [Bool.or_eq_true, Bool.and_eq_true, decide_eq_true_eq, beq_iff_eq] at isBreak ⊢
  omega

theorem IsWord.oneLine {text : Text} (isWord : IsWord text) : text.any isLineBreak = false := by
  rw [List.any_eq_false]
  intro character member isBreak
  have solid := isWord.solid character member
  rw [isSpace_of_isLineBreak isBreak] at solid
  cases solid

theorem oneLine_blanks (count : Nat) : (List.replicate count ' ').any isLineBreak = false := by
  rw [List.any_eq_false]
  intro character member isBreak
  rw [List.eq_of_mem_replicate member] at isBreak
  cases isBreak

theorem oneLine_pad {text : Text} (oneLine : text.any isLineBreak = false) (width : Nat) :
    (pad width text).any isLineBreak = false := by
  unfold pad
  rw [List.any_append, oneLine, oneLine_blanks]
  rfl

namespace TableLayout

variable {layout : TableLayout} {unit : TableUnit} {line : Text}

/-- The end of a row, behind its front. -/
theorem IsRow.shows (isRow : layout.IsRow unit line) (fits : layout.Fits unit) :
    ∃ rest, line = layout.front unit.unit unit.load unit.active ++ rest ∧
      ShowsEnd layout unit rest := by
  cases isRow with
  | @described trailing areTrailing =>
      refine ⟨_, rfl, ?_, ?_, ?_⟩
      · exact strip_take_pad unit.isSub fits.subFits _
      · rw [List.drop_left' (length_pad fits.subFits)]
        exact strip_behind unit.trimmed areTrailing.isBlank
      · rw [List.any_append, oneLine_pad unit.isSub.oneLine, List.any_append, unit.oneLine,
          areTrailing.oneLine]
        rfl
  | @bare trailing nothing areTrailing =>
      have taken : Text.IsBlank (trailing.take (layout.subWidth - unit.sub.length)) :=
        fun character member => areTrailing.isBlank character (List.mem_of_mem_take member)
      have dropped : Text.IsBlank (trailing.drop (layout.subWidth - unit.sub.length)) :=
        fun character member => areTrailing.isBlank character (List.mem_of_mem_drop member)
      refine ⟨_, rfl, ?_, ?_, ?_⟩
      · rw [List.take_append, List.take_of_length_le fits.subFits]
        exact strip_behind unit.isSub.trimmed taken
      · rw [List.drop_append, List.drop_eq_nil_iff.mpr fits.subFits, List.nil_append, nothing]
        exact Text.strip_eq_nil dropped
      · rw [List.any_append, unit.isSub.oneLine, areTrailing.oneLine]
        rfl

theorem length_front (fits : layout.Fits unit) :
    (layout.front unit.unit unit.load unit.active).length = layout.subStart := by
  unfold front subStart activeStart loadStart
  rw [List.length_append, List.length_append, List.length_append, List.length_replicate,
    length_pad fits.unitFits, length_pad fits.loadFits, length_pad fits.activeFits]
  omega

/-- Each column is cut where it begins. -/
theorem readUnit_row (isRow : layout.IsRow unit line) (fits : layout.Fits unit) :
    readUnit layout.columns line = unit.listed := by
  obtain ⟨rest, rfl, shows⟩ := isRow.shows fits
  have unitCell : strip (cellOf (layout.front unit.unit unit.load unit.active ++ rest)
      layout.margin (some layout.loadStart)) = unit.unit := by
    unfold front
    rw [List.append_assoc, List.append_assoc]
    exact strip_column unit.isUnit fits.unitFits List.length_replicate rfl
  have loadCell : strip (cellOf (layout.front unit.unit unit.load unit.active ++ rest)
      layout.loadStart (some layout.activeStart)) = unit.load := by
    have shape : layout.front unit.unit unit.load unit.active ++ rest =
        (List.replicate layout.margin ' ' ++ pad layout.unitWidth unit.unit) ++
          (pad layout.loadWidth unit.load ++ (pad layout.activeWidth unit.active ++ rest)) := by
      unfold front
      simp only [List.append_assoc]
    rw [shape]
    apply strip_column unit.isLoad fits.loadFits _ rfl
    rw [List.length_append, List.length_replicate, length_pad fits.unitFits]
    rfl
  have activeCell : strip (cellOf (layout.front unit.unit unit.load unit.active ++ rest)
      layout.activeStart (some layout.subStart)) = unit.active := by
    have shape : layout.front unit.unit unit.load unit.active ++ rest =
        (List.replicate layout.margin ' ' ++
          (pad layout.unitWidth unit.unit ++ pad layout.loadWidth unit.load)) ++
            (pad layout.activeWidth unit.active ++ rest) := by
      unfold front
      simp only [List.append_assoc]
    rw [shape]
    apply strip_column unit.isActive fits.activeFits _ rfl
    unfold activeStart loadStart
    rw [List.length_append, List.length_append, List.length_replicate, length_pad fits.unitFits,
      length_pad fits.loadFits]
    omega
  have subCell : cellOf (layout.front unit.unit unit.load unit.active ++ rest) layout.subStart
      (some layout.descriptionStart) = rest.take layout.subWidth := by
    unfold descriptionStart
    rw [← length_front fits]
    exact cellOf_column _ rest layout.subWidth
  have descriptionCell : cellOf (layout.front unit.unit unit.load unit.active ++ rest)
      layout.descriptionStart none = rest.drop layout.subWidth := by
    unfold descriptionStart
    rw [← length_front fits]
    exact cellOf_last _ rest layout.subWidth
  have cells : (layout.columns.map fun column => (column.1, strip (cellOf
      (layout.front unit.unit unit.load unit.active ++ rest) column.2.1 column.2.2))) =
        [("unit".toList, unit.unit), ("load".toList, unit.load), ("active".toList, unit.active),
          ("sub".toList, unit.sub), ("description".toList, unit.description)] := by
    unfold columns
    simp only [List.map_cons, List.map_nil]
    rw [unitCell, loadCell, activeCell, subCell, descriptionCell, shows.sub, shows.description]
  unfold readUnit
  rw [cells]
  rfl

/-- The message of a row starts with the unit, which its column keeps apart from what follows. -/
theorem IsRow.message (isRow : layout.IsRow unit line) (fits : layout.Fits unit) :
    ∃ rest, strip line = rstrip (pad layout.unitWidth unit.unit ++ rest) := by
  obtain ⟨rest, rfl, -⟩ := isRow.shows fits
  refine ⟨pad layout.loadWidth unit.load ++ pad layout.activeWidth unit.active ++ rest, ?_⟩
  unfold front strip
  rw [List.append_assoc, Text.lstrip_append (isBlank_replicate _), List.append_assoc,
    Text.lstrip_eq_self]
  intro character same
  obtain ⟨first, name, shape⟩ := List.exists_cons_of_ne_nil unit.isUnit.nonempty
  have isFirst : some first = some character := by
    unfold pad at same
    rw [shape] at same
    exact same
  rw [← Option.some.inj isFirst]
  exact unit.isUnit.solid first (shape ▸ List.mem_cons_self)

theorem IsRow.message_ne_nil (isRow : layout.IsRow unit line) (fits : layout.Fits unit) :
    strip line ≠ [] := by
  obtain ⟨rest, message⟩ := isRow.message fits
  obtain ⟨first, name, shape⟩ := List.exists_cons_of_ne_nil unit.isUnit.nonempty
  have solid := unit.isUnit.solid first (shape ▸ List.mem_cons_self)
  have inText : first ∈ pad layout.unitWidth unit.unit ++ rest := by
    unfold pad
    rw [shape]
    exact List.mem_cons_self
  rw [message]
  exact List.ne_nil_of_mem (Text.mem_rstrip inText solid)

/-- The column of the units is wider than what is in front of `loaded`. -/
theorem IsRow.message_ne_zero (isRow : layout.IsRow unit line) (fits : layout.Fits unit) :
    strip line ≠ zeroUnitsListed := by
  intro same
  obtain ⟨rest, message⟩ := isRow.message fits
  have isPrefix : zeroUnitsListed <+: pad layout.unitWidth unit.unit ++ rest := by
    rw [← same, message]
    exact List.rdropWhile_prefix _ _
  obtain ⟨suffix, whole⟩ := isPrefix
  have shown : zeroUnitsListed = '0' :: ' ' :: 'l' :: zeroUnitsListed.drop 3 := rfl
  obtain ⟨first, name, shape⟩ := List.exists_cons_of_ne_nil unit.isUnit.nonempty
  unfold pad at whole
  rw [shown, shape] at whole
  cases name with
  | nil =>
      obtain ⟨count, isCount⟩ : ∃ count, layout.unitWidth - [first].length = count + 2 := by
        have wide := layout.unitHeader
        exact ⟨layout.unitWidth - 3, by rw [List.length_singleton]; omega⟩
      rw [isCount, List.replicate_succ, List.replicate_succ] at whole
      injection whole with _ whole
      injection whole with _ whole
      injection whole with isBlank
      cases isBlank
  | cons second name =>
      injection whole with _ whole
      injection whole with isBlank
      have solid := unit.isUnit.solid second
        (shape ▸ List.mem_cons_of_mem _ List.mem_cons_self)
      rw [← isBlank] at solid
      cases solid

theorem IsRow.oneLine (isRow : layout.IsRow unit line) (fits : layout.Fits unit) :
    line.any isLineBreak = false := by
  obtain ⟨rest, rfl, shows⟩ := isRow.shows fits
  unfold front
  simp only [List.any_append, oneLine_blanks, oneLine_pad unit.isUnit.oneLine,
    oneLine_pad unit.isLoad.oneLine, oneLine_pad unit.isActive.oneLine, shows.oneLine,
    Bool.or_false]

end TableLayout

/-! ### The rows of a table -/

section Rows

variable {Exc : Type} {layout : TableLayout} {command : ListUnits} {output : Text}

/-- The lines that show the units. -/
def AreRows (layout : TableLayout) (units : List TableUnit) (lines : List Text) : Prop :=
  List.Forall₂ (fun unit line => layout.IsRow unit line ∧ layout.Fits unit) units lines

theorem readUnits_cons {columns : List (Text × Nat × Option Nat)} {line : Text} {lines : List Text}
    {units : List SystemdUnit} (nonempty : strip line ≠ []) (listed : strip line ≠ zeroUnitsListed)
    (others : (readUnits command output columns lines :
      Except (SystemctlError Exc) (List SystemdUnit)) = .ok units) :
    (readUnits command output columns (line :: lines) :
      Except (SystemctlError Exc) (List SystemdUnit)) =
        .ok (readUnit columns line :: units) := by
  rw [readUnits]
  dsimp only
  rw [if_neg nonempty, if_neg listed]
  change Except.bind (readUnits command output columns lines) _ = _
  rw [others]
  rfl

/-- The rows are read up to the empty line. -/
theorem readUnits_rows {units : List TableUnit} {lines : List Text}
    (areRows : AreRows layout units lines) (legend : List Text) :
    (readUnits command output layout.columns (lines ++ [] :: legend) :
      Except (SystemctlError Exc) (List SystemdUnit)) = .ok (units.map TableUnit.listed) := by
  induction areRows with
  | nil => rfl
  | cons isRow _ inductionHypothesis =>
      rw [List.cons_append, readUnits_cons (isRow.1.message_ne_nil isRow.2)
        (isRow.1.message_ne_zero isRow.2) inductionHypothesis, TableLayout.readUnit_row isRow.1 isRow.2,
        List.map_cons]

theorem oneLine_header (layout : TableLayout) {trailing : Text} (areTrailing : AreTrailing trailing) :
    (layout.headerLine trailing).any isLineBreak = false := by
  have words : ∀ name ∈ ["UNIT", "LOAD", "ACTIVE", "SUB", "DESCRIPTION"],
      name.toList.any isLineBreak = false := by
    decide
  unfold TableLayout.headerLine TableLayout.front
  simp only [List.any_append, oneLine_blanks, areTrailing.oneLine, Bool.or_false]
  rw [oneLine_pad (words "UNIT" (by decide)), oneLine_pad (words "LOAD" (by decide)),
    oneLine_pad (words "ACTIVE" (by decide)), oneLine_pad (words "SUB" (by decide)),
    words "DESCRIPTION" (by decide)]
  rfl

/-- A header is no message. -/
theorem zeroUnits_notPrefix (layout : TableLayout) (trailing rest : Text) :
    zeroUnitsListed.isPrefixOf (layout.headerLine trailing ++ rest) = false := by
  unfold TableLayout.headerLine TableLayout.front
  cases layout.margin with
  | zero => rfl
  | succ margin => rfl

end Rows

/-- The output of a command that shows a table: each line with its ending, an empty line and a
legend. -/
def tableOutput (layout : TableLayout) (ending trailing : Text) (lines : List Text) (legend : Text) :
    Text :=
  Text.endedText ending (layout.headerLine trailing :: lines ++ [[]]) ++ legend

/-- A unit whose fields are as short as can be, and one whose name fills its column. -/
def shownUnits : List TableUnit :=
  [{ unit := "0".toList, load := "loaded".toList, active := "units".toList, sub := "listed.".toList
     description := []
     isUnit := isWord_of_all (by decide) (by decide)
     isLoad := isWord_of_all (by decide) (by decide)
     isActive := isWord_of_all (by decide) (by decide)
     isSub := isWord_of_all (by decide) (by decide)
     oneLine := rfl
     trimmed := Text.trimmed_of_ends rfl rfl },
   { unit := "a.service".toList, load := "loaded".toList, active := "active".toList
     sub := "running".toList, description := "The first service".toList
     isUnit := isWord_of_all (by decide) (by decide)
     isLoad := isWord_of_all (by decide) (by decide)
     isActive := isWord_of_all (by decide) (by decide)
     isSub := isWord_of_all (by decide) (by decide)
     oneLine := rfl
     trimmed := Text.trimmed_of_ends rfl rfl }]

def shownLayout : TableLayout :=
  ⟨0, 9, 7, 7, 8, by decide, by decide, by decide, by decide⟩

def shownLines : List Text :=
  ["0        loaded units  listed.",
    "a.service" ++ "loaded active running The first service"].map String.toList

end Tobiko.Shell.Sh.Systemctl
