import Tobiko.Foundation.Text

/-!
Contract: rows of texts as comma separated values, in the dialect of Python's `csv` by default.

Owns: the writer, the reader as the state machine that it is, the newlines of a file that is opened as
a text, the limit on the length of a field, and what is read from the file of rows that were written.

Does not own: other dialects.
-/

namespace Tobiko.Foundation.Csv

open Tobiko.Foundation

/-! ### Writing -/

/-- A field with one of these is quoted. -/
def isSpecial (character : Char) : Bool :=
  character == ',' || character == '"' || character == '\r' || character == '\n'

def doubleQuotes (field : Text) : Text :=
  field.flatMap fun character => if character = '"' then ['"', '"'] else [character]

/-- An empty field is quoted where it is the only one of its row. -/
def writeField (alone : Bool) (field : Text) : Text :=
  if field.any isSpecial = true ∨ (alone = true ∧ field = []) then
    '"' :: (doubleQuotes field ++ ['"'])
  else field

def writeFields (alone : Bool) : List Text → Text
  | [] => []
  | [field] => writeField alone field
  | field :: next :: fields => writeField alone field ++ ',' :: writeFields alone (next :: fields)

/-- A row without the end of its line. -/
def line (row : List Text) : Text := writeFields (row.length == 1) row

def writeRows (rows : List (List Text)) : Text :=
  rows.flatMap fun row => line row ++ ['\r', '\n']

/-! ### Newlines -/

/-- A newline behind a carriage return is one with it. -/
def translateFrom (behindReturn : Bool) : Text → Text
  | [] => []
  | character :: rest =>
      if character = '\n' ∧ behindReturn = true then translateFrom false rest
      else if character = '\r' then '\n' :: translateFrom true rest
      else character :: translateFrom false rest

/-- What is read from a file that is opened as a text. -/
def translateNewlines (text : Text) : Text := translateFrom false text

/-! ### Reading -/

inductive Phase where
  | startRecord
  | startField
  | inField
  | inQuotedField
  | quoteInQuotedField
  | eatNewline
  deriving DecidableEq

structure Reader where
  phase : Phase
  fields : List Text
  field : Text

namespace Reader

def start : Reader := ⟨.startRecord, [], []⟩

def isNewline (character : Char) : Bool := character == '\n' || character == '\r'

def saveField (reader : Reader) (phase : Phase) : Reader :=
  ⟨phase, reader.fields ++ [reader.field], []⟩

/-- `none`: field larger than field limit -/
def addCharacter (limit : Nat) (reader : Reader) (phase : Phase) (character : Char) :
    Option Reader :=
  if reader.field.length < limit then some ⟨phase, reader.fields, reader.field ++ [character]⟩
  else none

def startField (limit : Nat) (reader : Reader) (character : Char) : Option Reader :=
  if isNewline character then some (reader.saveField .eatNewline)
  else if character = '"' then some { reader with phase := .inQuotedField }
  else if character = ',' then some (reader.saveField .startField)
  else reader.addCharacter limit .inField character

/-- One character. `none` also behind the end of a record: new-line character seen in unquoted field -
do you need to open the file with newline=''? -/
def step (limit : Nat) (reader : Reader) (character : Char) : Option Reader :=
  match reader.phase with
  | .startRecord =>
      if isNewline character then some { reader with phase := .eatNewline }
      else reader.startField limit character
  | .startField => reader.startField limit character
  | .inField =>
      if isNewline character then some (reader.saveField .eatNewline)
      else if character = ',' then some (reader.saveField .startField)
      else reader.addCharacter limit .inField character
  | .inQuotedField =>
      if character = '"' then some { reader with phase := .quoteInQuotedField }
      else reader.addCharacter limit .inQuotedField character
  | .quoteInQuotedField =>
      if character = '"' then reader.addCharacter limit .inQuotedField character
      else if character = ',' then some (reader.saveField .startField)
      else if isNewline character then some (reader.saveField .eatNewline)
      else reader.addCharacter limit .inField character
  | .eatNewline => if isNewline character then some reader else none

/-- The end of a line. A quoted field goes on in the next one. -/
def endLine (reader : Reader) : Reader :=
  match reader.phase with
  | .startRecord => reader
  | .startField => reader.saveField .startRecord
  | .inField => reader.saveField .startRecord
  | .inQuotedField => reader
  | .quoteInQuotedField => reader.saveField .startRecord
  | .eatNewline => { reader with phase := .startRecord }

/-- The record that is open at the end of the file. -/
def lastRecord (reader : Reader) : List (List Text) :=
  if reader.phase = .startRecord then [] else [reader.fields ++ [reader.field]]

end Reader

def readFrom (limit : Nat) : Reader → Text → Option (List (List Text))
  | reader, [] => some reader.lastRecord
  | reader, character :: rest => do
      let reader ← reader.step limit character
      if character = '\n' ∨ rest = [] then
        if reader.endLine.phase = .startRecord then
          let records ← readFrom limit .start rest
          some (reader.endLine.fields :: records)
        else readFrom limit reader.endLine rest
      else readFrom limit reader rest

/-- `list(csv.reader(stream))`, with `csv.field_size_limit()` -/
def read (limit : Nat) (text : Text) : Option (List (List Text)) := readFrom limit .start text

/-! ### What is written is read -/

section Reading

variable {limit : Nat} {fields : List Text} {field : Text}

/-- A character inside of a line. -/
theorem readFrom_step {reader next : Reader} {character : Char} {rest : Text}
    (steps : reader.step limit character = some next) (notNewline : character ≠ '\n')
    (more : rest ≠ []) : readFrom limit reader (character :: rest) = readFrom limit next rest := by
  rw [readFrom, steps]
  dsimp only [Option.bind_eq_bind, Option.bind_some]
  rw [if_neg fun ends => ends.elim notNewline more]

theorem readFrom_none {reader : Reader} {character : Char} {rest : Text}
    (stops : reader.step limit character = none) :
    readFrom limit reader (character :: rest) = none := by
  rw [readFrom, stops]
  rfl

theorem not_special {character : Char} (plain : isSpecial character = false) :
    character ≠ ',' ∧ character ≠ '"' ∧ Reader.isNewline character = false ∧
      character ≠ '\n' := by
  unfold isSpecial at plain
  unfold Reader.isNewline
  simp only [Bool.or_eq_false_iff, beq_eq_false_iff_ne, ne_eq] at plain ⊢
  obtain ⟨⟨⟨notComma, notQuote⟩, notReturn⟩, notFeed⟩ := plain
  exact ⟨notComma, notQuote, ⟨notFeed, notReturn⟩, notFeed⟩

theorem readFrom_plain {field : Text} (plain : field.any isSpecial = false) {before : Text}
    (fits : before.length ≤ limit) {rest : Text} (more : rest ≠ []) :
    readFrom limit ⟨.inField, fields, before⟩ (field ++ rest) =
      if (before ++ field).length ≤ limit then
        readFrom limit ⟨.inField, fields, before ++ field⟩ rest
      else none := by
  induction field generalizing before with
  | nil => rw [List.nil_append, List.append_nil, if_pos fits]
  | cons character field inductionHypothesis =>
      rw [List.any_cons, Bool.or_eq_false_iff] at plain
      obtain ⟨notComma, notQuote, notNewline, notFeed⟩ := not_special plain.1
      have steps : Reader.step limit ⟨.inField, fields, before⟩ character =
          Reader.addCharacter limit ⟨.inField, fields, before⟩ .inField character := by
        unfold Reader.step
        dsimp only
        rw [notNewline, if_neg Bool.false_ne_true, if_neg notComma]
      rw [List.cons_append]
      by_cases room : before.length < limit
      · rw [Reader.addCharacter, if_pos room] at steps
        rw [readFrom_step steps notFeed fun none => more (List.append_eq_nil_iff.mp none).2,
          inductionHypothesis plain.2 (by rw [List.length_append]; exact room), List.append_assoc,
          List.singleton_append]
      · rw [Reader.addCharacter, if_neg room] at steps
        rw [readFrom_none steps, if_neg]
        rw [List.length_append, List.length_cons]
        omega

/-- A quoted field goes up to the quote that is not doubled. -/
theorem readFrom_quoted (field : Text) {before : Text} (fits : before.length ≤ limit)
    {rest : Text} (more : rest ≠ []) :
    readFrom limit ⟨.inQuotedField, fields, before⟩ (doubleQuotes field ++ '"' :: rest) =
      if (before ++ field).length ≤ limit then
        readFrom limit ⟨.quoteInQuotedField, fields, before ++ field⟩ rest
      else none := by
  induction field generalizing before with
  | nil =>
      have steps : Reader.step limit ⟨.inQuotedField, fields, before⟩ '"' =
          some ⟨.quoteInQuotedField, fields, before⟩ := rfl
      rw [List.append_nil, if_pos fits]
      exact readFrom_step steps (by decide) more
  | cons character field inductionHypothesis =>
      have goesOn : doubleQuotes field ++ '"' :: rest ≠ [] := by
        intro none
        cases (List.append_eq_nil_iff.mp none).2
      have full : ¬ before.length < limit → ¬ (before ++ character :: field).length ≤ limit := by
        intro noRoom
        rw [List.length_append, List.length_cons]
        omega
      rw [doubleQuotes, List.flatMap_cons, ← doubleQuotes]
      by_cases isQuote : character = '"'
      · subst isQuote
        have opens : Reader.step limit ⟨.inQuotedField, fields, before⟩ '"' =
            some ⟨.quoteInQuotedField, fields, before⟩ := rfl
        have closes : Reader.step limit ⟨.quoteInQuotedField, fields, before⟩ '"' =
            Reader.addCharacter limit ⟨.quoteInQuotedField, fields, before⟩ .inQuotedField '"' :=
          rfl
        have twice : (['"', '"'] ++ doubleQuotes field) ++ '"' :: rest =
            '"' :: '"' :: (doubleQuotes field ++ '"' :: rest) := rfl
        rw [if_pos rfl, twice, readFrom_step opens (by decide) (List.cons_ne_nil _ _)]
        by_cases room : before.length < limit
        · rw [Reader.addCharacter, if_pos room] at closes
          rw [readFrom_step closes (by decide) goesOn,
            inductionHypothesis (by rw [List.length_append]; exact room), List.append_assoc,
            List.singleton_append]
        · rw [Reader.addCharacter, if_neg room] at closes
          rw [readFrom_none closes, if_neg (full room)]
      · have steps : Reader.step limit ⟨.inQuotedField, fields, before⟩ character =
            Reader.addCharacter limit ⟨.inQuotedField, fields, before⟩ .inQuotedField
              character := by
          unfold Reader.step
          dsimp only
          rw [if_neg isQuote]
        rw [if_neg isQuote, List.singleton_append, List.cons_append]
        by_cases room : before.length < limit
        · rw [Reader.addCharacter, if_pos room] at steps
          have next : readFrom limit ⟨.inQuotedField, fields, before⟩
              (character :: (doubleQuotes field ++ '"' :: rest)) =
                readFrom limit ⟨.inQuotedField, fields, before ++ [character]⟩
                  (doubleQuotes field ++ '"' :: rest) := by
            rw [readFrom, steps]
            dsimp only [Option.bind_eq_bind, Option.bind_some]
            -- A newline ends a line, and the field goes on in the next one.
            split
            · rfl
            · rfl
          rw [next, inductionHypothesis (by rw [List.length_append]; exact room),
            List.append_assoc, List.singleton_append]
        · rw [Reader.addCharacter, if_neg room] at steps
          rw [readFrom_none steps, if_neg (full room)]

/-- The reader behind a field. -/
def Ended (reader : Reader) (fields : List Text) (field : Text) : Prop :=
  (reader.phase = .startField ∨ reader.phase = .inField ∨
    reader.phase = .quoteInQuotedField) ∧ reader.fields = fields ∧ reader.field = field

theorem readFrom_field (alone : Bool) (field : Text) {rest : Text} (more : rest ≠ []) :
    ∃ reader, Ended reader fields field ∧
      readFrom limit ⟨.startField, fields, []⟩ (writeField alone field ++ rest) =
        if field.length ≤ limit then readFrom limit reader rest else none := by
  unfold writeField
  split
  · have opens : Reader.step limit ⟨.startField, fields, []⟩ '"' =
        some ⟨.inQuotedField, fields, []⟩ := rfl
    have goesOn : doubleQuotes field ++ '"' :: rest ≠ [] := by
      intro none
      cases (List.append_eq_nil_iff.mp none).2
    refine ⟨⟨.quoteInQuotedField, fields, field⟩, ⟨.inr (.inr rfl), rfl, rfl⟩, ?_⟩
    rw [List.cons_append, List.append_assoc, List.singleton_append,
      readFrom_step opens (by decide) goesOn, readFrom_quoted field (Nat.zero_le _) more,
      List.nil_append]
  · rename_i isPlain
    obtain ⟨noSpecial, -⟩ := not_or.mp isPlain
    have plain : field.any isSpecial = false := Bool.eq_false_iff.mpr noSpecial
    cases field with
    | nil =>
        refine ⟨⟨.startField, fields, []⟩, ⟨.inl rfl, rfl, rfl⟩, ?_⟩
        have short : ([] : Text).length ≤ limit := Nat.zero_le _
        rw [if_pos short, List.nil_append]
    | cons character field =>
        rw [List.any_cons, Bool.or_eq_false_iff] at plain
        obtain ⟨notComma, notQuote, notNewline, notFeed⟩ := not_special plain.1
        have steps : Reader.step limit ⟨.startField, fields, []⟩ character =
            Reader.addCharacter limit ⟨.startField, fields, []⟩ .inField character := by
          unfold Reader.step Reader.startField
          dsimp only
          rw [notNewline, if_neg Bool.false_ne_true, if_neg notQuote, if_neg notComma]
        refine ⟨⟨.inField, fields, character :: field⟩, ⟨.inr (.inl rfl), rfl, rfl⟩, ?_⟩
        rw [List.cons_append]
        by_cases room : ([] : Text).length < limit
        · rw [Reader.addCharacter, if_pos room] at steps
          rw [readFrom_step steps notFeed fun none => more (List.append_eq_nil_iff.mp none).2]
          exact readFrom_plain plain.2 room more
        · rw [Reader.addCharacter, if_neg room] at steps
          have long : ¬ (character :: field).length ≤ limit :=
            fun fits => room (Nat.lt_of_lt_of_le (Nat.succ_pos _) fits)
          rw [readFrom_none steps, if_neg long]

theorem readFrom_comma {reader : Reader} (ended : Ended reader fields field) {rest : Text}
    (more : rest ≠ []) :
    readFrom limit reader (',' :: rest) =
      readFrom limit ⟨.startField, fields ++ [field], []⟩ rest := by
  obtain ⟨phase, others, last⟩ := reader
  obtain ⟨isPhase, rfl, rfl⟩ := ended
  have steps : Reader.step limit ⟨phase, others, last⟩ ',' =
      some ⟨.startField, others ++ [last], []⟩ := by
    rcases isPhase with same | same | same
    · cases same
      rfl
    · cases same
      rfl
    · cases same
      rfl
  exact readFrom_step steps (by decide) more

theorem readFrom_newline {reader : Reader} (ended : Ended reader fields field) (rest : Text) :
    readFrom limit reader ('\n' :: rest) =
      (readFrom limit .start rest).map fun records => (fields ++ [field]) :: records := by
  obtain ⟨phase, others, last⟩ := reader
  obtain ⟨isPhase, rfl, rfl⟩ := ended
  have steps : Reader.step limit ⟨phase, others, last⟩ '\n' =
      some ⟨.eatNewline, others ++ [last], []⟩ := by
    rcases isPhase with same | same | same
    · cases same
      rfl
    · cases same
      rfl
    · cases same
      rfl
  rw [readFrom, steps]
  dsimp only [Option.bind_eq_bind, Option.bind_some]
  have ends : (Reader.endLine ⟨.eatNewline, others ++ [last], []⟩).phase = .startRecord := rfl
  rw [if_pos (.inl rfl), if_pos ends]
  cases readFrom limit .start rest with
  | none => rfl
  | some records => rfl

/-- Every field of a row is within the limit. -/
def Fits (limit : Nat) (row : List Text) : Prop := ∀ field ∈ row, field.length ≤ limit

instance (row : List Text) : Decidable (Fits limit row) := List.decidableBAll _ row

theorem fits_cons {row : List Text} :
    Fits limit (field :: row) ↔ field.length ≤ limit ∧ Fits limit row :=
  List.forall_mem_cons

theorem readFrom_fields (alone : Bool) {row : List Text} (nonempty : row ≠ []) (rest : Text) :
    readFrom limit ⟨.startField, fields, []⟩ (writeFields alone row ++ '\n' :: rest) =
      if Fits limit row then
        (readFrom limit .start rest).map fun records => (fields ++ row) :: records
      else none := by
  induction row generalizing fields with
  | nil => exact absurd rfl nonempty
  | cons first row inductionHypothesis =>
      simp only [fits_cons]
      cases row with
      | nil =>
          obtain ⟨reader, ended, isRead⟩ :=
            @readFrom_field limit fields alone first ('\n' :: rest) (List.cons_ne_nil _ _)
          rw [writeFields, isRead, readFrom_newline ended]
          simp [Fits]
      | cons second row =>
          obtain ⟨reader, ended, isRead⟩ := @readFrom_field limit fields alone first
            (',' :: (writeFields alone (second :: row) ++ '\n' :: rest)) (List.cons_ne_nil _ _)
          have goesOn : writeFields alone (second :: row) ++ '\n' :: rest ≠ [] := by
            intro none
            cases (List.append_eq_nil_iff.mp none).2
          rw [writeFields, List.append_assoc, List.cons_append, isRead,
            readFrom_comma ended goesOn, inductionHypothesis (List.cons_ne_nil _ _),
            List.append_assoc, List.singleton_append]
          by_cases fits : first.length ≤ limit
          · simp [fits]
          · simp [fits]

section File

variable {limit : Nat}

/-- The text of a row starts inside of the row. -/
theorem line_head {row : List Text} (nonempty : row ≠ []) :
    ∃ first rest, line row = first :: rest ∧ Reader.isNewline first = false := by
  obtain ⟨field, row, rfl⟩ := List.exists_cons_of_ne_nil nonempty
  have quoted : Reader.isNewline '"' = false := rfl
  have comma : Reader.isNewline ',' = false := rfl
  cases row with
  | nil =>
      rw [line, writeFields, writeField]
      split
      · exact ⟨_, _, rfl, quoted⟩
      · rename_i isPlain
        obtain ⟨noSpecial, notEmpty⟩ := not_or.mp isPlain
        cases field with
        | nil => exact absurd ⟨rfl, rfl⟩ notEmpty
        | cons first field =>
            rw [List.any_cons, Bool.or_eq_true, not_or] at noSpecial
            exact ⟨_, _, rfl, (not_special (Bool.eq_false_iff.mpr noSpecial.1)).2.2.1⟩
  | cons second row =>
      rw [line, writeFields, writeField]
      split
      · exact ⟨_, _, rfl, quoted⟩
      · rename_i isPlain
        cases field with
        | nil => exact ⟨_, _, rfl, comma⟩
        | cons first field =>
            have noSpecial := (not_or.mp isPlain).1
            rw [List.any_cons, Bool.or_eq_true, not_or] at noSpecial
            exact ⟨_, _, rfl, (not_special (Bool.eq_false_iff.mpr noSpecial.1)).2.2.1⟩

theorem readFrom_line {row : List Text} (nonempty : row ≠ []) (rest : Text) :
    readFrom limit .start (line row ++ '\n' :: rest) =
      if Fits limit row then (readFrom limit .start rest).map fun records => row :: records
      else none := by
  have fields := @readFrom_fields limit [] (row.length == 1) row nonempty rest
  rw [List.nil_append] at fields
  obtain ⟨first, more, whole, notNewline⟩ := line_head nonempty
  rw [← fields, ← line, whole, List.cons_append, readFrom, readFrom]
  have same : Reader.step limit .start first =
      Reader.step limit ⟨.startField, [], []⟩ first := by
    unfold Reader.step Reader.start
    dsimp only
    rw [notNewline, if_neg Bool.false_ne_true]
    unfold Reader.startField
    rw [notNewline]
    rfl
  rw [same]

/-- The lines of rows, each with a newline behind it. -/
def lines (rows : List (List Text)) : Text := rows.flatMap fun row => line row ++ ['\n']

theorem read_lines {rows : List (List Text)} (nonempty : ∀ row ∈ rows, row ≠ []) :
    read limit (lines rows) = if ∀ row ∈ rows, Fits limit row then some rows else none := by
  induction rows with
  | nil => rfl
  | cons row rows inductionHypothesis =>
      obtain ⟨rowNonempty, othersNonempty⟩ := List.forall_mem_cons.mp nonempty
      have others := inductionHypothesis othersNonempty
      have split : lines (row :: rows) = line row ++ '\n' :: lines rows := by
        rw [lines, List.flatMap_cons, List.append_assoc]
        rfl
      rw [split, read, readFrom_line rowNonempty, ← read, others]
      simp only [List.forall_mem_cons]
      by_cases fits : Fits limit row
      · by_cases othersFit : ∀ other ∈ rows, Fits limit other
        · rw [if_pos othersFit, if_pos fits, if_pos ⟨fits, othersFit⟩]
          rfl
        · rw [if_neg othersFit, if_pos fits, if_neg fun both => othersFit both.2]
          rfl
      · rw [if_neg fits, if_neg fun both => fits both.1]

/-! ### A file that is written and opened as a text -/

theorem translateFrom_append (behindReturn : Bool) (before : Text) {rest : Text}
    (notFeed : rest.head? ≠ some '\n') :
    translateFrom behindReturn (before ++ rest) =
      translateFrom behindReturn before ++ translateFrom false rest := by
  induction before generalizing behindReturn with
  | nil =>
      cases rest with
      | nil => rfl
      | cons first rest =>
          have other : first ≠ '\n' := fun same => notFeed (congrArg some same)
          have kept : translateFrom behindReturn (first :: rest) =
              translateFrom false (first :: rest) := by
            simp only [translateFrom, other, false_and, if_false]
          rw [List.nil_append, kept]
          rfl
  | cons first before inductionHypothesis =>
      rw [List.cons_append, translateFrom, translateFrom, inductionHypothesis, inductionHypothesis]
      split
      · rfl
      · split
        · rfl
        · rfl

theorem translateFrom_plain {text : Text} (noReturn : '\r' ∉ text) :
    translateFrom false text = text := by
  induction text with
  | nil => rfl
  | cons first text inductionHypothesis =>
      rw [List.mem_cons, not_or] at noReturn
      rw [translateFrom, if_neg fun both => Bool.false_ne_true both.2,
        if_neg fun isReturn => noReturn.1 isReturn.symm, inductionHypothesis noReturn.2]

/-- What is read holds no carriage return. -/
theorem noReturn_translateFrom (behindReturn : Bool) (text : Text) :
    '\r' ∉ translateFrom behindReturn text := by
  induction text generalizing behindReturn with
  | nil => exact List.not_mem_nil
  | cons first text inductionHypothesis =>
      rw [translateFrom]
      split
      · exact inductionHypothesis false
      · split
        · rw [List.mem_cons, not_or]
          exact ⟨by decide, inductionHypothesis true⟩
        · rename_i notReturn
          rw [List.mem_cons, not_or]
          exact ⟨fun same => notReturn same.symm, inductionHypothesis false⟩

/-- **A text is read as it was written if and only if it holds no carriage return.** -/
theorem translateNewlines_eq_iff {text : Text} : translateNewlines text = text ↔ '\r' ∉ text := by
  constructor
  · intro same
    rw [← same]
    exact noReturn_translateFrom false text
  · exact translateFrom_plain

theorem translateFrom_doubleQuotes (behindReturn : Bool) (field : Text) :
    translateFrom behindReturn (doubleQuotes field) =
      doubleQuotes (translateFrom behindReturn field) := by
  induction field generalizing behindReturn with
  | nil => rfl
  | cons first field inductionHypothesis =>
      rw [doubleQuotes, List.flatMap_cons, ← doubleQuotes]
      by_cases isQuote : first = '"'
      · subst isQuote
        have twice : (['"', '"'] ++ doubleQuotes field) = '"' :: '"' :: doubleQuotes field := rfl
        have quote : '"' ≠ '\n' ∧ '"' ≠ '\r' := by decide
        rw [if_pos rfl, twice]
        simp only [translateFrom, quote.1, quote.2, false_and, if_false, inductionHypothesis]
        rfl
      · rw [if_neg isQuote, List.singleton_append, translateFrom, translateFrom,
          inductionHypothesis, inductionHypothesis]
        split
        · rfl
        · split
          · rfl
          · rw [doubleQuotes, doubleQuotes, List.flatMap_cons, if_neg isQuote]
            rfl

theorem any_isSpecial_translateFrom (field : Text) :
    (translateFrom false field).any isSpecial = field.any isSpecial := by
  by_cases noReturn : '\r' ∈ field
  · have before : field.any isSpecial = true := List.any_eq_true.mpr ⟨_, noReturn, rfl⟩
    have feed : '\n' ∈ translateFrom false field := by
      obtain ⟨start, rest, whole⟩ := List.append_of_mem noReturn
      have head : ('\r' :: rest).head? ≠ some '\n' := by
        intro same
        exact absurd (Option.some.inj same) (by decide)
      rw [whole, translateFrom_append false start head]
      exact List.mem_append_right _ List.mem_cons_self
    rw [before]
    exact List.any_eq_true.mpr ⟨_, feed, rfl⟩
  · rw [translateFrom_plain noReturn]

theorem translateFrom_eq_nil {field : Text} : translateFrom false field = [] ↔ field = [] := by
  constructor
  · intro empty
    cases field with
    | nil => rfl
    | cons first field =>
        rw [translateFrom, if_neg fun both => Bool.false_ne_true both.2] at empty
        split at empty
        · cases empty
        · cases empty
  · intro empty
    rw [empty]
    rfl

theorem translate_writeField (alone : Bool) (field : Text) :
    translateFrom false (writeField alone field) =
      writeField alone (translateFrom false field) := by
  unfold writeField
  simp only [any_isSpecial_translateFrom, translateFrom_eq_nil]
  split
  · have quote : ∀ text : Text, translateFrom false ('"' :: text) =
        '"' :: translateFrom false text := fun _ => rfl
    rw [quote, translateFrom_append false _ (by decide), translateFrom_doubleQuotes]
    rfl
  · rfl

theorem translate_writeFields (alone : Bool) (row : List Text) :
    translateFrom false (writeFields alone row) =
      writeFields alone (row.map (translateFrom false)) := by
  induction row with
  | nil => rfl
  | cons first row inductionHypothesis =>
      cases row with
      | nil => exact translate_writeField alone first
      | cons second row =>
          have head : (',' :: writeFields alone (second :: row)).head? ≠ some '\n' := by
            intro same
            exact absurd (Option.some.inj same) (by decide)
          rw [writeFields, translateFrom_append false _ head, translate_writeField]
          have comma : ∀ text : Text, translateFrom false (',' :: text) =
              ',' :: translateFrom false text := fun _ => rfl
          rw [comma, inductionHypothesis]
          rfl

theorem translate_writeRows (rows : List (List Text)) :
    translateNewlines (writeRows rows) = lines (rows.map (List.map translateNewlines)) := by
  induction rows with
  | nil => rfl
  | cons row rows inductionHypothesis =>
      have split : writeRows (row :: rows) = line row ++ '\r' :: '\n' :: writeRows rows := by
        rw [writeRows, List.flatMap_cons, List.append_assoc]
        rfl
      have head : ('\r' :: '\n' :: writeRows rows).head? ≠ some '\n' := by
        intro same
        exact absurd (Option.some.inj same) (by decide)
      have newline : translateFrom false ('\r' :: '\n' :: writeRows rows) =
          '\n' :: translateNewlines (writeRows rows) := rfl
      rw [split, translateNewlines, translateFrom_append false _ head, newline,
        inductionHypothesis, line, translate_writeFields, List.map_cons, lines, lines,
        List.flatMap_cons, line, List.length_map, List.append_assoc]
      rfl

/-- **Rows that are written to a file and read from it.**  They come back with their newlines
translated, unless a field is longer than the limit. -/
theorem read_writeRows {rows : List (List Text)} (nonempty : ∀ row ∈ rows, row ≠ []) :
    read limit (translateNewlines (writeRows rows)) =
      if ∀ row ∈ rows, Fits limit (row.map translateNewlines) then
        some (rows.map (List.map translateNewlines))
      else none := by
  have stillNonempty : ∀ row ∈ rows.map (List.map translateNewlines), row ≠ [] := by
    intro row member
    obtain ⟨original, inRows, same⟩ := List.mem_map.mp member
    rw [← same]
    exact fun empty => nonempty original inRows (List.map_eq_nil_iff.mp empty)
  rw [translate_writeRows, read_lines stillNonempty]
  simp only [List.forall_mem_map]

end File

end Reading

end Tobiko.Foundation.Csv
