import Tobiko.Foundation.Dictionary
import Tobiko.Shell.Sh.SystemdTable

/-!
Contract: the tables that `parse_table` in `tobiko/shell/sh/_ps.py` reads.

Owns: the split of a line into columns, the header with the getters of its columns, the rows as
dictionaries, and what is read from lines that show cells.

Does not own: the lower case of a header, and what the getters make of a cell.

The last column takes the rest of its line. A header of blanks has no columns; its rows are empty
dictionaries then. The rows are generated one after the other, so that the body of a loop over them
is run on a row before the next one is read.
-/

namespace Tobiko.Shell.Sh.Ps

open Tobiko.Foundation
open Tobiko.Foundation.Text (isSpace lstrip strip words)
open Tobiko.Shell.Sh.Systemctl (IsWord)

/-- `text.split(maxsplit=limit)` -/
def splitLimited : Nat → Text → List Text
  | 0, text => if lstrip text = [] then [] else [lstrip text]
  | limit + 1, text =>
      if lstrip text = [] then []
      else (lstrip text).takeWhile (fun character => !isSpace character) ::
        splitLimited limit ((lstrip text).dropWhile fun character => !isSpace character)

/-- A line of a table with so many columns. Without columns the limit is -1, which is none. -/
def splitRow (columns : Nat) (line : Text) : List Text :=
  match columns with
  | 0 => words (strip line)
  | limit + 1 => splitLimited limit (strip line)

inductive TableError (Exc : Type) where
  /-- The generator has met the end of the lines. -/
  | runtimeError
  | indexError
  | raised (exception : Exc)
  deriving DecidableEq

section Parse

variable {Key Value Exc Row : Type} [DecidableEq Key]

/-- What a schema makes of the cell of a column: an item of a dictionary. -/
abbrev Getter (Key Value Exc : Type) := Text → Except Exc (Key × Value)

abbrev TableSchema (Key Value Exc : Type) := Text → Option (Getter Key Value Exc)

/-- The first line that is not empty, with those behind it. -/
def headerOf : List Text → Option (Text × List Text)
  | [] => none
  | line :: lines => if line = [] then headerOf lines else some (line, lines)

def columnNames (lower : Text → Text) (headerLine : Text) : List Text :=
  words (lower (strip headerLine))

def gettersOf (schema : TableSchema Key Value Exc) (names : List Text) :
    List (Nat × Getter Key Value Exc) :=
  names.zipIdx.filterMap fun column => (schema column.1).map (column.2, ·)

/-- `getter(row[position])` -/
def readCell (row : List Text) (column : Nat × Getter Key Value Exc) :
    Except (TableError Exc) (Key × Value) :=
  match row[column.1]? with
  | none => .error .indexError
  | some cell => (column.2 cell).mapError .raised

def readRow (getters : List (Nat × Getter Key Value Exc)) (body : Dict Key Value → Except Exc Row)
    (row : List Text) : Except (TableError Exc) Row := do
  let items ← getters.mapM (readCell row)
  (body (.ofPairs items)).mapError .raised

/-- The rows of the lines; those without cells are left out. -/
def readRows (getters : List (Nat × Getter Key Value Exc)) (body : Dict Key Value → Except Exc Row)
    (columns : Nat) : List Text → Except (TableError Exc) (List Row)
  | [] => .ok []
  | line :: lines =>
      if splitRow columns line = [] then readRows getters body columns lines
      else do
        let row ← readRow getters body (splitRow columns line)
        let rows ← readRows getters body columns lines
        pure (row :: rows)

/-- `parse_table` without a given header, with the body of the loop over its rows. -/
def parseTable (lower : Text → Text) (schema : TableSchema Key Value Exc)
    (body : Dict Key Value → Except Exc Row) (lines : List Text) :
    Except (TableError Exc) (List Row) :=
  match headerOf lines with
  | none => .error .runtimeError
  | some (headerLine, lines) =>
      let names := columnNames lower headerLine
      readRows (gettersOf schema names) body names.length lines

end Parse

/-! ### Lines that show cells -/

/-- A text that shows the cells of a row: words, but for the last one. -/
inductive Shows : List Text → Text → Prop
  | last {cell : Text} (nonempty : cell ≠ []) (trimmed : Text.Trimmed cell) : Shows [cell] cell
  | column {cell blank rest : Text} {cells : List Text} (isWord : IsWord cell)
      (isBlank : Text.IsBlank blank) (apart : blank ≠ []) (others : Shows cells rest) :
      Shows (cell :: cells) (cell ++ blank ++ rest)

/-- A line that shows them, with blanks around. -/
inductive IsRow (cells : List Text) : Text → Prop
  | padded {left text right : Text} (leftBlank : Text.IsBlank left) (shows : Shows cells text)
      (rightBlank : Text.IsBlank right) : IsRow cells (left ++ text ++ right)

/-- The lines that show the rows, among blank lines. -/
inductive AreRows : List (List Text) → List Text → Prop
  | none : AreRows [] []
  | blank {rows : List (List Text)} {lines : List Text} {line : Text}
      (isBlank : Text.IsBlank line) (others : AreRows rows lines) : AreRows rows (line :: lines)
  | row {cells : List Text} {rows : List (List Text)} {lines : List Text} {line : Text}
      (isRow : IsRow cells line) (others : AreRows rows lines) :
      AreRows (cells :: rows) (line :: lines)

theorem Shows.trimmed {cells : List Text} {text : Text} (shows : Shows cells text) :
    text ≠ [] ∧ Text.Trimmed text := by
  induction shows with
  | last nonempty trimmed => exact ⟨nonempty, trimmed⟩
  | @column cell blank rest cells isWord isBlank apart others inductionHypothesis =>
      obtain ⟨nonempty, trimmed⟩ := inductionHypothesis
      refine ⟨by simp [nonempty], ?_, ?_⟩
      · intro character same
        rw [List.append_assoc, List.head?_append_of_ne_nil _ isWord.nonempty] at same
        exact isWord.trimmed.first character same
      · intro character same
        rw [List.getLast?_append_of_ne_nil _ nonempty] at same
        exact trimmed.last character same

theorem Shows.nonempty {cells : List Text} {text : Text} (shows : Shows cells text) :
    cells ≠ [] := by
  cases shows with
  | last => exact List.cons_ne_nil _ _
  | column => exact List.cons_ne_nil _ _

/-- Blanks in front of a text are not seen. -/
theorem splitLimited_blank {blank : Text} (isBlank : Text.IsBlank blank) (limit : Nat)
    (text : Text) : splitLimited limit (blank ++ text) = splitLimited limit text := by
  cases limit with
  | zero => rw [splitLimited, splitLimited, Text.lstrip_append isBlank]
  | succ limit => rw [splitLimited, splitLimited, Text.lstrip_append isBlank]

/-- A word ends where a blank begins. -/
theorem span_word {word blank rest : Text} (isWord : IsWord word) (isBlank : Text.IsBlank blank)
    (apart : blank ≠ []) :
    (word ++ blank ++ rest).takeWhile (fun character => !isSpace character) = word ∧
      (word ++ blank ++ rest).dropWhile (fun character => !isSpace character) = blank ++ rest := by
  have solid : ∀ character ∈ word, (!isSpace character) = true := by
    intro character member
    rw [isWord.solid character member]
    rfl
  cases blank with
  | nil => exact absurd rfl apart
  | cons space blank =>
      have stops : ¬(!isSpace space) = true := by
        rw [isBlank space List.mem_cons_self]
        exact Bool.false_ne_true
      have taken : (space :: (blank ++ rest)).takeWhile (fun character => !isSpace character) = [] :=
        List.takeWhile_cons_of_neg stops
      have dropped : (space :: (blank ++ rest)).dropWhile (fun character => !isSpace character) =
          space :: (blank ++ rest) := List.dropWhile_cons_of_neg stops
      rw [List.append_assoc, List.takeWhile_append_of_pos solid, List.dropWhile_append_of_pos solid,
        List.cons_append, taken, dropped]
      exact ⟨List.append_nil word, rfl⟩

theorem splitLimited_shows {cells : List Text} {text : Text} (shows : Shows cells text) :
    splitLimited (cells.length - 1) text = cells := by
  induction shows with
  | @last cell nonempty trimmed =>
      show splitLimited 0 cell = [cell]
      rw [splitLimited, Text.lstrip_eq_self trimmed.first, if_neg nonempty]
  | @column cell blank rest cells isWord isBlank apart others inductionHypothesis =>
      have whole := (Shows.column isWord isBlank apart others).trimmed
      obtain ⟨word, behind⟩ := @span_word cell blank rest isWord isBlank apart
      have limit : (cell :: cells).length - 1 = cells.length - 1 + 1 := by
        have some_cells := List.length_pos_iff.mpr others.nonempty
        rw [List.length_cons]
        omega
      rw [limit, splitLimited, Text.lstrip_eq_self whole.2.first, if_neg whole.1, word, behind,
        splitLimited_blank isBlank, inductionHypothesis]

theorem splitRow_row {cells : List Text} {line : Text} (isRow : IsRow cells line) :
    splitRow cells.length line = cells := by
  cases isRow with
  | @padded left text right leftBlank shows rightBlank =>
      have columns : cells.length = cells.length - 1 + 1 := by
        have some_cells := List.length_pos_iff.mpr shows.nonempty
        omega
      have stripped : strip (left ++ text ++ right) = text :=
        Text.strip_padded leftBlank rightBlank shows.trimmed.2
      rw [columns]
      show splitLimited (cells.length - 1) (strip (left ++ text ++ right)) = cells
      rw [stripped, splitLimited_shows shows]

theorem splitRow_blank {line : Text} (isBlank : Text.IsBlank line) (columns : Nat) :
    splitRow columns line = [] := by
  unfold splitRow
  rw [Text.strip_eq_nil isBlank]
  cases columns with
  | zero => rfl
  | succ limit => cases limit <;> rfl

section Read

variable {Key Value Exc Row : Type}

/-- What a schema makes of the cells of a row, where it knows their columns. -/
def readCells (schema : TableSchema Key Value Exc) (names cells : List Text) :
    List (Except Exc (Key × Value)) :=
  (names.zip cells).filterMap fun column => (schema column.1).map fun getter => getter column.2

theorem mapM_readCell (schema : TableSchema Key Value Exc) {names cells : List Text}
    (complete : cells.length = names.length) (before : List Text) :
    ((names.zipIdx before.length).filterMap fun column =>
        (schema column.1).map (column.2, ·)).mapM (readCell (before ++ cells)) =
      (readCells schema names cells).mapM (·.mapError TableError.raised) := by
  unfold readCells
  induction names generalizing cells before with
  | nil => rfl
  | cons name names inductionHypothesis =>
      cases cells with
      | nil => cases complete
      | cons cell cells =>
          have others := @inductionHypothesis cells (Nat.succ.inj complete) (before ++ [cell])
          rw [List.append_assoc, List.singleton_append, List.length_append,
            List.length_singleton] at others
          rw [List.zipIdx_cons, List.zip_cons_cons, List.filterMap_cons, List.filterMap_cons]
          cases known : schema name with
          | none => exact others
          | some getter =>
              have own : readCell (before ++ cell :: cells) (before.length, getter) =
                  (getter cell).mapError .raised := by
                unfold readCell
                rw [List.getElem?_append_right (Nat.le_refl _), Nat.sub_self]
                rfl
              simp only [Option.map_some, List.mapM_cons]
              rw [own, others]

theorem mapM_mapError {Item Error Other : Type} (change : Error → Other) (items : List Item) :
    (items.map Except.ok).mapM (fun item : Except Error Item => item.mapError change) =
      .ok items := by
  induction items with
  | nil => rfl
  | cons item items inductionHypothesis =>
      rw [List.map_cons, List.mapM_cons, inductionHypothesis]
      rfl

variable [DecidableEq Key]

/-- The lines that show rows are read as these, whatever the getters make of them. -/
theorem readRows_shown {getters : List (Nat × Getter Key Value Exc)}
    {body : Dict Key Value → Except Exc Row} {columns : Nat} {rows : List (List Text)}
    {lines : List Text} (areRows : AreRows rows lines)
    (complete : ∀ cells ∈ rows, cells.length = columns) :
    readRows getters body columns lines = rows.mapM (readRow getters body) := by
  induction areRows with
  | none => rfl
  | blank isBlank others inductionHypothesis =>
      rw [readRows, if_pos (splitRow_blank isBlank columns), inductionHypothesis complete]
  | @row cells rows lines line isRow others inductionHypothesis =>
      have split : splitRow columns line = cells := by
        rw [← complete cells List.mem_cons_self]
        exact splitRow_row isRow
      have some_cells : cells ≠ [] := by
        cases isRow with
        | padded _ shows _ => exact shows.nonempty
      rw [readRows, split, if_neg some_cells, inductionHypothesis fun other member =>
        complete other (List.mem_cons_of_mem _ member), List.mapM_cons]

/-- A row with all columns is read cell by cell. -/
theorem readRow_cells (schema : TableSchema Key Value Exc) {names cells : List Text}
    (complete : cells.length = names.length) (body : Dict Key Value → Except Exc Row)
    {items : List (Key × Value)} (read : readCells schema names cells = items.map .ok) :
    readRow (gettersOf schema names) body cells = (body (.ofPairs items)).mapError .raised := by
  have mapped := mapM_readCell schema complete []
  unfold readRow gettersOf
  rw [List.nil_append, List.length_nil, read] at mapped
  rw [mapped, mapM_mapError]
  rfl

end Read

end Tobiko.Shell.Sh.Ps
