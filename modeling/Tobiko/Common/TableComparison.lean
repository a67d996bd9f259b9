import Tobiko.Common.TableQuery

/-!
Contract: queries that compare a column with a literal, with no blanks around the operator.

Owns: their expressions, what is relied upon about their evaluation, the rows that they select,
and a Python that evaluates them beside the comparisons of `TableQuery`.

Does not own: the query.
-/

namespace Tobiko.Common

open Tobiko.Foundation

/-- `=="literal"` -/
def tightTail (literal : List Char) : List Char := "==".toList ++ quoted literal

/-- `column=="literal"` -/
def tightComparison (column literal : String) : List Piece :=
  [.word column.toList, .text (tightTail literal.toList)]

/-- What Python documents of `eval` for these comparisons of plain literals. -/
def Python.DocumentedTight (python : Python) : Prop :=
  ∀ left right, Plain left → Plain right →
    python.eval (quoted left ++ tightTail right) = .value (left == right)

section Tight

variable {python : Python} {table : TableData Cell}

theorem containsMatch_tight {column literal : String} (columnClean : '"' ∉ column.toList)
    (literalClean : '"' ∉ literal.toList) :
    containsMatch python (render (tightComparison column literal)) = none := by
  have text : render (tightComparison column literal) =
      (column.toList ++ "==".toList) ++ quoted literal.toList := by
    simp [render, tightComparison, Piece.chars, tightTail]
  rw [text]
  apply containsMatch_twoQuotes _ literalClean
  simp [columnClean]

theorem evaluates_tight (documented : python.DocumentedTight) {column literal : String}
    (consistent : table.Consistent) (texts : table.AllTexts) (member : column ∈ table.schema)
    (clean : Clean python table (tightComparison column literal) [column] [literal])
    {item : Item Cell} (inData : item ∈ table.data) :
    python.eval (render (fillColumns item (sortedNames table.schema)
      (tightComparison column literal))) =
        .value (item.textOf column == literal.toList) := by
  obtain ⟨cell, present⟩ := column_of_consistent (consistent item inData) member
  have inserts := inserted_of_texts present (texts item inData column cell present)
  have cellPlain := clean.cells item inData column (List.mem_singleton_self column)
  have literalPlain := clean.literals literal (List.mem_singleton_self literal)
  rw [tightComparison, fillColumns_cons, fillColumns_cons, fillColumns_nil,
    foldl_fill_column (mem_sortedNames.mpr member), foldl_fill_text, inserts]
  simp only [render, Piece.chars, List.flatMap_cons, List.flatMap_nil, List.append_nil]
  exact documented _ _ cellPlain literalPlain

/-- The query selects the rows whose cell is the literal. -/
theorem query_tight (documented : python.DocumentedTight) {column literal : String}
    (consistent : table.Consistent) (texts : table.AllTexts) (member : column ∈ table.schema)
    (columnClean : '"' ∉ column.toList)
    (clean : Clean python table (tightComparison column literal) [column] [literal]) :
    ∃ result, table.query python (render (tightComparison column literal)) = .ok result ∧
      result.data = table.data.filter fun item => item.textOf column == literal.toList := by
  have literalClean : '"' ∉ literal.toList := fun quote =>
    (clean.literals literal (List.mem_singleton_self literal) '"' quote).1 rfl
  apply query_eq consistent member (containsMatch_tight columnClean literalClean)
    clean.substitutes
  exact fun item inData => evaluates_tight documented consistent texts member clean inData

end Tight

/-- A query of a table without rows selects none. -/
theorem query_of_data_nil {table : TableData Cell} (empty : table.data = []) (python : Python)
    (expr : List Char) :
    ∃ result, table.query python expr = .ok result ∧ result.data = [] := by
  refine ⟨⟨[], []⟩, ?_, rfl⟩
  rw [TableData.query, empty]
  rfl

/-! ### Python on both comparisons -/

/-- `eval` on two plain literals with `==` between them and no blanks. -/
def evalTight (text : List Char) : Option Bool :=
  match readLiteral text with
  | some (left, '=' :: '=' :: rest) =>
      match readLiteral rest with
      | some (right, []) => some (left == right)
      | _ => none
  | _ => none

def comparingEitherPython : Python where
  isWord := comparingPython.isWord
  eval text :=
    match evalTight text with
    | some truth => .value truth
    | none => evalComparisons text

theorem evalTight_comparisonTail {left rest : List Char} (plain : Plain left)
    (operator : Comparison) (right : List Char) :
    evalTight (quoted left ++ (comparisonTail operator right ++ rest)) = none := by
  unfold evalTight
  rw [readLiteral_quoted plain]
  rfl

theorem comparingEitherPython_eval {text : List Char} (loose : evalTight text = none) :
    comparingEitherPython.eval text = comparingPython.eval text := by
  show (match evalTight text with
    | some truth => Evaluation.value truth
    | none => evalComparisons text) = evalComparisons text
  rw [loose]

theorem comparingEitherPython_documented : comparingEitherPython.Documented where
  comparison operator left right leftPlain rightPlain := by
    have loose := @evalTight_comparisonTail left [] leftPlain operator right
    rw [List.append_nil] at loose
    rw [comparingEitherPython_eval loose]
    exact comparingPython_documented.comparison operator left right leftPlain rightPlain
  conjunction left value right other leftPlain valuePlain rightPlain otherPlain := by
    have loose := @evalTight_comparisonTail left
      (" and ".toList ++ (quoted right ++ comparisonTail .equal other)) leftPlain .equal value
    rw [List.append_assoc, comparingEitherPython_eval loose, ← List.append_assoc (comparisonTail _ _)]
    exact comparingPython_documented.conjunction left value right other leftPlain valuePlain
      rightPlain otherPlain

theorem comparingEitherPython_documentedTight : comparingEitherPython.DocumentedTight := by
  intro left right leftPlain rightPlain
  have reads : evalTight (quoted left ++ tightTail right) = some (left == right) := by
    have second := @readLiteral_quoted right [] rightPlain
    rw [List.append_nil] at second
    unfold evalTight
    rw [readLiteral_quoted leftPlain]
    simp [tightTail, second]
  show (match evalTight (quoted left ++ tightTail right) with
    | some truth => Evaluation.value truth
    | none => evalComparisons (quoted left ++ tightTail right)) = .value (left == right)
  rw [reads]

end Tobiko.Common
