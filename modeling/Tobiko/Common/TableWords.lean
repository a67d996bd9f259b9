import Tobiko.Common.TableComparison
import Tobiko.Foundation.WordBoundaries

/-!
Contract: queries of tables in which no name of a column is a word of a value.

Owns: texts without names of columns, which comparisons they leave undisturbed, and the rows
that these comparisons select.

Does not own: what a word is, besides letters, digits and underscores.
-/

namespace Tobiko.Common

open Tobiko.Foundation

/-- What Python documents of `\w`. -/
structure Python.DocumentedWords (python : Python) : Prop where
  word : ∀ char : Char, (char.isAlphanum || char == '_') = true → python.isWord char = true
  gap : ∀ char ∈ ['"', ' ', '=', '!'], python.isWord char = false

/-- No name is a word of the text. -/
def NoneIn (python : Python) (names : List String) (text : List Char) : Prop :=
  ∀ name ∈ names, searchWord python.isWord name.toList none text = false

instance (python : Python) (names : List String) (text : List Char) :
    Decidable (NoneIn python names text) := List.decidableBAll _ names

/-- Each name is a word. -/
def AreWords (python : Python) (names : List String) : Prop :=
  ∀ name ∈ names, IsSolid python.isWord name.toList

section Words

variable {python : Python} {names : List String}

theorem AreWords.tail {name : String} (words : AreWords python (name :: names)) :
    AreWords python names :=
  fun other member => words other (List.mem_cons_of_mem _ member)

theorem NoneIn.tail {name : String} {text : List Char} (absent : NoneIn python (name :: names) text) :
    NoneIn python names text :=
  fun other member => absent other (List.mem_cons_of_mem _ member)

/-! ### Literals -/

variable (documented : python.DocumentedWords)
include documented

theorem noneIn_gap_cons (words : AreWords python names) {gap : Char}
    (isGap : gap ∈ ['"', ' ', '=', '!']) {text : List Char} (absent : NoneIn python names text) :
    NoneIn python names (gap :: text) := by
  intro name member
  rw [searchWord_gap_cons (words name member) (documented.gap gap isGap)]
  exact absent name member

theorem noneIn_quoted (words : AreWords python names) {text : List Char}
    (absent : NoneIn python names text) : NoneIn python names (quoted text) := by
  apply noneIn_gap_cons documented words (by decide)
  intro name member
  show searchWord python.isWord name.toList none (text ++ '"' :: []) = false
  rw [searchWord_gap (words name member) (documented.gap '"' (by decide)), absent name member,
    searchWord_nil (words name member)]
  rfl

theorem noneIn_quoted_append (words : AreWords python names) {text rest : List Char}
    (absent : NoneIn python names text) (noneRest : NoneIn python names rest) :
    NoneIn python names (quoted text ++ rest) := by
  have parted : quoted text ++ rest = '"' :: (text ++ '"' :: rest) := by simp [quoted]
  rw [parted]
  apply noneIn_gap_cons documented words (by decide)
  intro name member
  rw [searchWord_gap (words name member) (documented.gap '"' (by decide)), absent name member,
    noneRest name member]
  rfl

/-! ### Comparisons -/

variable {item : Item Cell} {gap : Char} (isGap : gap ∈ ['"', ' ', '=', '!'])
  {value rest : List Char}
include isGap

/-- After the substitution of the column no name matches. -/
theorem undisturbed_filled (words : AreWords python names) (noneValue : NoneIn python names value)
    (noneRest : NoneIn python names rest) :
    undisturbed python item names [.text (quoted value), .text (gap :: rest)] = true := by
  induction names with
  | nil => rfl
  | cons name names inductionHypothesis =>
      have later := inductionHypothesis words.tail noneValue.tail noneRest.tail
      have text : render [.text (quoted value), .text (gap :: rest)] =
          quoted value ++ gap :: rest := by simp [render, Piece.chars]
      have here : matchesOnlyAt python.isWord name.toList none
          [.text (quoted value), .text (gap :: rest)] = true := by
        apply matchesOnlyAt_of_absent
        · simp
        · rw [text]
          apply noneIn_quoted_append documented words noneValue
            (noneIn_gap_cons documented words isGap noneRest)
          exact List.mem_cons_self
      show (_ && undisturbed python item names [.text (quoted value), .text (gap :: rest)]) = true
      rw [here, later]
      rfl

/-- Before it only the name of the column does. -/
theorem undisturbed_front {column : String} (words : AreWords python names)
    (columnWord : IsSolid python.isWord column.toList)
    (inserts : item.inserted column = quoted value) (noneValue : NoneIn python names value)
    (noneRest : NoneIn python names rest) :
    undisturbed python item names [.word column.toList, .text (gap :: rest)] = true := by
  induction names with
  | nil => rfl
  | cons name names inductionHypothesis =>
      have noWord := documented.gap gap isGap
      have whole : IsSolid python.isWord name.toList := words name List.mem_cons_self
      have absent : searchWord python.isWord name.toList none rest = false :=
        noneRest name List.mem_cons_self
      by_cases same : column = name
      · subst same
        have here := matchesOnlyAt_front whole noWord absent
        have filled : [Piece.word column.toList, .text (gap :: rest)].map
            (fillColumn item column) = [.text (quoted value), .text (gap :: rest)] := by
          rw [← inserts]
          simp [fillColumn, Piece.fill]
        have later : undisturbed python item names [.text (quoted value), .text (gap :: rest)] =
            true := undisturbed_filled documented isGap words.tail noneValue.tail noneRest.tail
        show (_ && undisturbed python item names _) = true
        rw [here, filled, later]
        rfl
      · have different : name.toList ≠ column.toList :=
          fun equal => same (String.toList_injective equal).symm
        have text : render [.word column.toList, .text (gap :: rest)] =
            column.toList ++ gap :: rest := by simp [render, Piece.chars]
        have here : matchesOnlyAt python.isWord name.toList none
            [.word column.toList, .text (gap :: rest)] = true := by
          apply matchesOnlyAt_of_absent
          · simpa using different
          · rw [text, searchWord_gap whole noWord, searchWord_other whole columnWord different,
              absent]
            rfl
        have kept : [Piece.word column.toList, .text (gap :: rest)].map (fillColumn item name) =
            [.word column.toList, .text (gap :: rest)] := by
          simp [fillColumn, Piece.fill, different.symm]
        have later := inductionHypothesis words.tail noneValue.tail noneRest.tail
        show (_ && undisturbed python item names _) = true
        rw [here, kept, later]
        rfl

end Words

/-! ### Queries -/

theorem selectRows_subset {python : Python} {schema : List String} {expr : List Char}
    {items results : List (Item Cell)}
    (selected : selectRows python schema expr items = .ok results) : results ⊆ items := by
  induction items generalizing results with
  | nil =>
      cases selected
      exact List.Subset.refl []
  | cons head tail inductionHypothesis =>
      unfold selectRows at selected
      split at selected
      · cases selected
      · cases rest : selectRows python schema expr tail with
        | error error =>
            rw [rest] at selected
            cases selected
        | ok later =>
            rw [rest] at selected
            cases selected
            have within := inductionHypothesis rest
            dsimp only
            split
            · exact List.cons_subset_cons head within
            · exact fun item member => List.mem_cons_of_mem head (within member)

theorem query_consistent {python : Python} {table result : TableData Cell} {expr : List Char}
    (selected : table.query python expr = .ok result) {keys : List String}
    (hasKeys : ∀ item ∈ table.data, item.HasKeys keys) : result.Consistent := by
  unfold TableData.query at selected
  split at selected
  · cases selected
  · rename_i results rows
    apply ofRows_consistent keys selected
    exact fun item member => hasKeys item (selectRows_subset rows member)

/-- A table of texts whose columns are words, and in which no cell of the column has the name
of a column as a word or needs to be escaped. -/
structure Legible (python : Python) (table : TableData Cell) (column : String) : Prop where
  consistent : table.Consistent
  texts : table.AllTexts
  words : AreWords python table.schema
  free : ∀ item ∈ table.data, NoneIn python table.schema (item.textOf column)
  plain : ∀ item ∈ table.data, Plain (item.textOf column)

section Queries

variable {python : Python} (words : python.DocumentedWords) {table : TableData Cell}
  {column literal : String} (legible : Legible python table column)
  (member : column ∈ table.schema) (free : NoneIn python table.schema literal.toList)
  (plain : Plain literal.toList)
include words legible member

theorem notMem_quote : '"' ∉ column.toList :=
  (legible.words column member).notMem (words.gap '"' (by decide))

theorem undisturbed_of_legible {item : Item Cell} (inData : item ∈ table.data) {gap : Char}
    (isGap : gap ∈ ['"', ' ', '=', '!']) {rest : List Char}
    (noneRest : NoneIn python table.schema rest) :
    undisturbed python item (sortedNames table.schema)
      [.word column.toList, .text (gap :: rest)] = true := by
  obtain ⟨cell, present⟩ := column_of_consistent (legible.consistent item inData) member
  have inserts := inserted_of_texts present (legible.texts item inData column cell present)
  apply undisturbed_front words isGap _ (legible.words column member) inserts
  · exact fun name sorted => legible.free item inData name (mem_sortedNames.mp sorted)
  · exact fun name sorted => noneRest name (mem_sortedNames.mp sorted)
  · exact fun name sorted => legible.words name (mem_sortedNames.mp sorted)

include free plain

/-- The query `column == "literal"` of a legible table. -/
theorem Legible.query_equal (documented : python.Documented) :
    ∃ result, table.query python (render (comparison column .equal literal)) = .ok result ∧
      result.data = table.data.filter fun item => item.textOf column == literal.toList := by
  have noneLiteral := noneIn_quoted words legible.words free
  have clean : Clean python table (comparison column .equal literal) [column] [literal] := by
    refine ⟨fun item inData => ?_, fun item inData name inNames => ?_, fun text inTexts => ?_⟩
    · apply undisturbed_of_legible words legible member inData (by decide)
      apply noneIn_gap_cons words legible.words (by decide)
      apply noneIn_gap_cons words legible.words (by decide)
      exact noneIn_gap_cons words legible.words (by decide) noneLiteral
    · rw [List.mem_singleton.mp inNames]
      exact legible.plain item inData
    · rw [List.mem_singleton.mp inTexts]
      exact plain
  have literalClean : '"' ∉ literal.toList := fun quote => (plain '"' quote).1 rfl
  exact query_eq legible.consistent member
    (containsMatch_comparison (notMem_quote words legible member) literalClean)
    clean.substitutes fun item inData =>
      evaluates_comparison documented legible.consistent legible.texts member clean inData

/-- The query `column=="literal"` of a legible table. -/
theorem Legible.query_tight (documented : python.DocumentedTight) :
    ∃ result, table.query python (render (tightComparison column literal)) = .ok result ∧
      result.data = table.data.filter fun item => item.textOf column == literal.toList := by
  have clean : Clean python table (tightComparison column literal) [column] [literal] := by
    refine ⟨fun item inData => ?_, fun item inData name inNames => ?_, fun text inTexts => ?_⟩
    · apply undisturbed_of_legible words legible member inData (by decide)
      apply noneIn_gap_cons words legible.words (by decide)
      exact noneIn_quoted words legible.words free
    · rw [List.mem_singleton.mp inNames]
      exact legible.plain item inData
    · rw [List.mem_singleton.mp inTexts]
      exact plain
  exact Common.query_tight documented legible.consistent legible.texts member
    (notMem_quote words legible member) clean

end Queries

theorem comparingEitherPython_documentedWords : comparingEitherPython.DocumentedWords where
  word _ letter := letter
  gap char member := by
    simp only [List.mem_cons, List.not_mem_nil, or_false] at member
    rcases member with rfl | rfl | rfl | rfl
    · rfl
    · rfl
    · rfl
    · rfl

end Tobiko.Common
