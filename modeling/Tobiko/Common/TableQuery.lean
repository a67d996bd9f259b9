import Mathlib.Data.List.Infix
import Mathlib.Data.List.Sort
import Tobiko.Common.TableSchema
import Tobiko.Foundation.WordSubstitution

/-!
Contract: `TableData.query` in `tobiko/common/_tabledata.py`.

Owns: the expression that is evaluated for a row, in which the names of columns are
replaced by the values of their cells, the search for `str.contains`, and the rows that a
comparison with a literal selects.

Does not own: the evaluation of expressions. `Python` has the `eval` of the code and the
characters that `\w` matches. What is relied upon is `Python.Documented`.
-/

namespace Tobiko.Common

open Tobiko.Foundation

/-! ### Cells and Python -/

/-- The value of a cell: a text, or another value with its `str`. -/
inductive Cell where
  | str (text : String)
  | other (text : String)
deriving DecidableEq, Repr

/-- `str(cell)` -/
def Cell.text : Cell → List Char
  | .str text => text.toList
  | .other text => text.toList

def quoted (text : List Char) : List Char := '"' :: text ++ ['"']

/-- What replaces the name of a column. A text is put between quotes and not escaped. -/
def Cell.inserted : Cell → List Char
  | .str text => quoted text.toList
  | .other text => text.toList

/-- The truth of the value, an error after which the row is skipped, or another one. -/
inductive Evaluation where
  | value (truth : Bool)
  | skipped
  | raises (text : String)
deriving DecidableEq, Repr

structure Python where
  isWord : Char → Bool
  eval : List Char → Evaluation

/-! ### The query -/

/-- `sorted(schema, key=len, reverse=True)`, which is stable. -/
def sortedNames (schema : List String) : List String :=
  schema.insertionSort fun first second => second.length ≤ first.length

/-- `_build_eval_expr`, for the columns in this order. -/
def buildEvalExpr (python : Python) (item : Item Cell) :
    List String → List Char → Except TableError (List Char)
  | [], expr => .ok expr
  | name :: names, expr =>
      if searchWord python.isWord name.toList none expr then
        match item.column name with
        | .ok cell => buildEvalExpr python item names
            (substituteWord python.isWord name.toList cell.inserted expr)
        | .error error => .error error
      else buildEvalExpr python item names expr

/-- `(\w+)\.str\.contains\("([^"]+)"\)` at the start of a text. -/
def callAt (python : Python) (text : List Char) : Option (List Char × List Char) :=
  let name := text.takeWhile python.isWord
  let rest := text.drop name.length
  let call := ".str.contains(\"".toList
  let search := (rest.drop call.length).takeWhile (· ≠ '"')
  let close := (rest.drop call.length).drop search.length
  if !name.isEmpty && call.isPrefixOf rest && !search.isEmpty && ['"', ')'].isPrefixOf close then
    some (name, search)
  else none

/-- `contains_match` -/
def containsMatch (python : Python) (expr : List Char) : Option (List Char × List Char) :=
  expr.tails.findSome? (callAt python)

/-- A row is one of the results. -/
def selects (python : Python) (schema : List String) (expr : List Char) (item : Item Cell) :
    Except TableError Bool :=
  match containsMatch python expr with
  | some (name, search) =>
      match item with
      | .dict row =>
          .ok ((row.get? (String.ofList name)).any fun cell => decide (search <:+: cell.text))
      | _ => .ok false
  | none =>
      match buildEvalExpr python item (sortedNames schema) expr with
      | .error error => .error error
      | .ok text =>
          match python.eval text with
          | .value truth => .ok truth
          | .skipped => .ok false
          | .raises text => .error (.external text)

def selectRows (python : Python) (schema : List String) (expr : List Char) :
    List (Item Cell) → Except TableError (List (Item Cell))
  | [] => .ok []
  | item :: items =>
      match selects python schema expr item with
      | .error error => .error error
      | .ok selected => (selectRows python schema expr items).map fun results =>
          if selected then item :: results else results

/-- `query`, which returns another table. -/
def TableData.query (table : TableData Cell) (python : Python) (expr : List Char) :
    Except TableError (TableData Cell) :=
  match selectRows python table.schema expr table.data with
  | .error error => .error error
  | .ok results => TableData.ofRows results

/-! ### Comparisons with literals -/

inductive Comparison where
  | equal
  | notEqual
deriving DecidableEq, Repr

def Comparison.symbol : Comparison → List Char
  | .equal => "==".toList
  | .notEqual => "!=".toList

def Comparison.holds (operator : Comparison) (left right : List Char) : Bool :=
  match operator with
  | .equal => left == right
  | .notEqual => left != right

def comparisonTail (operator : Comparison) (literal : List Char) : List Char :=
  ' ' :: operator.symbol ++ ' ' :: quoted literal

/-- `column == "literal"`, or with `!=`. -/
def comparison (column : String) (operator : Comparison) (literal : String) : List Piece :=
  [.word column.toList, .text (comparisonTail operator literal.toList)]

/-- `first == "value" and second == "other"` -/
def conjunction (first value second other : String) : List Piece :=
  [.word first.toList, .text (comparisonTail .equal value.toList ++ " and ".toList),
    .word second.toList, .text (comparisonTail .equal other.toList)]

/-- A text that means itself between quotes. -/
def Plain (text : List Char) : Prop :=
  ∀ char ∈ text, char ≠ '"' ∧ char ≠ '\\' ∧ char ≠ '\n' ∧ char ≠ '\r' ∧ char ≠ Char.ofNat 0

instance (text : List Char) : Decidable (Plain text) := List.decidableBAll _ text

/-- What Python documents of `eval`: comparisons of plain literals are true or false. -/
structure Python.Documented (python : Python) : Prop where
  comparison : ∀ operator left right, Plain left → Plain right →
    python.eval (quoted left ++ comparisonTail operator right) =
      .value (operator.holds left right)
  conjunction : ∀ left value right other, Plain left → Plain value → Plain right → Plain other →
    python.eval (quoted left ++ (comparisonTail .equal value ++ " and ".toList ++
      (quoted right ++ comparisonTail .equal other))) =
      .value (left == value && right == other)

/-! ### Substitutions that leave literals and values alone -/

def Item.inserted (item : Item Cell) (name : String) : List Char :=
  match item.column name with
  | .ok cell => cell.inserted
  | .error _ => []

/-- The text of a cell. -/
def Item.textOf (item : Item Cell) (name : String) : List Char :=
  match item.column name with
  | .ok cell => cell.text
  | .error _ => []

def fillColumn (item : Item Cell) (name : String) : Piece → Piece :=
  Piece.fill name.toList (item.inserted name)

/-- Each name, when its turn comes, matches in the template only where a column stands. -/
def undisturbed (python : Python) (item : Item Cell) : List String → List Piece → Bool
  | [], _ => true
  | name :: names, pieces =>
      matchesOnlyAt python.isWord name.toList none pieces &&
        undisturbed python item names (pieces.map (fillColumn item name))

/-- No value and no literal disturbs the substitution or ends its own quotes. -/
structure Clean (python : Python) (table : TableData Cell) (pieces : List Piece)
    (columns literals : List String) : Prop where
  substitutes : ∀ item ∈ table.data, undisturbed python item (sortedNames table.schema) pieces
  cells : ∀ item ∈ table.data, ∀ column ∈ columns, Plain (item.textOf column)
  literals : ∀ literal ∈ literals, Plain literal.toList

/-- A table whose cells are texts. -/
def TableData.AllTexts (table : TableData Cell) : Prop :=
  ∀ item ∈ table.data, ∀ column cell, item.column column = .ok cell → ∃ text, cell = .str text

def Cell.isStr : Cell → Bool
  | .str _ => true
  | .other _ => false

/-- A row whose values are texts. -/
def Item.isTextRow : Item Cell → Bool
  | .dict row => row.entries.all fun entry => entry.2.isStr
  | _ => false

theorem TableData.allTexts_of_rows {table : TableData Cell}
    (rows : table.data.all Item.isTextRow = true) : table.AllTexts := by
  intro item member column cell present
  have textRow := List.all_eq_true.mp rows item member
  cases item with
  | tuple values => cases textRow
  | other value => cases textRow
  | dict row =>
      cases found : row.get? column with
      | none =>
          simp only [Item.column, found] at present
          cases present
      | some value =>
          simp only [Item.column, found] at present
          cases present
          have entry := Dict.mem_entries_iff.mpr found
          have isStr := List.all_eq_true.mp textRow _ entry
          cases cell with
          | str text => exact ⟨text, rfl⟩
          | other text => cases isStr

section Queries

variable {python : Python} {table : TableData Cell} {item : Item Cell}

/-! ### The evaluated expression -/

def fillColumns (item : Item Cell) (names : List String) (pieces : List Piece) : List Piece :=
  names.foldl (fun pieces name => pieces.map (fillColumn item name)) pieces

theorem buildEvalExpr_render {names : List String} {pieces : List Piece}
    (known : ∀ name ∈ names, ∃ cell, item.column name = .ok cell)
    (substitutes : undisturbed python item names pieces = true) :
    buildEvalExpr python item names (render pieces) =
      .ok (render (fillColumns item names pieces)) := by
  induction names generalizing pieces with
  | nil => rfl
  | cons name names inductionHypothesis =>
      obtain ⟨onlyAt, later⟩ := Bool.and_eq_true_iff.mp substitutes
      obtain ⟨cell, present⟩ := known name List.mem_cons_self
      have rest := inductionHypothesis
        (fun other member => known other (List.mem_cons_of_mem _ member)) later
      have inserts : item.inserted name = cell.inserted := by rw [Item.inserted, present]
      have substituted : substituteWord python.isWord name.toList cell.inserted (render pieces) =
          render (pieces.map (fillColumn item name)) := by
        rw [substituteWord_render onlyAt, ← inserts]
        rfl
      unfold buildEvalExpr
      split
      · rw [present]
        simp only [substituted]
        exact rest
      · rename_i absent
        rw [← substituted, substituteWord_of_not_search (Bool.eq_false_iff.mpr absent)] at rest
        exact rest

theorem fillColumns_nil (names : List String) : fillColumns item names [] = [] := by
  induction names with
  | nil => rfl
  | cons name names inductionHypothesis => exact inductionHypothesis

theorem fillColumns_cons (names : List String) (piece : Piece) (pieces : List Piece) :
    fillColumns item names (piece :: pieces) =
      names.foldl (fun piece name => fillColumn item name piece) piece ::
        fillColumns item names pieces := by
  induction names generalizing piece pieces with
  | nil => rfl
  | cons name names inductionHypothesis => exact inductionHypothesis _ _

theorem foldl_fill_text (names : List String) (chars : List Char) :
    names.foldl (fun piece name => fillColumn item name piece) (.text chars) = .text chars := by
  induction names with
  | nil => rfl
  | cons name names inductionHypothesis => exact inductionHypothesis

theorem foldl_fill_column {names : List String} {column : String} (member : column ∈ names) :
    names.foldl (fun piece name => fillColumn item name piece) (.word column.toList) =
      .text (item.inserted column) := by
  induction names with
  | nil => cases member
  | cons name names inductionHypothesis =>
      rw [List.foldl_cons, fillColumn, Piece.fill]
      by_cases same : column = name
      · subst same
        rw [if_pos rfl]
        exact foldl_fill_text names _
      · rw [if_neg (fun equal => same (String.toList_injective equal))]
        exact inductionHypothesis ((List.mem_cons.mp member).resolve_left same)

theorem mem_sortedNames {schema : List String} {name : String} :
    name ∈ sortedNames schema ↔ name ∈ schema :=
  List.mem_insertionSort _

/-! ### Results -/

theorem column_of_consistent (hasKeys : item.HasKeys table.schema) {name : String}
    (member : name ∈ table.schema) : ∃ cell, item.column name = .ok cell := by
  cases item with
  | tuple values => exact hasKeys.elim
  | other value => exact hasKeys.elim
  | dict row =>
      have present := Dict.isSome_get?.mpr (hasKeys.2 member)
      obtain ⟨cell, found⟩ := Option.isSome_iff_exists.mp present
      exact ⟨cell, by simp only [Item.column, found]⟩

theorem inserted_of_texts {name : String} {cell : Cell} (present : item.column name = .ok cell)
    (text : ∃ text, cell = .str text) : item.inserted name = quoted (item.textOf name) := by
  obtain ⟨text, rfl⟩ := text
  simp only [Item.inserted, Item.textOf, present, Cell.inserted, Cell.text]

theorem selectRows_eq {schema : List String} {expr : List Char} {items : List (Item Cell)}
    {holds : Item Cell → Bool}
    (decides : ∀ item ∈ items, selects python schema expr item = .ok (holds item)) :
    selectRows python schema expr items = .ok (items.filter holds) := by
  induction items with
  | nil => rfl
  | cons head tail inductionHypothesis =>
      have rest := inductionHypothesis fun item member =>
        decides item (List.mem_cons_of_mem _ member)
      unfold selectRows
      rw [decides head List.mem_cons_self, rest]
      by_cases selected : holds head = true
      · simp [Except.map, selected]
      · simp [Except.map, selected]

theorem addDicts_eq {items : List (Item Cell)} (start : TableData Cell)
    (present : start.schema ≠ []) (hasKeys : ∀ item ∈ items, item.HasKeys start.schema) :
    forEach TableData.addDict items start =
      (.ok (), { start with data := start.data ++ items }) := by
  induction items generalizing start with
  | nil => simp [forEach]
  | cons head tail inductionHypothesis =>
      have headKeys := hasKeys head List.mem_cons_self
      have adds : start.addDict head = (.ok (), { start with data := start.data ++ [head] }) := by
        cases head with
        | tuple values => exact headKeys.elim
        | other value => exact headKeys.elim
        | dict row =>
            have same : SameKeys row.keys start.schema := headKeys
            simp [TableData.addDict, TableData.append, TableData.validateItem, Outcome.andThen,
              present, same]
      have rest := inductionHypothesis { start with data := start.data ++ [head] }
        present fun item member => hasKeys item (List.mem_cons_of_mem _ member)
      simp only [forEach, adds, Outcome.andThen, rest, List.append_assoc, List.singleton_append]

/-- Rows with the same keys make a table. -/
theorem ofRows_eq {rows : List (Item Cell)} {keys : List String} (present : keys ≠ [])
    (hasKeys : ∀ item ∈ rows, item.HasKeys keys) :
    ∃ result, TableData.ofRows rows = .ok result ∧ result.data = rows := by
  cases rows with
  | nil => exact ⟨⟨[], []⟩, rfl, rfl⟩
  | cons first others =>
      have firstKeys := hasKeys first List.mem_cons_self
      cases first with
      | tuple values => exact firstKeys.elim
      | other value => exact firstKeys.elim
      | dict row =>
          have same : SameKeys row.keys keys := firstKeys
          have some : row.keys ≠ [] := by
            intro none
            rw [none] at same
            exact not_sameKeys_nil present same
          have othersKeys : ∀ item ∈ others, item.HasKeys row.keys := by
            intro item member
            have itemKeys := hasKeys item (List.mem_cons_of_mem _ member)
            cases item with
            | tuple values => exact itemKeys.elim
            | other value => exact itemKeys.elim
            | dict other =>
                have otherSame : SameKeys other.keys keys := itemKeys
                exact otherSame.trans same.symm
          have adds := addDicts_eq ⟨row.keys, [.dict row]⟩ some othersKeys
          refine ⟨⟨row.keys, .dict row :: others⟩, ?_, rfl⟩
          simp [TableData.ofRows, TableData.init, Initial.truthy, TableData.initDicts, adds,
            Outcome.table]

/-- A template whose evaluation decides a condition selects the rows that meet it. -/
theorem query_eq {pieces : List Piece} {holds : Item Cell → Bool} {column : String}
    (consistent : table.Consistent) (member : column ∈ table.schema)
    (noCall : containsMatch python (render pieces) = none)
    (substitutes : ∀ item ∈ table.data,
      undisturbed python item (sortedNames table.schema) pieces)
    (evaluates : ∀ item ∈ table.data,
      python.eval (render (fillColumns item (sortedNames table.schema) pieces)) =
        .value (holds item)) :
    ∃ result, table.query python (render pieces) = .ok result ∧
      result.data = table.data.filter holds := by
  have decides : ∀ item ∈ table.data,
      selects python table.schema (render pieces) item = .ok (holds item) := by
    intro item inData
    have known : ∀ name ∈ sortedNames table.schema, ∃ cell, item.column name = .ok cell :=
      fun name sorted => column_of_consistent (consistent item inData) (mem_sortedNames.mp sorted)
    simp only [selects, noCall, buildEvalExpr_render known (substitutes item inData),
      evaluates item inData]
  have present : table.schema ≠ [] := List.ne_nil_of_mem member
  have filtered : ∀ item ∈ table.data.filter holds, item.HasKeys table.schema :=
    fun item inResults => consistent item (List.mem_of_mem_filter inResults)
  unfold TableData.query
  rw [selectRows_eq decides]
  exact ofRows_eq present filtered

/-! ### No call in a comparison -/

theorem callAt_some {text : List Char} {found : List Char × List Char}
    (calls : callAt python text = some found) :
    ∃ before search after, text = before ++ '"' :: search ++ '"' :: ')' :: after := by
  unfold callAt at calls
  simp only at calls
  generalize named : text.takeWhile python.isWord = name at calls
  generalize remaining : text.drop name.length = rest at calls
  generalize opens : ".str.contains(\"".toList = call at calls
  generalize searched : (rest.drop call.length).takeWhile (· ≠ '"') = search at calls
  generalize closes : (rest.drop call.length).drop search.length = close at calls
  split at calls
  · rename_i matched
    simp only [Bool.and_eq_true] at matched
    obtain ⟨⟨⟨-, callPrefix⟩, -⟩, closePrefix⟩ := matched
    have whole : name ++ rest = text := by
      rw [← remaining]
      refine List.prefix_iff_eq_append.mp ?_
      rw [← named]
      exact List.takeWhile_prefix _
    have call_rest : call ++ rest.drop call.length = rest :=
      List.prefix_iff_eq_append.mp (List.isPrefixOf_iff_prefix.mp callPrefix)
    have search_close : search ++ close = rest.drop call.length := by
      rw [← closes]
      refine List.prefix_iff_eq_append.mp ?_
      rw [← searched]
      exact List.takeWhile_prefix _
    obtain ⟨after, ends⟩ := List.isPrefixOf_iff_prefix.mp closePrefix
    have opened : call = ".str.contains(".toList ++ ['"'] := by rw [← opens]; rfl
    refine ⟨name ++ ".str.contains(".toList, search, after, ?_⟩
    rw [← whole, ← call_rest, ← search_close, ← ends, opened]
    simp
  · cases calls

/-- A text with two quotes of which the second one is its end calls nothing. -/
theorem containsMatch_twoQuotes {front literal : List Char} (frontClean : '"' ∉ front)
    (literalClean : '"' ∉ literal) : containsMatch python (front ++ quoted literal) = none := by
  have text : front ++ quoted literal = (front ++ '"' :: literal) ++ ['"'] := by
    simp [quoted]
  have quotes : (front ++ quoted literal).count '"' = 2 := by
    rw [text]
    simp [List.count_eq_zero_of_not_mem frontClean, List.count_eq_zero_of_not_mem literalClean]
  refine List.findSome?_eq_none_iff.mpr fun suffix member => ?_
  rw [List.mem_tails] at member
  by_contra calls
  obtain ⟨found, calls⟩ := Option.ne_none_iff_exists'.mp calls
  obtain ⟨before, search, after, whole⟩ := callAt_some calls
  have last : suffix.getLast? = some '"' := by
    obtain ⟨start, same⟩ := member
    rw [text] at same
    have ends := congrArg List.getLast? same
    rw [List.getLast?_concat] at ends
    rw [← ends, List.getLast?_append_of_ne_nil]
    rw [whole]
    simp
  have quoteAfter : '"' ∈ after := by
    rw [whole] at last
    have inTail : '"' ∈ ')' :: after := by
      have split : (before ++ '"' :: search ++ '"' :: ')' :: after) =
          (before ++ '"' :: search ++ ['"']) ++ ')' :: after := by simp
      rw [split, List.getLast?_append_of_ne_nil _ (List.cons_ne_nil _ _)] at last
      exact List.mem_of_getLast? last
    exact (List.mem_cons.mp inTail).resolve_left (by decide)
  have few : suffix.count '"' ≤ 2 := by
    rw [← quotes]
    exact member.sublist.count_le _
  have one : 0 < after.count '"' := List.count_pos_iff.mpr quoteAfter
  rw [whole] at few
  simp only [List.count_append, List.count_cons, beq_self_eq_true, if_true] at few
  omega

theorem containsMatch_comparison {column literal : String} {operator : Comparison}
    (columnClean : '"' ∉ column.toList) (literalClean : '"' ∉ literal.toList) :
    containsMatch python (render (comparison column operator literal)) = none := by
  have text : render (comparison column operator literal) =
      (column.toList ++ ' ' :: operator.symbol ++ [' ']) ++ quoted literal.toList := by
    simp [render, comparison, Piece.chars, comparisonTail]
  have symbolClean : '"' ∉ operator.symbol := by
    cases operator with
    | equal => decide
    | notEqual => decide
  rw [text]
  apply containsMatch_twoQuotes _ literalClean
  simp [columnClean, symbolClean]

/-! ### The selected rows -/

theorem evaluates_comparison (documented : python.Documented) {column literal : String}
    {operator : Comparison} (consistent : table.Consistent) (texts : table.AllTexts)
    (member : column ∈ table.schema)
    (clean : Clean python table (comparison column operator literal) [column] [literal])
    (inData : item ∈ table.data) :
    python.eval (render (fillColumns item (sortedNames table.schema)
      (comparison column operator literal))) =
        .value (operator.holds (item.textOf column) literal.toList) := by
  obtain ⟨cell, present⟩ := column_of_consistent (consistent item inData) member
  have inserts := inserted_of_texts present (texts item inData column cell present)
  have cellPlain := clean.cells item inData column (List.mem_singleton_self column)
  have literalPlain := clean.literals literal (List.mem_singleton_self literal)
  rw [comparison, fillColumns_cons, fillColumns_cons, fillColumns_nil,
    foldl_fill_column (mem_sortedNames.mpr member), foldl_fill_text, inserts]
  simp only [render, Piece.chars, List.flatMap_cons, List.flatMap_nil, List.append_nil]
  exact documented.comparison operator _ _ cellPlain literalPlain

theorem evaluates_conjunction (documented : python.Documented)
    {first value second other : String} (consistent : table.Consistent)
    (texts : table.AllTexts) (firstMember : first ∈ table.schema)
    (secondMember : second ∈ table.schema)
    (clean : Clean python table (conjunction first value second other) [first, second]
      [value, other])
    (inData : item ∈ table.data) :
    python.eval (render (fillColumns item (sortedNames table.schema)
      (conjunction first value second other))) =
        .value (item.textOf first == value.toList && item.textOf second == other.toList) := by
  have keys := consistent item inData
  obtain ⟨firstCell, firstPresent⟩ := column_of_consistent keys firstMember
  obtain ⟨secondCell, secondPresent⟩ := column_of_consistent keys secondMember
  have firstInserts :=
    inserted_of_texts firstPresent (texts item inData first firstCell firstPresent)
  have secondInserts :=
    inserted_of_texts secondPresent (texts item inData second secondCell secondPresent)
  have firstPlain := clean.cells item inData first (by simp)
  have secondPlain := clean.cells item inData second (by simp)
  have valuePlain := clean.literals value (by simp)
  have otherPlain := clean.literals other (by simp)
  rw [conjunction, fillColumns_cons, fillColumns_cons, fillColumns_cons, fillColumns_cons,
    fillColumns_nil, foldl_fill_column (mem_sortedNames.mpr firstMember), foldl_fill_text,
    foldl_fill_column (mem_sortedNames.mpr secondMember), foldl_fill_text, firstInserts,
    secondInserts]
  simp only [render, Piece.chars, List.flatMap_cons, List.flatMap_nil, List.append_nil]
  exact documented.conjunction _ _ _ _ firstPlain valuePlain secondPlain otherPlain

end Queries

/-- **Queries.** In a table of texts, a query that compares a column with a literal, or two
columns with two literals, returns the rows that meet the comparisons, in order, when no
column name matches in a literal or in a value that has been substituted and these are
plain. -/
theorem query_selects {python : Python} (documented : python.Documented)
    {table : TableData Cell} (consistent : table.Consistent) (texts : table.AllTexts) :
    (∀ column operator literal, column ∈ table.schema → '"' ∉ column.toList →
      Clean python table (comparison column operator literal) [column] [literal] →
      ∃ result, table.query python (render (comparison column operator literal)) = .ok result ∧
        result.data = table.data.filter fun item =>
          operator.holds (item.textOf column) literal.toList) ∧
      ∀ first value second other, first ∈ table.schema → second ∈ table.schema →
        containsMatch python (render (conjunction first value second other)) = none →
        Clean python table (conjunction first value second other) [first, second]
          [value, other] →
        ∃ result, table.query python (render (conjunction first value second other)) =
            .ok result ∧
          result.data = table.data.filter fun item =>
            item.textOf first == value.toList && item.textOf second == other.toList := by
  constructor
  · intro column operator literal member columnClean clean
    have literalClean : '"' ∉ literal.toList := fun quote =>
      (clean.literals literal (List.mem_singleton_self literal) '"' quote).1 rfl
    exact query_eq consistent member (containsMatch_comparison columnClean literalClean)
      clean.substitutes fun item inData =>
        evaluates_comparison documented consistent texts member clean inData
  · intro first value second other firstMember secondMember noCall clean
    exact query_eq consistent firstMember noCall clean.substitutes fun item inData =>
      evaluates_conjunction documented consistent texts firstMember secondMember clean inData

/-! ### Python on comparisons -/

/-- A plain literal at the start of a text, and what follows it. -/
def readLiteral : List Char → Option (List Char × List Char)
  | '"' :: rest =>
      match rest.drop (rest.takeWhile (· ≠ '"')).length with
      | '"' :: after =>
          if Plain (rest.takeWhile (· ≠ '"')) then some (rest.takeWhile (· ≠ '"'), after) else none
      | _ => none
  | _ => none

def readComparison (text : List Char) : Option (Bool × List Char) :=
  match readLiteral text with
  | some (left, ' ' :: '=' :: '=' :: ' ' :: rest) =>
      (readLiteral rest).map fun right => (left == right.1, right.2)
  | some (left, ' ' :: '!' :: '=' :: ' ' :: rest) =>
      (readLiteral rest).map fun right => (left != right.1, right.2)
  | _ => none

/-- `eval` on comparisons of plain literals. Other texts are taken for syntax errors. -/
def evalComparisons (text : List Char) : Evaluation :=
  match readComparison text with
  | some (truth, []) => .value truth
  | some (truth, ' ' :: 'a' :: 'n' :: 'd' :: ' ' :: rest) =>
      match readComparison rest with
      | some (other, []) => .value (truth && other)
      | _ => .skipped
  | _ => .skipped

def comparingPython : Python where
  isWord char := char.isAlphanum || char == '_'
  eval := evalComparisons

theorem readLiteral_quoted {literal rest : List Char} (plain : Plain literal) :
    readLiteral (quoted literal ++ rest) = some (literal, rest) := by
  have whole : quoted literal ++ rest = '"' :: (literal ++ '"' :: rest) := by simp [quoted]
  have taken : (literal ++ '"' :: rest).takeWhile (· ≠ '"') = literal := by
    rw [List.takeWhile_append_of_pos]
    · simp
    · exact fun char member => decide_eq_true (plain char member).1
  rw [whole, readLiteral, taken, List.drop_left]
  simp [plain]

theorem readComparison_eq {left right : List Char} (rest : List Char) (operator : Comparison)
    (leftPlain : Plain left) (rightPlain : Plain right) :
    readComparison (quoted left ++ (comparisonTail operator right ++ rest)) =
      some (operator.holds left right, rest) := by
  unfold readComparison
  rw [readLiteral_quoted leftPlain]
  cases operator with
  | equal => simp [comparisonTail, Comparison.symbol, readLiteral_quoted rightPlain,
      Comparison.holds]
  | notEqual => simp [comparisonTail, Comparison.symbol, readLiteral_quoted rightPlain,
      Comparison.holds]

theorem comparingPython_documented : comparingPython.Documented where
  comparison operator left right leftPlain rightPlain := by
    have reads := readComparison_eq [] operator leftPlain rightPlain
    rw [List.append_nil] at reads
    simp [comparingPython, evalComparisons, reads]
  conjunction left value right other leftPlain valuePlain rightPlain otherPlain := by
    have second := readComparison_eq [] .equal rightPlain otherPlain
    rw [List.append_nil] at second
    have first := readComparison_eq
      (" and ".toList ++ (quoted right ++ comparisonTail .equal other)) .equal leftPlain valuePlain
    simp only [comparingPython, evalComparisons, List.append_assoc, first]
    simp [second, Comparison.holds]

/-- Three servers on two hosts. -/
def servers : TableData Cell :=
  ⟨["name", "host"],
    [.dict (.ofPairs [("name", .str "web"), ("host", .str "compute-0")]),
      .dict (.ofPairs [("name", .str "db"), ("host", .str "compute-1")]),
      .dict (.ofPairs [("name", .str "web"), ("host", .str "compute-1")])]⟩

theorem query_selects_servers :
    (∃ result, servers.query comparingPython (render (comparison "name" .equal "web")) =
        .ok result ∧ result.data.length = 2) ∧
      ∃ result, servers.query comparingPython
          (render (conjunction "name" "web" "host" "compute-1")) = .ok result ∧
        result.data.length = 1 := by
  have consistent : servers.Consistent := by decide
  have texts : servers.AllTexts := TableData.allTexts_of_rows (by decide)
  have selects := query_selects comparingPython_documented consistent texts
  constructor
  · obtain ⟨result, found, rows⟩ := selects.1 "name" .equal "web" (by decide) (by decide)
      ⟨by decide +kernel, by decide +kernel, by decide⟩
    refine ⟨result, found, ?_⟩
    rw [rows]
    decide +kernel
  · obtain ⟨result, found, rows⟩ := selects.2 "name" "web" "host" "compute-1" (by decide)
      (by decide) (by decide +kernel) ⟨by decide +kernel, by decide +kernel, by decide⟩
    refine ⟨result, found, ?_⟩
    rw [rows]
    decide +kernel

/-- One row, in which the value of the column `c` is the given text. -/
def oneRow (value : String) : TableData Cell :=
  ⟨["c", "d"], [.dict (.ofPairs [("c", .str value), ("d", .str "x")])]⟩

/-- The value `d` of the column `c` is the name of another column. -/
theorem value_taken_for_column :
    ∃ result, (oneRow "d").query comparingPython (render (comparison "c" .equal "d")) =
        .ok result ∧
      result.data ≠ (oneRow "d").data.filter fun item =>
        Comparison.equal.holds (item.textOf "c") "d".toList := by
  refine ⟨⟨[], []⟩, rfl, fun same => ?_⟩
  cases same

end Tobiko.Common
