import Mathlib.Data.List.Perm.Basic
import Mathlib.Data.Prod.Lex
import Mathlib.Data.String.Basic
import Mathlib.Data.List.Infix
import Tobiko.Common.TableCsv
import Tobiko.Foundation.FirstOccurrences

/-!
Contract: the comparison of two tables of containers, `tabledata_difference` of
`tobiko/rhosp/containers.py`.

Owns: the rows of a table by what they hold, the marks of the rows, the containers to be ignored, and
what a call without `which` returns for tables whose rows have their columns.

Does not own: where the tables come from, and the messages about ignored containers.
-/

namespace Tobiko.Rhosp

open Tobiko.Foundation Tobiko.Common

abbrev Row : Type := Dict String String

/-- `tuple(sorted(row.items()))` -/
def rowToHashable (row : Row) : List (Lex (String × String)) :=
  (row.entries.map toLex).insertionSort (· ≤ ·)

abbrev Hashable : Type := List (Lex (String × String))

/-- The order in which Python goes through the elements of a set. -/
structure SetOrder where
  arrange : List Hashable → List Hashable
  perm : ∀ keys, (arrange keys).Perm keys

def itemRow : Item String → Except TableError Row
  | .dict row => .ok row
  | _ => .error (.attributeError "items")

/-- `{row_to_hashable(row): row for row in td.data}` -/
def rowsByKey (rows : List Row) : Dict Hashable Row :=
  .ofPairs (rows.map fun row => (rowToHashable row, row))

def stateColumn : String := "same_state"

def mark (state : String) (row : Row) : Row := row.set stateColumn state

/-- The loop over the keys of a set, with the rows that have them. -/
def markRows (order : SetOrder) (rows : Dict Hashable Row) (keys : List Hashable)
    (state : String) : List Row :=
  (order.arrange keys).filterMap fun key => (rows.get? key).map (mark state)

/-- The rows that the comparison is made of. -/
def resultRows (order : SetOrder) (td1Rows td2Rows : Dict Hashable Row) : List Row :=
  let commonKeys := td1Rows.keys.filter fun key => decide (key ∈ td2Rows.keys)
  let leftOnlyKeys := td1Rows.keys.filter fun key => decide (key ∉ td2Rows.keys)
  let rightOnlyKeys := td2Rows.keys.filter fun key => decide (key ∉ td1Rows.keys)
  markRows order td1Rows commonKeys "both" ++ markRows order td1Rows leftOnlyKeys "left_only" ++
    markRows order td2Rows rightOnlyKeys "right_only"

/-- Whether a row is asked for: `which=None` asks for the rows that are not on both sides. -/
def isAskedFor (which : Option String) (item : Item String) : Except TableError Bool :=
  (item.column stateColumn).map fun state =>
    which.elim (decide (state ≠ "both")) fun asked => decide (state = asked)

/-- `[item for item in items if keep(item)]` -/
def keepItems (keep : Item String → Except TableError Bool) :
    List (Item String) → Except TableError (List (Item String))
  | [] => .ok []
  | item :: items => do
      let isKept ← keep item
      let kept ← keepItems keep items
      pure (if isKept then item :: kept else kept)

def nameColumn : String := "container_name"

/-- The loop over the containers to be ignored, which ends at the first one that is found. -/
def isIgnored (item : Item String) : List String → Except TableError Bool
  | [] => .ok false
  | ignoreContainer :: others => do
      let containerName ← item.column nameColumn
      if ignoreContainer.toList <:+: containerName.toList then pure true
      else isIgnored item others

/-- The loop of `remove_containers_from_comparison`. -/
def removeContainers (ignoreContainersList : List String) :
    List (Item String) → TableData String → Except TableError (TableData String)
  | [], finalTd => .ok finalTd
  | item :: items, finalTd => do
      let dropped ← isIgnored item ignoreContainersList
      if dropped then removeContainers ignoreContainersList items finalTd
      else do
        let finalTd ← (finalTd.append item).table
        removeContainers ignoreContainersList items finalTd

/-- `remove_containers_from_comparison` -/
def removeContainersFromComparison (ignoreContainersList : List String)
    (comparableContainersTd : TableData String) : Except TableError (TableData String) :=
  removeContainers ignoreContainersList comparableContainersTd.data ⟨[], []⟩

/-- `tabledata_difference` -/
def tabledataDifference (order : SetOrder) (ignoreContainersList : List String)
    (td1 td2 : TableData String) (which : Option String) :
    Except TableError (TableData String) :=
  if td1.schema ≠ td2.schema then
    .error (.valueError "TableData objects must have the same schema")
  else do
    let td1Rows ← td1.data.mapM itemRow
    let td2Rows ← td2.data.mapM itemRow
    let comparisonTd ← TableData.ofRows
      ((resultRows order (rowsByKey td1Rows) (rowsByKey td2Rows)).map Item.dict)
    let asked ← keepItems (isAskedFor which) comparisonTd.data
    let diffTd ← TableData.ofRows asked
    removeContainersFromComparison ignoreContainersList diffTd

/-! ### Rows by what they hold -/

theorem rowToHashable_eq_iff {left right : Row} :
    rowToHashable left = rowToHashable right ↔ Dict.Same left right := by
  rw [rowToHashable, rowToHashable, insertionSort_eq_iff]
  exact List.map_perm_map_iff toLex.injective

theorem get?_rowsByKey {rows : List Row} {key : Hashable} {row : Row}
    (found : (rowsByKey rows).get? key = some row) : row ∈ rows ∧ rowToHashable row = key := by
  obtain ⟨before, item, after, split, isKey, isRow, _⟩ := Dict.get?_ofPairs_eq_some.mp found
  have same : item = row := isRow
  rw [← same]
  exact ⟨by rw [split]; simp, isKey⟩

theorem mem_keys_rowsByKey {rows : List Row} {key : Hashable} :
    key ∈ (rowsByKey rows).keys ↔ ∃ row ∈ rows, rowToHashable row = key := by
  rw [rowsByKey, Dict.mem_keys_ofPairs, List.map_map, List.mem_map]
  rfl

/-- The marked rows are rows with the keys. -/
theorem of_mem_markRows {order : SetOrder} {rows : List Row} {keep : Hashable → Bool}
    {state : String} {marked : Row}
    (member : marked ∈ markRows order (rowsByKey rows) ((rowsByKey rows).keys.filter keep) state) :
    ∃ row ∈ rows, keep (rowToHashable row) = true ∧ marked = mark state row := by
  obtain ⟨key, arranged, isMarked⟩ := List.mem_filterMap.mp member
  obtain ⟨row, found, same⟩ := Option.map_eq_some_iff.mp isMarked
  obtain ⟨inRows, isKey⟩ := get?_rowsByKey found
  have isKept := (List.mem_filter.mp ((order.perm _).mem_iff.mp arranged)).2
  rw [← isKey] at isKept
  exact ⟨row, inRows, isKept, same.symm⟩

/-- Of several equal rows one is marked. -/
theorem exists_mem_markRows (order : SetOrder) {rows : List Row} {keep : Hashable → Bool}
    (state : String) {row : Row} (member : row ∈ rows) (isKept : keep (rowToHashable row) = true) :
    ∃ other, Dict.Same other row ∧
      mark state other ∈
        markRows order (rowsByKey rows) ((rowsByKey rows).keys.filter keep) state := by
  have isKey : rowToHashable row ∈ (rowsByKey rows).keys :=
    mem_keys_rowsByKey.mpr ⟨row, member, rfl⟩
  obtain ⟨other, found⟩ := Option.isSome_iff_exists.mp (Dict.isSome_get?.mpr isKey)
  refine ⟨other, rowToHashable_eq_iff.mp (get?_rowsByKey found).2, ?_⟩
  apply List.mem_filterMap.mpr
  refine ⟨rowToHashable row, (order.perm _).mem_iff.mpr (List.mem_filter.mpr ⟨isKey, isKept⟩), ?_⟩
  rw [found]
  rfl


/-! ### Marked rows -/

theorem get?_mark (state : String) (row : Row) (key : String) :
    (mark state row).get? key = if key = stateColumn then some state else row.get? key :=
  Dict.get?_set

theorem mem_keys_mark {state : String} {row : Row} {key : String} :
    key ∈ (mark state row).keys ↔ key = stateColumn ∨ key ∈ row.keys :=
  Dict.mem_keys_set

theorem sameKeys_mark {state : String} {row : Row} {schema : List String}
    (same : SameKeys row.keys schema) :
    SameKeys (mark state row).keys (stateColumn :: schema) := by
  apply sameKeys_of_mem_iff
  intro key
  rw [mem_keys_mark, List.mem_cons]
  exact or_congr_right ⟨fun member => same.1 member, fun member => same.2 member⟩

theorem isAskedFor_mark (state : String) (row : Row) :
    isAskedFor none (.dict (mark state row)) = .ok (decide (state ≠ "both")) := by
  have column : (Item.dict (mark state row)).column stateColumn = .ok state := by
    rw [Item.column, get?_mark, if_pos rfl]
  rw [isAskedFor, column]
  rfl

theorem keepItems_append {keep : Item String → Except TableError Bool}
    {left right keptLeft keptRight : List (Item String)} (first : keepItems keep left = .ok keptLeft)
    (second : keepItems keep right = .ok keptRight) :
    keepItems keep (left ++ right) = .ok (keptLeft ++ keptRight) := by
  induction left generalizing keptLeft with
  | nil =>
      rw [keepItems, Except.ok.injEq] at first
      rw [← first]
      exact second
  | cons item left inductionHypothesis =>
      rw [List.cons_append, keepItems]
      rw [keepItems] at first
      cases isKept : keep item with
      | error error =>
          rw [isKept] at first
          cases first
      | ok kept =>
          rw [isKept] at first
          cases others : keepItems keep left with
          | error error =>
              rw [others] at first
              cases first
          | ok keptOthers =>
              rw [others] at first
              rw [inductionHypothesis others]
              have whole : (if kept then item :: keptOthers else keptOthers) = keptLeft :=
                Except.ok.inj first
              rw [← whole]
              cases kept with
              | true => rfl
              | false => rfl

/-- Rows with one mark are all asked for, or none of them is. -/
theorem keepItems_marked {state : String} {rows : List Row}
    (marked : ∀ row ∈ rows, ∃ original, row = mark state original) :
    keepItems (isAskedFor none) (rows.map Item.dict) =
      .ok (if state = "both" then [] else rows.map Item.dict) := by
  induction rows with
  | nil => simp [keepItems]
  | cons row rows inductionHypothesis =>
      obtain ⟨⟨original, isMarked⟩, others⟩ := List.forall_mem_cons.mp marked
      rw [List.map_cons, keepItems, isMarked, isAskedFor_mark, inductionHypothesis others]
      by_cases both : state = "both"
      · simp [both]
        rfl
      · simp [both]
        rfl


/-- Rows with the same columns make a table. -/
theorem ofRows_uniform {rows : List Row} {keys : List String} (present : keys ≠ [])
    (same : ∀ row ∈ rows, SameKeys row.keys keys) :
    ∃ schema, TableData.ofRows (rows.map Item.dict) = .ok ⟨schema, rows.map Item.dict⟩ := by
  cases rows with
  | nil => exact ⟨[], rfl⟩
  | cons first others =>
      obtain ⟨firstSame, othersSame⟩ := List.forall_mem_cons.mp same
      have firstPresent : first.keys ≠ [] := by
        intro empty
        rw [empty] at firstSame
        exact not_sameKeys_nil present firstSame
      exact ⟨first.keys, ofRows_dicts firstPresent fun row member =>
        (othersSame row member).trans firstSame.symm⟩

/-! ### Containers to be ignored -/

/-- The row is one of a container to be ignored. -/
def ignores (ignoreContainersList : List String) (row : Row) : Bool :=
  (row.get? nameColumn).any fun containerName =>
    ignoreContainersList.any fun ignoreContainer =>
      decide (ignoreContainer.toList <:+: containerName.toList)

theorem isIgnored_of_name {row : Row} {containerName : String}
    (named : row.get? nameColumn = some containerName) (ignoreContainersList : List String) :
    isIgnored (.dict row) ignoreContainersList = .ok (ignores ignoreContainersList row) := by
  have column : (Item.dict row).column nameColumn = .ok containerName := by
    rw [Item.column, named]
  rw [ignores, named, Option.any_some]
  induction ignoreContainersList with
  | nil => rfl
  | cons ignoreContainer others inductionHypothesis =>
      rw [isIgnored, column, List.any_cons]
      by_cases found : ignoreContainer.toList <:+: containerName.toList
      · simp [bind, Except.bind, found]
        rfl
      · simp only [bind, Except.bind, found, if_false, decide_false, Bool.false_or]
        exact inductionHypothesis

theorem isIgnored_of_no_name {row : Row} (unnamed : row.get? nameColumn = none)
    {ignoreContainersList : List String} (present : ignoreContainersList ≠ []) :
    isIgnored (.dict row) ignoreContainersList = .error (.keyError nameColumn) := by
  obtain ⟨first, others, whole⟩ := List.exists_cons_of_ne_nil present
  have column : (Item.dict row).column nameColumn = .error (.keyError nameColumn) := by
    rw [Item.column, unnamed]
  rw [whole, isIgnored, column]
  rfl

theorem isIgnored_dict {ignoreContainersList : List String} {row : Row}
    (named : ignoreContainersList = [] ∨ nameColumn ∈ row.keys) :
    isIgnored (.dict row) ignoreContainersList = .ok (ignores ignoreContainersList row) := by
  cases name : row.get? nameColumn with
  | some containerName => exact isIgnored_of_name name ignoreContainersList
  | none =>
      rcases named with empty | member
      · rw [empty, ignores, name]
        rfl
      · rw [← Dict.isSome_get?, name] at member
        cases member

theorem ignores_congr {ignoreContainersList : List String} {left right : Row}
    (same : left.get? nameColumn = right.get? nameColumn) :
    ignores ignoreContainersList left = ignores ignoreContainersList right := by
  rw [ignores, ignores, same]

theorem ignores_mark (ignoreContainersList : List String) (state : String) (row : Row) :
    ignores ignoreContainersList (mark state row) = ignores ignoreContainersList row := by
  apply ignores_congr
  rw [get?_mark, if_neg (by decide)]

/-- The rows of the containers that are not ignored are appended. -/
theorem removeContainers_dicts {ignoreContainersList : List String} {rows : List Row}
    {keys : List String} (present : keys ≠ []) (same : ∀ row ∈ rows, SameKeys row.keys keys)
    (named : ignoreContainersList = [] ∨ nameColumn ∈ keys) {finalTd : TableData String}
    (fits : finalTd.schema = [] ∨ SameKeys keys finalTd.schema) :
    ∃ result, removeContainers ignoreContainersList (rows.map Item.dict) finalTd = .ok result ∧
      result.data = finalTd.data ++
        (rows.filter fun row => !ignores ignoreContainersList row).map Item.dict := by
  induction rows generalizing finalTd with
  | nil => exact ⟨finalTd, rfl, (List.append_nil _).symm⟩
  | cons row rows inductionHypothesis =>
      obtain ⟨rowSame, othersSame⟩ := List.forall_mem_cons.mp same
      have dropped := @isIgnored_dict ignoreContainersList row
        (named.imp_right fun member => rowSame.2 member)
      rw [List.map_cons, removeContainers, dropped]
      cases isDropped : ignores ignoreContainersList row with
      | true =>
          obtain ⟨result, returns, data⟩ := inductionHypothesis othersSame fits
          refine ⟨result, returns, ?_⟩
          rw [data, List.filter_cons_of_neg (by rw [isDropped]; decide)]
      | false =>
          have rowFits : (Item.dict row).Fits finalTd.schema := by
            by_cases noSchema : finalTd.schema = []
            · rw [Item.Fits, if_pos noSchema]
              intro empty
              rw [empty] at rowSame
              exact not_sameKeys_nil present rowSame
            · rw [Item.Fits, if_neg noSchema]
              exact rowSame.trans (fits.resolve_left noSchema)
          have settles : SameKeys keys ((Item.dict row).settle finalTd.schema) := by
            by_cases noSchema : finalTd.schema = []
            · rw [Item.settle, if_pos noSchema]
              exact rowSame.symm
            · rw [Item.settle, if_neg noSchema]
              exact fits.resolve_left noSchema
          obtain ⟨result, returns, data⟩ := @inductionHypothesis othersSame
            { finalTd.settle (.dict row) with data := finalTd.data ++ [.dict row] } (.inr settles)
          refine ⟨result, ?_, ?_⟩
          · rw [append_of_fits rowFits]
            exact returns
          · rw [data, List.filter_cons_of_pos (by rw [isDropped]; rfl), List.append_assoc]
            rfl


/-! ### What a call returns -/

/-- The rows on one side only, with their marks. -/
def oneSided (order : SetOrder) (left right : List Row) : List Row :=
  markRows order (rowsByKey left)
      ((rowsByKey left).keys.filter fun key => decide (key ∉ (rowsByKey right).keys)) "left_only" ++
    markRows order (rowsByKey right)
      ((rowsByKey right).keys.filter fun key => decide (key ∉ (rowsByKey left).keys)) "right_only"

theorem sameKeys_markRows {order : SetOrder} {rows : List Row} {schema : List String}
    (same : ∀ row ∈ rows, SameKeys row.keys schema) {keep : Hashable → Bool} {state : String} :
    ∀ marked ∈ markRows order (rowsByKey rows) ((rowsByKey rows).keys.filter keep) state,
      SameKeys marked.keys (stateColumn :: schema) := by
  intro marked member
  obtain ⟨row, inRows, _, isMarked⟩ := of_mem_markRows member
  rw [isMarked]
  exact sameKeys_mark (same row inRows)

theorem sameKeys_oneSided {order : SetOrder} {left right : List Row} {schema : List String}
    (leftSame : ∀ row ∈ left, SameKeys row.keys schema)
    (rightSame : ∀ row ∈ right, SameKeys row.keys schema) :
    ∀ row ∈ oneSided order left right, SameKeys row.keys (stateColumn :: schema) := by
  intro row member
  rcases List.mem_append.mp member with isLeft | isRight
  · exact sameKeys_markRows leftSame row isLeft
  · exact sameKeys_markRows rightSame row isRight

/-- The rows that are on both sides are not asked for. -/
theorem keepItems_resultRows (order : SetOrder) (left right : List Row) :
    keepItems (isAskedFor none)
        ((resultRows order (rowsByKey left) (rowsByKey right)).map Item.dict) =
      .ok ((oneSided order left right).map Item.dict) := by
  have marked : ∀ (rows : List Row) (keep : Hashable → Bool) (state : String),
      ∀ row ∈ markRows order (rowsByKey rows) ((rowsByKey rows).keys.filter keep) state,
        ∃ original, row = mark state original := by
    intro rows keep state row member
    obtain ⟨original, _, _, isMarked⟩ := of_mem_markRows member
    exact ⟨original, isMarked⟩
  have common := keepItems_marked
    (marked left (fun key => decide (key ∈ (rowsByKey right).keys)) "both")
  have leftOnly := keepItems_marked
    (marked left (fun key => decide (key ∉ (rowsByKey right).keys)) "left_only")
  have rightOnly := keepItems_marked
    (marked right (fun key => decide (key ∉ (rowsByKey left).keys)) "right_only")
  rw [if_pos rfl] at common
  rw [if_neg (by decide)] at leftOnly rightOnly
  have whole := keepItems_append (keepItems_append common leftOnly) rightOnly
  rw [← List.map_append, ← List.map_append, List.nil_append, ← List.map_append] at whole
  exact whole

section Result

variable {order : SetOrder} {ignoreContainersList : List String} {td1 td2 : TableData String}
  {left right : List Row}

/-- **What is returned for tables with one schema.**  The rows on one side only are marked, and those
of containers to be ignored are removed; without a column for the names these cannot be looked for. -/
theorem tabledataDifference_eq (schema : td1.schema = td2.schema)
    (leftData : td1.data = left.map Item.dict) (rightData : td2.data = right.map Item.dict)
    (leftSame : ∀ row ∈ left, SameKeys row.keys td1.schema)
    (rightSame : ∀ row ∈ right, SameKeys row.keys td1.schema) :
    tabledataDifference order ignoreContainersList td1 td2 none =
      removeContainers ignoreContainersList ((oneSided order left right).map Item.dict) ⟨[], []⟩ := by
  have rowsOf : ∀ rows : List Row, (rows.map Item.dict).mapM itemRow = .ok rows := by
    intro rows
    induction rows with
    | nil => rfl
    | cons row rows inductionHypothesis =>
        rw [List.map_cons, List.mapM_cons, inductionHypothesis]
        rfl
  have resultSame : ∀ row ∈ resultRows order (rowsByKey left) (rowsByKey right),
      SameKeys row.keys (stateColumn :: td1.schema) := by
    intro row member
    rcases List.mem_append.mp member with onLeft | onRight
    · rcases List.mem_append.mp onLeft with isCommon | isLeft
      · exact sameKeys_markRows leftSame row isCommon
      · exact sameKeys_markRows leftSame row isLeft
    · exact sameKeys_markRows rightSame row onRight
  have oneSidedSame := @sameKeys_oneSided order left right td1.schema leftSame rightSame
  obtain ⟨resultSchema, comparison⟩ := ofRows_uniform (List.cons_ne_nil _ _) resultSame
  obtain ⟨diffSchema, diff⟩ := ofRows_uniform (List.cons_ne_nil _ _) oneSidedSame
  have differs : ¬ td1.schema ≠ td2.schema := not_not.mpr schema
  rw [tabledataDifference, if_neg differs, leftData, rightData, rowsOf, rowsOf]
  simp only [bind, Except.bind, comparison, keepItems_resultRows, diff]
  rfl

theorem tabledataDifference_returns (schema : td1.schema = td2.schema)
    (leftData : td1.data = left.map Item.dict) (rightData : td2.data = right.map Item.dict)
    (leftSame : ∀ row ∈ left, SameKeys row.keys td1.schema)
    (rightSame : ∀ row ∈ right, SameKeys row.keys td1.schema)
    (named : ignoreContainersList = [] ∨ nameColumn ∈ td1.schema ∨ oneSided order left right = []) :
    ∃ result, tabledataDifference order ignoreContainersList td1 td2 none = .ok result ∧
      result.data = ((oneSided order left right).filter fun row =>
        !ignores ignoreContainersList row).map Item.dict := by
  rw [tabledataDifference_eq schema leftData rightData leftSame rightSame]
  by_cases none : oneSided order left right = []
  · rw [none]
    exact ⟨⟨[], []⟩, rfl, rfl⟩
  · have namedRows : ignoreContainersList = [] ∨ nameColumn ∈ stateColumn :: td1.schema := by
      rcases named with empty | hasName | noRows
      · exact .inl empty
      · exact .inr (List.mem_cons_of_mem _ hasName)
      · exact absurd noRows none
    obtain ⟨result, returns, data⟩ := @removeContainers_dicts ignoreContainersList
      (oneSided order left right) _ (List.cons_ne_nil _ _)
      (sameKeys_oneSided leftSame rightSame) namedRows ⟨[], []⟩ (.inl rfl)
    exact ⟨result, returns, data⟩

theorem tabledataDifference_raises (schema : td1.schema = td2.schema)
    (leftData : td1.data = left.map Item.dict) (rightData : td2.data = right.map Item.dict)
    (leftSame : ∀ row ∈ left, SameKeys row.keys td1.schema)
    (rightSame : ∀ row ∈ right, SameKeys row.keys td1.schema)
    (ignored : ignoreContainersList ≠ []) (unnamed : nameColumn ∉ td1.schema)
    (some : oneSided order left right ≠ []) :
    tabledataDifference order ignoreContainersList td1 td2 none =
      .error (.keyError nameColumn) := by
  rw [tabledataDifference_eq schema leftData rightData leftSame rightSame]
  obtain ⟨first, others, whole⟩ := List.exists_cons_of_ne_nil some
  have isFirst : first ∈ oneSided order left right := by
    rw [whole]
    exact List.mem_cons_self
  have noName : first.get? nameColumn = none := by
    rw [← Option.not_isSome_iff_eq_none, Dict.isSome_get?]
    intro member
    have inSchema := (sameKeys_oneSided leftSame rightSame first isFirst).1 member
    rcases List.mem_cons.mp inSchema with isState | inColumns
    · exact absurd isState (by decide)
    · exact unnamed inColumns
  rw [whole, List.map_cons, removeContainers, isIgnored_of_no_name noName ignored]
  rfl

end Result

end Tobiko.Rhosp
