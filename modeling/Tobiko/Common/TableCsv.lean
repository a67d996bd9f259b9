import Tobiko.Common.TableUpdates
import Tobiko.Foundation.Csv
import Tobiko.Foundation.KeyOrder

/-!
Contract: `TableData.to_csv` of `tobiko/common/_tabledata.py`, and `read_csv` of the file that it
writes.

Owns: the text of a table, the table that is read from a file with that text and a header, and when
the two have the same columns.

Does not own: other separators, rows that are skipped, and tables without a header.
-/

namespace Tobiko.Common

open Tobiko.Foundation

/-! ### Tables of dictionaries -/

section Rows

variable {Value : Type}

/-- Rows with the columns of a table are added behind its rows. -/
theorem forEach_addDict {schema : List String} (present : schema ≠ [])
    {rows : List (Dict String Value)} (same : ∀ row ∈ rows, SameKeys row.keys schema)
    (data : List (Item Value)) :
    forEach TableData.addDict (rows.map Item.dict) ⟨schema, data⟩ =
      (.ok (), ⟨schema, data ++ rows.map Item.dict⟩) := by
  induction rows generalizing data with
  | nil =>
      rw [List.map_nil, List.append_nil]
      rfl
  | cons row rows inductionHypothesis =>
      have fits : (Item.dict row).Fits schema := by
        rw [Item.Fits, if_neg present]
        exact same row List.mem_cons_self
      have added : TableData.addDict ⟨schema, data⟩ (.dict row) =
          (.ok (), ⟨schema, data ++ [.dict row]⟩) := by
        have appended := @append_of_fits Value ⟨schema, data⟩ (.dict row) fits
        rw [TableData.settle_of_ne_nil present] at appended
        exact appended
      rw [List.map_cons, forEach_of_ok added,
        inductionHypothesis fun other member => same other (List.mem_cons_of_mem _ member),
        List.append_assoc, List.singleton_append]

/-- Rows with the columns of the first one make a table. -/
theorem ofRows_dicts {first : Dict String Value} {rows : List (Dict String Value)}
    (present : first.keys ≠ []) (same : ∀ row ∈ rows, SameKeys row.keys first.keys) :
    TableData.ofRows ((first :: rows).map Item.dict) =
      .ok ⟨first.keys, (first :: rows).map Item.dict⟩ := by
  have added := forEach_addDict present same [.dict first]
  have starts : TableData.ofRows ((first :: rows).map Item.dict) =
      (forEach TableData.addDict (rows.map Item.dict) ⟨first.keys, [.dict first]⟩).table := rfl
  rw [starts, added]
  rfl

/-- The rows of a table whose items are dictionaries with its columns. -/
theorem TableData.Consistent.rows {table : TableData Value} (consistent : table.Consistent) :
    ∃ rows : List (Dict String Value), table.data = rows.map Item.dict ∧
      ∀ row ∈ rows, SameKeys row.keys table.schema := by
  obtain ⟨schema, data⟩ := table
  dsimp only [TableData.Consistent] at consistent ⊢
  induction data with
  | nil => exact ⟨[], rfl, fun _ member => nomatch member⟩
  | cons item data inductionHypothesis =>
      obtain ⟨hasKeys, others⟩ := List.forall_mem_cons.mp consistent
      obtain ⟨rows, isMap, same⟩ := inductionHypothesis others
      cases item with
      | tuple values => exact hasKeys.elim
      | other value => exact hasKeys.elim
      | dict row => exact ⟨row :: rows, by rw [isMap, List.map_cons],
          List.forall_mem_cons.mpr ⟨hasKeys, same⟩⟩

end Rows

/-! ### Writing and reading -/

/-- The fields that `csv.DictWriter` writes for a row. -/
def dictToList (fieldnames : List String) : Item String → Except TableError (List Text)
  | .dict row =>
      if row.keys ⊆ fieldnames then
        .ok (fieldnames.map fun key => ((row.get? key).getD "").toList)
      else .error (.valueError "dict contains fields not in fieldnames")
  | _ => .error (.attributeError "keys")

/-- `to_csv` -/
def TableData.toCsv (table : TableData String) : Except TableError Text :=
  if table.schema ≠ [] ∧ table.data ≠ [] then
    (table.data.mapM (dictToList table.schema)).map fun rows =>
      Csv.writeRows (table.schema.map String.toList :: rows)
  else .ok []

/-- `TableData.read_csv(stream, header=0)`, for a file with the text that is opened as a text. -/
def readCsvFile (limit : Nat) (text : Text) : Except TableError (TableData String) :=
  match Csv.read limit (Csv.translateNewlines text) with
  | none => .error (.external "csv.Error")
  | some lines => TableData.readCsv textCells (lines.map (List.map String.ofList)) (some 0) []

/-! ### What is read from the text of a table -/

/-- A text as it comes back from a file. -/
def stored (text : String) : String := String.ofList (Csv.translateNewlines text.toList)

theorem toList_stored (text : String) :
    (stored text).toList = Csv.translateNewlines text.toList := by
  rw [stored, String.toList_ofList]

theorem stored_eq_iff {text : String} : stored text = text ↔ '\r' ∉ text.toList := by
  rw [← Csv.translateNewlines_eq_iff, ← toList_stored, String.toList_inj]

theorem noReturn_stored (text : String) : '\r' ∉ (stored text).toList := by
  rw [toList_stored]
  exact Csv.noReturn_translateFrom false text.toList

/-- A row as it comes back, in the order of the columns. -/
def storedRow (schema : List String) (row : Dict String String) : Dict String String :=
  .ofPairs (schema.map fun key => (stored key, stored ((row.get? key).getD "")))

/-- The columns as they come back: of two with one name only the first one is left. -/
def storedSchema (schema : List String) : List String :=
  firstOccurrences id (schema.map stored)

theorem keys_storedRow (schema : List String) (row : Dict String String) :
    (storedRow schema row).keys = storedSchema schema := by
  rw [storedRow, Dict.ofPairs, Dict.keys_foldl_set, Dict.keys_empty, List.nil_append,
    List.map_map]
  rfl

/-- Every text that is read from the file is within the limit. -/
def FitsFile (limit : Nat) (schema : List String) (rows : List (Dict String String)) : Prop :=
  (∀ key ∈ schema, (stored key).length ≤ limit) ∧
    ∀ row ∈ rows, ∀ key ∈ schema, (stored ((row.get? key).getD "")).length ≤ limit

instance (limit : Nat) (schema : List String) (rows : List (Dict String String)) :
    Decidable (FitsFile limit schema rows) :=
  inferInstanceAs (Decidable (_ ∧ _))

theorem dictToList_dict {fieldnames : List String} {row : Dict String String}
    (same : SameKeys row.keys fieldnames) :
    dictToList fieldnames (.dict row) =
      .ok (fieldnames.map fun key => ((row.get? key).getD "").toList) :=
  if_pos same.1

theorem mapM_dictToList {fieldnames : List String} {rows : List (Dict String String)}
    (same : ∀ row ∈ rows, SameKeys row.keys fieldnames) :
    (rows.map Item.dict).mapM (dictToList fieldnames) =
      .ok (rows.map fun row => fieldnames.map fun key => ((row.get? key).getD "").toList) := by
  induction rows with
  | nil => rfl
  | cons row rows inductionHypothesis =>
      obtain ⟨first, others⟩ := List.forall_mem_cons.mp same
      rw [List.map_cons, List.mapM_cons, dictToList_dict first, inductionHypothesis others]
      rfl

/-- The fields of a row in the order of the columns. -/
def valuesOf (schema : List String) (row : Dict String String) : List String :=
  schema.map fun key => (row.get? key).getD ""

/-- The lines that are written for a table: its columns, and its rows. -/
def tableLines (schema : List String) (rows : List (Dict String String)) : List (List String) :=
  schema :: rows.map (valuesOf schema)

theorem toCsv_dicts {schema : List String} (present : schema ≠ [])
    {rows : List (Dict String String)} (nonempty : rows ≠ [])
    (same : ∀ row ∈ rows, SameKeys row.keys schema) :
    TableData.toCsv ⟨schema, rows.map Item.dict⟩ =
      .ok (Csv.writeRows ((tableLines schema rows).map (List.map String.toList))) := by
  rw [TableData.toCsv, if_pos ⟨present, mt List.map_eq_nil_iff.mp nonempty⟩,
    mapM_dictToList same, tableLines]
  simp [valuesOf, Function.comp_def, Except.map]

/-- The lines that are read from the text of a table. -/
theorem read_tableLines {limit : Nat} {schema : List String} (present : schema ≠ [])
    (rows : List (Dict String String)) :
    Csv.read limit (Csv.translateNewlines
        (Csv.writeRows ((tableLines schema rows).map (List.map String.toList)))) =
      if FitsFile limit schema rows then
        some ((tableLines schema rows).map (List.map fun text => (stored text).toList))
      else none := by
  have nonempty : ∀ line ∈ (tableLines schema rows).map (List.map String.toList),
      line ≠ [] := by
    intro line member
    obtain ⟨values, inLines, same⟩ := List.mem_map.mp member
    have long : values ≠ [] := by
      rcases List.mem_cons.mp inLines with isHeader | inRows
      · rw [isHeader]
        exact present
      · obtain ⟨row, _, isRow⟩ := List.mem_map.mp inRows
        rw [← isRow]
        exact mt List.map_eq_nil_iff.mp present
    rw [← same]
    exact mt List.map_eq_nil_iff.mp long
  have lengths : ∀ text : String, (Csv.translateNewlines text.toList).length =
      (stored text).length := by
    intro text
    rw [← toList_stored, String.length_toList]
  have fits : (∀ line ∈ (tableLines schema rows).map (List.map String.toList),
      Csv.Fits limit (line.map Csv.translateNewlines)) ↔ FitsFile limit schema rows := by
    simp only [tableLines, valuesOf, List.forall_mem_cons, List.forall_mem_map, Csv.Fits,
      FitsFile, lengths]
  rw [Csv.read_writeRows nonempty]
  simp only [fits, List.map_map, toList_stored, Function.comp_def]

/-- **What is read from the file of a table with rows.**  Every newline is one character then, and
of several columns with one name only one is left. -/
theorem readCsvFile_tableLines {limit : Nat} {schema : List String} (present : schema ≠ [])
    {rows : List (Dict String String)} (nonempty : rows ≠ []) :
    readCsvFile limit (Csv.writeRows ((tableLines schema rows).map (List.map String.toList))) =
      if FitsFile limit schema rows then
        .ok ⟨storedSchema schema, (rows.map (storedRow schema)).map Item.dict⟩
      else .error (.external "csv.Error") := by
  rw [readCsvFile, read_tableLines present]
  by_cases fits : FitsFile limit schema rows
  · rw [if_pos fits, if_pos fits]
    dsimp only
    have lines : ((tableLines schema rows).map
        (List.map fun text => (stored text).toList)).map (List.map String.ofList) =
          schema.map stored :: rows.map fun row => (valuesOf schema row).map stored := by
      simp [tableLines, Function.comp_def]
    have names : TableData.columnNames
        (schema.map stored :: rows.map fun row => (valuesOf schema row).map stored) (some 0) [] =
          schema.map stored := rfl
    have read : TableData.rowsOfLines textCells
        (schema.map stored :: rows.map fun row => (valuesOf schema row).map stored)
        (schema.map stored) (some 0) = (rows.map (storedRow schema)).map Item.dict := by
      have enough : ∀ line ∈ rows.map fun row => (valuesOf schema row).map stored,
          decide ((schema.map stored).length ≤ line.length) = true := by
        intro line member
        obtain ⟨row, _, same⟩ := List.mem_map.mp member
        rw [← same]
        simp [valuesOf]
      have whole : TableData.rowsOfLines textCells
          (schema.map stored :: rows.map fun row => (valuesOf schema row).map stored)
          (schema.map stored) (some 0) =
            ((rows.map fun row => (valuesOf schema row).map stored).filter fun line =>
              decide ((schema.map stored).length ≤ line.length)).map fun line =>
                .dict (.ofPairs ((schema.map stored).zip (line.map id))) := rfl
      rw [whole, List.filter_eq_self.mpr enough]
      simp [storedRow, valuesOf, List.zip_map', Function.comp_def]
    obtain ⟨first, others, whole⟩ := List.exists_cons_of_ne_nil nonempty
    have keys : (storedRow schema first).keys ≠ [] := by
      obtain ⟨key, more, isSchema⟩ := List.exists_cons_of_ne_nil present
      rw [keys_storedRow, storedSchema, isSchema, List.map_cons, firstOccurrences, unseen_cons,
        if_neg List.not_mem_nil]
      exact List.cons_ne_nil _ _
    have same : ∀ row ∈ others.map (storedRow schema),
        SameKeys row.keys (storedRow schema first).keys := by
      intro row member
      obtain ⟨original, _, isStored⟩ := List.mem_map.mp member
      rw [← isStored, keys_storedRow, keys_storedRow]
      exact sameKeys_refl _
    rw [lines, TableData.readCsv, if_neg (List.cons_ne_nil _ _), names, read, whole, List.map_cons,
      ofRows_dicts keys same, keys_storedRow]
  · rw [if_neg fits, if_neg fits]

/-- A table without columns or rows has an empty file. -/
theorem toCsv_empty {table : TableData String} (empty : table.schema = [] ∨ table.data = []) :
    table.toCsv = .ok [] :=
  if_neg fun present => empty.elim present.1 present.2

theorem readCsvFile_empty (limit : Nat) : readCsvFile limit [] = .ok ⟨[], []⟩ := rfl

/-- **The columns come back if and only if their names are distinct and hold no carriage
return.** -/
theorem storedSchema_eq_iff {schema : List String} :
    storedSchema schema = schema ↔ schema.Nodup ∧ ∀ key ∈ schema, '\r' ∉ key.toList := by
  constructor
  · intro same
    constructor
    · have distinct := @nodup_keys_unseen String String _ id [] (schema.map stored)
      rw [List.map_id] at distinct
      rw [← same]
      exact distinct
    · intro key member
      rw [← same] at member
      have inStored : key ∈ (firstOccurrences id (schema.map stored)).map id := by
        rw [List.map_id]
        exact member
      rw [mem_keys_firstOccurrences, List.map_id] at inStored
      obtain ⟨original, _, isStored⟩ := List.mem_map.mp inStored
      rw [← isStored]
      exact noReturn_stored original
  · rintro ⟨distinct, noReturns⟩
    have kept : schema.map stored = schema := by
      rw [List.map_congr_left fun key member => stored_eq_iff.mpr (noReturns key member)]
      exact List.map_id _
    rw [storedSchema, kept]
    exact unseen_eq_self (by rwa [List.map_id]) fun _ _ => List.not_mem_nil

end Tobiko.Common
