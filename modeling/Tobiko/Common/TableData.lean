import Mathlib.Data.List.Basic
import Tobiko.Foundation.Dictionary
import Tobiko.Foundation.Slice

/-!
Contract: `TableData` in `tobiko/common/_tabledata.py`, a list of dictionaries with a
schema.

Owns: the constructors of a table, its own methods, the ones that it inherits from
`collections.UserList`, and the schema that these infer, check or leave alone. A method that
raises says what it leaves of the table.

Does not own: queries, columns and the texts that are printed. The set of logged columns
is left out, since only messages depend on it.
-/

namespace Tobiko.Common

open Tobiko.Foundation

/-! ### Rows and tables -/

/-- What a caller may put into a table. -/
inductive Item (Value : Type) where
  | dict (row : Dict String Value)
  | tuple (values : List Value)
  | other (value : Value)

/-- `schema` is the attribute `_schema`. Only dictionaries should be in `data`. -/
structure TableData (Value : Type) where
  schema : List String
  data : List (Item Value)

inductive TableError where
  | valueError (message : String)
  | typeError (message : String)
  | notDictionary
  | keysDiffer (expected actual : List String)
  | keyError (key : String)
  | indexError (message : String)
  | attributeError (name : String)
  | external (text : String)
deriving DecidableEq, Repr

/-- What Python does with the values of cells: `left == right`,
`re.sub(pattern, value or '', str(cell))`, and texts as values. -/
structure Cells (Value : Type) where
  equal : Value → Value → Bool
  substitute : Value → Value → Value → Except TableError Value
  text : String → Value

/-- `set(left) == set(right)` -/
def SameKeys (left right : List String) : Prop := left ⊆ right ∧ right ⊆ left

instance (left right : List String) : Decidable (SameKeys left right) := by
  unfold SameKeys
  infer_instance

theorem sameKeys_refl (keys : List String) : SameKeys keys keys :=
  ⟨List.Subset.refl keys, List.Subset.refl keys⟩

theorem sameKeys_of_mem_iff {left right : List String}
    (same : ∀ key, key ∈ left ↔ key ∈ right) : SameKeys left right :=
  ⟨fun key => (same key).mp, fun key => (same key).mpr⟩

section Methods

variable {Value : Type}

/-- The result of a method, and the table after it. -/
abbrev Outcome (Value : Type) := Except TableError Unit × TableData Value

/-- The next statement, unless the first one raises. -/
def Outcome.andThen (first : Outcome Value) (next : TableData Value → Outcome Value) :
    Outcome Value :=
  match first with
  | (.ok _, table) => next table
  | (.error error, table) => (.error error, table)

/-- `for item in items: update(item)` -/
def forEach (update : TableData Value → Item Value → Outcome Value) :
    List (Item Value) → TableData Value → Outcome Value
  | [], table => (.ok (), table)
  | item :: items, table => (update table item).andThen (forEach update items)

namespace TableData

/-- `_validate_item`, which infers the schema from the first item. -/
def validateItem (table : TableData Value) : Item Value → Outcome Value
  | .dict row =>
      if table.schema = [] then
        if row.keys = [] then
          (.error (.valueError
            "Cannot infer schema from an empty dictionary as the first item."), table)
        else (.ok (), { table with schema := row.keys })
      else if SameKeys row.keys table.schema then (.ok (), table)
      else (.error (.keysDiffer table.schema row.keys), table)
  | _ => (.error .notDictionary, table)

/-- `append`. -/
def append (table : TableData Value) (item : Item Value) : Outcome Value :=
  (table.validateItem item).andThen fun table =>
    (.ok (), { table with data := table.data ++ [item] })

/-- `insert`. -/
def insert (table : TableData Value) (index : Int) (item : Item Value) : Outcome Value :=
  (table.validateItem item).andThen fun table =>
    (.ok (), { table with
      data := table.data.insertIdx (insertPosition table.data.length index) item })

/-- `table[index] = item` -/
def setItem (table : TableData Value) (index : Int) (item : Item Value) : Outcome Value :=
  match item with
  | .dict row =>
      (table.validateItem (.dict row)).andThen fun table =>
        match itemPosition table.data.length index with
        | some position => (.ok (), { table with data := table.data.set position (.dict row) })
        | none => (.error (.indexError "list assignment index out of range"), table)
  | _ => (.error (.typeError "Must assign a dictionaries to an index"), table)

/-- `table[slice] = items`, where `items` is a list. -/
def setSlice (table : TableData Value) (slice : Slice) (items : List (Item Value)) :
    Outcome Value :=
  (forEach validateItem items table).andThen fun table =>
    match slice.assign items table.data with
    | some data => (.ok (), { table with data := data })
    | none => (.error (.valueError "attempt to assign sequence to extended slice"), table)

/-- `table += items` -/
def iadd (table : TableData Value) (items : List (Item Value)) : Outcome Value :=
  forEach append items table

/-- `UserList.extend`, which `TableData` inherits. -/
def extend (table : TableData Value) (items : List (Item Value)) : Outcome Value :=
  (.ok (), { table with data := table.data ++ items })

/-- `del table[index]` -/
def delItem (table : TableData Value) (index : Int) : Outcome Value :=
  match itemPosition table.data.length index with
  | some position => (.ok (), { table with data := table.data.eraseIdx position })
  | none => (.error (.indexError "list assignment index out of range"), table)

/-- `del table[slice]` -/
def delSlice (table : TableData Value) (slice : Slice) : Outcome Value :=
  match slice.delete table.data with
  | some data => (.ok (), { table with data := data })
  | none => (.error (.valueError "slice step cannot be zero"), table)

/-- `table.pop(index)` -/
def pop (table : TableData Value) (index : Int) : Outcome Value :=
  match itemPosition table.data.length index with
  | some position => (.ok (), { table with data := table.data.eraseIdx position })
  | none =>
      (.error (.indexError (if table.data.isEmpty then "pop from empty list"
        else "pop index out of range")), table)

/-- `table.remove(item)`, with `item == other` as a predicate. -/
def remove (table : TableData Value) (equal : Item Value → Bool) : Outcome Value :=
  if table.data.any equal then (.ok (), { table with data := table.data.eraseP equal })
  else (.error (.valueError "list.remove(x): x not in list"), table)

/-- `table.clear()` -/
def clear (table : TableData Value) : Outcome Value :=
  (.ok (), { table with data := [] })

/-- `table.reverse()` -/
def reverse (table : TableData Value) : Outcome Value :=
  (.ok (), { table with data := table.data.reverse })

/-- `table.sort(key=...)`, with the order of the keys. -/
def sort (table : TableData Value) (before : Item Value → Item Value → Bool) : Outcome Value :=
  (.ok (), { table with data := table.data.mergeSort before })

/-- `table *= times` -/
def imul (table : TableData Value) (times : Int) : Outcome Value :=
  (.ok (), { table with data := (List.replicate times.toNat table.data).flatten })

end TableData

/-- `item[column]` -/
def Item.column : Item Value → String → Except TableError Value
  | .dict row, column =>
      match row.get? column with
      | some value => .ok value
      | none => .error (.keyError column)
  | _, _ => .error (.typeError "indices must be integers or slices, not str")

/-- The row under its new columns. -/
def Item.rename (item : Item Value) (columns : List (String × String)) :
    Except TableError (Item Value) :=
  (columns.mapM fun pair => (item.column pair.2).map fun value => (pair.1, value)).map
    fun entries => .dict (.ofPairs entries)

/-- `table.columns = columns` -/
def TableData.setColumns (table : TableData Value) (columns : List String) : Outcome Value :=
  if columns.length ≠ table.schema.length then
    (.error (.valueError "Number of new columns must match existing schema"), table)
  else
    match table.data.mapM fun item => item.rename (columns.zip table.schema) with
    | .ok data => (.ok (), ⟨columns, data⟩)
    | .error error => (.error error, table)

/-- The argument `to_replace` of `replace`. -/
inductive ToReplace (Value : Type) where
  | none
  | value (old : Value)
  | columns (patterns : Dict String Value)

structure Replacement (Value : Type) where
  toReplace : ToReplace Value
  value : Value
  regex : Bool

/-- The new value of a cell, for the pattern of its column. -/
def Replacement.apply (replacement : Replacement Value) (cells : Cells Value)
    (pattern cell : Value) : Except TableError Value :=
  if replacement.regex then cells.substitute pattern replacement.value cell
  else .ok (if cells.equal cell pattern then replacement.value else cell)

def Replacement.cell (replacement : Replacement Value) (cells : Cells Value) (column : String)
    (cell : Value) : Except TableError Value :=
  match replacement.toReplace with
  | .none => .ok cell
  | .value pattern => replacement.apply cells pattern cell
  | .columns patterns =>
      match patterns.get? column with
      | some pattern => replacement.apply cells pattern cell
      | none => .ok cell

def Replacement.item (replacement : Replacement Value) (cells : Cells Value) :
    Item Value → Except TableError (Item Value)
  | .dict row =>
      (row.entries.mapM fun entry =>
        (replacement.cell cells entry.1 entry.2).map fun value => (entry.1, value)).map
          fun entries => .dict (.ofPairs entries)
  | _ => .error (.attributeError "items")

/-- The loop of `replace`, which stores each new row at once. -/
def Replacement.items (replacement : Replacement Value) (cells : Cells Value) :
    List (Item Value) → Except TableError Unit × List (Item Value)
  | [] => (.ok (), [])
  | item :: items =>
      match replacement.item cells item with
      | .error error => (.error error, item :: items)
      | .ok newItem =>
          ((replacement.items cells items).1, newItem :: (replacement.items cells items).2)

/-- `table.replace(..., inplace=True)` -/
def TableData.replace (table : TableData Value) (cells : Cells Value)
    (replacement : Replacement Value) : Outcome Value :=
  ((replacement.items cells table.data).1,
    { table with data := (replacement.items cells table.data).2 })

/-! ### Constructors -/

/-- The argument `initial_data`: the items of an iterable. One that has a length is false
when it is empty. -/
structure Initial (Value : Type) where
  items : List (Item Value)
  sized : Bool

def Initial.truthy (initial : Initial Value) : Bool := !initial.sized || !initial.items.isEmpty

/-- The constructed table, or the error. -/
def Outcome.table : Outcome Value → Except TableError (TableData Value)
  | (.ok _, table) => .ok table
  | (.error error, _) => .error error

namespace TableData

/-- The loop over the items when columns are given. -/
def addTuple (columns : List String) (table : TableData Value) : Item Value → Outcome Value
  | .tuple values => table.append (.dict (.ofPairs (columns.zip values)))
  | _ => (.error (.valueError "If columns are provided, all items must be tuples"), table)

/-- The loop over the items after the first one when no columns are given. -/
def addDict (table : TableData Value) : Item Value → Outcome Value
  | .dict row => table.append (.dict row)
  | _ => (.error (.valueError
      "If columns are not provided, all items must be dictionaries"), table)

def initTuples (columns : List String) (items : List (Item Value)) :
    Except TableError (TableData Value) :=
  (forEach (addTuple columns) items ⟨columns, []⟩).table

/-- The schema is that of the first item, which is not validated. -/
def initDicts : List (Item Value) → Except TableError (TableData Value)
  | [] => .ok ⟨[], []⟩
  | .dict row :: items => (forEach addDict items ⟨row.keys, [.dict row]⟩).table
  | _ => .error (.valueError "If columns are not provided, all items must be dictionaries")

/-- `TableData(initial_data, columns)` -/
def init (initial : Initial Value) (columns : List String) :
    Except TableError (TableData Value) :=
  if initial.truthy then
    if columns = [] then initDicts initial.items else initTuples columns initial.items
  else .ok ⟨[], []⟩

/-- `TableData(rows)` -/
def ofRows (rows : List (Item Value)) : Except TableError (TableData Value) :=
  init ⟨rows, true⟩ []

/-- `{col: data_dict[col][i] for col in columns}` -/
def rowAt (columns : List (String × List Value)) (index : Nat) : Dict String Value :=
  .ofPairs (columns.filterMap fun column => column.2[index]?.map fun value => (column.1, value))

/-- `TableData.from_dict` -/
def fromDict (columns : Dict String (List Value)) : Except TableError (TableData Value) :=
  match columns.entries with
  | [] => ofRows []
  | first :: others =>
      if others.all fun column => column.2.length = first.2.length then
        ofRows ((List.range first.2.length).map fun index => .dict (rowAt columns.entries index))
      else .error (.valueError "All columns must have the same number of rows")

/-- `_determine_column_names` -/
def columnNames (lines : List (List String)) (header : Option Nat) (columns : List String) :
    List String :=
  match header.bind fun index => lines[index]? with
  | some names => names
  | none =>
      if columns = [] then (List.range (lines.headD []).length).map toString else columns

/-- `_convert_lines_to_rows` -/
def rowsOfLines (cells : Cells Value) (lines : List (List String)) (names : List String)
    (header : Option Nat) : List (Item Value) :=
  let dataLines := match header with
    | some index => if index < lines.length then lines.drop (index + 1) else lines
    | none => lines
  (dataLines.filter fun line => names.length ≤ line.length).map fun line =>
    .dict (.ofPairs (names.zip (line.map cells.text)))

/-- `TableData.read_csv`, once the lines have been split. -/
def readCsv (cells : Cells Value) (lines : List (List String)) (header : Option Nat)
    (columns : List String) : Except TableError (TableData Value) :=
  if lines = [] then ofRows []
  else ofRows (rowsOfLines cells lines (columnNames lines header columns) header)

/-- `source.replace(...)`, which returns another table. -/
def replaced (source : TableData Value) (cells : Cells Value) (replacement : Replacement Value) :
    Except TableError (TableData Value) :=
  match ofRows source.data with
  | .ok target => (target.replace cells replacement).table
  | .error error => .error error

end TableData

end Methods

end Tobiko.Common
