import Tobiko.Common.TableSchema

/-!
Contract: what an update of a `TableData` leaves of the table when it raises.

Owns: the updates that validate their items, the items that a validation accepts, and the
updates that leave a table unchanged whenever they raise.

Does not own: the updates that complete, and the ones inherited from `collections.UserList`
that validate nothing.

The validation itself writes the schema of a table that has none, before what follows it may
raise, and `+=` appends each item before it validates the next one.
-/

namespace Tobiko.Common

open Tobiko.Foundation

section Updates

variable {Value : Type}

/-! ### Updates -/

/-- The updates that validate their items. A slice may be assigned something that is no list
of items, and an iterable that is added may raise after the items that it has given. -/
inductive Update (Value : Type) where
  | append (item : Item Value)
  | insert (index : Int) (item : Item Value)
  | setItem (index : Int) (item : Item Value)
  | setSlice (slice : Slice) (items : Option (List (Item Value)))
  | iadd (items : List (Item Value)) (ending : Option TableError)
  | setColumns (columns : List String)

/-- The index is one that `list.insert` can take. -/
def SizedIndex (maxsize : Nat) (index : Int) : Prop := -maxsize - 1 ≤ index ∧ index ≤ maxsize

instance (maxsize : Nat) (index : Int) : Decidable (SizedIndex maxsize index) := by
  unfold SizedIndex
  infer_instance

namespace TableData

/-- `insert`, which raises for an index beyond `sys.maxsize` once the item is validated. -/
def insertSized (maxsize : Nat) (table : TableData Value) (index : Int) (item : Item Value) :
    Outcome Value :=
  if SizedIndex maxsize index then table.insert index item
  else (table.validateItem item).andThen fun table =>
    (.error (.external "OverflowError: Python int too large to convert to C ssize_t"), table)

/-- `table[slice] = items`, with the check of its type. -/
def setSliceChecked (table : TableData Value) (slice : Slice) :
    Option (List (Item Value)) → Outcome Value
  | none => (.error (.typeError "Must assign a list of dictionaries to a slice"), table)
  | some items => table.setSlice slice items

/-- `table += items`, where the iterable may raise in the end. -/
def iaddFrom (table : TableData Value) (items : List (Item Value))
    (ending : Option TableError) : Outcome Value :=
  (table.iadd items).andThen fun table =>
    match ending with
    | none => (.ok (), table)
    | some error => (.error error, table)

end TableData

def Update.run (maxsize : Nat) (update : Update Value) (table : TableData Value) :
    Outcome Value :=
  match update with
  | .append item => table.append item
  | .insert index item => table.insertSized maxsize index item
  | .setItem index item => table.setItem index item
  | .setSlice slice items => table.setSliceChecked slice items
  | .iadd items ending => table.iaddFrom items ending
  | .setColumns columns => table.setColumns columns

/-- Whenever the outcome is an error, the table is the one before. -/
def Outcome.Rollback (outcome : Outcome Value) (table : TableData Value) : Prop :=
  ∀ error after, outcome = (.error error, after) → after = table

/-! ### What a validation accepts -/

/-- The item is valid for a table with the schema. -/
def Item.Fits (schema : List String) : Item Value → Prop
  | .dict row => if schema = [] then row.keys ≠ [] else SameKeys row.keys schema
  | _ => False

/-- The schema once the item has been validated. -/
def Item.settle (schema : List String) : Item Value → List String
  | .dict row => if schema = [] then row.keys else schema
  | _ => schema

def TableData.settle (table : TableData Value) (item : Item Value) : TableData Value :=
  { table with schema := item.settle table.schema }

/-- Each item is valid once the ones before it have been validated. -/
def AllFit : List String → List (Item Value) → Prop
  | _, [] => True
  | schema, item :: items => item.Fits schema ∧ AllFit (item.settle schema) items

/-- The update leaves the table as it is if it raises. -/
def Update.Meets (maxsize : Nat) (table : TableData Value) : Update Value → Prop
  | .append _ | .setColumns _ | .setSlice _ none => True
  | .insert index item => table.schema = [] → item.Fits [] → SizedIndex maxsize index
  | .setItem index item =>
      table.schema = [] → item.Fits [] → (itemPosition table.data.length index).isSome
  | .setSlice slice (some items) =>
      table.schema = [] → ∀ first ∈ items.head?, first.Fits [] →
        AllFit [] items ∧ (slice.assign items table.data).isSome
  | .iadd items ending =>
      ∀ first ∈ items.head?, first.Fits table.schema →
        AllFit table.schema items ∧ ending = none

theorem Item.settle_of_ne_nil {schema : List String} (present : schema ≠ [])
    (item : Item Value) : item.settle schema = schema := by
  cases item with
  | dict row => exact if_neg present
  | tuple values => rfl
  | other value => rfl

theorem Item.Fits.settle_ne_nil {schema : List String} {item : Item Value}
    (fits : item.Fits schema) : item.settle schema ≠ [] := by
  cases item with
  | tuple values => exact fits.elim
  | other value => exact fits.elim
  | dict row =>
      by_cases noSchema : schema = []
      · simp only [Item.Fits, if_pos noSchema] at fits
        simp only [Item.settle, if_pos noSchema]
        exact fits
      · rw [Item.settle_of_ne_nil noSchema]
        exact noSchema

theorem TableData.settle_of_ne_nil {table : TableData Value} (present : table.schema ≠ [])
    (item : Item Value) : table.settle item = table := by
  unfold TableData.settle
  rw [Item.settle_of_ne_nil present]

/-- A first schema is not lost. -/
theorem settle_ne {table : TableData Value} {item : Item Value} (noSchema : table.schema = [])
    (fits : item.Fits table.schema) : table.settle item ≠ table := by
  intro same
  exact fits.settle_ne_nil ((congrArg TableData.schema same).trans noSchema)

theorem validateItem_of_fits {table : TableData Value} {item : Item Value}
    (fits : item.Fits table.schema) : table.validateItem item = (.ok (), table.settle item) := by
  cases item with
  | tuple values => exact fits.elim
  | other value => exact fits.elim
  | dict row =>
      by_cases noSchema : table.schema = []
      · simp only [Item.Fits, if_pos noSchema] at fits
        simp only [TableData.validateItem, TableData.settle, Item.settle, if_pos noSchema,
          if_neg fits]
      · simp only [Item.Fits, if_neg noSchema] at fits
        simp only [TableData.validateItem, TableData.settle, Item.settle, if_neg noSchema,
          if_pos fits]

theorem validateItem_of_not_fits {table : TableData Value} {item : Item Value}
    (fails : ¬ item.Fits table.schema) :
    ∃ error, table.validateItem item = (.error error, table) := by
  cases item with
  | tuple values => exact ⟨_, rfl⟩
  | other value => exact ⟨_, rfl⟩
  | dict row =>
      by_cases noSchema : table.schema = []
      · simp only [Item.Fits, if_pos noSchema, ne_eq, not_not] at fails
        simp only [TableData.validateItem, if_pos noSchema, if_pos fails]
        exact ⟨_, rfl⟩
      · simp only [Item.Fits, if_neg noSchema] at fails
        simp only [TableData.validateItem, if_neg noSchema, if_neg fails]
        exact ⟨_, rfl⟩

/-! ### One item -/

theorem rollback_of_ok {outcome : Outcome Value} {after : TableData Value}
    (completes : outcome = (.ok (), after)) (table : TableData Value) :
    outcome.Rollback table := by
  intro error later raises
  rw [completes] at raises
  cases raises

theorem rollback_of_error {outcome : Outcome Value} {table : TableData Value}
    {error : TableError} (raises : outcome = (.error error, table)) : outcome.Rollback table := by
  intro other after again
  rw [raises] at again
  cases again
  rfl

/-- A raising outcome leaves the given table exactly if it leaves it the table before. -/
theorem rollback_error_iff {table after : TableData Value} {error : TableError} :
    Outcome.Rollback (.error error, after) table ↔ after = table :=
  ⟨fun rollback => rollback error after rfl, fun same => by
    subst same
    exact rollback_of_error rfl⟩

/-- A validation followed by a statement that completes or leaves the table to the validation. -/
theorem validated_rollback_iff {table : TableData Value} {item : Item Value}
    {next : TableData Value → Outcome Value} {completes : Prop}
    (ends : (completes → ∃ after, next (table.settle item) = (.ok (), after)) ∧
      (¬ completes → ∃ error, next (table.settle item) = (.error error, table.settle item))) :
    ((table.validateItem item).andThen next).Rollback table ↔
      (table.schema = [] → item.Fits [] → completes) := by
  by_cases fits : item.Fits table.schema
  · have validated : (table.validateItem item).andThen next = next (table.settle item) := by
      rw [validateItem_of_fits fits]
      rfl
    rw [validated]
    by_cases done : completes
    · obtain ⟨after, ended⟩ := ends.1 done
      exact iff_of_true (rollback_of_ok ended table) fun _ _ => done
    · obtain ⟨error, raised⟩ := ends.2 done
      rw [raised, rollback_error_iff]
      by_cases noSchema : table.schema = []
      · refine iff_of_false (settle_ne noSchema fits) fun meets => done (meets noSchema ?_)
        rw [← noSchema]
        exact fits
      · exact iff_of_true (TableData.settle_of_ne_nil noSchema item)
          fun none => absurd none noSchema
  · obtain ⟨error, raised⟩ := validateItem_of_not_fits fits
    refine iff_of_true ?_ fun noSchema fitsNone => ?_
    · rw [raised]
      exact rollback_of_error rfl
    · rw [← noSchema] at fitsNone
      exact absurd fitsNone fits

theorem insert_rollback_iff {maxsize : Nat} (table : TableData Value) (index : Int)
    (item : Item Value) :
    (table.insertSized maxsize index item).Rollback table ↔
      (table.schema = [] → item.Fits [] → SizedIndex maxsize index) := by
  unfold TableData.insertSized
  by_cases sized : SizedIndex maxsize index
  · rw [if_pos sized]
    exact validated_rollback_iff ⟨fun _ => ⟨_, rfl⟩, fun unsized => absurd sized unsized⟩
  · rw [if_neg sized]
    exact validated_rollback_iff ⟨fun sized' => absurd sized' sized, fun _ => ⟨_, rfl⟩⟩

theorem setItem_rollback_iff (table : TableData Value) (index : Int) (item : Item Value) :
    (table.setItem index item).Rollback table ↔
      (table.schema = [] → item.Fits [] → (itemPosition table.data.length index).isSome) := by
  cases item with
  | tuple values => exact iff_of_true (rollback_of_error rfl) fun _ fits => fits.elim
  | other value => exact iff_of_true (rollback_of_error rfl) fun _ fits => fits.elim
  | dict row =>
      refine validated_rollback_iff ⟨fun inside => ?_, fun outside => ?_⟩
      · obtain ⟨position, designates⟩ := Option.isSome_iff_exists.mp inside
        simp only [TableData.settle, designates]
        exact ⟨_, rfl⟩
      · have designates := Option.not_isSome_iff_eq_none.mp outside
        simp only [TableData.settle, designates]
        exact ⟨_, rfl⟩

theorem setColumns_rollback (table : TableData Value) (columns : List String) :
    (table.setColumns columns).Rollback table := by
  unfold TableData.setColumns
  split
  · exact rollback_of_error rfl
  · split
    · exact rollback_of_ok rfl table
    · exact rollback_of_error rfl

/-! ### Several items -/

/-- What a loop over items does with each of them. -/
structure Validates (update : TableData Value → Item Value → Outcome Value) : Prop where
  fits : ∀ table item, item.Fits table.schema →
    ∃ after, update table item = (.ok (), after) ∧ after.schema = item.settle table.schema
  fails : ∀ table item, ¬ item.Fits table.schema →
    ∃ error, update table item = (.error error, table)

theorem validates_validateItem :
    Validates (TableData.validateItem : TableData Value → Item Value → Outcome Value) where
  fits _ _ fits := ⟨_, validateItem_of_fits fits, rfl⟩
  fails _ _ fails := validateItem_of_not_fits fails

theorem append_of_fits {table : TableData Value} {item : Item Value}
    (fits : item.Fits table.schema) :
    table.append item =
      (.ok (), { table.settle item with data := table.data ++ [item] }) := by
  unfold TableData.append
  rw [validateItem_of_fits fits]
  rfl

theorem validates_append :
    Validates (TableData.append : TableData Value → Item Value → Outcome Value) where
  fits _ _ fits := ⟨_, append_of_fits fits, rfl⟩
  fails table item fails := by
    obtain ⟨error, raised⟩ := validateItem_of_not_fits fails
    refine ⟨error, ?_⟩
    unfold TableData.append
    rw [raised]
    rfl

theorem forEach_of_ok {update : TableData Value → Item Value → Outcome Value}
    {table after : TableData Value} {item : Item Value}
    (updated : update table item = (.ok (), after)) (items : List (Item Value)) :
    forEach update (item :: items) table = forEach update items after := by
  have loop : forEach update (item :: items) table =
      (update table item).andThen (forEach update items) := rfl
  rw [loop, updated]
  rfl

theorem forEach_of_error {update : TableData Value → Item Value → Outcome Value}
    {table after : TableData Value} {item : Item Value} {error : TableError}
    (raised : update table item = (.error error, after)) (items : List (Item Value)) :
    forEach update (item :: items) table = (.error error, after) := by
  have loop : forEach update (item :: items) table =
      (update table item).andThen (forEach update items) := rfl
  rw [loop, raised]
  rfl

theorem append_rollback (table : TableData Value) (item : Item Value) :
    (table.append item).Rollback table := by
  by_cases fits : item.Fits table.schema
  · exact rollback_of_ok (append_of_fits fits) table
  · obtain ⟨error, raised⟩ := validates_append.fails table item fits
    exact rollback_of_error raised

/-- The loop completes exactly if all items are valid. -/
theorem Validates.forEach_cases {update : TableData Value → Item Value → Outcome Value}
    (validates : Validates update) (items : List (Item Value)) (table : TableData Value) :
    (AllFit table.schema items → ∃ after, forEach update items table = (.ok (), after)) ∧
      (¬ AllFit table.schema items →
        ∃ error after, forEach update items table = (.error error, after)) := by
  induction items generalizing table with
  | nil => exact ⟨fun _ => ⟨_, rfl⟩, fun not_fits => absurd trivial not_fits⟩
  | cons item items inductionHypothesis =>
      by_cases fits : item.Fits table.schema
      · obtain ⟨after, updated, settled⟩ := validates.fits table item fits
        have rest := inductionHypothesis after
        rw [settled] at rest
        rw [forEach_of_ok updated]
        exact ⟨fun allFit => rest.1 allFit.2,
          fun notAll => rest.2 fun others => notAll ⟨fits, others⟩⟩
      · obtain ⟨error, raised⟩ := validates.fails table item fits
        refine ⟨fun allFit => absurd allFit.1 fits, fun _ => ⟨error, table, ?_⟩⟩
        exact forEach_of_error raised items

/-- A validation of a table with a schema changes nothing. -/
theorem validateItems_of_ne_nil {table : TableData Value} (present : table.schema ≠ [])
    (items : List (Item Value)) : (forEach TableData.validateItem items table).2 = table := by
  induction items with
  | nil => rfl
  | cons item items inductionHypothesis =>
      by_cases fits : item.Fits table.schema
      · rw [forEach_of_ok (validateItem_of_fits fits), TableData.settle_of_ne_nil present]
        exact inductionHypothesis
      · obtain ⟨error, raised⟩ := validateItem_of_not_fits fits
        rw [forEach_of_error raised]

/-- A slice assignment that raises leaves what the validation of its items leaves. -/
theorem setSlice_cases (table : TableData Value) (slice : Slice) (items : List (Item Value)) :
    (AllFit table.schema items ∧ (slice.assign items table.data).isSome →
        ∃ after, table.setSlice slice items = (.ok (), after)) ∧
      (¬ (AllFit table.schema items ∧ (slice.assign items table.data).isSome) →
        ∃ error, table.setSlice slice items =
          (.error error, (forEach TableData.validateItem items table).2)) := by
  have loop := validates_validateItem.forEach_cases items table
  unfold TableData.setSlice
  by_cases allFit : AllFit table.schema items
  · obtain ⟨validated, completes⟩ := loop.1 allFit
    obtain ⟨-, sameData, -⟩ := validateItems_ok completes
    rw [completes]
    simp only [Outcome.andThen, sameData]
    cases assigned : slice.assign items table.data with
    | none => exact ⟨fun done => absurd done.2 (by simp), fun _ => ⟨_, rfl⟩⟩
    | some data => exact ⟨fun _ => ⟨_, rfl⟩, fun notDone => absurd ⟨allFit, rfl⟩ notDone⟩
  · obtain ⟨error, after, raises⟩ := loop.2 allFit
    rw [raises]
    exact ⟨fun done => absurd done.1 allFit, fun _ => ⟨error, rfl⟩⟩

theorem setSlice_rollback_iff (table : TableData Value) (slice : Slice)
    (items : List (Item Value)) :
    (table.setSlice slice items).Rollback table ↔
      (table.schema = [] → ∀ first ∈ items.head?, first.Fits [] →
        AllFit [] items ∧ (slice.assign items table.data).isSome) := by
  by_cases done : AllFit table.schema items ∧ (slice.assign items table.data).isSome
  · obtain ⟨after, completes⟩ := (setSlice_cases table slice items).1 done
    refine iff_of_true (rollback_of_ok completes table) fun noSchema _ _ _ => ?_
    rw [← noSchema]
    exact done
  · obtain ⟨error, raises⟩ := (setSlice_cases table slice items).2 done
    rw [raises, rollback_error_iff]
    by_cases noSchema : table.schema = []
    · cases items with
      | nil => exact iff_of_true rfl nofun
      | cons first rest =>
          by_cases fits : first.Fits table.schema
          · -- the schema of the first item stays
            have settled : (forEach TableData.validateItem (first :: rest) table).2 =
                table.settle first := by
              rw [forEach_of_ok (validateItem_of_fits fits)]
              exact validateItems_of_ne_nil fits.settle_ne_nil rest
            rw [settled]
            refine iff_of_false (settle_ne noSchema fits) fun meets => done ?_
            rw [noSchema] at fits ⊢
            exact meets noSchema first rfl fits
          · obtain ⟨error, failed⟩ := validateItem_of_not_fits fits
            rw [forEach_of_error failed]
            refine iff_of_true rfl fun _ other isFirst fitsNone => ?_
            cases isFirst
            rw [noSchema] at fits
            exact absurd fitsNone fits
    · exact iff_of_true (validateItems_of_ne_nil noSchema items) fun none => absurd none noSchema

/-- Rows are appended, and none is lost. -/
theorem forEach_append_length (items : List (Item Value)) (table : TableData Value) :
    table.data.length ≤ (forEach TableData.append items table).2.data.length := by
  induction items generalizing table with
  | nil => exact Nat.le_refl _
  | cons item items inductionHypothesis =>
      by_cases fits : item.Fits table.schema
      · rw [forEach_of_ok (append_of_fits fits)]
        refine Nat.le_trans ?_ (inductionHypothesis _)
        rw [List.length_append]
        exact Nat.le_add_right _ _
      · obtain ⟨error, raised⟩ := validates_append.fails table item fits
        exact Nat.le_of_eq (congrArg (fun outcome => outcome.2.data.length)
          (forEach_of_error raised items)).symm

theorem iaddFrom_cases (table : TableData Value) (items : List (Item Value))
    (ending : Option TableError) :
    (AllFit table.schema items ∧ ending = none →
        ∃ after, table.iaddFrom items ending = (.ok (), after)) ∧
      (¬ (AllFit table.schema items ∧ ending = none) →
        ∃ error, table.iaddFrom items ending =
          (.error error, (forEach TableData.append items table).2)) := by
  have loop := validates_append.forEach_cases items table
  unfold TableData.iaddFrom TableData.iadd
  by_cases allFit : AllFit table.schema items
  · obtain ⟨appended, completes⟩ := loop.1 allFit
    rw [completes]
    cases ending with
    | none => exact ⟨fun _ => ⟨_, rfl⟩, fun notDone => absurd ⟨allFit, rfl⟩ notDone⟩
    | some error => exact ⟨fun done => absurd done.2 (by simp), fun _ => ⟨_, rfl⟩⟩
  · obtain ⟨error, after, raises⟩ := loop.2 allFit
    rw [raises]
    exact ⟨fun done => absurd done.1 allFit, fun _ => ⟨error, rfl⟩⟩

theorem iaddFrom_rollback_iff (table : TableData Value) (items : List (Item Value))
    (ending : Option TableError) :
    (table.iaddFrom items ending).Rollback table ↔
      ∀ first ∈ items.head?, first.Fits table.schema →
        AllFit table.schema items ∧ ending = none := by
  by_cases done : AllFit table.schema items ∧ ending = none
  · obtain ⟨after, completes⟩ := (iaddFrom_cases table items ending).1 done
    exact iff_of_true (rollback_of_ok completes table) fun _ _ _ => done
  · obtain ⟨error, raises⟩ := (iaddFrom_cases table items ending).2 done
    rw [raises, rollback_error_iff]
    cases items with
    | nil => exact iff_of_true rfl nofun
    | cons first rest =>
        by_cases fits : first.Fits table.schema
        · refine iff_of_false (fun same => ?_) fun meets => done (meets first rfl fits)
          -- the first row stays
          have longer := forEach_append_length rest
            { table.settle first with data := table.data ++ [first] }
          rw [← forEach_of_ok (append_of_fits fits), same, List.length_append,
            List.length_singleton] at longer
          exact Nat.not_succ_le_self _ longer
        · obtain ⟨error, failed⟩ := validates_append.fails table first fits
          rw [forEach_of_error failed]
          refine iff_of_true rfl fun other isFirst fits' => ?_
          cases isFirst
          exact absurd fits' fits

end Updates

/-- **An update leaves the rows and the schema whenever it raises, exactly if it meets its
condition.** -/
theorem update_rollback_iff (Value : Type) (maxsize : Nat) (update : Update Value)
    (table : TableData Value) :
    (∀ error after, update.run maxsize table = (.error error, after) →
        after.data = table.data ∧ after.schema = table.schema) ↔
      update.Meets maxsize table := by
  have same_iff : (∀ error after, update.run maxsize table = (.error error, after) →
        after.data = table.data ∧ after.schema = table.schema) ↔
      (update.run maxsize table).Rollback table := by
    constructor
    · intro unchanged error after raises
      obtain ⟨sameData, sameSchema⟩ := unchanged error after raises
      cases after
      cases table
      cases sameData
      cases sameSchema
      rfl
    · intro rollback error after raises
      have same := rollback error after raises
      exact ⟨congrArg TableData.data same, congrArg TableData.schema same⟩
  rw [same_iff]
  cases update with
  | append item => exact iff_of_true (append_rollback table item) trivial
  | insert index item => exact insert_rollback_iff table index item
  | setItem index item => exact setItem_rollback_iff table index item
  | setSlice slice items =>
      cases items with
      | none => exact iff_of_true (rollback_of_error rfl) trivial
      | some items => exact setSlice_rollback_iff table slice items
  | iadd items ending => exact iaddFrom_rollback_iff table items ending
  | setColumns columns => exact iff_of_true (setColumns_rollback table columns) trivial

/-- A table with a column `a`, to which a row with a column `a` and one with a column `b` are
added, keeps the first of them. -/
theorem iadd_keeps_first_row :
    ¬ ∀ (update : Update String) (table : TableData String) error after,
      update.run 9223372036854775807 table = (.error error, after) →
        after.data = table.data ∧ after.schema = table.schema := by
  intro unchanged
  have raises : (Update.iadd [rowOf "a", rowOf "b"] none).run 9223372036854775807
        ⟨["a"], [rowOf "a"]⟩ =
      (.error (.keysDiffer ["a"] ["b"]), ⟨["a"], [rowOf "a", rowOf "a"]⟩) := rfl
  have sameLength := congrArg List.length (unchanged _ _ _ _ raises).1
  cases sameLength

end Tobiko.Common
