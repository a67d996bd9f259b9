import Tobiko.Common.TableData

/-!
Contract: the schema of a `TableData` and the keys of its rows.

Owns: the invariant that each row has exactly the columns of the schema as its keys, the
updates of a table as operations, and when these and the constructors establish it and
keep it.
-/

namespace Tobiko.Common

open Tobiko.Foundation

section Schema

variable {Value : Type}

/-- A dictionary with exactly the given columns. -/
def Item.HasKeys (schema : List String) : Item Value → Prop
  | .dict row => SameKeys row.keys schema
  | _ => False

instance (schema : List String) : (item : Item Value) → Decidable (item.HasKeys schema)
  | .dict row => inferInstanceAs (Decidable (SameKeys row.keys schema))
  | .tuple _ => .isFalse id
  | .other _ => .isFalse id

/-- Every row has exactly the columns of the schema as its keys. -/
def TableData.Consistent (table : TableData Value) : Prop :=
  ∀ item ∈ table.data, item.HasKeys table.schema

instance (table : TableData Value) : Decidable table.Consistent :=
  inferInstanceAs (Decidable (∀ item ∈ table.data, item.HasKeys table.schema))

/-! ### How the schema is settled -/

/-- The schema after an item has been validated: the one that there was, or the one that
was inferred. -/
def Settles (before after : List String) : Prop := after ≠ [] ∧ (before = after ∨ before = [])

theorem Settles.trans {first second third : List String} (left : Settles first second)
    (right : Settles second third) : Settles first third := by
  obtain ⟨present, same | none⟩ := right
  · rwa [← same]
  · exact absurd none left.1

theorem Settles.eq {before after : List String} (settles : Settles before after)
    (present : before ≠ []) : before = after := by
  rcases settles.2 with same | none
  · exact same
  · exact absurd none present

theorem not_sameKeys_nil {schema : List String} (present : schema ≠ []) :
    ¬ SameKeys [] schema := by
  rintro ⟨-, within⟩
  exact present (List.subset_nil.mp within)

theorem Item.HasKeys.nil {item : Item Value} (hasKeys : item.HasKeys [])
    {schema : List String} (present : schema ≠ []) : ¬ item.HasKeys schema := by
  cases item with
  | dict row =>
      have none : row.keys = [] := List.subset_nil.mp hasKeys.1
      intro others
      have sameKeys : SameKeys row.keys schema := others
      rw [none] at sameKeys
      exact not_sameKeys_nil present sameKeys
  | tuple values => exact hasKeys.elim
  | other value => exact hasKeys.elim

/-- The rows that stay keep the schema, unless it has just been inferred. -/
theorem hasKeys_of_settles {before after : List String} {rows : List (Item Value)}
    (settles : Settles before after) (consistent : ∀ item ∈ rows, item.HasKeys before) :
    (∀ item ∈ rows, item.HasKeys after) ↔ (before = [] → rows = []) := by
  constructor
  · rintro agrees rfl
    refine List.eq_nil_iff_forall_not_mem.mpr fun item member => ?_
    exact (consistent item member).nil settles.1 (agrees item member)
  · intro noRows item member
    rcases settles.2 with same | none
    · rw [← same]
      exact consistent item member
    · rw [noRows none] at member
      cases member

/-! ### Statements -/

theorem Outcome.andThen_ok {first : Outcome Value} {next : TableData Value → Outcome Value}
    {after : TableData Value} (completes : first.andThen next = (.ok (), after)) :
    ∃ table, first = (.ok (), table) ∧ next table = (.ok (), after) := by
  obtain ⟨result, table⟩ := first
  cases result with
  | error error => cases completes
  | ok done => exact ⟨table, rfl, completes⟩

theorem Outcome.table_ok {outcome : Outcome Value} {table : TableData Value}
    (constructs : outcome.table = .ok table) : outcome = (.ok (), table) := by
  obtain ⟨result, other⟩ := outcome
  cases result with
  | error error => cases constructs
  | ok done =>
      cases constructs
      rfl

theorem validateItem_ok {table after : TableData Value} {item : Item Value}
    (completes : table.validateItem item = (.ok (), after)) :
    item.HasKeys after.schema ∧ after.data = table.data ∧ Settles table.schema after.schema := by
  cases item with
  | tuple values => cases completes
  | other value => cases completes
  | dict row =>
      unfold TableData.validateItem at completes
      simp only at completes
      split at completes
      · rename_i noSchema
        split at completes
        · cases completes
        · rename_i present
          cases completes
          exact ⟨sameKeys_refl row.keys, rfl, present, .inr noSchema⟩
      · rename_i present
        split at completes
        · rename_i same
          cases completes
          exact ⟨same, rfl, present, .inl rfl⟩
        · cases completes

/-- Validating items, the first of which may settle the schema. -/
theorem validateItems_ok {table after : TableData Value} {items : List (Item Value)}
    (completes : forEach TableData.validateItem items table = (.ok (), after)) :
    (∀ item ∈ items, item.HasKeys after.schema) ∧ after.data = table.data ∧
      (items = [] ∧ after.schema = table.schema ∨
        items ≠ [] ∧ Settles table.schema after.schema) := by
  induction items generalizing table with
  | nil =>
      cases completes
      exact ⟨fun _ member => (List.not_mem_nil member).elim, rfl, .inl ⟨rfl, rfl⟩⟩
  | cons head tail inductionHypothesis =>
      obtain ⟨middle, first, rest⟩ := Outcome.andThen_ok completes
      obtain ⟨headKeys, sameData, settles⟩ := validateItem_ok first
      obtain ⟨tailKeys, restData, later⟩ := inductionHypothesis rest
      have whole : Settles table.schema after.schema := by
        rcases later with ⟨-, same⟩ | ⟨-, again⟩
        · rwa [same]
        · exact settles.trans again
      refine ⟨?_, restData.trans sameData, .inr ⟨List.cons_ne_nil _ _, whole⟩⟩
      intro item member
      rcases List.mem_cons.mp member with rfl | inTail
      · rcases later with ⟨-, same⟩ | ⟨-, again⟩
        · rwa [same]
        · rwa [← again.eq settles.1]
      · exact tailKeys item inTail

/-- An update that adds a row which it validates. -/
def Adds (update : TableData Value → Item Value → Outcome Value) : Prop :=
  ∀ table item after, update table item = (.ok (), after) →
    ∃ row : Item Value, row.HasKeys after.schema ∧ after.data = table.data ++ [row] ∧
      Settles table.schema after.schema

theorem adds_append : Adds (TableData.append : TableData Value → Item Value → Outcome Value) := by
  intro table item after completes
  obtain ⟨middle, first, rest⟩ := Outcome.andThen_ok completes
  obtain ⟨hasKeys, sameData, settles⟩ := validateItem_ok first
  cases rest
  exact ⟨item, hasKeys, by rw [sameData], settles⟩

theorem adds_addDict :
    Adds (TableData.addDict : TableData Value → Item Value → Outcome Value) := by
  intro table item after completes
  cases item with
  | dict row => exact adds_append table (.dict row) after completes
  | tuple values => cases completes
  | other value => cases completes

theorem adds_addTuple (columns : List String) :
    Adds (TableData.addTuple columns : TableData Value → Item Value → Outcome Value) := by
  intro table item after completes
  cases item with
  | tuple values => exact adds_append table _ after completes
  | dict row => cases completes
  | other value => cases completes

/-- Adding rows one by one, the first of which may settle the schema. -/
theorem forEach_adds {update : TableData Value → Item Value → Outcome Value}
    (adds : Adds update) {table after : TableData Value} {items : List (Item Value)}
    (completes : forEach update items table = (.ok (), after)) :
    ∃ rows, after.data = table.data ++ rows ∧ (∀ row ∈ rows, row.HasKeys after.schema) ∧
      (items = [] ∧ rows = [] ∧ after.schema = table.schema ∨
        items ≠ [] ∧ Settles table.schema after.schema) := by
  induction items generalizing table with
  | nil =>
      cases completes
      exact ⟨[], (List.append_nil _).symm, fun _ member => (List.not_mem_nil member).elim,
        .inl ⟨rfl, rfl, rfl⟩⟩
  | cons head tail inductionHypothesis =>
      obtain ⟨middle, first, rest⟩ := Outcome.andThen_ok completes
      obtain ⟨row, hasKeys, added, settles⟩ := adds table head middle first
      obtain ⟨rows, addedLater, rowsKeys, later⟩ := inductionHypothesis rest
      have whole : middle.schema = after.schema := by
        rcases later with ⟨-, -, same⟩ | ⟨-, again⟩
        · exact same.symm
        · exact again.eq settles.1
      refine ⟨row :: rows, ?_, ?_, .inr ⟨List.cons_ne_nil _ _, ?_⟩⟩
      · rw [addedLater, added, List.append_assoc, List.singleton_append]
      · intro item member
        rcases List.mem_cons.mp member with rfl | inRows
        · rwa [← whole]
        · exact rowsKeys item inRows
      · rwa [← whole]

/-- After rows were added, the table is consistent when the rows before them are. -/
theorem consistent_of_adds {update : TableData Value → Item Value → Outcome Value}
    (adds : Adds update) {table after : TableData Value} {items : List (Item Value)}
    (consistent : table.Consistent)
    (completes : forEach update items table = (.ok (), after)) :
    after.Consistent ↔ (items ≠ [] → table.schema = [] → table.data = []) := by
  obtain ⟨rows, added, rowsKeys, ⟨none, noRows, same⟩ | ⟨some, settles⟩⟩ :=
    forEach_adds adds completes
  · have kept : after.Consistent := by
      intro item member
      rw [added, noRows, List.append_nil] at member
      rw [same]
      exact consistent item member
    exact ⟨fun _ present => absurd none present, fun _ => kept⟩
  · have before := hasKeys_of_settles settles consistent
    constructor
    · intro agrees _
      refine before.mp fun item member => agrees item ?_
      rw [added]
      exact List.mem_append_left _ member
    · intro noRows item member
      rw [added] at member
      rcases List.mem_append.mp member with old | new
      · exact before.mpr (noRows some) item old
      · exact rowsKeys item new

/-! ### Rows that are rewritten -/

theorem mapM_cons_ok {α β : Type} {next : α → Except TableError β} {head : α} {tail : List α}
    {results : List β} (returns : (head :: tail).mapM next = .ok results) :
    ∃ value values, next head = .ok value ∧ tail.mapM next = .ok values ∧
      results = value :: values := by
  rw [List.mapM_cons] at returns
  cases first : next head with
  | error error =>
      rw [first] at returns
      cases returns
  | ok value =>
      cases others : tail.mapM next with
      | error error =>
          rw [first, others] at returns
          cases returns
      | ok values =>
          rw [first, others] at returns
          cases returns
          exact ⟨value, values, rfl, rfl, rfl⟩

theorem mapM_mem {α β : Type} {next : α → Except TableError β} {items : List α}
    {results : List β} (returns : items.mapM next = .ok results) {result : β}
    (member : result ∈ results) : ∃ item ∈ items, next item = .ok result := by
  induction items generalizing results with
  | nil =>
      cases returns
      cases member
  | cons head tail inductionHypothesis =>
      obtain ⟨value, values, first, others, rfl⟩ := mapM_cons_ok returns
      rcases List.mem_cons.mp member with rfl | inTail
      · exact ⟨head, List.mem_cons_self, first⟩
      · obtain ⟨item, inItems, found⟩ := inductionHypothesis others inTail
        exact ⟨item, List.mem_cons_of_mem _ inItems, found⟩

/-- The keys of the entries that are computed one by one. -/
theorem mapM_keys {α : Type} {next : α → Except TableError Value} {name : α → String}
    {items : List α} {entries : List (String × Value)}
    (returns : (items.mapM fun item => (next item).map fun value => (name item, value)) =
      .ok entries) : entries.map Prod.fst = items.map name := by
  induction items generalizing entries with
  | nil =>
      cases returns
      rfl
  | cons head tail inductionHypothesis =>
      obtain ⟨entry, others, first, rest, rfl⟩ := mapM_cons_ok returns
      cases found : next head with
      | error error =>
          rw [found] at first
          cases first
      | ok value =>
          rw [found] at first
          cases first
          rw [List.map_cons, List.map_cons, inductionHypothesis rest]

/-- A row that is built from computed entries has their names as its keys. -/
theorem hasKeys_of_mapM {α : Type} {next : α → Except TableError Value} (name : α → String)
    {items : List α} {item : Item Value} {schema : List String}
    (returns : ((items.mapM fun item => (next item).map fun value => (name item, value)).map
      fun entries => Item.dict (.ofPairs entries)) = .ok item)
    (same : ∀ key, key ∈ items.map name ↔ key ∈ schema) : item.HasKeys schema := by
  cases computed : items.mapM fun item => (next item).map fun value => (name item, value) with
  | error error =>
      rw [computed] at returns
      cases returns
  | ok entries =>
      rw [computed] at returns
      cases returns
      refine sameKeys_of_mem_iff fun key => ?_
      rw [Dict.mem_keys_ofPairs, mapM_keys computed]
      exact same key

theorem rename_hasKeys {item renamed : Item Value} {columns schema : List String}
    (sameLength : columns.length = schema.length)
    (renames : item.rename (columns.zip schema) = .ok renamed) : renamed.HasKeys columns := by
  refine hasKeys_of_mapM Prod.fst renames fun key => ?_
  rw [List.map_fst_zip (Nat.le_of_eq sameLength)]

theorem SameKeys.trans {first second third : List String} (left : SameKeys first second)
    (right : SameKeys second third) : SameKeys first third :=
  ⟨fun _ member => right.1 (left.1 member), fun _ member => left.2 (right.2 member)⟩

theorem SameKeys.symm {left right : List String} (same : SameKeys left right) :
    SameKeys right left :=
  ⟨same.2, same.1⟩

theorem Replacement.item_hasKeys_iff {replacement : Replacement Value} {cells : Cells Value}
    {item replaced : Item Value} {schema : List String}
    (replaces : replacement.item cells item = .ok replaced) :
    replaced.HasKeys schema ↔ item.HasKeys schema := by
  cases item with
  | tuple values => cases replaces
  | other value => cases replaces
  | dict row =>
      have sameRow : replaced.HasKeys row.keys :=
        hasKeys_of_mapM Prod.fst replaces fun key => Iff.rfl
      cases replaced with
      | tuple values => exact sameRow.elim
      | other value => exact sameRow.elim
      | dict newRow =>
          have same : SameKeys newRow.keys row.keys := sameRow
          exact ⟨fun hasKeys => same.symm.trans hasKeys, fun hasKeys => same.trans hasKeys⟩

theorem Replacement.items_hasKeys_iff {replacement : Replacement Value} {cells : Cells Value}
    {items : List (Item Value)} {schema : List String}
    (completes : (replacement.items cells items).1 = .ok ()) :
    (∀ item ∈ (replacement.items cells items).2, item.HasKeys schema) ↔
      ∀ item ∈ items, item.HasKeys schema := by
  induction items with
  | nil => exact Iff.rfl
  | cons head tail inductionHypothesis =>
      unfold Replacement.items at completes ⊢
      cases replaced : replacement.item cells head with
      | error error => simp [replaced] at completes
      | ok newItem =>
          rw [replaced] at completes
          simp only [List.forall_mem_cons, Replacement.item_hasKeys_iff replaced,
            inductionHypothesis completes]

/-! ### Operations -/

/-- The methods that update a table. -/
inductive Operation (Value : Type) where
  | append (item : Item Value)
  | insert (index : Int) (item : Item Value)
  | extend (items : List (Item Value))
  | iadd (items : List (Item Value))
  | setItem (index : Int) (item : Item Value)
  | setSlice (slice : Slice) (items : List (Item Value))
  | delItem (index : Int)
  | delSlice (slice : Slice)
  | pop (index : Int)
  | remove (equal : Item Value → Bool)
  | clear
  | reverse
  | sort (before : Item Value → Item Value → Bool)
  | imul (times : Int)
  | setColumns (columns : List String)
  | replace (replacement : Replacement Value)

def Operation.run (cells : Cells Value) (operation : Operation Value)
    (table : TableData Value) : Outcome Value :=
  match operation with
  | .append item => table.append item
  | .insert index item => table.insert index item
  | .extend items => table.extend items
  | .iadd items => table.iadd items
  | .setItem index item => table.setItem index item
  | .setSlice slice items => table.setSlice slice items
  | .delItem index => table.delItem index
  | .delSlice slice => table.delSlice slice
  | .pop index => table.pop index
  | .remove equal => table.remove equal
  | .clear => table.clear
  | .reverse => table.reverse
  | .sort before => table.sort before
  | .imul times => table.imul times
  | .setColumns columns => table.setColumns columns
  | .replace replacement => table.replace cells replacement

/-- The operation infers no schema while rows stay, and extends the table by dictionaries
with the columns of the schema only. -/
def Operation.Meets (table : TableData Value) : Operation Value → Prop
  | .append _ | .insert _ _ => table.schema = [] → table.data = []
  | .iadd items => items ≠ [] → table.schema = [] → table.data = []
  | .setItem _ _ => table.schema = [] → table.data.length = 1
  | .setSlice slice items => items ≠ [] → table.schema = [] → slice.kept table.data = []
  | .extend items => ∀ item ∈ items, item.HasKeys table.schema
  | _ => True

section Operations

variable {table after : TableData Value}

/-- An update that keeps the schema and adds no row. -/
theorem consistent_of_subset (consistent : table.Consistent)
    (sameSchema : after.schema = table.schema) (fewer : after.data ⊆ table.data) :
    after.Consistent := by
  intro item member
  rw [sameSchema]
  exact consistent item (fewer member)

theorem insert_consistent_iff {index : Int} {item : Item Value} (consistent : table.Consistent)
    (completes : table.insert index item = (.ok (), after)) :
    after.Consistent ↔ (table.schema = [] → table.data = []) := by
  obtain ⟨middle, first, rest⟩ := Outcome.andThen_ok completes
  obtain ⟨hasKeys, sameData, settles⟩ := validateItem_ok first
  cases rest
  have before := hasKeys_of_settles settles consistent
  have members : ∀ other, other ∈ middle.data.insertIdx
      (insertPosition middle.data.length index) item ↔ other = item ∨ other ∈ table.data := by
    intro other
    rw [List.mem_insertIdx (insertPosition_le _ _), sameData]
  constructor
  · intro agrees
    refine before.mp fun other member => agrees other ?_
    exact (members other).mpr (.inr member)
  · intro noRows other member
    rcases (members other).mp member with rfl | old
    · exact hasKeys
    · exact before.mpr noRows other old

theorem mem_set_iff {items : List (Item Value)} {position : Nat} (item other : Item Value)
    (inside : position < items.length) :
    other ∈ items.set position item ↔
      other = item ∨ ∃ index, index ≠ position ∧ items[index]? = some other := by
  constructor
  · intro member
    obtain ⟨index, present⟩ := List.mem_iff_getElem?.mp member
    by_cases same : position = index
    · subst same
      rw [List.getElem?_set_self inside] at present
      exact .inl (Option.some.inj present).symm
    · rw [List.getElem?_set_ne same] at present
      exact .inr ⟨index, fun other => same other.symm, present⟩
  · rintro (rfl | ⟨index, different, present⟩)
    · exact List.mem_iff_getElem?.mpr ⟨position, List.getElem?_set_self inside⟩
    · refine List.mem_iff_getElem?.mpr ⟨index, ?_⟩
      rw [List.getElem?_set_ne (Ne.symm different), present]

theorem setItem_consistent_iff {index : Int} {item : Item Value} (consistent : table.Consistent)
    (completes : table.setItem index item = (.ok (), after)) :
    after.Consistent ↔ (table.schema = [] → table.data.length = 1) := by
  cases item with
  | tuple values => cases completes
  | other value => cases completes
  | dict row =>
      obtain ⟨middle, first, rest⟩ := Outcome.andThen_ok completes
      obtain ⟨hasKeys, sameData, settles⟩ := validateItem_ok first
      cases designates : itemPosition middle.data.length index with
      | none =>
          rw [designates] at rest
          cases rest
      | some position =>
          rw [designates] at rest
          cases rest
          rw [sameData] at designates
          have inside := itemPosition_lt designates
          have members := fun other : Item Value => mem_set_iff (.dict row) other inside
          constructor
          · intro agrees noSchema
            by_contra several
            -- a row without keys stays at another position
            obtain ⟨other, different, below⟩ :
                ∃ other, other ≠ position ∧ other < table.data.length := by
              by_cases zero : position = 0
              · exact ⟨1, by omega, by omega⟩
              · exact ⟨0, by omega, by omega⟩
            have stays : table.data[other] ∈ middle.data.set position (.dict row) := by
              rw [sameData]
              exact (members _).mpr (.inr ⟨other, different, List.getElem?_eq_getElem below⟩)
            have before := consistent table.data[other] (List.getElem_mem below)
            rw [noSchema] at before
            exact before.nil settles.1 (agrees _ stays)
          · intro alone other member
            rw [sameData] at member
            rcases (members other).mp member with rfl | ⟨stayed, different, present⟩
            · exact hasKeys
            · rcases settles.2 with same | none
              · have before := consistent other (List.mem_of_getElem? present)
                rwa [same] at before
              · have one := alone none
                have below := (List.getElem?_eq_some_iff.mp present).1
                omega

theorem setSlice_consistent_iff {slice : Slice} {items : List (Item Value)}
    (consistent : table.Consistent)
    (completes : table.setSlice slice items = (.ok (), after)) :
    after.Consistent ↔
      (items ≠ [] → table.schema = [] → slice.kept table.data = []) := by
  obtain ⟨middle, first, rest⟩ := Outcome.andThen_ok completes
  obtain ⟨itemsKeys, sameData, settled⟩ := validateItems_ok first
  cases assigns : slice.assign items middle.data with
  | none =>
      rw [assigns] at rest
      cases rest
  | some data =>
      rw [assigns] at rest
      cases rest
      rw [sameData] at assigns
      have members : ∀ item : Item Value,
          (item ∈ data → item ∈ items ∨ item ∈ slice.kept table.data) ∧
            (item ∈ slice.kept table.data → item ∈ data) :=
        fun item => Slice.mem_assign assigns
      have kept : ∀ item ∈ slice.kept table.data, item.HasKeys table.schema :=
        fun item member => consistent item (slice.kept_subset _ member)
      rcases settled with ⟨none, same⟩ | ⟨some, settles⟩
      · refine ⟨fun _ present => absurd none present, fun _ item member => ?_⟩
        rcases (members item).1 member with assigned | stayed
        · exact itemsKeys item assigned
        · have before := kept item stayed
          rwa [← same] at before
      · have before := hasKeys_of_settles settles kept
        constructor
        · intro agrees _
          exact before.mp fun item member => agrees item ((members item).2 member)
        · intro noRows item member
          rcases (members item).1 member with assigned | stayed
          · exact itemsKeys item assigned
          · exact before.mpr (noRows some) item stayed

theorem extend_consistent_iff {items : List (Item Value)} (consistent : table.Consistent)
    (completes : table.extend items = (.ok (), after)) :
    after.Consistent ↔ ∀ item ∈ items, item.HasKeys table.schema := by
  cases completes
  constructor
  · intro agrees item member
    exact agrees item (List.mem_append_right _ member)
  · intro hasKeys item member
    rcases List.mem_append.mp member with old | new
    · exact consistent item old
    · exact hasKeys item new

theorem setColumns_consistent {columns : List String}
    (completes : table.setColumns columns = (.ok (), after)) : after.Consistent := by
  unfold TableData.setColumns at completes
  split at completes
  · cases completes
  · rename_i sameLength
    cases renames : table.data.mapM fun item => item.rename (columns.zip table.schema) with
    | error error =>
        rw [renames] at completes
        cases completes
    | ok data =>
        rw [renames] at completes
        cases completes
        intro item member
        obtain ⟨old, -, renamed⟩ := mapM_mem renames member
        exact rename_hasKeys (not_not.mp sameLength) renamed

theorem replace_consistent_iff {cells : Cells Value} {replacement : Replacement Value}
    (completes : table.replace cells replacement = (.ok (), after)) :
    after.Consistent ↔ table.Consistent := by
  have finished : (replacement.items cells table.data).1 = .ok () :=
    congrArg Prod.fst completes
  have same : after = { table with data := (replacement.items cells table.data).2 } :=
    (congrArg Prod.snd completes).symm
  subst same
  exact Replacement.items_hasKeys_iff finished

/-- An operation that completes keeps the invariant exactly when it meets its condition. -/
theorem Operation.consistent_iff {cells : Cells Value} {operation : Operation Value}
    (consistent : table.Consistent) (completes : operation.run cells table = (.ok (), after)) :
    after.Consistent ↔ operation.Meets table := by
  have always : after.Consistent → (after.Consistent ↔ True) := fun kept =>
    ⟨fun _ => trivial, fun _ => kept⟩
  cases operation with
  | append item =>
      have one : forEach TableData.append [item] table = (.ok (), after) := by
        have alone : (table.append item).andThen (forEach TableData.append []) =
            table.append item := by
          rcases table.append item with ⟨_ | _, _⟩
          · rfl
          · rfl
        exact alone.trans completes
      have added := consistent_of_adds adds_append consistent one
      exact added.trans ⟨fun noRows => noRows (List.cons_ne_nil _ _), fun noRows _ => noRows⟩
  | insert index item => exact insert_consistent_iff consistent completes
  | extend items => exact extend_consistent_iff consistent completes
  | iadd items => exact consistent_of_adds adds_append consistent completes
  | setItem index item => exact setItem_consistent_iff consistent completes
  | setSlice slice items => exact setSlice_consistent_iff consistent completes
  | setColumns columns => exact always (setColumns_consistent completes)
  | replace replacement => exact always ((replace_consistent_iff completes).mpr consistent)
  | delItem index =>
      refine always ?_
      simp only [Operation.run, TableData.delItem] at completes
      split at completes
      · cases completes
        exact consistent_of_subset consistent rfl (List.eraseIdx_subset)
      · cases completes
  | delSlice slice =>
      refine always ?_
      simp only [Operation.run, TableData.delSlice, Slice.delete] at completes
      split at completes
      · rename_i data deletes
        cases completes
        split at deletes
        · cases deletes
        · cases deletes
          exact consistent_of_subset consistent rfl (slice.kept_subset _)
      · cases completes
  | pop index =>
      refine always ?_
      simp only [Operation.run, TableData.pop] at completes
      split at completes
      · cases completes
        exact consistent_of_subset consistent rfl (List.eraseIdx_subset)
      · cases completes
  | remove equal =>
      refine always ?_
      simp only [Operation.run, TableData.remove] at completes
      split at completes
      · cases completes
        exact consistent_of_subset consistent rfl (List.eraseP_subset)
      · cases completes
  | clear =>
      cases completes
      exact always (consistent_of_subset consistent rfl (List.nil_subset _))
  | reverse =>
      cases completes
      exact always (consistent_of_subset consistent rfl
        fun item member => List.mem_reverse.mp member)
  | sort before =>
      cases completes
      exact always (consistent_of_subset consistent rfl
        fun item member => List.mem_mergeSort.mp member)
  | imul times =>
      cases completes
      refine always (consistent_of_subset consistent rfl fun item member => ?_)
      obtain ⟨copy, inCopies, inCopy⟩ := List.mem_flatten.mp member
      rwa [List.eq_of_mem_replicate inCopies] at inCopy

end Operations

/-! ### Constructions -/

/-- The ways to make a table: the constructor, the class methods, and `replace` when it
returns another table. Slices, sums and queries of tables call the constructor. -/
inductive Construction (Value : Type) where
  | init (initial : Initial Value) (columns : List String)
  | fromDict (columns : Dict String (List Value))
  | readCsv (lines : List (List String)) (header : Option Nat) (columns : List String)
  | replaced (source : TableData Value) (replacement : Replacement Value)

def Construction.run (cells : Cells Value) :
    Construction Value → Except TableError (TableData Value)
  | .init initial columns => TableData.init initial columns
  | .fromDict columns => TableData.fromDict columns
  | .readCsv lines header columns => TableData.readCsv cells lines header columns
  | .replaced source replacement => source.replaced cells replacement

/-- A first dictionary without keys is the only item. -/
def FirstHasKeys (items : List (Item Value)) : Prop :=
  ∀ row others, items = .dict row :: others → row.keys = [] → others = []

/-- The items of the constructor do not begin with a dictionary without keys that others
follow. -/
def Construction.Meets : Construction Value → Prop
  | .init initial columns => columns = [] → FirstHasKeys initial.items
  | .fromDict _ => True
  | .readCsv _ _ _ => True
  | .replaced source _ => FirstHasKeys source.data

section Constructions

variable {table : TableData Value}

theorem consistent_nil (schema : List String) :
    TableData.Consistent (⟨schema, []⟩ : TableData Value) :=
  fun _ member => (List.not_mem_nil member).elim

theorem initTuples_consistent {columns : List String} {items : List (Item Value)}
    (constructs : TableData.initTuples columns items = .ok table) : table.Consistent := by
  have completes := Outcome.table_ok constructs
  refine (consistent_of_adds (adds_addTuple columns) (consistent_nil columns) completes).mpr ?_
  exact fun _ _ => rfl

theorem initDicts_consistent_iff {items : List (Item Value)}
    (constructs : TableData.initDicts items = .ok table) :
    table.Consistent ↔ FirstHasKeys items := by
  cases items with
  | nil =>
      cases constructs
      exact ⟨fun _ row others impossible => (by cases impossible), fun _ => consistent_nil []⟩
  | cons first others =>
      cases first with
      | tuple values => cases constructs
      | other value => cases constructs
      | dict row =>
          have completes := Outcome.table_ok constructs
          have start : TableData.Consistent (⟨row.keys, [.dict row]⟩ : TableData Value) := by
            intro item member
            rw [List.mem_singleton.mp member]
            exact sameKeys_refl row.keys
          rw [consistent_of_adds adds_addDict start completes]
          constructor
          · rintro noRows _ _ ⟨⟩ none
            by_contra some
            exact List.cons_ne_nil _ _ (noRows some none)
          · intro alone some none
            exact absurd (alone row others rfl none) some

theorem ofRows_consistent_iff {rows : List (Item Value)}
    (constructs : TableData.ofRows rows = .ok table) :
    table.Consistent ↔ FirstHasKeys rows := by
  unfold TableData.ofRows TableData.init at constructs
  split at constructs
  · exact initDicts_consistent_iff constructs
  · rename_i empty
    cases constructs
    cases rows with
    | nil =>
        exact ⟨fun _ row others impossible => (by cases impossible), fun _ => consistent_nil []⟩
    | cons first others => exact absurd rfl empty

/-- Rows with the same keys: a second row without keys is refused. -/
theorem ofRows_consistent {rows : List (Item Value)} (keys : List String)
    (constructs : TableData.ofRows rows = .ok table)
    (uniform : ∀ item ∈ rows, item.HasKeys keys) : table.Consistent := by
  refine (ofRows_consistent_iff constructs).mpr ?_
  rintro row others rfl none
  cases others with
  | nil => rfl
  | cons second more =>
      exfalso
      have noKeys : keys = [] := by
        have first : SameKeys row.keys keys := uniform _ List.mem_cons_self
        rw [none] at first
        exact List.subset_nil.mp first.2
      have completes := Outcome.table_ok constructs
      obtain ⟨middle, adds, -⟩ := Outcome.andThen_ok completes
      obtain ⟨added, hasKeys, -, settles⟩ := adds_addDict _ _ _ adds
      have secondKeys := uniform second (List.mem_cons_of_mem _ List.mem_cons_self)
      rw [noKeys] at secondKeys
      cases second with
      | tuple values => exact secondKeys
      | other value => exact secondKeys
      | dict other =>
          have otherNone : other.keys = [] := List.subset_nil.mp secondKeys.1
          simp [TableData.addDict, TableData.append, TableData.validateItem, Outcome.andThen,
            none, otherNone] at adds

theorem rowAt_hasKeys {columns : List (String × List Value)} {index : Nat}
    (long : ∀ column ∈ columns, index < column.2.length) :
    Item.HasKeys (columns.map Prod.fst) (.dict (TableData.rowAt columns index)) := by
  refine sameKeys_of_mem_iff fun key => ?_
  rw [TableData.rowAt, Dict.mem_keys_ofPairs, List.map_filterMap]
  constructor
  · intro member
    obtain ⟨column, inColumns, named⟩ := List.mem_filterMap.mp member
    rw [Option.map_map] at named
    obtain ⟨value, -, rfl⟩ := Option.map_eq_some_iff.mp named
    exact List.mem_map.mpr ⟨column, inColumns, rfl⟩
  · intro member
    obtain ⟨column, inColumns, rfl⟩ := List.mem_map.mp member
    refine List.mem_filterMap.mpr ⟨column, inColumns, ?_⟩
    rw [List.getElem?_eq_getElem (long column inColumns)]
    rfl

theorem fromDict_consistent {columns : Dict String (List Value)}
    (constructs : TableData.fromDict columns = .ok table) : table.Consistent := by
  unfold TableData.fromDict at constructs
  split at constructs
  · exact ofRows_consistent [] constructs fun _ member =>
      (List.not_mem_nil member).elim
  · rename_i first others entries
    split at constructs
    · rename_i sameLength
      refine ofRows_consistent (columns.entries.map Prod.fst) constructs fun item member => ?_
      obtain ⟨index, below, rfl⟩ := List.mem_map.mp member
      refine rowAt_hasKeys fun column inColumns => ?_
      rw [entries] at inColumns
      rcases List.mem_cons.mp inColumns with rfl | inOthers
      · exact List.mem_range.mp below
      · have same := of_decide_eq_true (List.all_eq_true.mp sameLength column inOthers)
        rw [same]
        exact List.mem_range.mp below
    · cases constructs

theorem rowsOfLines_hasKeys {cells : Cells Value} {lines : List (List String)}
    {names : List String} {header : Option Nat} :
    ∀ item ∈ TableData.rowsOfLines cells lines names header, item.HasKeys names := by
  intro item member
  obtain ⟨line, filtered, rfl⟩ := List.mem_map.mp member
  have enough := of_decide_eq_true (List.mem_filter.mp filtered).2
  refine sameKeys_of_mem_iff fun key => ?_
  rw [Dict.mem_keys_ofPairs, List.map_fst_zip]
  rwa [List.length_map]

theorem replaced_consistent_iff {cells : Cells Value} {source : TableData Value}
    {replacement : Replacement Value}
    (constructs : source.replaced cells replacement = .ok table) :
    table.Consistent ↔ FirstHasKeys source.data := by
  unfold TableData.replaced at constructs
  cases copies : TableData.ofRows source.data with
  | error error =>
      rw [copies] at constructs
      cases constructs
  | ok target =>
      rw [copies] at constructs
      have completes := Outcome.table_ok constructs
      rw [← ofRows_consistent_iff copies]
      exact replace_consistent_iff completes

theorem Construction.consistent_iff {cells : Cells Value} {construction : Construction Value}
    (constructs : construction.run cells = .ok table) :
    table.Consistent ↔ construction.Meets := by
  cases construction with
  | fromDict columns => exact ⟨fun _ => trivial, fun _ => fromDict_consistent constructs⟩
  | replaced source replacement => exact replaced_consistent_iff constructs
  | readCsv lines header columns =>
      refine ⟨fun _ => trivial, fun _ => ?_⟩
      simp only [Construction.run, TableData.readCsv] at constructs
      split at constructs
      · exact ofRows_consistent [] constructs fun _ member => (List.not_mem_nil member).elim
      · exact ofRows_consistent _ constructs rowsOfLines_hasKeys
  | init initial columns =>
      simp only [Construction.run, TableData.init] at constructs
      split at constructs
      · split at constructs
        · rename_i noColumns
          rw [initDicts_consistent_iff constructs]
          exact ⟨fun first _ => first, fun first => first noColumns⟩
        · rename_i columnsGiven
          exact ⟨fun _ noColumns => absurd noColumns columnsGiven,
            fun _ => initTuples_consistent constructs⟩
      · rename_i empty
        cases constructs
        refine ⟨fun _ _ row others sameItems => ?_, fun _ => consistent_nil []⟩
        simp [Initial.truthy, sameItems] at empty

end Constructions

/-! ### Histories -/

/-- The tables after constructions and operations that are allowed and do not raise. -/
inductive History (cells : Cells Value) (constructed : Construction Value → Prop)
    (operated : TableData Value → Operation Value → Prop) : TableData Value → Prop
  | construct (construction table) (allowed : constructed construction)
      (constructs : construction.run cells = .ok table) :
      History cells constructed operated table
  | operate (table operation after) (history : History cells constructed operated table)
      (allowed : operated table operation)
      (completes : operation.run cells table = (.ok (), after)) :
      History cells constructed operated after

/-- **The schema.** After constructions and updates that meet their conditions, every row
has exactly the columns of the schema. A construction or an update of such a table that
completes without raising leaves a row with other keys exactly when it does not meet its
condition. -/
theorem rows_match_schema (cells : Cells Value) :
    (∀ table, History cells Construction.Meets Operation.Meets table → table.Consistent) ∧
      (∀ construction table, Construction.run cells construction = .ok table →
        (table.Consistent ↔ construction.Meets)) ∧
      ∀ table operation after, TableData.Consistent table →
        Operation.run cells operation table = (.ok (), after) →
          (after.Consistent ↔ operation.Meets table) := by
  refine ⟨fun table history => ?_, fun _ _ => Construction.consistent_iff,
    fun _ _ _ => Operation.consistent_iff⟩
  induction history with
  | construct construction table allowed constructs =>
      exact (Construction.consistent_iff constructs).mpr allowed
  | operate table operation after _ allowed completes inductionHypothesis =>
      exact (Operation.consistent_iff inductionHypothesis completes).mpr allowed

end Schema

/-- Texts as cells, which are replaced when they are equal. -/
def textCells : Cells String where
  equal left right := left == right
  substitute pattern value cell := .ok (if cell = pattern then value else cell)
  text := id

def rowOf (key : String) : Item String := .dict (.ofPairs [(key, "1")])

/-- A table with a column `a`, extended by a row with a column `b`. -/
theorem extend_ignores_schema :
    ¬ ∀ table, History textCells (fun _ => True) (fun _ _ => True) table →
      TableData.Consistent table := by
  intro consistent
  let table : TableData String := ⟨["a"], [rowOf "a"]⟩
  have constructs : (Construction.init ⟨[rowOf "a"], true⟩ []).run textCells = .ok table := rfl
  have completes : (Operation.extend [rowOf "b"]).run textCells table =
      (.ok (), ⟨["a"], [rowOf "a", rowOf "b"]⟩) := rfl
  have history : History textCells (fun _ => True) (fun _ _ => True) _ :=
    .operate table _ _ (.construct _ table trivial constructs) trivial completes
  have wrong : SameKeys ["b"] ["a"] := consistent _ history (rowOf "b") (by simp)
  exact absurd wrong (by decide)

end Tobiko.Common
