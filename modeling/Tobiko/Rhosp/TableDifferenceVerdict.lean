import Tobiko.Rhosp.TableDifference

/-!
Contract: the meaning of the comparison of two tables of containers, against what
`tabledata_difference` of `tobiko/rhosp/containers.py` returns.

Owns: the symmetric difference of two tables, exactly when a call returns it, and exactly when a table
that is saved and loaded compares equal to itself.

Does not own: calls with `which`.
-/

namespace Tobiko.Rhosp

open Tobiko.Foundation Tobiko.Common

/-! ### The symmetric difference -/

/-- The rows of a table. -/
def rowsOf (td : TableData String) : List Row :=
  td.data.filterMap fun item =>
    match item with
    | .dict row => some row
    | _ => none

/-- How often a row occurs. -/
def occurrences (row : Row) (rows : List Row) : Nat :=
  rows.countP fun other => decide (other.entries.Perm row.entries)

/-- A row that occurs more often in one table than in the other, with its mark. -/
def Surplus (ignoreContainersList : List String) (left right : List Row) (marked : Row) : Prop :=
  ∃ row, ignores ignoreContainersList row = false ∧
    (occurrences row right < occurrences row left ∧ Dict.Same marked (mark "left_only" row) ∨
      occurrences row left < occurrences row right ∧ Dict.Same marked (mark "right_only" row))

/-- The items are the rows that occur more often in one table than in the other. -/
structure IsDifference (ignoreContainersList : List String) (left right : List Row)
    (items : List (Item String)) : Prop where
  onlySurplus : ∀ item ∈ items, ∃ marked, item = .dict marked ∧
    Surplus ignoreContainersList left right marked
  allSurplus : ∀ marked, Surplus ignoreContainersList left right marked →
    ∃ found, .dict found ∈ items ∧ Dict.Same found marked

/-- The rows of the containers that are not ignored are the same up to their order. -/
def EqualUpToOrder (ignoreContainersList : List String) (left right : List Row) : Prop :=
  ∀ row, ignores ignoreContainersList row = false → occurrences row left = occurrences row right

/-- A call returns the symmetric difference, which is empty for equal tables and for no others. -/
def ComparesRight (order : SetOrder) (ignoreContainersList : List String)
    (td1 td2 : TableData String) : Prop :=
  ∃ result, tabledataDifference order ignoreContainersList td1 td2 none = .ok result ∧
    IsDifference ignoreContainersList (rowsOf td1) (rowsOf td2) result.data ∧
    (result.data = [] ↔ EqualUpToOrder ignoreContainersList (rowsOf td1) (rowsOf td2))

/-- Two rows with the same values, except for the column of the marks. -/
def SameButState (left right : Row) : Prop :=
  ∀ key, key ≠ stateColumn → left.get? key = right.get? key

/-- A row that occurs more often here occurs here only, or one that differs by its column for the
marks does. -/
def Covered (ignoreContainersList : List String) (rows others : List Row) : Prop :=
  ∀ row, ignores ignoreContainersList row = false → occurrences row others < occurrences row rows →
    ∃ other, SameButState other row ∧ 0 < occurrences other rows ∧ occurrences other others = 0

/-- The names of the containers can be looked at, or need not be. -/
def CanIgnore (ignoreContainersList : List String) (td1 td2 : TableData String) : Prop :=
  ignoreContainersList = [] ∨ nameColumn ∈ td1.schema ∨
    ∀ row, 0 < occurrences row (rowsOf td1) ↔ 0 < occurrences row (rowsOf td2)

section Occurrences

variable {rows left right : List Row} {row other : Row}

theorem occurrences_pos : 0 < occurrences row rows ↔ ∃ other ∈ rows, Dict.Same other row := by
  rw [occurrences, List.countP_pos_iff]
  simp [Dict.Same]

theorem occurrences_congr (same : Dict.Same row other) :
    occurrences row rows = occurrences other rows := by
  unfold occurrences
  apply List.countP_congr
  intro candidate _
  rw [decide_eq_true_iff, decide_eq_true_iff]
  exact ⟨fun isRow => Dict.Same.trans isRow same, fun isOther => Dict.Same.trans isOther same.symm⟩

theorem mem_keys_iff_occurrences :
    rowToHashable row ∈ (rowsByKey rows).keys ↔ 0 < occurrences row rows := by
  rw [mem_keys_rowsByKey, occurrences_pos]
  constructor
  · rintro ⟨other, member, same⟩
    exact ⟨other, member, rowToHashable_eq_iff.mp same⟩
  · rintro ⟨other, member, same⟩
    exact ⟨other, member, rowToHashable_eq_iff.mpr same⟩

theorem not_mem_keys_iff :
    decide (rowToHashable row ∉ (rowsByKey rows).keys) = true ↔ occurrences row rows = 0 := by
  rw [decide_eq_true_iff, mem_keys_iff_occurrences]
  omega

/-- **The rows on one side only.**  Each of them is a row of that side with its mark. -/
theorem of_mem_oneSided {order : SetOrder} {marked : Row}
    (member : marked ∈ oneSided order left right) :
    (∃ row, 0 < occurrences row left ∧ occurrences row right = 0 ∧ marked = mark "left_only" row) ∨
      ∃ row, 0 < occurrences row right ∧ occurrences row left = 0 ∧
        marked = mark "right_only" row := by
  rcases List.mem_append.mp member with isLeft | isRight
  · obtain ⟨row, inRows, isKept, isMarked⟩ := of_mem_markRows isLeft
    exact .inl ⟨row, occurrences_pos.mpr ⟨row, inRows, .refl row⟩, not_mem_keys_iff.mp isKept,
      isMarked⟩
  · obtain ⟨row, inRows, isKept, isMarked⟩ := of_mem_markRows isRight
    exact .inr ⟨row, occurrences_pos.mpr ⟨row, inRows, .refl row⟩, not_mem_keys_iff.mp isKept,
      isMarked⟩

theorem exists_mem_oneSided_left (order : SetOrder) (here : 0 < occurrences row left)
    (notThere : occurrences row right = 0) :
    ∃ other, Dict.Same other row ∧ mark "left_only" other ∈ oneSided order left right := by
  obtain ⟨candidate, inRows, same⟩ := occurrences_pos.mp here
  rw [← occurrences_congr same] at notThere
  obtain ⟨other, sameOther, member⟩ := @exists_mem_markRows order left
    (fun key => decide (key ∉ (rowsByKey right).keys)) "left_only" candidate inRows
    (not_mem_keys_iff.mpr notThere)
  exact ⟨other, sameOther.trans same, List.mem_append_left _ member⟩

theorem exists_mem_oneSided_right (order : SetOrder) (there : 0 < occurrences row right)
    (notHere : occurrences row left = 0) :
    ∃ other, Dict.Same other row ∧ mark "right_only" other ∈ oneSided order left right := by
  obtain ⟨candidate, inRows, same⟩ := occurrences_pos.mp there
  rw [← occurrences_congr same] at notHere
  obtain ⟨other, sameOther, member⟩ := @exists_mem_markRows order right
    (fun key => decide (key ∉ (rowsByKey left).keys)) "right_only" candidate inRows
    (not_mem_keys_iff.mpr notHere)
  exact ⟨other, sameOther.trans same, List.mem_append_right _ member⟩

theorem oneSided_eq_nil_iff {order : SetOrder} :
    oneSided order left right = [] ↔
      ∀ row, 0 < occurrences row left ↔ 0 < occurrences row right := by
  constructor
  · intro none row
    constructor
    · intro here
      by_contra notThere
      have absent : occurrences row right = 0 := by omega
      obtain ⟨other, _, member⟩ := exists_mem_oneSided_left order here absent
      rw [none] at member
      cases member
    · intro there
      by_contra notHere
      have absent : occurrences row left = 0 := by omega
      obtain ⟨other, _, member⟩ := exists_mem_oneSided_right order there absent
      rw [none] at member
      cases member
  · intro both
    apply List.eq_nil_iff_forall_not_mem.mpr
    intro marked member
    rcases of_mem_oneSided member with ⟨row, here, notThere, _⟩ | ⟨row, there, notHere, _⟩
    · have there := (both row).mp here
      omega
    · have here := (both row).mpr there
      omega

theorem mark_same_iff {state : String} {left right : Row} :
    Dict.Same (mark state left) (mark state right) ↔ SameButState left right := by
  rw [Dict.same_iff]
  constructor
  · intro same key notState
    have values := same key
    rw [get?_mark, get?_mark, if_neg notState, if_neg notState] at values
    exact values
  · intro same key
    rw [get?_mark, get?_mark]
    by_cases isState : key = stateColumn
    · rw [if_pos isState, if_pos isState]
    · rw [if_neg isState, if_neg isState, same key isState]

theorem mark_not_same {first second : String} (different : first ≠ second) (left right : Row) :
    ¬ Dict.Same (mark first left) (mark second right) := by
  intro same
  have values := Dict.same_iff.mp same stateColumn
  rw [get?_mark, get?_mark, if_pos rfl, if_pos rfl] at values
  exact different (Option.some.inj values)

theorem ignores_of_sameButState {ignoreContainersList : List String} {left right : Row}
    (same : SameButState left right) :
    ignores ignoreContainersList left = ignores ignoreContainersList right :=
  ignores_congr (same nameColumn (by decide))

end Occurrences

/-! ### When the difference is returned -/

section Verdict

variable {order : SetOrder} {ignoreContainersList : List String} {left right : List Row}

/-- The difference is empty for equal tables and for no others. -/
theorem IsDifference.nil_iff {items : List (Item String)}
    (difference : IsDifference ignoreContainersList left right items) :
    items = [] ↔ EqualUpToOrder ignoreContainersList left right := by
  constructor
  · intro none row notIgnored
    by_contra differs
    rcases Nat.lt_or_gt_of_ne differs with fewer | more
    · obtain ⟨found, member, _⟩ := difference.allSurplus (mark "right_only" row)
        ⟨row, notIgnored, .inr ⟨fewer, .refl _⟩⟩
      rw [none] at member
      cases member
    · obtain ⟨found, member, _⟩ := difference.allSurplus (mark "left_only" row)
        ⟨row, notIgnored, .inl ⟨more, .refl _⟩⟩
      rw [none] at member
      cases member
  · intro equal
    apply List.eq_nil_iff_forall_not_mem.mpr
    intro item member
    obtain ⟨marked, _, row, notIgnored, ⟨more, _⟩ | ⟨fewer, _⟩⟩ :=
      difference.onlySurplus item member
    · exact absurd (equal row notIgnored) (Nat.ne_of_gt more)
    · exact absurd (equal row notIgnored) (Nat.ne_of_lt fewer)

/-- The rows that are returned. -/
def returnedItems (order : SetOrder) (ignoreContainersList : List String) (left right : List Row) :
    List (Item String) :=
  ((oneSided order left right).filter fun row => !ignores ignoreContainersList row).map Item.dict

theorem mem_returnedItems {item : Item String} :
    item ∈ returnedItems order ignoreContainersList left right ↔
      ∃ marked ∈ oneSided order left right, ignores ignoreContainersList marked = false ∧
        item = .dict marked := by
  rw [returnedItems, List.mem_map]
  constructor
  · rintro ⟨marked, kept, isDict⟩
    obtain ⟨isOneSided, notIgnored⟩ := List.mem_filter.mp kept
    exact ⟨marked, isOneSided, (Bool.not_eq_true' _).mp notIgnored, isDict.symm⟩
  · rintro ⟨marked, isOneSided, notIgnored, isDict⟩
    have kept : marked ∈ (oneSided order left right).filter fun row =>
        !ignores ignoreContainersList row :=
      List.mem_filter.mpr ⟨isOneSided, (Bool.not_eq_true' _).mpr notIgnored⟩
    exact ⟨marked, kept, isDict.symm⟩

/-- A row on the left side only is returned, unless it is ignored. -/
theorem exists_mem_returnedItems_left {row : Row}
    (notIgnored : ignores ignoreContainersList row = false) (here : 0 < occurrences row left)
    (notThere : occurrences row right = 0) :
    ∃ other, Dict.Same other row ∧ .dict (mark "left_only" other) ∈
      returnedItems order ignoreContainersList left right := by
  obtain ⟨other, same, member⟩ := exists_mem_oneSided_left order here notThere
  have kept : ignores ignoreContainersList (mark "left_only" other) = false := by
    rw [ignores_mark, ignores_congr (Dict.same_iff.mp same nameColumn), notIgnored]
  exact ⟨other, same, mem_returnedItems.mpr ⟨_, member, kept, rfl⟩⟩

theorem exists_mem_returnedItems_right {row : Row}
    (notIgnored : ignores ignoreContainersList row = false) (there : 0 < occurrences row right)
    (notHere : occurrences row left = 0) :
    ∃ other, Dict.Same other row ∧ .dict (mark "right_only" other) ∈
      returnedItems order ignoreContainersList left right := by
  obtain ⟨other, same, member⟩ := exists_mem_oneSided_right order there notHere
  have kept : ignores ignoreContainersList (mark "right_only" other) = false := by
    rw [ignores_mark, ignores_congr (Dict.same_iff.mp same nameColumn), notIgnored]
  exact ⟨other, same, mem_returnedItems.mpr ⟨_, member, kept, rfl⟩⟩

theorem onlySurplus_returnedItems {item : Item String}
    (member : item ∈ returnedItems order ignoreContainersList left right) :
    ∃ marked, item = .dict marked ∧ Surplus ignoreContainersList left right marked := by
  obtain ⟨marked, isOneSided, notIgnored, isDict⟩ := mem_returnedItems.mp member
  refine ⟨marked, isDict, ?_⟩
  rcases of_mem_oneSided isOneSided with ⟨row, here, notThere, same⟩ | ⟨row, there, notHere, same⟩
  · rw [same, ignores_mark] at notIgnored
    have more : occurrences row right < occurrences row left := by omega
    rw [same]
    exact ⟨row, notIgnored, .inl ⟨more, .refl _⟩⟩
  · rw [same, ignores_mark] at notIgnored
    have fewer : occurrences row left < occurrences row right := by omega
    rw [same]
    exact ⟨row, notIgnored, .inr ⟨fewer, .refl _⟩⟩

/-- **What is returned is the difference if and only if every surplus row is covered.** -/
theorem isDifference_returnedItems_iff :
    IsDifference ignoreContainersList left right
        (returnedItems order ignoreContainersList left right) ↔
      Covered ignoreContainersList left right ∧ Covered ignoreContainersList right left := by
  constructor
  · intro difference
    constructor
    · intro row notIgnored more
      obtain ⟨found, member, same⟩ := difference.allSurplus (mark "left_only" row)
        ⟨row, notIgnored, .inl ⟨more, .refl _⟩⟩
      obtain ⟨marked, isOneSided, _, isDict⟩ := mem_returnedItems.mp member
      cases isDict
      rcases of_mem_oneSided isOneSided with ⟨other, here, notThere, isMarked⟩ |
        ⟨other, _, _, isMarked⟩
      · rw [isMarked, mark_same_iff] at same
        exact ⟨other, same, here, notThere⟩
      · rw [isMarked] at same
        exact absurd same (mark_not_same (by decide) _ _)
    · intro row notIgnored fewer
      obtain ⟨found, member, same⟩ := difference.allSurplus (mark "right_only" row)
        ⟨row, notIgnored, .inr ⟨fewer, .refl _⟩⟩
      obtain ⟨marked, isOneSided, _, isDict⟩ := mem_returnedItems.mp member
      cases isDict
      rcases of_mem_oneSided isOneSided with ⟨other, _, _, isMarked⟩ |
        ⟨other, there, notHere, isMarked⟩
      · rw [isMarked] at same
        exact absurd same (mark_not_same (by decide) _ _)
      · rw [isMarked, mark_same_iff] at same
        exact ⟨other, same, there, notHere⟩
  · rintro ⟨coveredLeft, coveredRight⟩
    constructor
    · exact fun item member => onlySurplus_returnedItems member
    · rintro marked ⟨row, notIgnored, ⟨more, isMarked⟩ | ⟨fewer, isMarked⟩⟩
      · obtain ⟨other, same, here, notThere⟩ := coveredLeft row notIgnored more
        rw [← ignores_of_sameButState same] at notIgnored
        obtain ⟨found, sameFound, member⟩ :=
          @exists_mem_returnedItems_left order _ _ _ other notIgnored here notThere
        exact ⟨_, member, ((sameFound.set _ _).trans (mark_same_iff.mpr same)).trans isMarked.symm⟩
      · obtain ⟨other, same, there, notHere⟩ := coveredRight row notIgnored fewer
        rw [← ignores_of_sameButState same] at notIgnored
        obtain ⟨found, sameFound, member⟩ :=
          @exists_mem_returnedItems_right order _ _ _ other notIgnored there notHere
        exact ⟨_, member, ((sameFound.set _ _).trans (mark_same_iff.mpr same)).trans isMarked.symm⟩

theorem returnedItems_eq_nil_iff {left right : List Row} :
    returnedItems order ignoreContainersList left right = [] ↔
      ∀ row, ignores ignoreContainersList row = false →
        (0 < occurrences row left ↔ 0 < occurrences row right) := by
  constructor
  · intro none row notIgnored
    have nothing : ∀ item, item ∉ returnedItems order ignoreContainersList left right := by
      rw [none]
      exact fun _ => List.not_mem_nil
    constructor
    · intro here
      by_contra notThere
      have absent : occurrences row right = 0 := by omega
      obtain ⟨other, _, member⟩ :=
        @exists_mem_returnedItems_left order _ _ _ row notIgnored here absent
      exact nothing _ member
    · intro there
      by_contra notHere
      have absent : occurrences row left = 0 := by omega
      obtain ⟨other, _, member⟩ :=
        @exists_mem_returnedItems_right order _ _ _ row notIgnored there absent
      exact nothing _ member
  · intro both
    apply List.eq_nil_iff_forall_not_mem.mpr
    intro item member
    obtain ⟨marked, isOneSided, notIgnored, _⟩ := mem_returnedItems.mp member
    rcases of_mem_oneSided isOneSided with ⟨row, here, notThere, same⟩ | ⟨row, there, notHere, same⟩
    · rw [same, ignores_mark] at notIgnored
      have there := (both row notIgnored).mp here
      omega
    · rw [same, ignores_mark] at notIgnored
      have here := (both row notIgnored).mpr there
      omega

end Verdict

section Tables

variable {order : SetOrder} {ignoreContainersList : List String} {td1 td2 : TableData String}

theorem rowsOf_dicts (schema : List String) (rows : List Row) :
    rowsOf ⟨schema, rows.map Item.dict⟩ = rows := by
  rw [rowsOf, List.filterMap_map]
  exact List.filterMap_some

theorem rowsOf_spec (consistent : td1.Consistent) :
    td1.data = (rowsOf td1).map Item.dict ∧ ∀ row ∈ rowsOf td1, SameKeys row.keys td1.schema := by
  obtain ⟨rows, data, same⟩ := consistent.rows
  have isRows : rowsOf td1 = rows := by
    rw [← rowsOf_dicts td1.schema rows, ← data]
  rw [isRows]
  exact ⟨data, same⟩

/-- **What a call returns.**  It raises if the schemas differ, or if names are looked for where there
are none. -/
theorem tabledataDifference_ok_iff (consistent1 : td1.Consistent) (consistent2 : td2.Consistent)
    {items : List (Item String)} :
    (∃ result, tabledataDifference order ignoreContainersList td1 td2 none = .ok result ∧
        result.data = items) ↔
      td1.schema = td2.schema ∧ CanIgnore ignoreContainersList td1 td2 ∧
        items = returnedItems order ignoreContainersList (rowsOf td1) (rowsOf td2) := by
  obtain ⟨leftData, leftSame⟩ := rowsOf_spec consistent1
  obtain ⟨rightData, rightSame⟩ := rowsOf_spec consistent2
  by_cases schema : td1.schema = td2.schema
  · rw [← schema] at rightSame
    rw [CanIgnore, ← @oneSided_eq_nil_iff _ _ order]
    by_cases named : ignoreContainersList = [] ∨ nameColumn ∈ td1.schema ∨
        oneSided order (rowsOf td1) (rowsOf td2) = []
    · obtain ⟨result, returns, data⟩ := tabledataDifference_returns schema leftData rightData
        leftSame rightSame named
      rw [returns]
      constructor
      · rintro ⟨other, same, isItems⟩
        cases same
        exact ⟨schema, named, isItems.symm.trans data⟩
      · rintro ⟨_, _, isItems⟩
        exact ⟨result, rfl, data.trans isItems.symm⟩
    · obtain ⟨ignored, unnamed, some⟩ : ignoreContainersList ≠ [] ∧ nameColumn ∉ td1.schema ∧
          oneSided order (rowsOf td1) (rowsOf td2) ≠ [] := by
        rw [not_or, not_or] at named
        exact named
      rw [tabledataDifference_raises schema leftData rightData leftSame rightSame ignored unnamed
        some]
      constructor
      · rintro ⟨_, impossible, _⟩
        cases impossible
      · rintro ⟨_, can, _⟩
        exact absurd can named
  · rw [tabledataDifference, if_pos schema]
    constructor
    · rintro ⟨_, impossible, _⟩
      cases impossible
    · rintro ⟨same, _⟩
      exact absurd same schema

theorem comparesRight_iff (consistent1 : td1.Consistent) (consistent2 : td2.Consistent) :
    ComparesRight order ignoreContainersList td1 td2 ↔
      td1.schema = td2.schema ∧ CanIgnore ignoreContainersList td1 td2 ∧
        Covered ignoreContainersList (rowsOf td1) (rowsOf td2) ∧
        Covered ignoreContainersList (rowsOf td2) (rowsOf td1) := by
  constructor
  · rintro ⟨result, returns, difference, _⟩
    obtain ⟨schema, can, items⟩ :=
      (tabledataDifference_ok_iff consistent1 consistent2).mp ⟨result, returns, rfl⟩
    rw [items] at difference
    exact ⟨schema, can, isDifference_returnedItems_iff.mp difference⟩
  · rintro ⟨schema, can, covered⟩
    obtain ⟨result, returns, items⟩ :=
      (@tabledataDifference_ok_iff order _ _ _ consistent1 consistent2 _).mpr ⟨schema, can, rfl⟩
    have difference := (@isDifference_returnedItems_iff order _ _ _).mpr covered
    rw [← items] at difference
    exact ⟨result, returns, difference, difference.nil_iff⟩

/-- The rows of a table have no column that its schema lacks. -/
theorem get?_of_not_mem_schema (consistent : td1.Consistent) {key : String}
    (absent : key ∉ td1.schema) {row : Row} (occurs : 0 < occurrences row (rowsOf td1)) :
    row.get? key = none := by
  obtain ⟨other, member, same⟩ := occurrences_pos.mp occurs
  rw [← Dict.same_iff.mp same key, ← Option.not_isSome_iff_eq_none, Dict.isSome_get?]
  exact fun isKey => absent (((rowsOf_spec consistent).2 other member).1 isKey)

/-- **When nothing is returned.**  The tables have to agree on which rows there are, for the containers
that are not ignored. -/
theorem returnsNothing_iff (consistent1 : td1.Consistent) (consistent2 : td2.Consistent) :
    (∃ result, tabledataDifference order ignoreContainersList td1 td2 none = .ok result ∧
        result.data = []) ↔
      td1.schema = td2.schema ∧ ∀ row, ignores ignoreContainersList row = false →
        (0 < occurrences row (rowsOf td1) ↔ 0 < occurrences row (rowsOf td2)) := by
  rw [tabledataDifference_ok_iff consistent1 consistent2, @eq_comm _ [] _,
    returnedItems_eq_nil_iff]
  constructor
  · rintro ⟨schema, _, agrees⟩
    exact ⟨schema, agrees⟩
  · rintro ⟨schema, agrees⟩
    refine ⟨schema, ?_, agrees⟩
    by_cases ignored : ignoreContainersList = []
    · exact .inl ignored
    · by_cases named : nameColumn ∈ td1.schema
      · exact .inr (.inl named)
      · -- Without names no row is ignored.
        have kept : ∀ row, row.get? nameColumn = none →
            ignores ignoreContainersList row = false := by
          intro row noName
          rw [ignores, noName]
          rfl
        right
        right
        intro row
        constructor
        · intro here
          exact (agrees row (kept row
            (get?_of_not_mem_schema consistent1 named here))).mp here
        · intro there
          exact (agrees row (kept row
            (get?_of_not_mem_schema consistent2 (schema ▸ named) there))).mpr there

/-- Without a column for the marks a surplus row has to occur on one side only. -/
theorem covered_iff_of_no_state (consistent : td1.Consistent) (noState : stateColumn ∉ td1.schema)
    {others : List Row} :
    Covered ignoreContainersList (rowsOf td1) others ↔
      ∀ row, ignores ignoreContainersList row = false →
        occurrences row others < occurrences row (rowsOf td1) → occurrences row others = 0 := by
  constructor
  · intro covered row notIgnored more
    obtain ⟨other, same, here, notThere⟩ := covered row notIgnored more
    have equal : Dict.Same other row := by
      apply Dict.same_iff.mpr
      intro key
      by_cases isState : key = stateColumn
      · rw [isState, get?_of_not_mem_schema consistent noState here,
          get?_of_not_mem_schema consistent noState (Nat.zero_lt_of_lt more)]
      · exact same key isState
    rw [← occurrences_congr equal]
    exact notThere
  · intro oneSide row notIgnored more
    exact ⟨row, fun _ _ => rfl, Nat.zero_lt_of_lt more, oneSide row notIgnored more⟩

theorem covered_both_iff (consistent1 : td1.Consistent) (consistent2 : td2.Consistent)
    (schema : td1.schema = td2.schema) (noState : stateColumn ∉ td1.schema) :
    Covered ignoreContainersList (rowsOf td1) (rowsOf td2) ∧
        Covered ignoreContainersList (rowsOf td2) (rowsOf td1) ↔
      ∀ row, ignores ignoreContainersList row = false →
        occurrences row (rowsOf td1) = occurrences row (rowsOf td2) ∨
          occurrences row (rowsOf td1) = 0 ∨ occurrences row (rowsOf td2) = 0 := by
  rw [covered_iff_of_no_state consistent1 noState,
    covered_iff_of_no_state consistent2 (schema ▸ noState)]
  constructor
  · rintro ⟨onLeft, onRight⟩ row notIgnored
    have left := onLeft row notIgnored
    have right := onRight row notIgnored
    omega
  · intro agrees
    constructor
    · intro row notIgnored more
      have := agrees row notIgnored
      omega
    · intro row notIgnored fewer
      have := agrees row notIgnored
      omega

end Tables

/-! ### A table that is saved and loaded -/

/-- A table that is written to a file and loaded from it compares equal to the original. -/
def SavedComparesEqual (order : SetOrder) (ignoreContainersList : List String) (limit : Nat)
    (td : TableData String) : Prop :=
  ∃ text loaded result, td.toCsv = .ok text ∧ readCsvFile limit text = .ok loaded ∧
    tabledataDifference order ignoreContainersList loaded td none = .ok result ∧ result.data = []

/-- The row with the newlines of its values as they are read from a file. -/
def loadedRow (row : Row) : Row where
  entries := row.entries.map fun entry => (entry.1, stored entry.2)
  distinct := by
    rw [List.map_map]
    exact row.distinct

/-- No value of the row holds a carriage return. -/
def NoReturns (row : Row) : Prop := ∀ entry ∈ row.entries, '\r' ∉ entry.2.toList

/-- What a table has to be like to survive its file. -/
structure Survives (ignoreContainersList : List String) (limit : Nat) (td : TableData String) :
    Prop where
  hasRows : td.data ≠ []
  hasColumns : td.schema ≠ []
  distinct : td.schema.Nodup
  columnsPlain : ∀ key ∈ td.schema, '\r' ∉ key.toList
  fits : FitsFile limit td.schema (rowsOf td)
  rowsPlain : ∀ row ∈ rowsOf td, NoReturns row ∨
    ignores ignoreContainersList row = true ∧
      (0 < occurrences (loadedRow row) (rowsOf td) ∨
        ignores ignoreContainersList (loadedRow row) = true)

section Saved

variable {order : SetOrder} {ignoreContainersList : List String} {limit : Nat}
  {td : TableData String}

theorem get?_loadedRow (row : Row) (key : String) :
    (loadedRow row).get? key = (row.get? key).map stored := by
  unfold loadedRow Dict.get?
  dsimp only
  induction row.entries with
  | nil => rfl
  | cons entry entries inductionHypothesis =>
      rw [List.map_cons, Dict.lookup_cons_eq, Dict.lookup_cons_eq, inductionHypothesis]
      by_cases same : key = entry.1
      · rw [if_pos same, if_pos same]
        rfl
      · rw [if_neg same, if_neg same]

theorem noReturns_iff {row : Row} : NoReturns row ↔ Dict.Same (loadedRow row) row := by
  rw [Dict.same_iff]
  constructor
  · intro noReturns key
    rw [get?_loadedRow]
    cases value : row.get? key with
    | none => rfl
    | some text =>
        rw [Option.map_some, stored_eq_iff.mpr (noReturns _ (Dict.mem_entries_iff.mpr value))]
  · rintro same ⟨key, text⟩ member
    have value := Dict.mem_entries_iff.mp member
    have kept := same key
    rw [get?_loadedRow, value, Option.map_some] at kept
    exact stored_eq_iff.mp (Option.some.inj kept)

theorem loadedRow_congr {left right : Row} (same : Dict.Same left right) :
    Dict.Same (loadedRow left) (loadedRow right) := by
  rw [Dict.same_iff] at same ⊢
  intro key
  rw [get?_loadedRow, get?_loadedRow, same key]

theorem stored_stored (text : String) : stored (stored text) = stored text :=
  stored_eq_iff.mpr (noReturn_stored text)

/-- What was loaded once is loaded as it is. -/
theorem noReturns_loadedRow (row : Row) : NoReturns (loadedRow row) := by
  rw [noReturns_iff, Dict.same_iff]
  intro key
  have twice : stored ∘ stored = stored := funext stored_stored
  rw [get?_loadedRow, get?_loadedRow, Option.map_map, twice]

/-- The rows that are loaded, in a table whose columns come back. -/
theorem storedRow_same {schema : List String} (columnsPlain : ∀ key ∈ schema, '\r' ∉ key.toList) {row : Row}
    (same : SameKeys row.keys schema) : Dict.Same (storedRow schema row) (loadedRow row) := by
  rw [Dict.same_iff]
  intro key
  have names : (schema.map fun key => (stored key, stored ((row.get? key).getD ""))) =
      schema.map fun key => (key, stored ((row.get? key).getD "")) := by
    apply List.map_congr_left
    intro name member
    rw [stored_eq_iff.mpr (columnsPlain name member)]
  rw [storedRow, names, Dict.get?_ofPairs_keys, get?_loadedRow]
  cases value : row.get? key with
  | none =>
      have absent : key ∉ schema := by
        intro member
        have isKey := Dict.isSome_get?.mpr (same.2 member)
        rw [value] at isKey
        cases isKey
      rw [if_neg absent]
      rfl
  | some text =>
      have present : key ∈ schema := same.1 (Dict.isSome_get?.mp (by rw [value]; rfl))
      rw [if_pos present]
      rfl

/-- The rows of the loaded table are those of the original, loaded. -/
theorem occurrences_stored_pos {schema : List String} (columnsPlain : ∀ key ∈ schema,
    '\r' ∉ key.toList) {rows : List Row} (same : ∀ row ∈ rows, SameKeys row.keys schema)
    {row : Row} :
    0 < occurrences row (rows.map (storedRow schema)) ↔
      ∃ original ∈ rows, Dict.Same (loadedRow original) row := by
  rw [occurrences_pos]
  constructor
  · rintro ⟨found, member, isRow⟩
    obtain ⟨original, inRows, isStored⟩ := List.mem_map.mp member
    rw [← isStored] at isRow
    exact ⟨original, inRows, (storedRow_same columnsPlain (same original inRows)).symm.trans isRow⟩
  · rintro ⟨original, inRows, isRow⟩
    exact ⟨_, List.mem_map_of_mem inRows,
      (storedRow_same columnsPlain (same original inRows)).trans isRow⟩

/-- **Which rows come back.**  Those that hold a carriage return are not found again. -/
theorem loaded_agrees_iff {rows : List Row} {ignoreContainersList : List String} :
    (∀ row, ignores ignoreContainersList row = false →
      ((∃ original ∈ rows, Dict.Same (loadedRow original) row) ↔ 0 < occurrences row rows)) ↔
    ∀ row ∈ rows, NoReturns row ∨ ignores ignoreContainersList row = true ∧
      (0 < occurrences (loadedRow row) rows ∨
        ignores ignoreContainersList (loadedRow row) = true) := by
  have congr : ∀ {left right : Row}, Dict.Same left right →
      ignores ignoreContainersList left = ignores ignoreContainersList right :=
    fun same => ignores_congr (Dict.same_iff.mp same nameColumn)
  constructor
  · intro agrees row member
    by_cases noReturns : NoReturns row
    · exact .inl noReturns
    · right
      constructor
      · by_contra notIgnored
        obtain ⟨original, _, same⟩ := (agrees row (Bool.eq_false_iff.mpr notIgnored)).mpr
          (occurrences_pos.mpr ⟨row, member, .refl row⟩)
        have again := loadedRow_congr same
        have loadedTwice := noReturns_iff.mp (noReturns_loadedRow original)
        exact noReturns (noReturns_iff.mpr (again.symm.trans (loadedTwice.trans same)))
      · by_cases ignored : ignores ignoreContainersList (loadedRow row) = true
        · exact .inr ignored
        · exact .inl ((agrees _ (Bool.eq_false_iff.mpr ignored)).mp ⟨row, member, .refl _⟩)
  · intro survive row notIgnored
    constructor
    · rintro ⟨original, member, same⟩
      rcases survive original member with noReturns | ⟨_, found | ignored⟩
      · exact occurrences_pos.mpr ⟨original, member, (noReturns_iff.mp noReturns).symm.trans same⟩
      · rw [← occurrences_congr same]
        exact found
      · rw [congr same, notIgnored] at ignored
        cases ignored
    · intro occurs
      obtain ⟨original, member, same⟩ := occurrences_pos.mp occurs
      rcases survive original member with noReturns | ⟨ignored, _⟩
      · exact ⟨original, member, (noReturns_iff.mp noReturns).trans same⟩
      · rw [congr same, notIgnored] at ignored
        cases ignored

/-- Once the file is known, the comparison decides. -/
theorem savedComparesEqual_of_loaded {text : Text} {loaded : TableData String}
    (saves : td.toCsv = .ok text) (loads : readCsvFile limit text = .ok loaded) :
    SavedComparesEqual order ignoreContainersList limit td ↔
      ∃ result, tabledataDifference order ignoreContainersList loaded td none = .ok result ∧
        result.data = [] := by
  constructor
  · rintro ⟨otherText, otherLoaded, result, sameText, sameLoaded, returns⟩
    rw [saves] at sameText
    cases sameText
    rw [loads] at sameLoaded
    cases sameLoaded
    exact ⟨result, returns⟩
  · rintro ⟨result, returns⟩
    exact ⟨text, loaded, result, saves, loads, returns⟩

/-- A table without rows or columns is saved as an empty file. -/
theorem savedComparesEqual_of_empty (consistent : td.Consistent)
    (empty : td.schema = [] ∨ td.data = []) :
    SavedComparesEqual order ignoreContainersList limit td ↔ td.data = [] ∧ td.schema = [] := by
  obtain ⟨data, same⟩ := rowsOf_spec consistent
  rw [savedComparesEqual_of_loaded (toCsv_empty empty) (readCsvFile_empty limit),
    returnsNothing_iff (consistent_nil []) consistent]
  constructor
  · rintro ⟨noColumns, agrees⟩
    have noSchema : td.schema = [] := noColumns.symm
    refine ⟨?_, noSchema⟩
    rw [data, List.map_eq_nil_iff]
    apply List.eq_nil_iff_forall_not_mem.mpr
    intro row member
    have occurs : 0 < occurrences row (rowsOf td) := occurrences_pos.mpr ⟨row, member, .refl row⟩
    have noName : row.get? nameColumn = none :=
      get?_of_not_mem_schema consistent (by rw [noSchema]; exact List.not_mem_nil) occurs
    have notIgnored : ignores ignoreContainersList row = false := by
      rw [ignores, noName]
      rfl
    exact absurd ((agrees row notIgnored).mpr occurs) (Nat.lt_irrefl 0)
  · rintro ⟨noData, noSchema⟩
    have noRows : rowsOf td = [] := by
      rw [rowsOf, noData]
      rfl
    refine ⟨noSchema.symm, fun row _ => ?_⟩
    rw [noRows]
    exact Iff.rfl

theorem savedComparesEqual_of_rows (consistent : td.Consistent) (hasColumns : td.schema ≠ [])
    (hasRows : td.data ≠ []) :
    SavedComparesEqual order ignoreContainersList limit td ↔
      Survives ignoreContainersList limit td := by
  obtain ⟨data, same⟩ := rowsOf_spec consistent
  have someRows : rowsOf td ≠ [] := by
    intro none
    rw [none] at data
    exact hasRows data
  have saves := toCsv_dicts hasColumns someRows same
  rw [← data] at saves
  have loads := @readCsvFile_tableLines limit td.schema hasColumns (rowsOf td) someRows
  by_cases fits : FitsFile limit td.schema (rowsOf td)
  · rw [if_pos fits] at loads
    have loadedConsistent : TableData.Consistent (⟨storedSchema td.schema,
        ((rowsOf td).map (storedRow td.schema)).map Item.dict⟩ : TableData String) := by
      intro item member
      obtain ⟨row, inRows, isDict⟩ := List.mem_map.mp member
      obtain ⟨original, _, isStored⟩ := List.mem_map.mp inRows
      rw [← isDict, ← isStored, Item.HasKeys, keys_storedRow]
      exact sameKeys_refl _
    rw [savedComparesEqual_of_loaded saves loads, returnsNothing_iff loadedConsistent consistent,
      rowsOf_dicts, storedSchema_eq_iff]
    constructor
    · rintro ⟨⟨distinct, columnsPlain⟩, agrees⟩
      simp only [occurrences_stored_pos columnsPlain same] at agrees
      exact ⟨hasRows, hasColumns, distinct, columnsPlain, fits, loaded_agrees_iff.mp agrees⟩
    · intro survives
      refine ⟨⟨survives.distinct, survives.columnsPlain⟩, ?_⟩
      simp only [occurrences_stored_pos survives.columnsPlain same]
      exact loaded_agrees_iff.mpr survives.rowsPlain
  · rw [if_neg fits] at loads
    constructor
    · rintro ⟨text, loaded, _, isText, isLoaded, _⟩
      rw [saves] at isText
      cases isText
      rw [loads] at isLoaded
      cases isLoaded
    · intro survives
      exact absurd survives.fits fits

theorem savedComparesEqual_iff (consistent : td.Consistent) :
    SavedComparesEqual order ignoreContainersList limit td ↔
      td.data = [] ∧ td.schema = [] ∨ Survives ignoreContainersList limit td := by
  by_cases empty : td.schema = [] ∨ td.data = []
  · rw [savedComparesEqual_of_empty consistent empty]
    constructor
    · exact .inl
    · rintro (both | survives)
      · exact both
      · exact (empty.elim survives.hasColumns survives.hasRows).elim
  · obtain ⟨hasColumns, hasRows⟩ := not_or.mp empty
    rw [savedComparesEqual_of_rows consistent hasColumns hasRows]
    constructor
    · exact .inr
    · rintro (both | survives)
      · exact absurd both.1 hasRows
      · exact survives

end Saved

/-- **When the comparison is right.**  A row that occurs more often in one table is returned only where
it does not occur in the other one at all; a table without rows has no columns to compare.  A table
compares equal to its file unless it has lost its rows or its columns there, or holds a carriage
return that counts. -/
theorem tabledataDifference_right_iff (order : SetOrder) (ignoreContainersList : List String)
    (limit : Nat) :
    (∀ td1 td2 : TableData String, td1.Consistent → td2.Consistent →
      (ComparesRight order ignoreContainersList td1 td2 ↔
        td1.schema = td2.schema ∧ CanIgnore ignoreContainersList td1 td2 ∧
          Covered ignoreContainersList (rowsOf td1) (rowsOf td2) ∧
          Covered ignoreContainersList (rowsOf td2) (rowsOf td1))) ∧
    (∀ td1 td2 : TableData String, td1.Consistent → td2.Consistent → stateColumn ∉ td1.schema →
      (ComparesRight order ignoreContainersList td1 td2 ↔
        td1.schema = td2.schema ∧ CanIgnore ignoreContainersList td1 td2 ∧
          ∀ row, ignores ignoreContainersList row = false →
            occurrences row (rowsOf td1) = occurrences row (rowsOf td2) ∨
              occurrences row (rowsOf td1) = 0 ∨ occurrences row (rowsOf td2) = 0)) ∧
    ∀ td : TableData String, td.Consistent →
      (SavedComparesEqual order ignoreContainersList limit td ↔
        td.data = [] ∧ td.schema = [] ∨ Survives ignoreContainersList limit td) := by
  refine ⟨?_, ?_, ?_⟩
  · exact fun td1 td2 consistent1 consistent2 => comparesRight_iff consistent1 consistent2
  · intro td1 td2 consistent1 consistent2 noState
    rw [comparesRight_iff consistent1 consistent2]
    constructor
    · rintro ⟨schema, can, covered⟩
      exact ⟨schema, can, (covered_both_iff consistent1 consistent2 schema noState).mp covered⟩
    · rintro ⟨schema, can, agrees⟩
      exact ⟨schema, can, (covered_both_iff consistent1 consistent2 schema noState).mpr agrees⟩
  · exact fun td consistent => savedComparesEqual_iff consistent

section Examples

def keysOrder : SetOrder := ⟨id, fun keys => .refl keys⟩

def containerRow : Row := .ofPairs [("container_name", "nova_compute")]

/-- A table with one row, so many times. -/
def repeated (times : Nat) : TableData String :=
  ⟨["container_name"], List.replicate times (.dict containerRow)⟩

theorem repeated_consistent (times : Nat) : (repeated times).Consistent := by
  intro item member
  rw [List.eq_of_mem_replicate member]
  exact sameKeys_refl _

theorem rowsOf_repeated (times : Nat) :
    rowsOf (repeated times) = List.replicate times containerRow := by
  rw [repeated, ← List.map_replicate, rowsOf_dicts]

theorem tabledataDifference_right_iff_container :
    ComparesRight keysOrder [] (repeated 1) (repeated 0) ∧
      SavedComparesEqual keysOrder [] 131072 (repeated 1) := by
  constructor
  · exact ((tabledataDifference_right_iff keysOrder [] 131072).2.1 (repeated 1) (repeated 0)
      (repeated_consistent 1) (repeated_consistent 0) (by decide)).mpr
      ⟨rfl, .inl rfl, fun _ _ => .inr (.inr rfl)⟩
  · apply ((tabledataDifference_right_iff keysOrder [] 131072).2.2 (repeated 1)
      (repeated_consistent 1)).mpr
    right
    constructor
    · exact List.cons_ne_nil _ _
    · exact List.cons_ne_nil _ _
    · exact List.nodup_singleton _
    · intro key member
      rw [List.mem_singleton.mp member]
      decide
    · decide
    · intro row member
      rw [rowsOf_repeated] at member
      rw [List.eq_of_mem_replicate member]
      left
      unfold NoReturns
      decide

/-- A row that occurs twice on one side and once on the other is not returned, and a table without
rows is not compared. -/
theorem tabledataDifference_misses_repeated :
    ¬ ComparesRight keysOrder [] (repeated 2) (repeated 1) ∧
      tabledataDifference keysOrder [] (repeated 1) ⟨[], []⟩ none =
        .error (.valueError "TableData objects must have the same schema") := by
  constructor
  · intro right
    obtain ⟨_, _, covered, _⟩ :=
      (comparesRight_iff (repeated_consistent 2) (repeated_consistent 1)).mp right
    rw [rowsOf_repeated, rowsOf_repeated] at covered
    obtain ⟨other, _, here, notThere⟩ := covered containerRow rfl (by decide)
    obtain ⟨row, member, same⟩ := occurrences_pos.mp here
    rw [List.eq_of_mem_replicate member] at same
    have there : 0 < occurrences other (List.replicate 1 containerRow) :=
      occurrences_pos.mpr ⟨containerRow, List.mem_singleton_self _, same⟩
    omega
  · rfl

end Examples

end Tobiko.Rhosp
