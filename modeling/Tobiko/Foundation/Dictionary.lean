import Mathlib.Data.List.Nodup

/-!
Contract: Python dictionaries, with their keys in insertion order.

Owns: dictionaries whose keys are distinct, `get`, item assignment, and the dictionary of a
list of pairs, with the keys and values that these leave.
-/

namespace Tobiko.Foundation

structure Dict (Key Value : Type) where
  entries : List (Key × Value)
  distinct : (entries.map Prod.fst).Nodup

namespace Dict

variable {Key Value : Type}

def keys (dict : Dict Key Value) : List Key := dict.entries.map Prod.fst

def empty : Dict Key Value := ⟨[], List.nodup_nil⟩

@[simp] theorem keys_empty : (empty : Dict Key Value).keys = [] := rfl

variable [DecidableEq Key]

/-- `dict.get(key)` -/
def get? (dict : Dict Key Value) (key : Key) : Option Value := dict.entries.lookup key

@[simp] theorem get?_empty {key : Key} : (empty : Dict Key Value).get? key = none := rfl

/-- The entries after `dict[key] = value`: a key that is there keeps its place. -/
def setEntries (key : Key) (value : Value) : List (Key × Value) → List (Key × Value)
  | [] => [(key, value)]
  | (other, old) :: entries =>
      if other = key then (key, value) :: entries else (other, old) :: setEntries key value entries

theorem mem_keys_setEntries {key other : Key} {value : Value} {entries : List (Key × Value)} :
    other ∈ (setEntries key value entries).map Prod.fst ↔
      other = key ∨ other ∈ entries.map Prod.fst := by
  induction entries with
  | nil => simp [setEntries]
  | cons head tail inductionHypothesis =>
      obtain ⟨first, old⟩ := head
      unfold setEntries
      split
      · rename_i same
        subst same
        simp
      · simp only [List.map_cons, List.mem_cons, inductionHypothesis]
        exact or_left_comm

theorem nodup_setEntries {key : Key} {value : Value} {entries : List (Key × Value)}
    (distinct : (entries.map Prod.fst).Nodup) :
    ((setEntries key value entries).map Prod.fst).Nodup := by
  induction entries with
  | nil => simp [setEntries]
  | cons head tail inductionHypothesis =>
      obtain ⟨first, old⟩ := head
      obtain ⟨fresh, rest⟩ := List.nodup_cons.mp distinct
      unfold setEntries
      split
      · rename_i same
        subst same
        exact distinct
      · rename_i different
        refine List.nodup_cons.mpr ⟨?_, inductionHypothesis rest⟩
        rw [mem_keys_setEntries, not_or]
        exact ⟨different, fresh⟩

/-- `dict[key] = value` -/
def set (dict : Dict Key Value) (key : Key) (value : Value) : Dict Key Value :=
  ⟨setEntries key value dict.entries, nodup_setEntries dict.distinct⟩

theorem mem_keys_set {dict : Dict Key Value} {key other : Key} {value : Value} :
    other ∈ (dict.set key value).keys ↔ other = key ∨ other ∈ dict.keys :=
  mem_keys_setEntries

theorem lookup_cons_eq {key first : Key} {old : Value} {entries : List (Key × Value)} :
    ((first, old) :: entries).lookup key =
      if key = first then some old else entries.lookup key := by
  rw [List.lookup_cons]
  by_cases same : key = first
  · simp [same]
  · have test : (key == first) = false := beq_eq_false_iff_ne.mpr same
    simp [same, test]

theorem lookup_setEntries {key other : Key} {value : Value} {entries : List (Key × Value)} :
    (setEntries key value entries).lookup other =
      if other = key then some value else entries.lookup other := by
  induction entries with
  | nil => exact lookup_cons_eq
  | cons head tail inductionHypothesis =>
      obtain ⟨first, old⟩ := head
      unfold setEntries
      split
      · rename_i found
        subst found
        rw [lookup_cons_eq, lookup_cons_eq]
        split
        · rfl
        · rfl
      · rename_i different
        rw [lookup_cons_eq, lookup_cons_eq, inductionHypothesis]
        by_cases same : other = first
        · subst same
          rw [if_pos rfl, if_neg different, if_pos rfl]
        · rw [if_neg same, if_neg same]

theorem get?_set {dict : Dict Key Value} {key other : Key} {value : Value} :
    (dict.set key value).get? other = if other = key then some value else dict.get? other :=
  lookup_setEntries

theorem setEntries_setEntries {key : Key} {old value : Value} {entries : List (Key × Value)} :
    setEntries key value (setEntries key old entries) = setEntries key value entries := by
  induction entries with
  | nil => simp [setEntries]
  | cons head tail inductionHypothesis =>
      obtain ⟨first, other⟩ := head
      by_cases same : first = key
      · simp [setEntries, same]
      · simp [setEntries, same, inductionHypothesis]

/-- Of two assignments to one key the last one counts. -/
theorem set_set {dict : Dict Key Value} {key : Key} {old value : Value} :
    (dict.set key old).set key value = dict.set key value := by
  unfold set
  simp only [setEntries_setEntries]

/-- What `dict.pop(key, None)` leaves. -/
def erase (dict : Dict Key Value) (key : Key) : Dict Key Value :=
  ⟨dict.entries.filter fun entry => decide (entry.1 ≠ key),
    dict.distinct.sublist (List.filter_sublist.map Prod.fst)⟩

theorem lookup_filter_ne {key other : Key} {entries : List (Key × Value)} :
    (entries.filter fun entry => decide (entry.1 ≠ key)).lookup other =
      if other = key then none else entries.lookup other := by
  induction entries with
  | nil => simp
  | cons head tail inductionHypothesis =>
      obtain ⟨first, value⟩ := head
      rw [lookup_cons_eq]
      by_cases removed : first = key
      · rw [List.filter_cons_of_neg (by simp [removed]), inductionHypothesis, removed]
        split
        · rfl
        · rfl
      · rw [List.filter_cons_of_pos (by simp [removed]), lookup_cons_eq, inductionHypothesis]
        by_cases same : other = first
        · subst same
          rw [if_pos rfl, if_neg removed, if_pos rfl]
        · rw [if_neg same, if_neg same]

theorem get?_erase {dict : Dict Key Value} {key other : Key} :
    (dict.erase key).get? other = if other = key then none else dict.get? other :=
  lookup_filter_ne

/-- `dict.setdefault(key, value)` -/
def setDefault (dict : Dict Key Value) (key : Key) (value : Value) : Dict Key Value :=
  match dict.get? key with
  | some _ => dict
  | none => dict.set key value

theorem get?_setDefault {dict : Dict Key Value} {key other : Key} {value : Value} :
    (dict.setDefault key value).get? other =
      (dict.get? other).or (if other = key then some value else none) := by
  unfold setDefault
  cases present : dict.get? key with
  | some old =>
      by_cases same : other = key
      · subst same
        simp [present]
      · simp [same]
  | none =>
      by_cases same : other = key
      · subst same
        simp [present, get?_set]
      · simp [same, get?_set]

/-- Keys that are there keep their values, and the new ones share the given value. -/
theorem get?_foldl_setDefault {keys : List Key} {dict : Dict Key Value} {key : Key}
    {value : Value} :
    (keys.foldl (fun dict key => dict.setDefault key value) dict).get? key =
      (dict.get? key).or (if key ∈ keys then some value else none) := by
  induction keys generalizing dict with
  | nil => simp
  | cons head tail inductionHypothesis =>
      rw [List.foldl_cons, inductionHypothesis, get?_setDefault, Option.or_assoc]
      by_cases same : key = head
      · subst same
        simp
      · simp [same]

theorem isSome_lookup {entries : List (Key × Value)} {key : Key} :
    (entries.lookup key).isSome ↔ key ∈ entries.map Prod.fst := by
  induction entries with
  | nil => simp
  | cons head tail inductionHypothesis =>
      obtain ⟨first, old⟩ := head
      rw [lookup_cons_eq, List.map_cons, List.mem_cons]
      split
      · rename_i same
        simp [same]
      · rename_i different
        rw [inductionHypothesis]
        exact (or_iff_right different).symm

theorem isSome_get? {dict : Dict Key Value} {key : Key} :
    (dict.get? key).isSome ↔ key ∈ dict.keys :=
  isSome_lookup

theorem mem_entries_iff {dict : Dict Key Value} {key : Key} {value : Value} :
    (key, value) ∈ dict.entries ↔ dict.get? key = some value := by
  obtain ⟨entries, distinct⟩ := dict
  unfold get?
  induction entries with
  | nil => simp
  | cons head tail inductionHypothesis =>
      obtain ⟨first, old⟩ := head
      obtain ⟨fresh, rest⟩ := List.nodup_cons.mp distinct
      rw [lookup_cons_eq, List.mem_cons]
      by_cases same : key = first
      · subst same
        have absent : (key, value) ∉ tail := fun inTail =>
          fresh (List.mem_map.mpr ⟨(key, value), inTail, rfl⟩)
        simp [absent, eq_comm]
      · rw [if_neg same, ← inductionHypothesis rest]
        simp [same]

/-- `dict(pairs)` -/
def ofPairs (pairs : List (Key × Value)) : Dict Key Value :=
  pairs.foldl (fun dict pair => dict.set pair.1 pair.2) empty

theorem mem_keys_foldl {pairs : List (Key × Value)} {dict : Dict Key Value} {key : Key} :
    key ∈ (pairs.foldl (fun dict pair => dict.set pair.1 pair.2) dict).keys ↔
      key ∈ dict.keys ∨ key ∈ pairs.map Prod.fst := by
  induction pairs generalizing dict with
  | nil => simp
  | cons head tail inductionHypothesis =>
      rw [List.foldl_cons, inductionHypothesis, mem_keys_set, List.map_cons, List.mem_cons]
      rw [or_assoc, or_left_comm]

theorem mem_keys_ofPairs {pairs : List (Key × Value)} {key : Key} :
    key ∈ (ofPairs pairs).keys ↔ key ∈ pairs.map Prod.fst := by
  rw [ofPairs, mem_keys_foldl]
  simp

/-- The last of the pairs wins. -/
theorem get?_foldl_set {pairs : List (Key × Value)} {dict : Dict Key Value} {key : Key} :
    (pairs.foldl (fun dict pair => dict.set pair.1 pair.2) dict).get? key =
      ((ofPairs pairs).get? key).or (dict.get? key) := by
  induction pairs generalizing dict with
  | nil => rfl
  | cons head tail inductionHypothesis =>
      rw [ofPairs, List.foldl_cons, List.foldl_cons, inductionHypothesis, inductionHypothesis,
        Option.or_assoc, get?_set, get?_set]
      split
      · rfl
      · rfl

theorem get?_ofPairs_cons {pair : Key × Value} {pairs : List (Key × Value)} {key : Key} :
    (ofPairs (pair :: pairs)).get? key =
      ((ofPairs pairs).get? key).or (if key = pair.1 then some pair.2 else none) := by
  rw [ofPairs, List.foldl_cons, get?_foldl_set, get?_set, get?_empty]

theorem get?_ofPairs {pairs : List (Key × Value)} {key : Key} :
    (ofPairs pairs).get? key =
      (pairs.reverse.find? fun pair => decide (key = pair.1)).map Prod.snd := by
  induction pairs with
  | nil => rfl
  | cons pair pairs inductionHypothesis =>
      rw [get?_ofPairs_cons, inductionHypothesis, List.reverse_cons, List.find?_append,
        Option.map_or, List.find?_singleton]
      by_cases same : key = pair.1
      · simp [same]
      · simp [same]

/-- The value on which all pairs of a key agree. -/
theorem get?_ofPairs_of_agree {pairs : List (Key × Value)} {key : Key} {value : Value}
    (member : (key, value) ∈ pairs)
    (agree : ∀ pair ∈ pairs, pair.1 = key → pair.2 = value) :
    (ofPairs pairs).get? key = some value := by
  rw [get?_ofPairs]
  cases found : pairs.reverse.find? fun pair => decide (key = pair.1) with
  | none =>
      have absent := List.find?_eq_none.mp found (key, value) (List.mem_reverse.mpr member)
      simp at absent
  | some pair =>
      have same : key = pair.1 := by simpa using List.find?_some found
      have inPairs := List.mem_reverse.mp (List.mem_of_find?_eq_some found)
      rw [Option.map_some, agree pair inPairs same.symm]

theorem get?_ofPairs_eq_none {pairs : List (Key × Value)} {key : Key} :
    (ofPairs pairs).get? key = none ↔ key ∉ pairs.map Prod.fst := by
  rw [← mem_keys_ofPairs, ← isSome_get?, Option.not_isSome_iff_eq_none]

/-- The value of a key is the one of the last item that has it. -/
theorem get?_ofPairs_eq_some {Item : Type} {items : List Item} {key : Item → Key}
    {value : Item → Value} {other : Key} {found : Value} :
    (ofPairs (items.map fun item => (key item, value item))).get? other = some found ↔
      ∃ before item after, items = before ++ item :: after ∧ key item = other ∧
        value item = found ∧ ∀ later ∈ after, key later ≠ other := by
  constructor
  · intro present
    induction items with
    | nil => cases present
    | cons head tail inductionHypothesis =>
        rw [List.map_cons, get?_ofPairs_cons] at present
        cases inTail : (ofPairs (tail.map fun item => (key item, value item))).get? other with
        | some last =>
            rw [inTail, Option.some_or] at present
            obtain ⟨before, item, after, split, isLast⟩ :=
              inductionHypothesis (inTail.trans present)
            exact ⟨head :: before, item, after, by rw [split, List.cons_append], isLast⟩
        | none =>
            rw [inTail, Option.none_or] at present
            by_cases same : other = key head
            · rw [if_pos same] at present
              have absent := get?_ofPairs_eq_none.mp inTail
              rw [List.map_map] at absent
              exact ⟨[], head, tail, rfl, same.symm, Option.some.inj present,
                fun later member again => absent (List.mem_map.mpr ⟨later, member, again⟩)⟩
            · rw [if_neg same] at present
              cases present
  · rintro ⟨before, item, after, rfl, rfl, rfl, last⟩
    have absent : key item ∉ (after.map fun item => (key item, value item)).map Prod.fst := by
      rw [List.map_map]
      intro member
      obtain ⟨later, inAfter, same⟩ := List.mem_map.mp member
      exact last later inAfter same
    rw [List.map_append, List.map_cons, ofPairs, List.foldl_append, get?_foldl_set,
      get?_ofPairs_cons, get?_ofPairs_eq_none.mpr absent, if_pos rfl]
    rfl

/-- Two values that differ do no harm where the key is set again behind them. -/
theorem get?_ofPairs_congr {Item : Type} {items : List Item} {key : Item → Key}
    {left right : Item → Value}
    (setAgain : ∀ before item after, items = before ++ item :: after → left item ≠ right item →
      ∃ later ∈ after, key later = key item) (other : Key) :
    (ofPairs (items.map fun item => (key item, left item))).get? other =
      (ofPairs (items.map fun item => (key item, right item))).get? other := by
  induction items with
  | nil => rfl
  | cons head tail inductionHypothesis =>
      have rest := inductionHypothesis fun before item after split =>
        setAgain (head :: before) item after (by rw [split, List.cons_append])
      rw [List.map_cons, List.map_cons, get?_ofPairs_cons, get?_ofPairs_cons, rest]
      by_cases same : left head = right head
      · rw [same]
      · obtain ⟨later, member, sameKey⟩ := setAgain [] head tail rfl same
        by_cases found : other = key head
        · have present : other ∈ (tail.map fun item => (key item, right item)).map Prod.fst := by
            rw [List.map_map, found, ← sameKey]
            exact List.mem_map_of_mem member
          rw [← mem_keys_ofPairs, ← isSome_get?] at present
          obtain ⟨value, value_eq⟩ := Option.isSome_iff_exists.mp present
          rw [value_eq, Option.some_or, Option.some_or]
        · simp only [found, if_false]

/-- `dict.update(other)` -/
def update (dict other : Dict Key Value) : Dict Key Value :=
  other.entries.foldl (fun dict pair => dict.set pair.1 pair.2) dict

theorem get?_foldl {entries : List (Key × Value)} (distinct : (entries.map Prod.fst).Nodup)
    {dict : Dict Key Value} {key : Key} :
    (entries.foldl (fun dict pair => dict.set pair.1 pair.2) dict).get? key =
      (entries.lookup key).or (dict.get? key) := by
  induction entries generalizing dict with
  | nil => rfl
  | cons head tail inductionHypothesis =>
      obtain ⟨first, value⟩ := head
      obtain ⟨fresh, rest⟩ := List.nodup_cons.mp distinct
      rw [List.foldl_cons, inductionHypothesis rest, get?_set, lookup_cons_eq]
      by_cases same : key = first
      · subst same
        have absent : tail.lookup key = none := by
          rw [← Option.not_isSome_iff_eq_none, isSome_lookup]
          exact fresh
        rw [absent, if_pos rfl, if_pos rfl]
        rfl
      · rw [if_neg same, if_neg same]

theorem get?_update {dict other : Dict Key Value} {key : Key} :
    (dict.update other).get? key = (other.get? key).or (dict.get? key) :=
  get?_foldl other.distinct

theorem mem_keys_update {dict other : Dict Key Value} {key : Key} :
    key ∈ (dict.update other).keys ↔ key ∈ dict.keys ∨ key ∈ other.keys :=
  mem_keys_foldl

/-- `{key: value for key, value in dict.items() if keep(key, value)}` -/
def filter (dict : Dict Key Value) (keep : Key → Value → Bool) : Dict Key Value :=
  ⟨dict.entries.filter fun entry => keep entry.1 entry.2,
    dict.distinct.sublist (List.filter_sublist.map Prod.fst)⟩

omit [DecidableEq Key] in
theorem mem_keys_of_filter {dict : Dict Key Value} {keep : Key → Value → Bool} {key : Key}
    (member : key ∈ (dict.filter keep).keys) : key ∈ dict.keys :=
  (List.filter_sublist.map Prod.fst).subset member

theorem get?_filter {dict : Dict Key Value} {keep : Key → Value → Bool} {key : Key} :
    (dict.filter keep).get? key = (dict.get? key).filter (keep key) := by
  ext value
  rw [Option.filter_eq_some_iff, ← mem_entries_iff, ← mem_entries_iff, filter, List.mem_filter]

end Dict

end Tobiko.Foundation
