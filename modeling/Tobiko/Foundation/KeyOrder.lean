import Tobiko.Foundation.Dictionary
import Tobiko.Foundation.FirstOccurrences

/-!
Contract: the order of the keys of a dictionary.

Owns: where item assignment puts a key, the keys of a dictionary that is filled from a list, its
entries where the keys of the list are new, and when two dictionaries are equal but for the order.

Does not own: values of keys that are there.
-/

namespace Tobiko.Foundation.Dict

variable {Key Value : Type} [DecidableEq Key]

theorem keys_setEntries {key : Key} {value : Value} {entries : List (Key × Value)} :
    (setEntries key value entries).map Prod.fst =
      if key ∈ entries.map Prod.fst then entries.map Prod.fst
      else entries.map Prod.fst ++ [key] := by
  induction entries with
  | nil => rfl
  | cons head tail inductionHypothesis =>
      obtain ⟨first, old⟩ := head
      unfold setEntries
      by_cases same : first = key
      · subst same
        simp
      · rw [if_neg same, List.map_cons, inductionHypothesis, List.map_cons]
        have different : key ≠ first := fun equal => same equal.symm
        by_cases later : key ∈ tail.map Prod.fst
        · rw [if_pos later, if_pos (List.mem_cons_of_mem _ later)]
        · rw [if_neg later, if_neg (by simpa [different] using later), List.cons_append]

/-- A new key is the last one, and one that is there keeps its place. -/
theorem keys_set {dict : Dict Key Value} {key : Key} {value : Value} :
    (dict.set key value).keys = if key ∈ dict.keys then dict.keys else dict.keys ++ [key] :=
  keys_setEntries

theorem keys_foldl_set {pairs : List (Key × Value)} {dict : Dict Key Value} :
    (pairs.foldl (fun dict pair => dict.set pair.1 pair.2) dict).keys =
      dict.keys ++ unseen id dict.keys (pairs.map Prod.fst) := by
  induction pairs generalizing dict with
  | nil => exact (List.append_nil _).symm
  | cons pair pairs inductionHypothesis =>
      rw [List.foldl_cons, inductionHypothesis, keys_set, List.map_cons, unseen_cons, id_eq]
      by_cases before : pair.1 ∈ dict.keys
      · rw [if_pos before, if_pos before]
      · rw [if_neg before, if_neg before, List.append_assoc, List.singleton_append]
        congr 2
        exact unseen_congr fun key _ => by simp [or_comm]

omit [DecidableEq Key] in
theorem eq_of_entries {left right : Dict Key Value} (same : left.entries = right.entries) :
    left = right := by
  cases left
  cases right
  cases same
  rfl

theorem setEntries_new {key : Key} {entries : List (Key × Value)} (absent : key ∉ entries.map Prod.fst)
    (value : Value) : setEntries key value entries = entries ++ [(key, value)] := by
  induction entries with
  | nil => rfl
  | cons head tail inductionHypothesis =>
      rw [List.map_cons, List.mem_cons, not_or] at absent
      rw [setEntries, if_neg fun same => absent.1 same.symm, inductionHypothesis absent.2,
        List.cons_append]

/-- New keys are added in their order. -/
theorem entries_foldl_set {pairs : List (Key × Value)} {dict : Dict Key Value}
    (distinct : ((dict.entries ++ pairs).map Prod.fst).Nodup) :
    (pairs.foldl (fun dict pair => dict.set pair.1 pair.2) dict).entries = dict.entries ++ pairs := by
  induction pairs generalizing dict with
  | nil => exact (List.append_nil _).symm
  | cons pair pairs inductionHypothesis =>
      have absent : pair.1 ∉ dict.entries.map Prod.fst := by
        intro member
        rw [List.map_append, List.map_cons] at distinct
        exact (List.nodup_append.mp distinct).2.2 pair.1 member pair.1 List.mem_cons_self rfl
      have added : (dict.set pair.1 pair.2).entries = dict.entries ++ [pair] :=
        setEntries_new absent pair.2
      have shape : (dict.set pair.1 pair.2).entries ++ pairs = dict.entries ++ pair :: pairs := by
        rw [added, List.append_assoc, List.singleton_append]
      rw [List.foldl_cons, inductionHypothesis (shape ▸ distinct), shape]

/-- `{key: value(key) for key in keys}` -/
theorem get?_ofPairs_keys {keys : List Key} {value : Key → Value} {key : Key} :
    (ofPairs (keys.map fun key => (key, value key))).get? key =
      if key ∈ keys then some (value key) else none := by
  induction keys with
  | nil => rfl
  | cons first keys inductionHypothesis =>
      rw [List.map_cons, get?_ofPairs_cons, inductionHypothesis]
      by_cases same : key = first
      · subst same
        rw [if_pos rfl, if_pos List.mem_cons_self]
        by_cases again : key ∈ keys
        · rw [if_pos again, Option.some_or]
        · rw [if_neg again, Option.none_or]
      · simp [same]

/-- `left == right`: the order of the keys makes no difference. -/
def Same (left right : Dict Key Value) : Prop := left.entries.Perm right.entries

omit [DecidableEq Key] in
theorem Same.refl (dict : Dict Key Value) : Same dict dict := List.Perm.refl _

omit [DecidableEq Key] in
theorem Same.symm {left right : Dict Key Value} (same : Same left right) : Same right left :=
  List.Perm.symm same

omit [DecidableEq Key] in
theorem Same.trans {left middle right : Dict Key Value} (first : Same left middle)
    (second : Same middle right) : Same left right :=
  List.Perm.trans first second

/-- **Equal dictionaries have the same values under the same keys.** -/
theorem same_iff {left right : Dict Key Value} :
    Same left right ↔ ∀ key, left.get? key = right.get? key := by
  constructor
  · intro same key
    ext value
    rw [← mem_entries_iff, ← mem_entries_iff]
    exact List.Perm.mem_iff same
  · intro same
    apply (List.perm_ext_iff_of_nodup left.distinct.of_map right.distinct.of_map).mpr
    rintro ⟨key, value⟩
    rw [mem_entries_iff, mem_entries_iff, same key]

theorem Same.set {left right : Dict Key Value} (same : Same left right) (key : Key)
    (value : Value) : Same (left.set key value) (right.set key value) := by
  rw [same_iff] at same ⊢
  intro other
  rw [get?_set, get?_set, same other]

end Tobiko.Foundation.Dict
