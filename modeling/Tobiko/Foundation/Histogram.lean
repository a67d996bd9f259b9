import Tobiko.Foundation.Dictionary
import Mathlib.Data.List.Dedup
import Mathlib.Data.List.Induction

/-!
Contract: dictionaries of counts, as a `defaultdict` of zeros has them after `counts[key] += 1`.

Owns: the counts of a list of keys, with the keys that have one, what they are and their sum.

Does not own: other values of dictionaries.
-/

namespace Tobiko.Foundation.Dict

variable {Key : Type} [DecidableEq Key]

/-- `counts[key] += 1` -/
def increment (counts : Dict Key Nat) (key : Key) : Dict Key Nat :=
  counts.set key ((counts.get? key).getD 0 + 1)

/-- The counts after all of the keys. -/
def tally (keys : List Key) : Dict Key Nat := keys.foldl increment empty

def sumValues : List (Key × Nat) → Nat
  | [] => 0
  | (_, count) :: entries => count + sumValues entries

/-- The sum of the counts. -/
def total (counts : Dict Key Nat) : Nat := sumValues counts.entries

@[simp] theorem tally_nil : tally ([] : List Key) = empty := rfl

theorem tally_concat (keys : List Key) (key : Key) :
    tally (keys ++ [key]) = (tally keys).increment key := by
  rw [tally, List.foldl_append]
  rfl

theorem get?_tally (keys : List Key) (key : Key) :
    (tally keys).get? key = if key ∈ keys then some (keys.countP (· = key)) else none := by
  induction keys using List.reverseRecOn with
  | nil => simp
  | append_singleton keys last inductionHypothesis =>
      rw [tally_concat, increment, get?_set, List.countP_append]
      by_cases same : key = last
      · subst same
        have now : key ∈ keys ++ [key] := by simp
        have before : ((tally keys).get? key).getD 0 = keys.countP (· = key) := by
          rw [inductionHypothesis]
          by_cases member : key ∈ keys
          · rw [if_pos member]
            rfl
          · have uncounted : keys.countP (· = key) = 0 := List.countP_eq_zero.mpr
              fun other present => by simpa using ne_of_mem_of_not_mem present member
            rw [if_neg member, uncounted]
            rfl
        rw [before, if_pos rfl, if_pos now]
        simp
      · have apart : [last].countP (· = key) = 0 := by simpa using Ne.symm same
        rw [if_neg same, inductionHypothesis, apart, Nat.add_zero]
        simp [same]

theorem get?_tally_eq_some {keys : List Key} {key : Key} {count : Nat} :
    (tally keys).get? key = some count ↔ key ∈ keys ∧ count = keys.countP (· = key) := by
  rw [get?_tally]
  by_cases member : key ∈ keys
  · simp [member, eq_comm]
  · simp [member]

theorem mem_keys_tally {keys : List Key} {key : Key} : key ∈ (tally keys).keys ↔ key ∈ keys := by
  rw [← isSome_get?, get?_tally]
  by_cases member : key ∈ keys
  · simp [member]
  · simp [member]

/-- There is one count for each distinct key. -/
theorem length_keys_tally (keys : List Key) :
    (tally keys).keys.length = keys.dedup.length := by
  have same : (tally keys).keys.Perm keys.dedup :=
    (List.perm_ext_iff_of_nodup (tally keys).distinct keys.nodup_dedup).mpr fun key => by
      rw [List.mem_dedup]
      exact mem_keys_tally
  exact same.length_eq

theorem sumValues_setEntries (key : Key) (value : Nat) (entries : List (Key × Nat)) :
    sumValues (setEntries key value entries) + (entries.lookup key).getD 0 =
      sumValues entries + value := by
  induction entries with
  | nil => simp [setEntries, sumValues]
  | cons head tail inductionHypothesis =>
      obtain ⟨first, old⟩ := head
      rw [setEntries, lookup_cons_eq]
      by_cases same : first = key
      · subst same
        rw [if_pos rfl, if_pos rfl]
        simp only [sumValues, Option.getD_some]
        omega
      · rw [if_neg same, if_neg (Ne.symm same)]
        simp only [sumValues]
        omega

theorem total_increment (counts : Dict Key Nat) (key : Key) :
    (counts.increment key).total = counts.total + 1 := by
  have sums := sumValues_setEntries key ((counts.get? key).getD 0 + 1) counts.entries
  show sumValues (setEntries key ((counts.get? key).getD 0 + 1) counts.entries) =
    sumValues counts.entries + 1
  unfold get? at sums ⊢
  omega

/-- The counts sum up to the number of keys. -/
theorem total_tally (keys : List Key) : (tally keys).total = keys.length := by
  induction keys using List.reverseRecOn with
  | nil => rfl
  | append_singleton keys last inductionHypothesis =>
      rw [tally_concat, total_increment, inductionHypothesis, List.length_append,
        List.length_singleton]

end Tobiko.Foundation.Dict
