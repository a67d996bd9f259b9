import Mathlib.Data.Set.Finite.Basic
import Tobiko.Foundation.Dictionary

/-!
Contract: probing a dictionary for the first candidate key that is free, or whose value is
accepted.

Owns: the search and its end for distinct candidates, and that it finds the same key again
in a dictionary that has grown.

Does not own: what the candidates are and what is accepted.
-/

namespace Tobiko.Foundation

section Probing

variable {Key Value : Type} [DecidableEq Key]

namespace Dict

/-- Every entry of the first dictionary is an entry of the second. -/
def Extends (dict after : Dict Key Value) : Prop :=
  ∀ key value, dict.get? key = some value → after.get? key = some value

theorem Extends.refl (dict : Dict Key Value) : dict.Extends dict := fun _ _ => id

theorem Extends.trans {dict middle after : Dict Key Value} (first : dict.Extends middle)
    (second : middle.Extends after) : dict.Extends after :=
  fun key value found => second key value (first key value found)

theorem extends_set {dict : Dict Key Value} {key : Key} {value : Value}
    (free : dict.get? key = none) : dict.Extends (dict.set key value) := by
  intro other old found
  rw [get?_set]
  have different : other ≠ key := by
    intro same
    rw [same, free] at found
    cases found
  rw [if_neg different]
  exact found

end Dict

variable (accepts : Value → Bool) (dict : Dict Key Value) (candidate : Nat → Key)

/-- The search from the candidate `index` on. It ends in `none` when `fuel` does not
suffice. -/
def probe : Nat → Nat → Option Key
  | 0, _ => none
  | fuel + 1, index =>
      match dict.get? (candidate index) with
      | none => some (candidate index)
      | some value =>
          if accepts value then some (candidate index)
          else probe fuel (index + 1)

/-- The search stops at such a key. -/
def Fits (key : Key) : Prop := ∀ value, dict.get? key = some value → accepts value = true

structure FirstFit (index : Nat) : Prop where
  fits : Fits accepts dict (candidate index)
  first : ∀ earlier, earlier < index → ¬Fits accepts dict (candidate earlier)

variable {accepts dict candidate}

theorem probe_of_fits {fuel index : Nat} (fits : Fits accepts dict (candidate index)) :
    probe accepts dict candidate (fuel + 1) index = some (candidate index) := by
  unfold probe
  cases found : dict.get? (candidate index) with
  | none => rfl
  | some value => exact if_pos (fits value found)

theorem probe_of_not_fits {fuel index : Nat} (taken : ¬Fits accepts dict (candidate index)) :
    probe accepts dict candidate (fuel + 1) index =
      probe accepts dict candidate fuel (index + 1) := by
  rw [probe]
  cases found : dict.get? (candidate index) with
  | none =>
      refine (taken fun value same => ?_).elim
      rw [found] at same
      cases same
  | some value =>
      refine if_neg fun accepted => taken fun other same => ?_
      rw [found] at same
      cases same
      exact accepted

theorem FirstFit.probe_eq {index : Nat} (firstFit : FirstFit accepts dict candidate index)
    {fuel : Nat} (enough : index < fuel) :
    probe accepts dict candidate fuel 0 = some (candidate index) := by
  have skip : ∀ count, count ≤ index →
      probe accepts dict candidate fuel 0 = probe accepts dict candidate (fuel - count) count := by
    intro count within
    induction count with
    | zero => rfl
    | succ count inductionHypothesis =>
        have left : fuel - count = fuel - (count + 1) + 1 := by omega
        rw [inductionHypothesis (Nat.le_of_succ_le within), left,
          probe_of_not_fits (firstFit.first count within)]
  have left : fuel - index = fuel - index - 1 + 1 := by omega
  rw [skip index le_rfl, left, probe_of_fits firstFit.fits]

open Classical in
/-- A finite dictionary cannot hold all of infinitely many candidates. -/
theorem exists_firstFit (distinct : Function.Injective candidate) :
    ∃ index, FirstFit accepts dict candidate index := by
  have free : ∃ index, Fits accepts dict (candidate index) := by
    obtain ⟨key, ⟨index, rfl⟩, fresh⟩ :=
      (Set.infinite_range_of_injective distinct).exists_notMem_finset dict.keys.toFinset
    refine ⟨index, fun value found => (fresh ?_).elim⟩
    rw [List.mem_toFinset, ← Dict.isSome_get?, found]
    rfl
  exact ⟨Nat.find free, Nat.find_spec free, fun earlier before => Nat.find_min free before⟩

/-- **The search finds the same key in a dictionary that has grown, if that key still
fits.** -/
theorem FirstFit.extend {index : Nat} {after : Dict Key Value}
    (firstFit : FirstFit accepts dict candidate index) (grown : dict.Extends after)
    (fits : Fits accepts after (candidate index)) : FirstFit accepts after candidate index where
  fits := fits
  first := by
    intro earlier before stillFits
    exact firstFit.first earlier before fun value found =>
      stillFits value (grown _ value found)

end Probing

end Tobiko.Foundation
