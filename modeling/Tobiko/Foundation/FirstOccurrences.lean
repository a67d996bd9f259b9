import Mathlib.Data.List.Forall2
import Mathlib.Data.List.Nodup
import Mathlib.Data.List.Sort

/-!
Contract: the items of a list whose keys have not been seen, each at its first occurrence, and
lists that hold the same items, or related ones.

Owns: what is kept, that no key is kept twice, how the lists of a concatenation compose, and
when a coarser key keeps the same items; the partner of an item in a related list; that two lists
have one sorted form if and only if they hold the same items.

Does not own: sorts by a key, which are stable.
-/

namespace Tobiko.Foundation

section FirstOccurrences

variable {Item Key : Type} [DecidableEq Key]

/-- The items that are met first under their keys, except those with keys in `seen`. -/
def unseen (key : Item → Key) : List Key → List Item → List Item
  | _, [] => []
  | seen, item :: items =>
      if key item ∈ seen then unseen key seen items
      else item :: unseen key (key item :: seen) items

def firstOccurrences (key : Item → Key) (items : List Item) : List Item := unseen key [] items

variable {key : Item → Key}

theorem unseen_cons {seen : List Key} {item : Item} {items : List Item} :
    unseen key seen (item :: items) =
      if key item ∈ seen then unseen key seen items
      else item :: unseen key (key item :: seen) items :=
  rfl

theorem unseen_congr {seen other : List Key} {items : List Item}
    (same : ∀ item ∈ items, key item ∈ seen ↔ key item ∈ other) :
    unseen key seen items = unseen key other items := by
  induction items generalizing seen other with
  | nil => rfl
  | cons item items inductionHypothesis =>
      have sameRest : ∀ later ∈ items, key later ∈ seen ↔ key later ∈ other :=
        fun later member => same later (List.mem_cons_of_mem _ member)
      rw [unseen_cons, unseen_cons]
      by_cases before : key item ∈ seen
      · rw [if_pos before, if_pos ((same item List.mem_cons_self).mp before)]
        exact inductionHypothesis sameRest
      · rw [if_neg before, if_neg (mt (same item List.mem_cons_self).mpr before)]
        have sameNext : ∀ later ∈ items,
            key later ∈ key item :: seen ↔ key later ∈ key item :: other := by
          intro later member
          rw [List.mem_cons, List.mem_cons, sameRest later member]
        rw [inductionHypothesis sameNext]

theorem unseen_eq_nil {seen : List Key} {items : List Item}
    (before : ∀ item ∈ items, key item ∈ seen) : unseen key seen items = [] := by
  induction items with
  | nil => rfl
  | cons item items inductionHypothesis =>
      rw [unseen_cons, if_pos (before item List.mem_cons_self)]
      exact inductionHypothesis fun later member => before later (List.mem_cons_of_mem _ member)

/-- The second part of a concatenation is filtered by what the first one has shown. -/
theorem unseen_append {seen after : List Key} {left right : List Item}
    (shown : ∀ item ∈ right, key item ∈ after ↔ key item ∈ seen ∨ key item ∈ left.map key) :
    unseen key seen (left ++ right) = unseen key seen left ++ unseen key after right := by
  induction left generalizing seen with
  | nil =>
      refine unseen_congr fun item member => ?_
      rw [shown item member, List.map_nil]
      simp
  | cons item items inductionHypothesis =>
      rw [List.cons_append, unseen_cons, unseen_cons]
      by_cases before : key item ∈ seen
      · rw [if_pos before, if_pos before]
        refine inductionHypothesis fun later member => ?_
        rw [shown later member, List.map_cons, List.mem_cons]
        constructor
        · rintro (old | same | new)
          · exact .inl old
          · exact .inl (by rw [same]; exact before)
          · exact .inr new
        · rintro (old | new)
          · exact .inl old
          · exact .inr (.inr new)
      · rw [if_neg before, if_neg before, List.cons_append]
        congr 1
        refine inductionHypothesis fun later member => ?_
        rw [shown later member, List.map_cons, List.mem_cons, List.mem_cons]
        exact or_left_comm.trans or_assoc.symm

/-- What has been seen before the first occurrences are taken has been seen after it. -/
theorem unseen_unseen {seen later : List Key} {items : List Item} (subset : seen ⊆ later) :
    unseen key later (unseen key seen items) = unseen key later items := by
  induction items generalizing seen later with
  | nil => rfl
  | cons item items inductionHypothesis =>
      rw [unseen_cons]
      by_cases before : key item ∈ seen
      · rw [if_pos before, unseen_cons, if_pos (subset before)]
        exact inductionHypothesis subset
      · rw [if_neg before, unseen_cons, unseen_cons]
        by_cases shown : key item ∈ later
        · rw [if_pos shown, if_pos shown]
          exact inductionHypothesis (List.cons_subset.mpr ⟨shown, subset⟩)
        · rw [if_neg shown, if_neg shown, inductionHypothesis (List.cons_subset_cons _ subset)]

theorem mem_keys_unseen {seen : List Key} {items : List Item} {one : Key} :
    one ∈ (unseen key seen items).map key ↔ one ∈ items.map key ∧ one ∉ seen := by
  induction items generalizing seen with
  | nil => simp [unseen]
  | cons item items inductionHypothesis =>
      rw [unseen_cons]
      by_cases before : key item ∈ seen
      · rw [if_pos before, inductionHypothesis, List.map_cons, List.mem_cons]
        constructor
        · exact fun ⟨member, fresh⟩ => ⟨.inr member, fresh⟩
        · rintro ⟨rfl | member, fresh⟩
          · exact (fresh before).elim
          · exact ⟨member, fresh⟩
      · rw [if_neg before, List.map_cons, List.mem_cons, inductionHypothesis, List.map_cons,
          List.mem_cons, List.mem_cons, not_or]
        by_cases same : one = key item
        · subst same
          simp [before]
        · simp [same]

theorem nodup_keys_unseen {seen : List Key} {items : List Item} :
    ((unseen key seen items).map key).Nodup := by
  induction items generalizing seen with
  | nil => exact List.nodup_nil
  | cons item items inductionHypothesis =>
      rw [unseen_cons]
      split
      · exact inductionHypothesis
      · refine List.nodup_cons.mpr ⟨fun again => ?_, inductionHypothesis⟩
        exact (mem_keys_unseen.mp again).2 List.mem_cons_self

/-- Distinct keys are all met first. -/
theorem unseen_eq_self {seen : List Key} {items : List Item} (distinct : (items.map key).Nodup)
    (fresh : ∀ item ∈ items, key item ∉ seen) : unseen key seen items = items := by
  induction items generalizing seen with
  | nil => rfl
  | cons item items inductionHypothesis =>
      obtain ⟨absent, rest⟩ := List.nodup_cons.mp distinct
      obtain ⟨isFresh, othersFresh⟩ := List.forall_mem_cons.mp fresh
      rw [unseen_cons, if_neg isFresh, inductionHypothesis rest]
      intro later member
      rw [List.mem_cons, not_or]
      constructor
      · intro same
        rw [← same] at absent
        exact absent (List.mem_map_of_mem member)
      · exact othersFresh later member

theorem mem_keys_firstOccurrences {items : List Item} {one : Key} :
    one ∈ (firstOccurrences key items).map key ↔ one ∈ items.map key := by
  rw [firstOccurrences, mem_keys_unseen]
  simp

theorem nodup_keys_firstOccurrences {items : List Item} :
    ((firstOccurrences key items).map key).Nodup :=
  nodup_keys_unseen

theorem firstOccurrences_append {left right : List Item} :
    firstOccurrences key (left ++ right) =
      firstOccurrences key left ++ unseen key (left.map key) right :=
  unseen_append fun _ _ => by simp

theorem firstOccurrences_append_left {left right : List Item} :
    firstOccurrences key (firstOccurrences key left ++ right) =
      firstOccurrences key (left ++ right) := by
  rw [firstOccurrences_append, firstOccurrences_append, firstOccurrences, firstOccurrences,
    unseen_unseen (List.Subset.refl _)]
  congr 1
  exact unseen_congr fun item _ => mem_keys_firstOccurrences

theorem firstOccurrences_append_right {left right : List Item} :
    firstOccurrences key (left ++ firstOccurrences key right) =
      firstOccurrences key (left ++ right) := by
  rw [firstOccurrences_append, firstOccurrences_append]
  congr 1
  exact unseen_unseen (List.nil_subset _)

theorem unseen_sublist {seen : List Key} {items : List Item} :
    (unseen key seen items).Sublist items := by
  induction items generalizing seen with
  | nil => exact List.Sublist.slnil
  | cons item items inductionHypothesis =>
      rw [unseen_cons]
      split
      · exact inductionHypothesis.cons item
      · exact inductionHypothesis.cons_cons item

theorem find?_unseen {seen : List Key} {items : List Item} {wanted : Item → Bool}
    (respects : ∀ one two, key one = key two → wanted one = wanted two)
    (unwanted : ∀ item ∈ items, key item ∈ seen → wanted item = false) :
    (unseen key seen items).find? wanted = items.find? wanted := by
  induction items generalizing seen with
  | nil => rfl
  | cons item items inductionHypothesis =>
      have unwantedRest : ∀ later ∈ items, key later ∈ seen → wanted later = false :=
        fun later member => unwanted later (List.mem_cons_of_mem _ member)
      rw [unseen_cons]
      by_cases before : key item ∈ seen
      · have skipped := unwanted item List.mem_cons_self before
        rw [if_pos before, List.find?_cons_of_neg (by simp [skipped])]
        exact inductionHypothesis unwantedRest
      · rw [if_neg before]
        cases found : wanted item with
        | true => rw [List.find?_cons_of_pos found, List.find?_cons_of_pos found]
        | false =>
            rw [List.find?_cons_of_neg (by simp [found]), List.find?_cons_of_neg (by simp [found])]
            refine inductionHypothesis fun later member again => ?_
            obtain same | old := List.mem_cons.mp again
            · rw [respects later item same, found]
            · exact unwantedRest later member old

/-- The first item that is wanted is a first occurrence. -/
theorem find?_firstOccurrences {items : List Item} {wanted : Item → Bool}
    (respects : ∀ one two, key one = key two → wanted one = wanted two) :
    (firstOccurrences key items).find? wanted = items.find? wanted :=
  find?_unseen respects fun _ _ nothing => absurd nothing List.not_mem_nil

/-! ### A coarser key -/

variable {Coarse : Type} [DecidableEq Coarse] {coarse : Item → Coarse}

theorem unseen_eq_unseen {seen : List Key} {seenCoarse : List Coarse} {items : List Item}
    (separates : ∀ one ∈ items, ∀ two ∈ items, coarse one = coarse two ↔ key one = key two)
    (same : ∀ item ∈ items, coarse item ∈ seenCoarse ↔ key item ∈ seen) :
    unseen coarse seenCoarse items = unseen key seen items := by
  induction items generalizing seen seenCoarse with
  | nil => rfl
  | cons item items inductionHypothesis =>
      have rest : ∀ one ∈ items, ∀ two ∈ items, coarse one = coarse two ↔ key one = key two :=
        fun one oneIn two twoIn =>
          separates one (List.mem_cons_of_mem _ oneIn) two (List.mem_cons_of_mem _ twoIn)
      have sameRest : ∀ later ∈ items, coarse later ∈ seenCoarse ↔ key later ∈ seen :=
        fun later member => same later (List.mem_cons_of_mem _ member)
      rw [unseen_cons, unseen_cons]
      by_cases before : key item ∈ seen
      · rw [if_pos before, if_pos ((same item List.mem_cons_self).mpr before)]
        exact inductionHypothesis rest sameRest
      · rw [if_neg before, if_neg (mt (same item List.mem_cons_self).mp before)]
        congr 1
        refine inductionHypothesis rest fun later member => ?_
        rw [List.mem_cons, List.mem_cons, sameRest later member,
          separates later (List.mem_cons_of_mem _ member) item List.mem_cons_self]

/-- **A coarser key keeps the same items exactly where it tells apart what the finer one
does.** -/
theorem firstOccurrences_eq_iff {items : List Item}
    (coarser : ∀ one two, key one = key two → coarse one = coarse two) :
    firstOccurrences coarse items = firstOccurrences key items ↔
      ∀ one ∈ items, ∀ two ∈ items, coarse one = coarse two → key one = key two := by
  constructor
  · intro same one oneIn two twoIn equal
    have kept : ∀ item ∈ items, ∃ first ∈ firstOccurrences coarse items, key first = key item := by
      intro item member
      rw [same]
      exact List.mem_map.mp (mem_keys_firstOccurrences.mpr (List.mem_map_of_mem member))
    obtain ⟨first, firstIn, firstSame⟩ := kept one oneIn
    obtain ⟨second, secondIn, secondSame⟩ := kept two twoIn
    have together : coarse first = coarse second := by
      rw [coarser _ _ firstSame, coarser _ _ secondSame]
      exact equal
    have oneOnly : first = second :=
      List.inj_on_of_nodup_map nodup_keys_firstOccurrences firstIn secondIn together
    rw [← firstSame, ← secondSame, oneOnly]
  · intro separates
    refine unseen_eq_unseen (fun one oneIn two twoIn => ?_) fun item member => ?_
    · exact ⟨separates one oneIn two twoIn, coarser one two⟩
    · exact iff_of_false List.not_mem_nil List.not_mem_nil

end FirstOccurrences

/-! ### Related lists and sorted lists -/

theorem exists_related {Left Right : Type} {related : Left → Right → Prop} {lefts : List Left}
    {rights : List Right} (pairs : List.Forall₂ related lefts rights) {left : Left}
    (member : left ∈ lefts) : ∃ right ∈ rights, related left right := by
  induction pairs with
  | nil => cases member
  | cons first _ inductionHypothesis =>
      rcases List.mem_cons.mp member with rfl | member
      · exact ⟨_, List.mem_cons_self, first⟩
      · obtain ⟨right, rightMember, isRelated⟩ := inductionHypothesis member
        exact ⟨right, List.mem_cons_of_mem _ rightMember, isRelated⟩

theorem insertionSort_eq_iff {Item : Type} [LinearOrder Item] {first second : List Item} :
    first.insertionSort (· ≤ ·) = second.insertionSort (· ≤ ·) ↔ first.Perm second := by
  have firstSame := List.perm_insertionSort (· ≤ ·) first
  have secondSame := List.perm_insertionSort (· ≤ ·) second
  constructor
  · intro same
    exact firstSame.symm.trans (.trans (.of_eq same) secondSame)
  · intro same
    exact List.Perm.eq_of_pairwise' (List.pairwise_insertionSort _ _)
      (List.pairwise_insertionSort _ _) (firstSame.trans (same.trans secondSame.symm))

end Tobiko.Foundation
