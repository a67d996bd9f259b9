import Tobiko.Foundation.Dictionary

/-!
Contract: nested dictionaries that are mutable objects.

Owns: heaps of dictionaries, the content of a reference at every path of keys, what is reached
from a reference, and `copy.deepcopy`.

Does not own: cycles. What is reached from a reference is nested to some depth.

A content only depends on the objects that are reached, so that it is kept by every change of
other objects.
-/

namespace Tobiko.Foundation

/-- A value: a dictionary, by its address, or anything else. -/
inductive Ref (Atom : Type) where
  | atom (value : Atom)
  | dict (address : Nat)

/-- The dictionaries of a program, each at its address. -/
abbrev DictHeap (Key Atom : Type) := List (Dict Key (Ref Atom))

/-- What is seen at the end of a path. -/
inductive Node (Atom : Type) where
  | atom (value : Atom)
  | dict
deriving DecidableEq

namespace DictHeap

variable {Key Atom : Type} [DecidableEq Key]

def view (heap : DictHeap Key Atom) : Ref Atom → List Key → Option (Node Atom)
  | .atom value, [] => some (.atom value)
  | .dict _, [] => some .dict
  | .atom _, _ :: _ => none
  | .dict address, key :: path =>
      match heap[address]?.bind fun object => object.get? key with
      | some ref => view heap ref path
      | none => none

/-- The content of an item of a dictionary. -/
def itemView (heap : DictHeap Key Atom) (object : Dict Key (Ref Atom)) (key : Key)
    (path : List Key) : Option (Node Atom) :=
  match object.get? key with
  | some ref => heap.view ref path
  | none => none

theorem view_cons {heap : DictHeap Key Atom} {address : Nat} {object : Dict Key (Ref Atom)}
    (present : heap[address]? = some object) (key : Key) (path : List Key) :
    heap.view (.dict address) (key :: path) = heap.itemView object key path := by
  rw [view, present]
  rfl

/-- All that is reached from the reference is allowed, and at most so deep. -/
inductive Nested (heap : DictHeap Key Atom) (allowed : Nat → Prop) : Nat → Ref Atom → Prop where
  | atom {depth : Nat} (value : Atom) : Nested heap allowed depth (.atom value)
  | dict {depth address : Nat} {object : Dict Key (Ref Atom)} (within : allowed address)
      (present : heap[address]? = some object)
      (items : ∀ key ref, object.get? key = some ref → Nested heap allowed depth ref) :
      Nested heap allowed (depth + 1) (.dict address)

section Nested

variable {heap after : DictHeap Key Atom} {allowed : Nat → Prop} {depth : Nat} {ref : Ref Atom}

/-- What keeps the objects that are reached keeps the content. -/
theorem Nested.agree (nested : Nested heap allowed depth ref)
    (same : ∀ address object, allowed address → heap[address]? = some object →
      after[address]? = some object) :
    Nested after allowed depth ref ∧ ∀ path, after.view ref path = heap.view ref path := by
  induction nested with
  | atom value =>
      refine ⟨.atom value, fun path => ?_⟩
      cases path with
      | nil => rfl
      | cons key path => rfl
  | dict within present items inductionHypothesis =>
      rename_i depth address object
      have presentAfter := same address object within present
      refine ⟨.dict within presentAfter fun key ref found =>
        (inductionHypothesis key ref found).1, fun path => ?_⟩
      cases path with
      | nil => rfl
      | cons key path =>
          rw [view_cons presentAfter, view_cons present]
          unfold itemView
          cases found : object.get? key with
          | none => rfl
          | some ref => exact (inductionHypothesis key ref found).2 path

omit [DecidableEq Key] in
theorem getElem?_ofGrowing {object : Dict Key (Ref Atom)} {address : Nat}
    (grows : heap <+: after) (present : heap[address]? = some object) :
    after[address]? = some object := by
  obtain ⟨more, same⟩ := grows
  obtain ⟨below, -⟩ := List.getElem?_eq_some_iff.mp present
  rw [← same, List.getElem?_append_left below, present]

theorem Nested.grow (nested : Nested heap allowed depth ref) (grows : heap <+: after) :
    Nested after allowed depth ref ∧ ∀ path, after.view ref path = heap.view ref path :=
  nested.agree fun _ _ _ present => getElem?_ofGrowing grows present

theorem Nested.mono {larger : Nat → Prop} (nested : Nested heap allowed depth ref)
    (wider : ∀ address object, heap[address]? = some object → allowed address →
      larger address) : Nested heap larger depth ref := by
  induction nested with
  | atom value => exact .atom value
  | dict within present items inductionHypothesis =>
      exact .dict (wider _ _ present within) present inductionHypothesis

theorem Nested.deeper (nested : Nested heap allowed depth ref) {deeper : Nat}
    (below : depth ≤ deeper) : Nested heap allowed deeper ref := by
  induction nested generalizing deeper with
  | atom value => exact .atom value
  | dict within present items inductionHypothesis =>
      obtain ⟨less, rfl⟩ : ∃ less, deeper = less + 1 := ⟨deeper - 1, by omega⟩
      exact .dict within present fun key ref found =>
        inductionHypothesis key ref found (by omega)

omit [DecidableEq Key] in
theorem lt_length {object : Dict Key (Ref Atom)} {address : Nat}
    (present : heap[address]? = some object) : address < heap.length :=
  (List.getElem?_eq_some_iff.mp present).1

theorem itemView_of_agree {object : Dict Key (Ref Atom)} {key : Key}
    (kept : ∀ ref, object.get? key = some ref → ∀ path, after.view ref path = heap.view ref path)
    (path : List Key) : after.itemView object key path = heap.itemView object key path := by
  unfold itemView
  cases found : object.get? key with
  | none => rfl
  | some ref => exact kept ref found path

theorem itemView_set (heap : DictHeap Key Atom) (object : Dict Key (Ref Atom)) (key other : Key)
    (ref : Ref Atom) (path : List Key) :
    heap.itemView (object.set key ref) other path =
      if other = key then heap.view ref path else heap.itemView object other path := by
  unfold itemView
  rw [Dict.get?_set]
  by_cases same : other = key
  · rw [if_pos same, if_pos same]
  · rw [if_neg same, if_neg same]

end Nested

/-! ### Copies -/

/-- The items of a copy, one after another. -/
def copyItems (copy : Ref Atom → DictHeap Key Atom → Option (Ref Atom × DictHeap Key Atom)) :
    List (Key × Ref Atom) → Dict Key (Ref Atom) → DictHeap Key Atom →
      Option (Dict Key (Ref Atom) × DictHeap Key Atom)
  | [], copied, heap => some (copied, heap)
  | (key, ref) :: items, copied, heap => do
      let (ref, heap) ← copy ref heap
      copyItems copy items (copied.set key ref) heap

/-- `copy.deepcopy`, of what is nested at most so deep. -/
def deepCopy : Nat → Ref Atom → DictHeap Key Atom → Option (Ref Atom × DictHeap Key Atom)
  | _, .atom value, heap => some (.atom value, heap)
  | 0, .dict _, _ => none
  | depth + 1, .dict address, heap => do
      let object ← heap[address]?
      let (copied, heap) ← copyItems (deepCopy depth) object.entries .empty heap
      some (.dict heap.length, heap ++ [copied])

/-- The items of a new dictionary do not reach it. -/
def Rooted (start heap : DictHeap Key Atom) (depth address : Nat) : Prop :=
  start.length ≤ address ∧ ∃ object, heap[address]? = some object ∧
    ∀ key ref, object.get? key = some ref →
      Nested heap (fun other => start.length ≤ other ∧ other ≠ address) depth ref

/-- A copy of a reference is made of new objects. -/
structure Copied (heap : DictHeap Key Atom) (depth : Nat) (ref : Ref Atom)
    (after : DictHeap Key Atom) (copy : Ref Atom) : Prop where
  grows : heap <+: after
  nested : Nested after (fun address => heap.length ≤ address) depth copy
  rooted : ∀ address, copy = .dict address → Rooted heap after (depth - 1) address
  view : ∀ path, after.view copy path = heap.view ref path

section Copies

variable {start heap : DictHeap Key Atom} {depth : Nat}
  {copy : Ref Atom → DictHeap Key Atom → Option (Ref Atom × DictHeap Key Atom)}

theorem copyItems_spec
    (copies : ∀ (heap : DictHeap Key Atom) ref, Nested heap (fun _ => True) depth ref →
      ∃ copied after, copy ref heap = some (copied, after) ∧ Copied heap depth ref after copied)
    {items : List (Key × Ref Atom)} {copied : Dict Key (Ref Atom)}
    (distinct : (items.map Prod.fst).Nodup)
    (nested : ∀ item ∈ items, Nested start (fun _ => True) depth item.2)
    (grown : start <+: heap)
    (new : ∀ key ref, copied.get? key = some ref →
      Nested heap (fun address => start.length ≤ address) depth ref) :
    ∃ result after, copyItems copy items copied heap = some (result, after) ∧ heap <+: after ∧
      (∀ key ref, result.get? key = some ref →
        Nested after (fun address => start.length ≤ address) depth ref) ∧
      ∀ key path, after.itemView result key path =
        match items.lookup key with
        | some ref => start.view ref path
        | none => heap.itemView copied key path := by
  induction items generalizing copied heap with
  | nil => exact ⟨copied, heap, rfl, List.prefix_refl _, new, fun _ _ => rfl⟩
  | cons item items inductionHypothesis =>
      obtain ⟨key, ref⟩ := item
      obtain ⟨fresh, others⟩ := List.nodup_cons.mp distinct
      obtain ⟨nestedHere, sameHere⟩ := (nested (key, ref) List.mem_cons_self).grow grown
      obtain ⟨ref', middle, made, copiedRef⟩ := copies heap ref nestedHere
      have newAfter : ∀ other found, (copied.set key ref').get? other = some found →
          Nested middle (fun address => start.length ≤ address) depth found := by
        intro other found present
        rw [Dict.get?_set] at present
        split at present
        · cases present
          apply copiedRef.nested.mono
          intro address object _ above
          exact Nat.le_trans grown.length_le above
        · exact ((new other found present).grow copiedRef.grows).1
      obtain ⟨result, after, ran, grows, nestedAfter, views⟩ := inductionHypothesis others
        (fun item member => nested item (List.mem_cons_of_mem _ member))
        (grown.trans copiedRef.grows) newAfter
      refine ⟨result, after, ?_, copiedRef.grows.trans grows, nestedAfter, ?_⟩
      · rw [copyItems, made]
        exact ran
      · intro other path
        rw [views, Dict.lookup_cons_eq, itemView_set]
        by_cases same : other = key
        · have absent : items.lookup other = none := by
            rw [← Option.not_isSome_iff_eq_none, Dict.isSome_lookup, same]
            exact fresh
          rw [absent, if_pos same, if_pos same]
          dsimp only
          rw [copiedRef.view, sameHere]
        · rw [if_neg same, if_neg same]
          cases items.lookup other with
          | some ref => rfl
          | none =>
              apply itemView_of_agree
              exact fun found present => ((new other found present).grow copiedRef.grows).2

/-- **A deep copy is made of new objects with the same content.** -/
theorem deepCopy_spec (depth : Nat) (heap : DictHeap Key Atom) (ref : Ref Atom)
    (nested : Nested heap (fun _ => True) depth ref) :
    ∃ copied after, deepCopy depth ref heap = some (copied, after) ∧
      Copied heap depth ref after copied := by
  induction depth generalizing heap ref with
  | zero =>
      cases nested with
      | atom value =>
          exact ⟨.atom value, heap, rfl, List.prefix_refl _, .atom value,
            fun address same => (by cases same), fun _ => rfl⟩
  | succ depth inductionHypothesis =>
      cases nested with
      | atom value =>
          exact ⟨.atom value, heap, rfl, List.prefix_refl _, .atom value,
            fun address same => (by cases same), fun _ => rfl⟩
      | dict within present items =>
          rename_i address object
          obtain ⟨copied, after, ran, grows, nestedAfter, views⟩ :=
            copyItems_spec inductionHypothesis object.distinct
              (fun item member => items item.1 item.2 (Dict.mem_entries_iff.mp member))
              (List.prefix_refl heap)
              (fun key ref found => (by rw [Dict.get?_empty] at found; cases found))
          have there : (after ++ [copied])[after.length]? = some copied := by
            rw [List.getElem?_append_right (Nat.le_refl _), Nat.sub_self]
            rfl
          have more : after <+: after ++ [copied] := List.prefix_append _ _
          refine ⟨.dict after.length, after ++ [copied], ?_, grows.trans more, ?_, ?_, ?_⟩
          · rw [deepCopy, present]
            dsimp only [Option.bind_eq_bind, Option.bind_some]
            rw [ran]
            rfl
          · apply Nested.dict grows.length_le there
            exact fun key ref found => ((nestedAfter key ref found).grow more).1
          · intro address same
            cases same
            refine ⟨grows.length_le, copied, there, fun key ref found => ?_⟩
            -- The items were copied before the object of the dictionary was there.
            have older : Nested after (fun other => heap.length ≤ other ∧ other ≠ after.length)
                depth ref := by
              apply (nestedAfter key ref found).mono
              intro other object existing above
              have below := lt_length existing
              exact ⟨above, by omega⟩
            exact (older.grow more).1
          · intro path
            cases path with
            | nil => rfl
            | cons key path =>
                rw [view_cons there, view_cons present]
                rw [@itemView_of_agree _ _ _ after _ copied key
                  fun ref found => ((nestedAfter key ref found).grow more).2, views]
                unfold itemView Dict.get?
                cases object.entries.lookup key with
                | some ref => rfl
                | none => rfl

end Copies

end DictHeap

end Tobiko.Foundation
