import Tobiko.Foundation.DictHeap

/-!
Contract: `deep_merge` of `tobiko/openstack/keystone/_clouds_file.py`.

Owns: the merge of nested dictionaries, the content of its result at every path, what it leaves of
the objects that were there, and the laws that follow.

Does not own: the objects and their copies, and where the clouds files are.
-/

namespace Tobiko.Openstack.Keystone

open Tobiko.Foundation Tobiko.Foundation.DictHeap

section DeepMerge

variable {Key Atom : Type} [DecidableEq Key]

/-! ### The merge -/

/-- The value that an item of `override` gives, over what `result` has for its key. -/
def mergeValue (deepcopy : Ref Atom → DictHeap Key Atom → Option (Ref Atom × DictHeap Key Atom))
    (merge : Nat → Nat → DictHeap Key Atom → Option (Nat × DictHeap Key Atom)) :
    Option (Ref Atom) → Ref Atom → DictHeap Key Atom → Option (Ref Atom × DictHeap Key Atom)
  | some (.dict inner), .dict override, heap => do
      let (merged, heap) ← merge inner override heap
      some (.dict merged, heap)
  | _, value, heap => deepcopy value heap

/-- The loop over the items of `override`, which changes `result`. -/
def mergeItems (deepcopy : Ref Atom → DictHeap Key Atom → Option (Ref Atom × DictHeap Key Atom))
    (merge : Nat → Nat → DictHeap Key Atom → Option (Nat × DictHeap Key Atom)) (result : Nat) :
    List (Key × Ref Atom) → DictHeap Key Atom → Option (DictHeap Key Atom)
  | [], heap => some heap
  | (key, value) :: items, heap => do
      let object ← heap[result]?
      let (value, heap) ← mergeValue deepcopy merge (object.get? key) value heap
      let object ← heap[result]?
      mergeItems deepcopy merge result items (heap.set result (object.set key value))

/-- The address of the merged dictionary, for dictionaries that are nested at most so deep. -/
def deepMerge : Nat → Nat → Nat → DictHeap Key Atom → Option (Nat × DictHeap Key Atom)
  | 0, _, _, _ => none
  | depth + 1, base, override, heap => do
      match ← deepCopy (depth + 1) (.dict base) heap with
      | (.atom _, _) => none
      | (.dict result, heap) =>
          let object ← heap[override]?
          let heap ← mergeItems (deepCopy depth) (deepMerge depth) result object.entries heap
          some (result, heap)

/-! ### Contents -/

/-- The path, or something else than a dictionary at a prefix of it, is in `override`. -/
def OverridesAt (override : List Key → Option (Node Atom)) (path : List Key) : Prop :=
  (override path).isSome = true ∨ ∃ before value, before <+: path ∧
    override before = some (.atom value)

/-- The content that a merge ought to have. -/
def Merged (base override result : List Key → Option (Node Atom)) : Prop :=
  ∀ path, (OverridesAt override path → result path = override path) ∧
    (¬OverridesAt override path → result path = base path)

section Contents

variable {base override result : List Key → Option (Node Atom)}

omit [DecidableEq Key] in
theorem overridesAt_cons (root : override [] = some .dict) (key : Key) (path : List Key) :
    OverridesAt override (key :: path) ↔ OverridesAt (fun rest => override (key :: rest)) path := by
  unfold OverridesAt
  apply or_congr_right
  constructor
  · intro found
    obtain ⟨before, value, isPrefix, same⟩ := found
    cases before with
    | nil =>
        rw [root] at same
        cases same
    | cons first before =>
        obtain ⟨sameKey, isPrefixRest⟩ := List.cons_prefix_cons.mp isPrefix
        subst sameKey
        exact ⟨before, value, isPrefixRest, same⟩
  · intro found
    obtain ⟨before, value, isPrefix, same⟩ := found
    exact ⟨key :: before, value, List.cons_prefix_cons.mpr ⟨rfl, isPrefix⟩, same⟩

omit [DecidableEq Key] in
/-- Dictionaries are merged key by key. -/
theorem merged_of_items (baseRoot : base [] = some .dict) (overrideRoot : override [] = some .dict)
    (resultRoot : result [] = some .dict)
    (items : ∀ key, Merged (fun path => base (key :: path)) (fun path => override (key :: path))
      fun path => result (key :: path)) : Merged base override result := by
  intro path
  cases path with
  | nil =>
      rw [baseRoot, overrideRoot, resultRoot]
      exact ⟨fun _ => rfl, fun _ => rfl⟩
  | cons key path =>
      rw [overridesAt_cons overrideRoot]
      exact items key path

omit [DecidableEq Key] in
/-- Nothing is there to override. -/
theorem merged_of_absent (absent : ∀ path, override path = none)
    (same : ∀ path, result path = base path) : Merged base override result := by
  intro path
  constructor
  · intro overrides
    rcases overrides with present | ⟨before, value, -, found⟩
    · rw [absent] at present
      cases present
    · rw [absent] at found
      cases found
  · exact fun _ => same path

theorem view_none_of_not_dict (heap : DictHeap Key Atom) {ref : Ref Atom}
    (other : ∀ address, ref ≠ .dict address) {path : List Key} (deeper : path ≠ []) :
    heap.view ref path = none := by
  cases ref with
  | dict address => exact absurd rfl (other address)
  | atom value =>
      cases path with
      | nil => exact absurd rfl deeper
      | cons key path => rfl

/-- A value replaces what is there, unless both are dictionaries. -/
theorem merged_of_replaced {heap : DictHeap Key Atom} {object : Dict Key (Ref Atom)} {key : Key}
    {value : Ref Atom} (present : ∀ path, override path = heap.view value path)
    (there : ∀ path, base path = heap.itemView object key path)
    (notBoth : ∀ inner address, object.get? key = some (.dict inner) → value ≠ .dict address)
    (same : ∀ path, result path = override path) : Merged base override result := by
  intro path
  refine ⟨fun _ => same path, fun free => ?_⟩
  have nothing : override path = none := by
    rw [← Option.not_isSome_iff_eq_none]
    exact fun some_ => free (.inl some_)
  rw [same, nothing, there]
  cases value with
  | atom other =>
      exact absurd (.inr ⟨[], other, List.nil_prefix, by rw [present]; rfl⟩) free
  | dict address =>
      have deeper : path ≠ [] := by
        intro root
        rw [present, root] at nothing
        cases nothing
      unfold itemView
      cases found : object.get? key with
      | none => rfl
      | some ref =>
          apply Eq.symm
          apply view_none_of_not_dict _ _ deeper
          intro inner isDict
          rw [isDict] at found
          exact notBoth inner address found rfl

end Contents

/-! ### The loop -/

/-- A merge of two references: new objects with the merged content. -/
structure MergedInto (heap : DictHeap Key Atom) (depth base override : Nat)
    (after : DictHeap Key Atom) (result : Nat) : Prop where
  grows : heap <+: after
  nested : Nested after (fun address => heap.length ≤ address) depth (.dict result)
  merged : Merged (heap.view (.dict base)) (heap.view (.dict override))
    (after.view (.dict result))

/-- What holds of `result` while the items are merged into it: its own object is not reached from
its items. -/
structure Merging (start : DictHeap Key Atom) (depth result : Nat) (object : Dict Key (Ref Atom))
    (heap : DictHeap Key Atom) : Prop where
  grows : start <+: heap
  new : start.length ≤ result
  present : heap[result]? = some object
  items : ∀ key ref, object.get? key = some ref →
    Nested heap (fun address => start.length ≤ address ∧ address ≠ result) depth ref

variable {start heap : DictHeap Key Atom} {depth result : Nat} {object : Dict Key (Ref Atom)}

/-- The object of `result` is replaced. -/
theorem Merging.set (merging : Merging start depth result object heap)
    {middle : DictHeap Key Atom} (grows : heap <+: middle) (key : Key) {value : Ref Atom}
    (nested : Nested middle (fun address => heap.length ≤ address) depth value) :
    Merging start depth result (object.set key value)
        (middle.set result (object.set key value)) ∧
      ∀ other path, itemView (middle.set result (object.set key value)) (object.set key value)
          other path =
        if other = key then middle.view value path else heap.itemView object other path := by
  have below := lt_length merging.present
  have belowMiddle : result < middle.length := Nat.lt_of_lt_of_le below grows.length_le
  have kept : ∀ {allowed : Nat → Prop} {ref : Ref Atom}, (∀ address, allowed address →
      address ≠ result) → Nested middle allowed depth ref →
      Nested (middle.set result (object.set key value)) allowed depth ref ∧
        ∀ path, DictHeap.view (middle.set result (object.set key value)) ref path =
          middle.view ref path := by
    intro allowed ref other reached
    apply reached.agree
    intro address found within present
    rw [List.getElem?_set_ne (other address within).symm, present]
  have keptValue := kept (fun address above same => (by omega)) nested
  have keptItems : ∀ other ref, object.get? other = some ref →
      Nested (middle.set result (object.set key value))
        (fun address => start.length ≤ address ∧ address ≠ result) depth ref ∧
        ∀ path, DictHeap.view (middle.set result (object.set key value)) ref path =
          heap.view ref path := by
    intro other ref found
    obtain ⟨nestedMiddle, sameMiddle⟩ := (merging.items other ref found).grow grows
    obtain ⟨nestedAfter, sameAfter⟩ := kept (fun _ within => within.2) nestedMiddle
    exact ⟨nestedAfter, fun path => (sameAfter path).trans (sameMiddle path)⟩
  constructor
  · constructor
    case grows =>
      obtain ⟨more, same⟩ := merging.grows.trans grows
      rw [← same, List.set_append_right _ _ merging.new]
      exact List.prefix_append _ _
    case new => exact merging.new
    case present => rw [List.getElem?_set_self belowMiddle]
    case items =>
      intro other ref found
      rw [Dict.get?_set] at found
      split at found
      · cases found
        apply keptValue.1.mono
        intro address _ _ above
        have startBelow := merging.grows.length_le
        exact ⟨by omega, by omega⟩
      · exact (keptItems other ref found).1
  · intro other path
    rw [itemView_set]
    by_cases same : other = key
    · rw [if_pos same, if_pos same, keptValue.2]
    · rw [if_neg same, if_neg same]
      exact itemView_of_agree (fun ref found => (keptItems other ref found).2) path

/-- **The step:** one item of `override` gives a new value. -/
theorem mergeValue_spec
    {merge : Nat → Nat → DictHeap Key Atom → Option (Nat × DictHeap Key Atom)}
    (merges : ∀ heap base override, Nested heap (fun _ => True) depth (.dict base) →
      Nested heap (fun _ => True) depth (.dict override) →
      ∃ merged after, merge base override heap = some (merged, after) ∧
        MergedInto heap depth base override after merged)
    (merging : Merging start depth result object heap) (key : Key) {value : Ref Atom}
    (nested : Nested heap (fun _ => True) depth value) :
    ∃ value' after, mergeValue (deepCopy depth) merge (object.get? key) value heap =
        some (value', after) ∧ heap <+: after ∧
      Nested after (fun address => heap.length ≤ address) depth value' ∧
      Merged (heap.itemView object key) (heap.view value) (after.view value') := by
  have copied : (∀ inner address, object.get? key = some (.dict inner) →
      value ≠ .dict address) →
      ∃ value' after, deepCopy depth value heap = some (value', after) ∧ heap <+: after ∧
        Nested after (fun address => heap.length ≤ address) depth value' ∧
        Merged (heap.itemView object key) (heap.view value) (after.view value') := by
    intro notBoth
    obtain ⟨value', after, made, copy⟩ := deepCopy_spec depth heap value nested
    exact ⟨value', after, made, copy.grows, copy.nested,
      merged_of_replaced (fun _ => rfl) (fun _ => rfl) notBoth copy.view⟩
  cases found : object.get? key with
  | none =>
      exact copied fun inner address present => (by rw [found] at present; cases present)
  | some old =>
      cases old with
      | atom other =>
          exact copied fun inner address present => (by rw [found] at present; cases present)
      | dict inner =>
          cases value with
          | atom other => exact copied fun inner address _ same => (by cases same)
          | dict override =>
              have nestedInner : Nested heap (fun _ => True) depth (.dict inner) :=
                (merging.items key (.dict inner) found).mono fun _ _ _ _ => trivial
              obtain ⟨merged, after, made, into⟩ := merges heap inner override nestedInner nested
              refine ⟨.dict merged, after, ?_, into.grows, into.nested, ?_⟩
              · show (merge inner override heap).bind _ = _
                rw [made]
                rfl
              · have same : heap.itemView object key = heap.view (.dict inner) := by
                  funext path
                  unfold itemView
                  rw [found]
                rw [same]
                exact into.merged

/-- The items that are left are merged, and the others stay as they are. -/
theorem mergeItems_spec
    {merge : Nat → Nat → DictHeap Key Atom → Option (Nat × DictHeap Key Atom)}
    (merges : ∀ heap base override, Nested heap (fun _ => True) depth (.dict base) →
      Nested heap (fun _ => True) depth (.dict override) →
      ∃ merged after, merge base override heap = some (merged, after) ∧
        MergedInto heap depth base override after merged)
    {items : List (Key × Ref Atom)} (distinct : (items.map Prod.fst).Nodup)
    (nested : ∀ item ∈ items, Nested start (fun _ => True) depth item.2)
    (merging : Merging start depth result object heap) :
    ∃ merged after, mergeItems (deepCopy depth) merge result items heap = some after ∧
      Merging start depth result merged after ∧
      ∀ key, match items.lookup key with
        | some value =>
            Merged (heap.itemView object key) (start.view value) (after.itemView merged key)
        | none => ∀ path, after.itemView merged key path = heap.itemView object key path := by
  induction items generalizing object heap with
  | nil => exact ⟨object, heap, rfl, merging, fun _ _ => rfl⟩
  | cons item items inductionHypothesis =>
      obtain ⟨key, value⟩ := item
      obtain ⟨fresh, others⟩ := List.nodup_cons.mp distinct
      obtain ⟨nestedHere, sameHere⟩ :=
        (nested (key, value) List.mem_cons_self).grow merging.grows
      obtain ⟨value', middle, made, grows, nestedNew, mergedNew⟩ :=
        mergeValue_spec merges merging key nestedHere
      obtain ⟨mergingAfter, views⟩ := merging.set grows key nestedNew
      obtain ⟨merged, after, ran, final, finalViews⟩ := inductionHypothesis others
        (fun item member => nested item (List.mem_cons_of_mem _ member)) mergingAfter
      refine ⟨merged, after, ?_, final, ?_⟩
      · rw [mergeItems, merging.present]
        dsimp only [Option.bind_eq_bind, Option.bind_some]
        rw [made]
        dsimp only [Option.bind_some]
        rw [getElem?_ofGrowing grows merging.present]
        exact ran
      · intro other
        have later := finalViews other
        rw [Dict.lookup_cons_eq]
        by_cases same : other = key
        · have absent : items.lookup other = none := by
            rw [← Option.not_isSome_iff_eq_none, Dict.isSome_lookup, same]
            exact fresh
          rw [absent] at later
          dsimp only at later
          rw [if_pos same]
          dsimp only
          have now : after.itemView merged other = middle.view value' := by
            funext path
            rw [later, views, if_pos same]
          have before : start.view value = heap.view value :=
            funext fun path => (sameHere path).symm
          rw [now, before, same]
          exact mergedNew
        · rw [if_neg same]
          have here : itemView (middle.set result (object.set key value')) (object.set key value')
              other = heap.itemView object other := by
            funext path
            rw [views, if_neg same]
          rw [here] at later
          exact later

/-- **The merge** returns for all nested dictionaries, with a new dictionary of the merged
content. -/
theorem deepMerge_spec (depth : Nat) (heap : DictHeap Key Atom) (base override : Nat)
    (nestedBase : Nested heap (fun _ => True) depth (.dict base))
    (nestedOverride : Nested heap (fun _ => True) depth (.dict override)) :
    ∃ result after, deepMerge depth base override heap = some (result, after) ∧
      MergedInto heap depth base override after result := by
  induction depth generalizing heap base override with
  | zero => cases nestedBase
  | succ depth inductionHypothesis =>
      obtain ⟨copied, middle, made, copy⟩ := deepCopy_spec (depth + 1) heap (.dict base) nestedBase
      cases copied with
      | atom value =>
          have root := copy.view []
          cases root
      | dict result =>
          obtain ⟨new, object, present, items⟩ := copy.rooted result rfl
          cases nestedOverride with
          | dict within presentOverride overrideItems =>
              rename_i overrideObject
              have merging : Merging heap depth result object middle :=
                ⟨copy.grows, new, present, items⟩
              obtain ⟨merged, after, ran, final, views⟩ := mergeItems_spec inductionHypothesis
                overrideObject.distinct (fun item member =>
                  overrideItems item.1 item.2 (Dict.mem_entries_iff.mp member)) merging
              refine ⟨result, after, ?_, final.grows, ?_, ?_⟩
              · rw [deepMerge, made]
                dsimp only [Option.bind_eq_bind, Option.bind_some]
                rw [getElem?_ofGrowing copy.grows presentOverride]
                dsimp only [Option.bind_some]
                rw [ran]
                rfl
              · apply Nested.dict final.new final.present
                intro key ref found
                exact (final.items key ref found).mono fun _ _ _ within => within.1
              · apply merged_of_items rfl rfl rfl
                intro key
                have baseItem : (fun path => heap.view (.dict base) (key :: path)) =
                    middle.itemView object key := by
                  funext path
                  rw [← copy.view, view_cons present]
                have overrideItem : (fun path => heap.view (.dict override) (key :: path)) =
                    heap.itemView overrideObject key :=
                  funext fun path => view_cons presentOverride key path
                have resultItem : (fun path => after.view (.dict result) (key :: path)) =
                    after.itemView merged key :=
                  funext fun path => view_cons final.present key path
                rw [baseItem, overrideItem, resultItem]
                have here := views key
                change match overrideObject.get? key with
                  | some value => _
                  | none => _ at here
                unfold itemView
                cases found : overrideObject.get? key with
                | some value =>
                    rw [found] at here
                    exact here
                | none =>
                    rw [found] at here
                    exact merged_of_absent (fun _ => rfl) here

/-! ### The laws -/

/-- Objects that are nested to some depth. -/
def NestedDict (heap : DictHeap Key Atom) (address : Nat) : Prop :=
  ∃ depth, Nested heap (fun _ => True) depth (.dict address)

/-- A dictionary without items. -/
def IsEmpty (heap : DictHeap Key Atom) (address : Nat) : Prop :=
  ∀ key path, heap.view (.dict address) (key :: path) = none

/-- **The laws of the merge.** It returns, changes no object that was there, and gives the merged
content; an empty dictionary is the identity on both sides, and merging again changes nothing. -/
theorem deepMerge_laws (heap : DictHeap Key Atom) (base override : Nat)
    (nestedBase : NestedDict heap base) (nestedOverride : NestedDict heap override) :
    ∃ enough, ∀ depth, enough ≤ depth → ∃ result after,
      deepMerge depth base override heap = some (result, after) ∧
      (∀ (address : Nat) (object : Dict Key (Ref Atom)), heap[address]? = some object →
        after[address]? = some object) ∧
      (∀ path, after.view (.dict base) path = heap.view (.dict base) path ∧
        after.view (.dict override) path = heap.view (.dict override) path) ∧
      Merged (heap.view (.dict base)) (heap.view (.dict override)) (after.view (.dict result)) ∧
      (IsEmpty heap base → after.view (.dict result) = heap.view (.dict override)) ∧
      (IsEmpty heap override → after.view (.dict result) = heap.view (.dict base)) ∧
      ∃ again later, deepMerge depth result override after = some (again, later) ∧
        later.view (.dict again) = after.view (.dict result) := by
  obtain ⟨baseDepth, baseNested⟩ := nestedBase
  obtain ⟨overrideDepth, overrideNested⟩ := nestedOverride
  refine ⟨max baseDepth overrideDepth, fun depth enough => ?_⟩
  have deepBase := baseNested.deeper (Nat.le_trans (Nat.le_max_left _ _) enough)
  have deepOverride := overrideNested.deeper (Nat.le_trans (Nat.le_max_right _ _) enough)
  obtain ⟨result, after, ran, into⟩ := deepMerge_spec depth heap base override deepBase deepOverride
  have baseKept := (deepBase.grow into.grows).2
  obtain ⟨overrideAfter, overrideKept⟩ := deepOverride.grow into.grows
  have resultNested : Nested after (fun _ => True) depth (.dict result) :=
    into.nested.mono fun _ _ _ _ => trivial
  obtain ⟨again, later, ranAgain, intoAgain⟩ :=
    deepMerge_spec depth after result override resultNested overrideAfter
  refine ⟨result, after, ran, fun _ _ present => getElem?_ofGrowing into.grows present,
    fun path => ⟨baseKept path, overrideKept path⟩, into.merged, ?_, ?_, again, later, ranAgain, ?_⟩
  · intro empty
    funext path
    obtain ⟨overrides, free⟩ := into.merged path
    by_cases overridden : OverridesAt (heap.view (.dict override)) path
    · exact overrides overridden
    · rw [free overridden]
      cases path with
      | nil => rfl
      | cons key path =>
          rw [empty, eq_comm, ← Option.not_isSome_iff_eq_none]
          exact fun some_ => overridden (.inl some_)
  · intro empty
    funext path
    cases path with
    | nil => rfl
    | cons key path =>
        apply (into.merged (key :: path)).2
        intro overridden
        rcases overridden with present | ⟨before, value, isPrefix, found⟩
        · rw [empty] at present
          cases present
        · cases before with
          | nil => cases found
          | cons first before =>
              rw [empty] at found
              cases found
  · funext path
    have sameOverride : after.view (.dict override) = heap.view (.dict override) :=
      funext overrideKept
    obtain ⟨overrides, free⟩ := into.merged path
    obtain ⟨overridesAgain, freeAgain⟩ := intoAgain.merged path
    rw [sameOverride] at overridesAgain freeAgain
    by_cases overridden : OverridesAt (heap.view (.dict override)) path
    · rw [overridesAgain overridden, overrides overridden]
    · exact freeAgain overridden

end DeepMerge

/-! ### A cloud and its secrets -/

section Clouds

/-- `{"clouds": {"region": "one"}}` and `{"clouds": {"password": "secret"}}` -/
def cloudsHeap : DictHeap String String :=
  [Dict.empty.set "clouds" (.dict 1), Dict.empty.set "region" (.atom "one"),
    Dict.empty.set "clouds" (.dict 3), Dict.empty.set "password" (.atom "secret")]

theorem nested_single {heap : DictHeap String String} {address depth : Nat} {key : String}
    {value : Ref String} (present : heap[address]? = some (Dict.empty.set key value))
    (nested : Nested heap (fun _ => True) depth value) :
    Nested heap (fun _ => True) (depth + 1) (.dict address) := by
  apply Nested.dict trivial present
  intro other ref found
  rw [Dict.get?_set, Dict.get?_empty] at found
  split at found
  · cases found
    exact nested
  · cases found

theorem deepMerge_laws_clouds :
    ∃ enough, ∀ depth, enough ≤ depth → ∃ result after,
      deepMerge depth 0 2 cloudsHeap = some (result, after) ∧
      (∀ (address : Nat) (object : Dict String (Ref String)), cloudsHeap[address]? = some object →
        after[address]? = some object) ∧
      (∀ path, after.view (.dict 0) path = cloudsHeap.view (.dict 0) path ∧
        after.view (.dict 2) path = cloudsHeap.view (.dict 2) path) ∧
      Merged (cloudsHeap.view (.dict 0)) (cloudsHeap.view (.dict 2)) (after.view (.dict result)) ∧
      (IsEmpty cloudsHeap 0 → after.view (.dict result) = cloudsHeap.view (.dict 2)) ∧
      (IsEmpty cloudsHeap 2 → after.view (.dict result) = cloudsHeap.view (.dict 0)) ∧
      ∃ again later, deepMerge depth result 2 after = some (again, later) ∧
        later.view (.dict again) = after.view (.dict result) :=
  deepMerge_laws cloudsHeap 0 2
    ⟨2, nested_single rfl (nested_single rfl (.atom "one"))⟩
    ⟨2, nested_single rfl (nested_single rfl (.atom "secret"))⟩

example : (deepMerge 2 0 2 cloudsHeap).map (fun merged =>
    (merged.2.view (.dict merged.1) ["clouds", "region"],
      merged.2.view (.dict merged.1) ["clouds", "password"])) =
    some (some (.atom "one"), some (.atom "secret")) := by decide

end Clouds

end Tobiko.Openstack.Keystone
