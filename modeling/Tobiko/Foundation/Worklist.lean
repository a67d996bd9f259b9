import Mathlib.Data.Finset.Card
import Mathlib.Logic.Relation

/-!
Contract: a worklist that its consumer extends while it is emptied.

Owns: the loop that takes the last item, skips what cannot be resolved or has been visited
under its key, and else lets a body change a state and push more items; its end when finitely
many keys are met; and that it visits what can be reached, each key once.

Does not own: what the items, the keys and the body are.
-/

namespace Tobiko.Foundation

section Worklist

variable {Item Key Node State : Type}
  (resolve : Item → Option (Key × Node)) (body : State → Key → Node → List Item × State)

/-- The loop over the items, which are listed from the last one on. It ends in `none` when
`fuel` does not suffice. -/
def workThrough [DecidableEq Key] : Nat → List Item → List Key → State → Option State
  | 0, _, _, _ => none
  | _ + 1, [], _, state => some state
  | fuel + 1, item :: items, visited, state =>
      match resolve item with
      | none => workThrough fuel items visited state
      | some (key, node) =>
          if key ∈ visited then workThrough fuel items visited state
          else workThrough fuel ((body state key node).1.reverse ++ items) (key :: visited)
            (body state key node).2

/-- One turn of the body: what it visits, and the state before it. -/
structure Visit (Key Node State : Type) where
  key : Key
  node : Node
  before : State

/-- A course of the loop, with its visits in order. -/
inductive WorksThrough :
    List Item → List Key → State → List (Visit Key Node State) → State → Prop
  | done (visited state) : WorksThrough [] visited state [] state
  | unresolved (item items visited state visits last) (noObject : resolve item = none)
      (rest : WorksThrough items visited state visits last) :
      WorksThrough (item :: items) visited state visits last
  | again (item items visited state visits last key node)
      (resolved : resolve item = some (key, node)) (before : key ∈ visited)
      (rest : WorksThrough items visited state visits last) :
      WorksThrough (item :: items) visited state visits last
  | visit (item items visited state visits last key node)
      (resolved : resolve item = some (key, node)) (fresh : key ∉ visited)
      (rest : WorksThrough ((body state key node).1.reverse ++ items) (key :: visited)
        (body state key node).2 visits last) :
      WorksThrough (item :: items) visited state (⟨key, node, state⟩ :: visits) last

variable {resolve body}

/-! ### The end of the loop -/

theorem WorksThrough.workThrough_eq [DecidableEq Key] {items : List Item} {visited : List Key}
    {state last : State} {visits : List (Visit Key Node State)}
    (works : WorksThrough resolve body items visited state visits last) :
    ∃ bound, ∀ fuel, bound ≤ fuel →
      workThrough resolve body fuel items visited state = some last := by
  induction works with
  | done visited state =>
      refine ⟨1, fun fuel enough => ?_⟩
      obtain ⟨fuel, rfl⟩ := Nat.exists_eq_add_of_le' enough
      rfl
  | unresolved item items visited state visits last noObject rest inductionHypothesis =>
      obtain ⟨bound, ends⟩ := inductionHypothesis
      refine ⟨bound + 1, fun fuel enough => ?_⟩
      obtain ⟨fuel, rfl⟩ := Nat.exists_eq_succ_of_ne_zero (Nat.ne_zero_of_lt enough)
      simp only [workThrough, noObject, ends fuel (Nat.le_of_succ_le_succ enough)]
  | again item items visited state visits last key node resolved before rest
      inductionHypothesis =>
      obtain ⟨bound, ends⟩ := inductionHypothesis
      refine ⟨bound + 1, fun fuel enough => ?_⟩
      obtain ⟨fuel, rfl⟩ := Nat.exists_eq_succ_of_ne_zero (Nat.ne_zero_of_lt enough)
      simp only [workThrough, resolved, before, if_true,
        ends fuel (Nat.le_of_succ_le_succ enough)]
  | visit item items visited state visits last key node resolved fresh rest
      inductionHypothesis =>
      obtain ⟨bound, ends⟩ := inductionHypothesis
      refine ⟨bound + 1, fun fuel enough => ?_⟩
      obtain ⟨fuel, rfl⟩ := Nat.exists_eq_succ_of_ne_zero (Nat.ne_zero_of_lt enough)
      simp only [workThrough, resolved, fresh, if_false,
        ends fuel (Nat.le_of_succ_le_succ enough)]

theorem exists_visits [DecidableEq Key] {items : List Item} {visited : List Key}
    {state last : State} {fuel : Nat}
    (ends : workThrough resolve body fuel items visited state = some last) :
    ∃ visits, WorksThrough resolve body items visited state visits last := by
  induction fuel generalizing items visited state with
  | zero => cases ends
  | succ fuel inductionHypothesis =>
      cases items with
      | nil =>
          cases ends
          exact ⟨[], .done visited _⟩
      | cons item items =>
          unfold workThrough at ends
          cases resolved : resolve item with
          | none =>
              rw [resolved] at ends
              obtain ⟨visits, works⟩ := inductionHypothesis ends
              exact ⟨visits, .unresolved _ _ _ _ _ _ resolved works⟩
          | some pair =>
              obtain ⟨key, node⟩ := pair
              simp only [resolved] at ends
              split at ends
              · rename_i before
                obtain ⟨visits, works⟩ := inductionHypothesis ends
                exact ⟨visits, .again _ _ _ _ _ _ _ _ resolved before works⟩
              · rename_i fresh
                obtain ⟨visits, works⟩ := inductionHypothesis ends
                exact ⟨_, .visit _ _ _ _ _ _ _ _ resolved fresh works⟩

/-- The loop ends when the keys of the allowed items come from a finite set, and the body
pushes allowed items as long as its state is sound. The induction is on the keys that
have not been visited, and on the items within. -/
theorem exists_worksThrough [DecidableEq Key] (allowed : Item → Prop)
    (sound : State → Prop) (keys : Finset Key)
    (known : ∀ item key node, allowed item → resolve item = some (key, node) → key ∈ keys)
    (keeps : ∀ state item key node, sound state → allowed item →
      resolve item = some (key, node) →
      sound (body state key node).2 ∧ ∀ more ∈ (body state key node).1, allowed more)
    (items : List Item) (visited : List Key) (state : State)
    (itemsAllowed : ∀ item ∈ items, allowed item) (stateSound : sound state) :
    ∃ visits last, WorksThrough resolve body items visited state visits last := by
  generalize measure : (keys \ visited.toFinset).card = count
  induction count using Nat.strong_induction_on generalizing items visited state with
  | _ count inductionHypothesis =>
      induction items with
      | nil => exact ⟨[], state, .done visited state⟩
      | cons item items inner =>
          have rest := inner fun other member => itemsAllowed other (List.mem_cons_of_mem _ member)
          have itemAllowed := itemsAllowed item List.mem_cons_self
          cases resolved : resolve item with
          | none =>
              obtain ⟨visits, last, works⟩ := rest
              exact ⟨visits, last, .unresolved _ _ _ _ _ _ resolved works⟩
          | some pair =>
              obtain ⟨key, node⟩ := pair
              by_cases before : key ∈ visited
              · obtain ⟨visits, last, works⟩ := rest
                exact ⟨visits, last, .again _ _ _ _ _ _ _ _ resolved before works⟩
              · obtain ⟨afterSound, moreAllowed⟩ :=
                  keeps state item key node stateSound itemAllowed resolved
                have fewer : (keys \ (key :: visited).toFinset).card < count := by
                  rw [← measure]
                  refine Finset.card_lt_card (Finset.ssubset_iff_subset_ne.mpr ⟨?_, ?_⟩)
                  · intro other member
                    simp only [Finset.mem_sdiff, List.mem_toFinset, List.mem_cons,
                      not_or] at member ⊢
                    exact ⟨member.1, member.2.2⟩
                  · intro same
                    have here : key ∈ keys \ visited.toFinset := by
                      simp only [Finset.mem_sdiff, List.mem_toFinset]
                      exact ⟨known item key node itemAllowed resolved, before⟩
                    rw [← same] at here
                    simp at here
                have pushed : ∀ other ∈ (body state key node).1.reverse ++ items,
                    allowed other := by
                  intro other member
                  rcases List.mem_append.mp member with new | old
                  · exact moreAllowed other (List.mem_reverse.mp new)
                  · exact itemsAllowed other (List.mem_cons_of_mem _ old)
                obtain ⟨visits, last, works⟩ := inductionHypothesis _ fewer _ _ _ pushed
                  afterSound rfl
                exact ⟨_, _, .visit _ _ _ _ _ _ _ _ resolved before works⟩

/-! ### What is visited -/

section Course

variable {items : List Item} {visited : List Key} {state last : State}
  {visits : List (Visit Key Node State)}

theorem WorksThrough.nodup
    (works : WorksThrough resolve body items visited state visits last) :
    (visits.map Visit.key).Nodup ∧ ∀ visit ∈ visits, visit.key ∉ visited := by
  induction works with
  | done => exact ⟨List.nodup_nil, fun _ member => (List.not_mem_nil member).elim⟩
  | unresolved | again => assumption
  | visit item items visited state visits last key node resolved fresh rest
      inductionHypothesis =>
      obtain ⟨distinct, apart⟩ := inductionHypothesis
      constructor
      · refine List.nodup_cons.mpr ⟨fun member => ?_, distinct⟩
        obtain ⟨other, inVisits, same⟩ := List.mem_map.mp member
        exact apart other inVisits (by rw [same]; exact List.mem_cons_self)
      · intro other member
        rcases List.mem_cons.mp member with rfl | inVisits
        · exact fresh
        · exact fun before => apart other inVisits (List.mem_cons_of_mem _ before)

/-- What holds of every state before a visit holds at the end. -/
theorem WorksThrough.sound
    (works : WorksThrough resolve body items visited state visits last)
    (invariant : State → Prop) (allowed : Item → Prop)
    (keeps : ∀ state item key node, invariant state → allowed item →
      resolve item = some (key, node) →
      invariant (body state key node).2 ∧ ∀ more ∈ (body state key node).1, allowed more)
    (itemsAllowed : ∀ item ∈ items, allowed item) (start : invariant state) :
    invariant last ∧ ∀ visit ∈ visits, invariant visit.before ∧
      ∃ item, allowed item ∧ resolve item = some (visit.key, visit.node) := by
  induction works with
  | done => exact ⟨start, fun _ member => (List.not_mem_nil member).elim⟩
  | unresolved _ _ _ _ _ _ _ _ inductionHypothesis =>
      exact inductionHypothesis (fun other member =>
        itemsAllowed other (List.mem_cons_of_mem _ member)) start
  | again _ _ _ _ _ _ _ _ _ _ _ inductionHypothesis =>
      exact inductionHypothesis (fun other member =>
        itemsAllowed other (List.mem_cons_of_mem _ member)) start
  | visit item items visited state visits last key node resolved fresh rest
      inductionHypothesis =>
      have itemAllowed := itemsAllowed item List.mem_cons_self
      obtain ⟨after, moreAllowed⟩ := keeps state item key node start itemAllowed resolved
      have pushed : ∀ other ∈ (body state key node).1.reverse ++ items, allowed other := by
        intro other member
        rcases List.mem_append.mp member with new | old
        · exact moreAllowed other (List.mem_reverse.mp new)
        · exact itemsAllowed other (List.mem_cons_of_mem _ old)
      obtain ⟨ends, others⟩ := inductionHypothesis pushed after
      refine ⟨ends, fun other member => ?_⟩
      rcases List.mem_cons.mp member with rfl | inVisits
      · exact ⟨start, item, itemAllowed, resolved⟩
      · exact others other inVisits

theorem mem_visited_or {Key : Type} {key head : Key} {visited keys : List Key}
    (member : key ∈ head :: visited ∨ key ∈ keys) : key ∈ visited ∨ key = head ∨ key ∈ keys := by
  rcases member with before | now
  · rcases List.mem_cons.mp before with same | before
    · exact .inr (.inl same)
    · exact .inl before
  · exact .inr (.inr now)

/-- An item that is resolved at last was visited under its key, before or now. -/
theorem WorksThrough.visits_items
    (works : WorksThrough resolve body items visited state visits last) {item : Item}
    {key : Key} {node : Node} (member : item ∈ items)
    (resolved : resolve item = some (key, node)) :
    key ∈ visited ∨ key ∈ visits.map Visit.key := by
  induction works with
  | done => cases member
  | unresolved first items visited state visits last noObject rest inductionHypothesis =>
      rcases List.mem_cons.mp member with rfl | later
      · rw [resolved] at noObject
        cases noObject
      · exact inductionHypothesis later
  | again first items visited state visits last otherKey otherNode otherResolved before rest
      inductionHypothesis =>
      rcases List.mem_cons.mp member with rfl | later
      · rw [resolved] at otherResolved
        cases otherResolved
        exact .inl before
      · exact inductionHypothesis later
  | visit first items visited state visits last otherKey otherNode otherResolved fresh rest
      inductionHypothesis =>
      rw [List.map_cons, List.mem_cons]
      rcases List.mem_cons.mp member with rfl | later
      · rw [resolved] at otherResolved
        cases otherResolved
        exact .inr (.inl rfl)
      · exact mem_visited_or (inductionHypothesis (List.mem_append_right _ later))

/-- What the body pushes is visited too. -/
theorem WorksThrough.visits_pushed
    (works : WorksThrough resolve body items visited state visits last)
    {visit : Visit Key Node State} (member : visit ∈ visits) {item : Item} {key : Key}
    {node : Node} (pushed : item ∈ (body visit.before visit.key visit.node).1)
    (resolved : resolve item = some (key, node)) :
    key ∈ visited ∨ key ∈ visits.map Visit.key := by
  induction works with
  | done => cases member
  | unresolved _ _ _ _ _ _ _ _ inductionHypothesis => exact inductionHypothesis member
  | again _ _ _ _ _ _ _ _ _ _ _ inductionHypothesis => exact inductionHypothesis member
  | visit first items visited state visits last otherKey otherNode otherResolved fresh rest
      inductionHypothesis =>
      have later : key ∈ otherKey :: visited ∨ key ∈ visits.map Visit.key := by
        rcases List.mem_cons.mp member with rfl | inVisits
        · exact rest.visits_items
            (List.mem_append_left _ (List.mem_reverse.mpr pushed)) resolved
        · exact inductionHypothesis inVisits
      rw [List.map_cons, List.mem_cons]
      exact mem_visited_or later

/-- Every visit is reached from the items by what the bodies of visits push. -/
theorem WorksThrough.visits_reached
    (works : WorksThrough resolve body items visited state visits last)
    (reached : Item → Prop)
    (start : ∀ item ∈ items, reached item)
    (pushes : ∀ visit ∈ visits, ∀ item, reached item →
      resolve item = some (visit.key, visit.node) →
      ∀ more ∈ (body visit.before visit.key visit.node).1, reached more) :
    ∀ visit ∈ visits, ∃ item, reached item ∧ resolve item = some (visit.key, visit.node) := by
  induction works with
  | done => exact fun _ member => (List.not_mem_nil member).elim
  | unresolved _ _ _ _ _ _ _ _ inductionHypothesis =>
      exact inductionHypothesis
        (fun item member => start item (List.mem_cons_of_mem _ member)) pushes
  | again _ _ _ _ _ _ _ _ _ _ _ inductionHypothesis =>
      exact inductionHypothesis
        (fun item member => start item (List.mem_cons_of_mem _ member)) pushes
  | visit first items visited state visits last key node resolved fresh rest
      inductionHypothesis =>
      have firstReached := start first List.mem_cons_self
      have pushed := pushes ⟨key, node, state⟩ List.mem_cons_self first firstReached resolved
      have others := inductionHypothesis (fun item member => by
        rcases List.mem_append.mp member with new | old
        · exact pushed item (List.mem_reverse.mp new)
        · exact start item (List.mem_cons_of_mem _ old))
        (fun visit member => pushes visit (List.mem_cons_of_mem _ member))
      intro visit member
      rcases List.mem_cons.mp member with rfl | inVisits
      · exact ⟨first, firstReached, resolved⟩
      · exact others visit inVisits

end Course

end Worklist

end Tobiko.Foundation
