import Tobiko.Openstack.Octavia.Deployers

/-!
Contract: what is left by the deployment of some resources one after another.

Owns: which resources were requested, whether the load balancer had been seen active before each
of the requests, and the deployments of any resources, found or created.

Does not own: which resources a load balancer needs.
-/

namespace Tobiko.Openstack.Octavia

open Tobiko.Common Tobiko.Common.Time Tobiko.Foundation

section Deployed

variable {Id : Type} [DecidableEq Id]

/-! ### Histories -/

def ResourceKey.named (key : ResourceKey Id) : ResourceType × Text := (key.type, key.name)

/-- The resources that were requested. -/
def requests (events : List (CloudEvent Id)) : List (ResourceType × Text) :=
  events.filterMap fun
    | .requested request => some request.key.named
    | .observed _ _ => none

/-- Whether the load balancer has been seen active since the last request. -/
def settledAfter (lbId : Id) (settled : Bool) : CloudEvent Id → Bool
  | .requested _ => false
  | .observed id status => settled || (decide (id = lbId) && decide (status = active))

def settledIn (lbId : Id) (events : List (CloudEvent Id)) : Bool :=
  events.foldl (settledAfter lbId) false

/-- Before each request for another resource the load balancer has been seen active. -/
def SettledRequests (lbId : Id) (settled : Bool) : List (CloudEvent Id) → Prop
  | [] => True
  | event :: events =>
      (∀ request, event = .requested request → request.key.type ≠ .loadBalancer →
        settled = true) ∧
      SettledRequests lbId (settledAfter lbId settled event) events

/-! ### Deployments -/

/-- The deployment of the keyed resources, which adds these events. -/
inductive Deployed (lbId : Id) :
    List (ResourceKey Id) → Cloud Id → List (CloudEvent Id) → Cloud Id → Prop where
  | done (cloud : Cloud Id) : Deployed lbId [] cloud [] cloud
  | found {key : ResourceKey Id} {keys : List (ResourceKey Id)} {before after : Cloud Id}
      {events : List (CloudEvent Id)} (present : (before.find key).isSome = true)
      (rest : Deployed lbId keys before events after) :
      Deployed lbId (key :: keys) before events after
  | created {key : ResourceKey Id} {keys : List (ResourceKey Id)} {before after : Cloud Id}
      {events : List (CloudEvent Id)} (absent : before.find key = none)
      (request : CreateRequest Id) (requested : request.key = key) (id : Id)
      (statuses : List Text)
      (rest : Deployed lbId keys
        ⟨before.resources ++ [⟨key, id⟩],
          before.events ++ .requested request :: waited lbId (statuses ++ [active])⟩ events after) :
      Deployed lbId (key :: keys) before
        ((.requested request :: waited lbId (statuses ++ [active])) ++ events) after

variable {lbId : Id} {keys : List (ResourceKey Id)} {before after : Cloud Id}
  {events : List (CloudEvent Id)}

theorem Deployed.append {middle : Cloud Id} {others : List (ResourceKey Id)}
    {later : List (CloudEvent Id)} (first : Deployed lbId keys before events middle)
    (second : Deployed lbId others middle later after) :
    Deployed lbId (keys ++ others) before (events ++ later) after := by
  induction first with
  | done cloud => exact second
  | found present rest inductionHypothesis => exact .found present (inductionHypothesis second)
  | created absent request requested id statuses rest inductionHypothesis =>
      rw [List.append_assoc]
      exact .created absent request requested id statuses (inductionHypothesis second)

theorem Deployed.events_eq (deployed : Deployed lbId keys before events after) :
    after.events = before.events ++ events := by
  induction deployed with
  | done cloud => exact (List.append_nil _).symm
  | found present rest inductionHypothesis => exact inductionHypothesis
  | created absent request requested id statuses rest inductionHypothesis =>
      rw [inductionHypothesis, List.append_assoc]

theorem Deployed.resources_prefix (deployed : Deployed lbId keys before events after) :
    before.resources <+: after.resources := by
  induction deployed with
  | done cloud => exact List.prefix_refl _
  | found present rest inductionHypothesis => exact inductionHypothesis
  | created absent request requested id statuses rest inductionHypothesis =>
      exact (List.prefix_append _ _).trans inductionHypothesis

/-! ### What exists -/

theorem find_ofEarlier {key : ResourceKey Id} {resource : Resource Id}
    (grown : before.resources <+: after.resources) (present : before.find key = some resource) :
    after.find key = some resource := by
  obtain ⟨more, same⟩ := grown
  unfold Cloud.find at present ⊢
  rw [← same, List.find?_append, present]
  rfl

theorem find_append (cloud : Cloud Id) (key : ResourceKey Id) (id : Id)
    (history : List (CloudEvent Id)) (other : ResourceKey Id) :
    Cloud.find ⟨cloud.resources ++ [⟨key, id⟩], history⟩ other =
      (cloud.find other).or (if key = other then some ⟨key, id⟩ else none) := by
  unfold Cloud.find
  rw [List.find?_append, List.find?_singleton]
  by_cases same : key = other
  · rw [if_pos same, if_pos (decide_eq_true same)]
  · rw [if_neg same, if_neg (by simpa using same)]

/-- Whether another resource exists is not changed. -/
theorem find_append_of_ne (cloud : Cloud Id) {key : ResourceKey Id} (id : Id)
    (history : List (CloudEvent Id)) {other : ResourceKey Id} (different : key ≠ other) :
    Cloud.find ⟨cloud.resources ++ [⟨key, id⟩], history⟩ other = cloud.find other := by
  rw [find_append, if_neg different, Option.or_none]

theorem Deployed.find_eq (deployed : Deployed lbId keys before events after)
    {other : ResourceKey Id} (absent : other ∉ keys) : after.find other = before.find other := by
  induction deployed with
  | done cloud => rfl
  | found present rest inductionHypothesis =>
      exact inductionHypothesis fun member => absent (List.mem_cons_of_mem _ member)
  | created missing request requested id statuses rest inductionHypothesis =>
      rw [inductionHypothesis fun member => absent (List.mem_cons_of_mem _ member)]
      apply find_append_of_ne
      intro same
      rw [same] at absent
      exact absent List.mem_cons_self

theorem Deployed.present (deployed : Deployed lbId keys before events after) :
    ∀ key ∈ keys, (after.find key).isSome = true := by
  induction deployed with
  | done cloud => exact fun key member => absurd member List.not_mem_nil
  | found present rest inductionHypothesis =>
      intro key member
      rcases List.mem_cons.mp member with rfl | later
      · obtain ⟨resource, found⟩ := Option.isSome_iff_exists.mp present
        rw [find_ofEarlier rest.resources_prefix found]
        rfl
      · exact inductionHypothesis key later
  | created absent request requested id statuses rest inductionHypothesis =>
      rename_i first keys before after events
      intro key member
      rcases List.mem_cons.mp member with same | later
      · have there : Cloud.find ⟨before.resources ++ [⟨first, id⟩], before.events ++
            .requested request :: waited lbId (statuses ++ [active])⟩ first = some ⟨first, id⟩ := by
          rw [find_append, absent, if_pos rfl]
          rfl
        rw [same, find_ofEarlier rest.resources_prefix there]
        rfl
      · exact inductionHypothesis key later

/-! ### What was requested -/

omit [DecidableEq Id] in
theorem requests_waited (statuses : List Text) : requests (waited lbId statuses) = [] := by
  unfold requests waited
  rw [List.filterMap_map]
  exact List.filterMap_eq_nil_iff.mpr fun _ _ => rfl

/-- Exactly the missing resources were requested, in their order. -/
theorem Deployed.requests_eq (deployed : Deployed lbId keys before events after)
    (distinct : keys.Nodup) :
    requests events =
      (keys.filter fun key => (before.find key).isNone).map ResourceKey.named := by
  induction deployed with
  | done cloud => rfl
  | found present rest inductionHypothesis =>
      rw [inductionHypothesis (List.nodup_cons.mp distinct).2, List.filter_cons_of_neg]
      rw [Option.isNone_iff_eq_none]
      exact Option.ne_none_iff_isSome.mpr present
  | created absent request requested id statuses rest inductionHypothesis =>
      rename_i key keys before after events
      obtain ⟨fresh, others⟩ := List.nodup_cons.mp distinct
      have block : requests ((.requested request :: waited lbId (statuses ++ [active])) ++ events) =
          request.key.named :: (requests (waited lbId (statuses ++ [active])) ++
            requests events) := by
        unfold requests
        rw [List.cons_append, List.filterMap_cons, List.filterMap_append]
      rw [block, requests_waited, List.nil_append, requested, inductionHypothesis others,
        List.filter_cons_of_pos (by rw [absent]; rfl), List.map_cons]
      congr 2
      apply List.filter_congr
      intro other member
      have different : key ≠ other := by
        intro same
        rw [same] at fresh
        exact fresh member
      rw [find_append_of_ne _ _ _ different]

/-! ### When requests were sent -/

theorem settled_waited (settled : Bool) (statuses : List Text) :
    (waited lbId (statuses ++ [active])).foldl (settledAfter lbId) settled = true := by
  rw [waited, List.map_append, List.foldl_append]
  show (_ || (decide (lbId = lbId) && decide (active = active))) = true
  simp

theorem settledRequests_waited (settled : Bool) (statuses : List Text)
    (events : List (CloudEvent Id)) :
    SettledRequests lbId settled (waited lbId statuses ++ events) ↔
      SettledRequests lbId ((waited lbId statuses).foldl (settledAfter lbId) settled) events := by
  induction statuses generalizing settled with
  | nil => rfl
  | cons status statuses inductionHypothesis =>
      show (_ ∧ SettledRequests lbId _ (waited lbId statuses ++ events)) ↔ _
      rw [inductionHypothesis]
      apply and_iff_right
      exact fun request same => (by cases same)

/-- The wait after a request settles the next one. -/
theorem settledRequests_created (settled : Bool) (request : CreateRequest Id)
    (statuses : List Text) (events : List (CloudEvent Id)) :
    SettledRequests lbId settled
        ((.requested request :: waited lbId (statuses ++ [active])) ++ events) ↔
      (request.key.type ≠ .loadBalancer → settled = true) ∧ SettledRequests lbId true events := by
  show (_ ∧ SettledRequests lbId _ (waited lbId (statuses ++ [active]) ++ events)) ↔ _
  rw [settledRequests_waited, settled_waited]
  apply and_congr_left
  intro _
  constructor
  · exact fun all => all request rfl
  · intro here other same
    cases same
    exact here

theorem Deployed.settled_true (deployed : Deployed lbId keys before events after) :
    SettledRequests lbId true events := by
  induction deployed with
  | done cloud => trivial
  | found present rest inductionHypothesis => exact inductionHypothesis
  | created absent request requested id statuses rest inductionHypothesis =>
      exact (settledRequests_created _ _ _ _).mpr ⟨fun _ => rfl, inductionHypothesis⟩

/-- **When each request is settled:** only the first one depends on what was before. -/
theorem Deployed.settled_iff (deployed : Deployed lbId keys before events after)
    (settled : Bool) :
    SettledRequests lbId settled events ↔
      ∀ key, (keys.filter fun key => (before.find key).isNone).head? = some key →
        key.type ≠ .loadBalancer → settled = true := by
  induction deployed with
  | done cloud => exact ⟨fun _ key none_ => (by cases none_), fun _ => trivial⟩
  | found present rest inductionHypothesis =>
      rw [inductionHypothesis, List.filter_cons_of_neg]
      rw [Option.isNone_iff_eq_none]
      exact Option.ne_none_iff_isSome.mpr present
  | created absent request requested id statuses rest inductionHypothesis =>
      rw [settledRequests_created, requested, and_iff_left rest.settled_true,
        List.filter_cons_of_pos (by rw [absent]; rfl), List.head?_cons]
      constructor
      · intro here key same
        cases same
        exact here
      · exact fun all => all _ rfl

end Deployed

end Tobiko.Openstack.Octavia
