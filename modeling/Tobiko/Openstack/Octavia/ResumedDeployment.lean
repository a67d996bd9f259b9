import Mathlib.Data.List.Nodup
import Tobiko.Openstack.Octavia.DeployedResources

/-!
Contract: `deploy_ipv4_lb` where some of its resources exist.

Owns: the resources of a deployment, what a deployment that returns leaves, and when each of its
requests is sent to an active load balancer.

Does not own: the deployments of any resources.

A wait only follows a request, so that nothing waits for a load balancer that is found.
-/

namespace Tobiko.Openstack.Octavia

open Tobiko.Common Tobiko.Common.Time Tobiko.Foundation

section Resumed

variable {World Id Exc : Type} [DecidableEq Id] {service : OctaviaService World Id Exc}
  {clock : Clock World} {conf : OctaviaConf} {networks : ExternalNetworks World Exc} {turns : Nat}
  {deployment : Deployment Exc}

/-! ### The resources of a deployment -/

def Deployment.name (deployment : Deployment Exc) (type : ResourceType) : Text :=
  (octaviaProvidersNames type deployment.provider).getD []

def Deployment.key (Id : Type) (deployment : Deployment Exc) (type : ResourceType) :
    ResourceKey Id :=
  ⟨type, deployment.name type, none⟩

def Deployment.memberName (deployment : Deployment Exc) (idx : Nat) : Text :=
  deployment.name .member ++ Nat.toDigits 10 idx

def Deployment.membersCount (deployment : Deployment Exc) : Nat :=
  (deployment.serversStacks.getD []).length

/-- The resources that are needed, in the order of their dependencies. -/
def Deployment.required (deployment : Deployment Exc) : List (ResourceType × Text) :=
  [(.loadBalancer, deployment.name .loadBalancer), (.listener, deployment.name .listener),
    (.pool, deployment.name .pool)] ++
  (List.range deployment.membersCount).map fun idx => (.member, deployment.memberName idx)

/-- The resource with a name; a member is one of the named pool. -/
def Deployment.lookup (deployment : Deployment Exc) (cloud : Cloud Id) :
    ResourceType × Text → Option (Resource Id)
  | (.member, name) =>
      (cloud.find (deployment.key Id .pool)).bind fun pool =>
        cloud.find ⟨.member, name, some pool.id⟩
  | (type, name) => cloud.find ⟨type, name, none⟩

/-- The claim of a deployment that returned. -/
structure Resumed (service : OctaviaService World Id Exc) (clock : Clock World)
    (conf : OctaviaConf) (networks : ExternalNetworks World Exc) (deployment : Deployment Exc)
    (before : Cloud Id) (events : List (CloudEvent Id)) (after : Cloud Id) (lbId : Id) : Prop where
  history : after.events = before.events ++ events
  requests : requests events =
    deployment.required.filter fun resource => (deployment.lookup before resource).isNone
  settled : SettledRequests lbId (settledIn lbId before.events) events
  complete : ∀ resource ∈ deployment.required, (deployment.lookup after resource).isSome = true
  again : ∀ turns world result later,
    deployment.deployIpv4Lb service clock conf networks turns (world, after) =
      some (result, later) → later.2 = after

/-- The load balancer is missing, or has been seen active, or nothing is missing. -/
def Deployment.Resumable (deployment : Deployment Exc) (cloud : Cloud Id) : Prop :=
  ∀ lb, cloud.find (deployment.key Id .loadBalancer) = some lb →
    settledIn lb.id cloud.events = true ∨
      ∀ resource ∈ deployment.required, (deployment.lookup cloud resource).isSome = true

/-- The keys of the members from some index on. -/
def Deployment.memberKeys (deployment : Deployment Exc) (poolId : Id) (idx count : Nat) :
    List (ResourceKey Id) :=
  (List.range' idx count).map fun idx => ⟨.member, deployment.memberName idx, some poolId⟩

/-- The keys of what is needed, once the pool is known. -/
def Deployment.keys (deployment : Deployment Exc) (poolId : Id) : List (ResourceKey Id) :=
  [deployment.key Id .loadBalancer, deployment.key Id .listener, deployment.key Id .pool] ++
    deployment.memberKeys poolId 0 deployment.membersCount

omit [DecidableEq Id] in
theorem map_named_keys (deployment : Deployment Exc) (poolId : Id) :
    (deployment.keys poolId).map ResourceKey.named = deployment.required := by
  unfold Deployment.keys Deployment.memberKeys Deployment.required
  rw [List.map_append, List.map_map, List.range_eq_range']
  rfl

theorem memberName_inj {first second : Nat}
    (same : deployment.memberName first = deployment.memberName second) : first = second := by
  have digits := congrArg Text.ofDigits (List.append_cancel_left same)
  rwa [Text.ofDigits_toDigits, Text.ofDigits_toDigits] at digits

omit [DecidableEq Id] in
theorem nodup_keys (deployment : Deployment Exc) (poolId : Id) :
    (deployment.keys poolId).Nodup := by
  have members : (deployment.memberKeys poolId 0 deployment.membersCount).Nodup := by
    apply List.Nodup.map
    · intro first second same
      exact memberName_inj (congrArg ResourceKey.name same)
    · exact List.nodup_range'
  apply List.nodup_append'.mpr
  refine ⟨by simp [Deployment.key], members, ?_⟩
  intro key first member
  obtain ⟨idx, -, same⟩ := List.mem_map.mp member
  subst same
  simp [Deployment.key] at first

/-! ### One resource -/

omit [DecidableEq Id] in
/-- A name that is there is read without effect. -/
theorem nameOf_returned {Value : Type} {type : ResourceType}
    {next : Text → Effect (DeployError Exc) (World × Cloud Id) Value}
    {state after : World × Cloud Id} {value : Value}
    (ran : (deployment.nameOf type >>= next) state = some (.ok value, after)) :
    next (deployment.name type) state = some (.ok value, after) := by
  obtain ⟨name, named, naming, rest⟩ := Effect.returned_bind ran
  unfold Deployment.nameOf at naming
  unfold Deployment.name
  cases known : octaviaProvidersNames type deployment.provider with
  | some name =>
      rw [known] at naming
      cases naming
      exact rest
  | none =>
      rw [known] at naming
      cases naming

/-- The arguments of a request for this resource, which leave the cloud as it is. -/
def RequestFor (key : ResourceKey Id)
    (kwargs : Effect (DeployError Exc) (World × Cloud Id) (CreateRequest Id)) : Prop :=
  ∀ state request after, kwargs state = some (.ok request, after) →
    request.key = key ∧ after.2 = state.2

theorem deployResource_returned {key : ResourceKey Id}
    {kwargs : Effect (DeployError Exc) (World × Cloud Id) (CreateRequest Id)}
    {lbId : Resource Id → Id} (requestFor : RequestFor key kwargs)
    {state after : World × Cloud Id} {resource : Resource Id}
    (ran : deployResource service clock conf turns key kwargs lbId state =
      some (.ok resource, after)) :
    (∃ events, Deployed (lbId resource) [key] state.2 events after.2) ∧
      after.2.find key = some resource ∧
      (state.2.find key = none →
        ∀ other ∈ state.2.resources, other.key.pool ≠ some resource.id) := by
  obtain ⟨found, searched, search, rest⟩ := Effect.returned_bind ran
  obtain ⟨value, kept⟩ := find_returned search
  rw [← kept]
  rw [← kept] at value
  cases found with
  | some existing =>
      cases rest
      exact ⟨⟨[], .found (by rw [← value]; rfl) (.done _)⟩, value.symm,
        fun absent => (by rw [absent] at value; cases value)⟩
  | none =>
      obtain ⟨request, ready, prepared, rest⟩ := Effect.returned_bind rest
      obtain ⟨same, untouched⟩ := requestFor _ _ _ prepared
      obtain ⟨created, sent, creation, rest⟩ := Effect.returned_bind rest
      obtain ⟨createdKey, sentCloud, fresh⟩ := create_returned creation
      obtain ⟨response, seen, wait, rest⟩ := Effect.returned_bind rest
      cases rest
      obtain ⟨resources, statuses, history⟩ := waitForStatus_returned wait
      rw [untouched] at sentCloud fresh
      rw [sentCloud] at resources history
      rw [same] at createdKey
      have whole : after.2 = ⟨searched.2.resources ++ [⟨key, resource.id⟩], searched.2.events ++
          .requested request :: waited (lbId resource) (statuses ++ [active])⟩ := by
        rw [← createdKey]
        show (⟨after.2.resources, after.2.events⟩ : Cloud Id) = _
        rw [resources, history, List.append_assoc]
        rfl
      have deployed : Deployed (lbId resource) [key] searched.2
          ((.requested request :: waited (lbId resource) (statuses ++ [active])) ++ [])
          after.2 := by
        rw [whole]
        exact .created value.symm request same resource.id statuses (.done _)
      refine ⟨⟨_, deployed⟩, ?_, fun _ => fresh⟩
      rw [whole, find_append, ← value, if_pos rfl, ← createdKey]
      rfl

omit [DecidableEq Id] in
theorem requestFor_pure {key : ResourceKey Id} {request : CreateRequest Id}
    (same : request.key = key) :
    RequestFor key (pure request : Effect (DeployError Exc) (World × Cloud Id) _) := by
  intro state other after ran
  cases ran
  exact ⟨same, rfl⟩

omit [DecidableEq Id] in
theorem requestFor_lbKwargs (name : Text) :
    RequestFor (⟨.loadBalancer, name, none⟩ : ResourceKey Id)
      (deployment.lbKwargs networks name) := by
  intro state request after ran
  obtain ⟨read, kept, reading, rest⟩ := Effect.returned_bind ran
  cases reading
  dsimp only at rest
  cases subnet : networks.getExternalSubnet 4 state.1 with
  | error exception =>
      rw [subnet] at rest
      cases rest
  | ok found =>
      rw [subnet] at rest
      cases found with
      | none => cases rest
      | some subnetId =>
          cases rest
          exact ⟨rfl, rfl⟩

omit [DecidableEq Id] in
theorem requestFor_memberKwargs (serverStack : ServerStack Exc) (name : Text) (poolId : Id) :
    RequestFor ⟨.member, name, some poolId⟩
      (deployment.memberKwargs serverStack name poolId :
        Effect (DeployError Exc) (World × Cloud Id) (CreateRequest Id)) := by
  intro state request after ran
  obtain ⟨address, first, fixedIpv4, rest⟩ := Effect.returned_bind ran
  obtain ⟨subnetId, second, ipv4SubnetId, rest⟩ := Effect.returned_bind rest
  cases rest
  obtain ⟨-, same⟩ := Effect.returned_ofExcept fixedIpv4
  obtain ⟨-, sameAgain⟩ := Effect.returned_ofExcept ipv4SubnetId
  exact ⟨rfl, by rw [sameAgain, same]⟩

/-! ### All the resources -/

theorem deployMembers_returned {lb pool : Resource Id} {idx : Nat}
    {serversStacks : List (ServerStack Exc)} {state after : World × Cloud Id}
    (ran : deployment.deployMembers service clock conf turns lb pool idx serversStacks state =
      some (.ok (), after)) :
    ∃ events, Deployed lb.id (deployment.memberKeys pool.id idx serversStacks.length) state.2 events
      after.2 := by
  induction serversStacks generalizing idx state with
  | nil =>
      cases ran
      exact ⟨[], .done _⟩
  | cons serverStack serversStacks inductionHypothesis =>
      unfold Deployment.deployMembers at ran
      obtain ⟨member, deployed, deploying, rest⟩ := Effect.returned_bind (nameOf_returned ran)
      obtain ⟨⟨events, first⟩, -, -⟩ :=
        deployResource_returned (requestFor_memberKwargs _ _ _) deploying
      obtain ⟨later, others⟩ := inductionHypothesis rest
      exact ⟨events ++ later, first.append others⟩

/-- What a deployment that returns has done. -/
theorem deployIpv4Lb_returned {state after : World × Cloud Id}
    {lb listener pool : Resource Id}
    (ran : deployment.deployIpv4Lb service clock conf networks turns state =
      some (.ok (lb, listener, pool), after)) :
    (∃ events, Deployed lb.id (deployment.keys pool.id) state.2 events after.2) ∧
      after.2.find (deployment.key Id .loadBalancer) = some lb ∧
      after.2.find (deployment.key Id .pool) = some pool ∧
      (state.2.find (deployment.key Id .pool) = none →
        ∀ other ∈ state.2.resources, other.key.pool ≠ some pool.id) := by
  unfold Deployment.deployIpv4Lb at ran
  obtain ⟨lb', lbState, lbDeploying, ran⟩ := Effect.returned_bind (nameOf_returned ran)
  obtain ⟨⟨lbEvents, lbDeployed⟩, lbFound, -⟩ :=
    deployResource_returned (requestFor_lbKwargs _) lbDeploying
  obtain ⟨listener', listenerState, listenerDeploying, ran⟩ :=
    Effect.returned_bind (nameOf_returned ran)
  obtain ⟨⟨listenerEvents, listenerDeployed⟩, -, -⟩ :=
    deployResource_returned (by exact requestFor_pure rfl) listenerDeploying
  obtain ⟨pool', poolState, poolDeploying, ran⟩ := Effect.returned_bind (nameOf_returned ran)
  obtain ⟨⟨poolEvents, poolDeployed⟩, poolFound, poolFresh⟩ :=
    deployResource_returned (by exact requestFor_pure rfl) poolDeploying
  obtain ⟨⟨⟩, membersState, membersDeploying, ran⟩ := Effect.returned_bind ran
  obtain ⟨membersEvents, membersDeployed⟩ := deployMembers_returned membersDeploying
  cases ran
  have untilPool := lbDeployed.append listenerDeployed
  have afterLb := listenerDeployed.append (poolDeployed.append membersDeployed)
  refine ⟨⟨_, lbDeployed.append afterLb⟩, find_ofEarlier afterLb.resources_prefix lbFound,
    find_ofEarlier membersDeployed.resources_prefix poolFound, ?_⟩
  intro absent other member
  have absentStill : listenerState.2.find (deployment.key Id .pool) = none := by
    rw [untilPool.find_eq (by simp [Deployment.key]), absent]
  exact poolFresh absentStill other (untilPool.resources_prefix.subset member)

/-- A resource that is needed is looked up with its key. -/
theorem lookup_eq {cloud : Cloud Id} {poolId : Id}
    (found : ∀ pool, cloud.find (deployment.key Id .pool) = some pool → pool.id = poolId)
    (fresh : cloud.find (deployment.key Id .pool) = none →
      ∀ other ∈ cloud.resources, other.key.pool ≠ some poolId) :
    ∀ key ∈ deployment.keys poolId, deployment.lookup cloud key.named = cloud.find key := by
  intro key member
  rcases List.mem_append.mp member with first | ofPool
  · simp only [Deployment.key, List.mem_cons, List.not_mem_nil, or_false] at first
    rcases first with rfl | rfl | rfl
    · rfl
    · rfl
    · rfl
  · obtain ⟨idx, -, same⟩ := List.mem_map.mp ofPool
    subst same
    show ((cloud.find (deployment.key Id .pool)).bind fun pool =>
      cloud.find ⟨.member, deployment.memberName idx, some pool.id⟩) = _
    cases search : cloud.find (deployment.key Id .pool) with
    | some pool =>
        rw [Option.bind_some, found pool search]
    | none =>
        rw [Option.bind_none]
        apply Eq.symm
        apply List.find?_eq_none.mpr
        intro other there same
        have key := of_decide_eq_true same
        exact fresh search other there (by rw [key])

/-! ### A deployment of what exists -/

section Again

variable {cloud : Cloud Id}

theorem find_ensures (key : ResourceKey Id) :
    Effect.Ensures (fun state => state.2 = cloud) (service.find key)
      (fun found state => found = cloud.find key ∧ state.2 = cloud)
      fun _ state => state.2 = cloud := by
  intro state same result after ended
  have called := @calls_eq _ _ _ service _ (.find key) (fun _ cloud => (cloud.find key, cloud)) state
  change service.calls _ _ state = _ at ended
  rw [ended, same] at called
  rcases called with ⟨exception, world, failed⟩ | ⟨world, passed⟩
  · cases failed
    exact ⟨fun value same => (by cases same), fun _ _ => rfl⟩
  · cases passed
    refine ⟨fun value same => ?_, fun error same => (by cases same)⟩
    cases same
    exact ⟨rfl, rfl⟩

omit [DecidableEq Id] in
theorem nameOf_ensures (type : ResourceType) :
    Effect.Ensures (fun state : World × Cloud Id => state.2 = cloud) (deployment.nameOf type)
      (fun name state => name = deployment.name type ∧ state.2 = cloud)
      fun _ state => state.2 = cloud := by
  unfold Deployment.nameOf Deployment.name
  cases octaviaProvidersNames type deployment.provider with
  | some name => exact Effect.ensures_pure fun state same => ⟨rfl, same⟩
  | none => exact Effect.ensures_raise fun state same => same

/-- A resource that is found is left as it is. -/
theorem deployResource_ensures {key : ResourceKey Id} {resource : Resource Id}
    (present : cloud.find key = some resource)
    (kwargs : Effect (DeployError Exc) (World × Cloud Id) (CreateRequest Id))
    (lbId : Resource Id → Id) :
    Effect.Ensures (fun state => state.2 = cloud)
      (deployResource service clock conf turns key kwargs lbId)
      (fun found state => found = resource ∧ state.2 = cloud) fun _ state => state.2 = cloud := by
  apply Effect.ensures_bind _ (find_ensures key)
  intro found
  rw [present]
  cases found with
  | none => exact fun state impossible => (by cases impossible.1)
  | some existing =>
      apply Effect.ensures_pure
      intro state holds
      exact ⟨Option.some.inj holds.1, holds.2⟩

theorem deployMembers_ensures (lb pool : Resource Id) {idx : Nat}
    {serversStacks : List (ServerStack Exc)}
    (present : ∀ key ∈ deployment.memberKeys pool.id idx serversStacks.length,
      (cloud.find key).isSome = true) :
    Effect.Ensures (fun state => state.2 = cloud)
      (deployment.deployMembers service clock conf turns lb pool idx serversStacks)
      (fun _ state => state.2 = cloud) fun _ state => state.2 = cloud := by
  induction serversStacks generalizing idx with
  | nil => exact Effect.ensures_pure fun state same => same
  | cons serverStack serversStacks inductionHypothesis =>
      obtain ⟨member, found⟩ := Option.isSome_iff_exists.mp (present _ List.mem_cons_self)
      have others := inductionHypothesis fun key later => present key (List.mem_cons_of_mem _ later)
      unfold Deployment.deployMembers
      refine Effect.ensures_bind _ (nameOf_ensures .member) fun name => ?_
      intro state holds
      obtain ⟨same, kept⟩ := holds
      subst same
      exact Effect.ensures_bind _ (deployResource_ensures found _ _)
        (fun _ => others.mono (fun _ holds => holds.2) (fun _ _ same => same) fun _ _ same => same)
        state kept

/-- **A deployment of what exists changes nothing,** however it ends. -/
theorem deployIpv4Lb_again {pool : Resource Id}
    (poolFound : cloud.find (deployment.key Id .pool) = some pool)
    (present : ∀ key ∈ deployment.keys pool.id, (cloud.find key).isSome = true) :
    Effect.Ensures (fun state => state.2 = cloud)
      (deployment.deployIpv4Lb service clock conf networks turns)
      (fun _ state => state.2 = cloud) fun _ state => state.2 = cloud := by
  obtain ⟨lb, lbFound⟩ := Option.isSome_iff_exists.mp
    (present (deployment.key Id .loadBalancer) (by simp [Deployment.keys]))
  obtain ⟨listener, listenerFound⟩ := Option.isSome_iff_exists.mp
    (present (deployment.key Id .listener) (by simp [Deployment.keys]))
  have members : ∀ key ∈ deployment.memberKeys pool.id 0 deployment.membersCount,
      (cloud.find key).isSome = true :=
    fun key member => present key (List.mem_append_right _ member)
  unfold Deployment.deployIpv4Lb
  refine Effect.ensures_bind _ (nameOf_ensures .loadBalancer) fun name state holds => ?_
  obtain ⟨same, kept⟩ := holds
  subst same
  refine Effect.ensures_bind _ (deployResource_ensures lbFound _ _) (fun foundLb => ?_) state kept
  intro state holds
  refine Effect.ensures_bind _ (nameOf_ensures .listener) (fun name => ?_) state holds.2
  intro state holds
  obtain ⟨same, kept⟩ := holds
  subst same
  refine Effect.ensures_bind _ (deployResource_ensures listenerFound _ _) (fun foundListener => ?_)
    state kept
  intro state holds
  refine Effect.ensures_bind _ (nameOf_ensures .pool) (fun name => ?_) state holds.2
  intro state holds
  obtain ⟨same, kept⟩ := holds
  subst same
  refine Effect.ensures_bind _ (deployResource_ensures poolFound _ _) (fun foundPool => ?_)
    state kept
  intro state holds
  obtain ⟨same, kept⟩ := holds
  subst same
  exact Effect.ensures_bind _ (deployMembers_ensures foundLb foundPool members)
    (fun _ => Effect.ensures_pure fun _ same => same) state kept

end Again

/-! ### The verdict -/

def Deployment.missing (deployment : Deployment Exc) (cloud : Cloud Id) (poolId : Id) :
    List (ResourceKey Id) :=
  (deployment.keys poolId).filter fun key => (cloud.find key).isNone

omit [DecidableEq Id] in
theorem type_of_keys_tail {poolId : Id} {key : ResourceKey Id}
    (member : key ∈ [deployment.key Id .listener, deployment.key Id .pool] ++
      deployment.memberKeys poolId 0 deployment.membersCount) : key.type ≠ .loadBalancer := by
  rcases List.mem_append.mp member with first | ofPool
  · simp only [Deployment.key, List.mem_cons, List.not_mem_nil, or_false] at first
    rcases first with rfl | rfl
    · simp
    · simp
  · obtain ⟨idx, -, same⟩ := List.mem_map.mp ofPool
    subst same
    simp

/-- The first missing resource, where the load balancer exists and where it does not. -/
theorem head?_missing_settled {cloud : Cloud Id} {poolId : Id} (settled : Bool) :
    (∀ key, (deployment.missing cloud poolId).head? = some key →
      key.type ≠ .loadBalancer → settled = true) ↔
    ((cloud.find (deployment.key Id .loadBalancer)).isSome = true → settled = true ∨
      ∀ key ∈ deployment.keys poolId, (cloud.find key).isSome = true) := by
  have whole : deployment.keys poolId = deployment.key Id .loadBalancer ::
      ([deployment.key Id .listener, deployment.key Id .pool] ++
        deployment.memberKeys poolId 0 deployment.membersCount) := rfl
  cases there : cloud.find (deployment.key Id .loadBalancer) with
  | none =>
      unfold Deployment.missing
      rw [whole, List.filter_cons_of_pos (by rw [there]; rfl), List.head?_cons]
      constructor
      · exact fun _ impossible => (by cases impossible)
      · intro _ key same other
        cases same
        exact absurd rfl other
  | some lb =>
      have shorter : deployment.missing cloud poolId =
          ([deployment.key Id .listener, deployment.key Id .pool] ++
            deployment.memberKeys poolId 0 deployment.membersCount).filter
              fun key => (cloud.find key).isNone := by
        unfold Deployment.missing
        rw [whole, List.filter_cons_of_neg (by rw [there]; simp)]
      have none_missing : deployment.missing cloud poolId = [] ↔
          ∀ key ∈ deployment.keys poolId, (cloud.find key).isSome = true := by
        unfold Deployment.missing
        rw [List.filter_eq_nil_iff]
        apply forall_congr'
        intro key
        apply imp_congr_right
        intro _
        simp [Option.isSome_iff_ne_none]
      rw [← none_missing, shorter]
      cases missing : List.filter _ _ with
      | nil => simp
      | cons key others =>
          have member : key ∈ _ := List.mem_of_mem_filter (missing ▸ List.mem_cons_self)
          have other := type_of_keys_tail member
          simp [other]

/-- **A deployment that returns has created exactly what was missing, and is complete; each of its
requests was settled if and only if the load balancer that it found had been seen active, or
nothing was missing.** -/
theorem deployIpv4Lb_resumed_iff (service : OctaviaService World Id Exc) (clock : Clock World)
    (conf : OctaviaConf) (networks : ExternalNetworks World Exc) (turns : Nat)
    (deployment : Deployment Exc) (world world' : World) (before after : Cloud Id)
    (lb listener pool : Resource Id)
    (ran : deployment.deployIpv4Lb service clock conf networks turns (world, before) =
      some (.ok (lb, listener, pool), world', after)) :
    (∃ events, Resumed service clock conf networks deployment before events after lb.id) ↔
      deployment.Resumable before := by
  obtain ⟨⟨events, deployed⟩, lbFound, poolFound, poolFresh⟩ := deployIpv4Lb_returned ran
  dsimp only at deployed lbFound poolFound poolFresh
  have sameResource : ∀ key resource resource', before.find key = some resource →
      after.find key = some resource' → resource = resource' := by
    intro key resource resource' early late
    rw [find_ofEarlier deployed.resources_prefix early] at late
    exact Option.some.inj late
  have lookupBefore : ∀ key ∈ deployment.keys pool.id,
      deployment.lookup before key.named = before.find key :=
    lookup_eq (fun other found => congrArg Resource.id (sameResource _ _ _ found poolFound))
      poolFresh
  have lookupAfter : ∀ key ∈ deployment.keys pool.id,
      deployment.lookup after key.named = after.find key :=
    lookup_eq
      (fun other found => congrArg Resource.id (Option.some.inj (found.symm.trans poolFound)))
      fun absent => (by rw [poolFound] at absent; cases absent)
  have requested : requests events =
      deployment.required.filter fun resource => (deployment.lookup before resource).isNone := by
    rw [deployed.requests_eq (nodup_keys deployment pool.id), ← map_named_keys deployment pool.id,
      List.filter_map]
    congr 1
    apply List.filter_congr
    intro key member
    show _ = (deployment.lookup before key.named).isNone
    rw [lookupBefore key member]
  have required : ∀ {cloud : Cloud Id}, (∀ key ∈ deployment.keys pool.id,
      deployment.lookup cloud key.named = cloud.find key) →
      ((∀ resource ∈ deployment.required, (deployment.lookup cloud resource).isSome = true) ↔
        ∀ key ∈ deployment.keys pool.id, (cloud.find key).isSome = true) := by
    intro cloud lookups
    rw [← map_named_keys deployment pool.id, List.forall_mem_map]
    apply forall₂_congr
    intro key member
    rw [lookups key member]
  have conditions : (∀ key, (deployment.missing before pool.id).head? = some key →
      key.type ≠ .loadBalancer → settledIn lb.id before.events = true) ↔
      deployment.Resumable before := by
    rw [head?_missing_settled, ← required lookupBefore]
    constructor
    · intro resumable found there
      have same := sameResource _ _ _ there lbFound
      rw [same]
      exact resumable (by rw [there]; rfl)
    · intro resumable there
      obtain ⟨found, search⟩ := Option.isSome_iff_exists.mp there
      have same := sameResource _ _ _ search lbFound
      rw [← same]
      exact resumable found search
  rw [← conditions]
  constructor
  · intro resumed
    obtain ⟨others, resumed⟩ := resumed
    have same : others = events :=
      List.append_cancel_left (resumed.history.symm.trans deployed.events_eq)
    have settled := resumed.settled
    rw [same] at settled
    exact (deployed.settled_iff _).mp settled
  · intro settled
    refine ⟨events, deployed.events_eq, requested, (deployed.settled_iff _).mpr settled,
      (required lookupAfter).mpr deployed.present, ?_⟩
    intro turns other result later ended
    obtain ⟨returned, raised⟩ :=
      deployIpv4Lb_again poolFound deployed.present (other, after) rfl result later ended
    cases result with
    | ok value => exact returned value rfl
    | error error => exact raised error rfl

end Resumed

/-! ### A load balancer that was left -/

section Left

/-- Above all the identifiers. -/
def identifierBound (resources : List (Resource Nat)) : Nat :=
  resources.foldr (fun resource bound => max bound (max resource.id (resource.key.pool.getD 0))) 0

theorem pool_le_identifierBound (resources : List (Resource Nat)) :
    ∀ resource ∈ resources, resource.key.pool.getD 0 ≤ identifierBound resources := by
  induction resources with
  | nil => exact fun _ member => absurd member List.not_mem_nil
  | cons first resources inductionHypothesis =>
      intro resource member
      show _ ≤ max (identifierBound resources) (max first.id (first.key.pool.getD 0))
      rcases List.mem_cons.mp member with same | later
      · rw [same]
        omega
      · have below := inductionHypothesis resource later
        omega

/-- A service whose calls succeed and whose load balancers are active. -/
def activeService : OctaviaService ℚ Nat Empty where
  call _ world := (none, world)
  status _ _ := ⟨active, "ONLINE".toList⟩
  newId _ resources := identifierBound resources + 1
  newId_fresh := by
    intro _ resources resource member same
    have below := pool_le_identifierBound resources resource member
    rw [same] at below
    exact absurd below (by simp)

def someNetworks : ExternalNetworks ℚ Empty where
  listNetworks _ := .ok 1
  findNetwork _ _ := .ok ["public-subnet".toList]
  findSubnet id _ _ := .ok id
  externalNetwork := "public".toList

def httpDeployment : Deployment Empty where
  provider := amphoraProvider
  protocol := "HTTP".toList
  protocolPort := 80
  lbAlgorithm := "ROUND_ROBIN".toList
  serversStacks := none

def leftResource : Resource Nat := ⟨httpDeployment.key Nat .loadBalancer, 1⟩

/-- What a deployment leaves that is interrupted while it waits for the load balancer. -/
def leftCloud : Cloud Nat where
  resources := [leftResource]
  events := [.requested (.loadBalancer amphoraProvider "public-subnet".toList
    (httpDeployment.name .loadBalancer)), .observed 1 "PENDING_CREATE".toList]

def newListener : Resource Nat := ⟨httpDeployment.key Nat .listener, 2⟩
def newPool : Resource Nat := ⟨httpDeployment.key Nat .pool, 3⟩

def resumedEvents : List (CloudEvent Nat) :=
  [.requested (.listener "HTTP".toList 80 1 (httpDeployment.name .listener)), .observed 1 active,
    .requested (.pool 2 "ROUND_ROBIN".toList "HTTP".toList (httpDeployment.name .pool)),
    .observed 1 active]

def resumedCloud : Cloud Nat where
  resources := [leftResource, newListener, newPool]
  events := leftCloud.events ++ resumedEvents

theorem leftCloud_returned :
    httpDeployment.deployIpv4Lb activeService Clock.ideal {} someNetworks 1 ((0 : ℚ), leftCloud) =
      some (.ok (leftResource, newListener, newPool), (0 : ℚ), resumedCloud) := rfl

theorem deployIpv4Lb_resumed_iff_leftCloud :
    (∃ events, Resumed activeService Clock.ideal {} someNetworks httpDeployment leftCloud events
      resumedCloud leftResource.id) ↔ httpDeployment.Resumable leftCloud :=
  deployIpv4Lb_resumed_iff activeService Clock.ideal {} someNetworks 1 httpDeployment 0 0 leftCloud
    resumedCloud leftResource newListener newPool leftCloud_returned

/-- The listener is requested without waiting for the load balancer that was left. -/
theorem deployIpv4Lb_resumes_unsettled :
    httpDeployment.deployIpv4Lb activeService Clock.ideal {} someNetworks 1 ((0 : ℚ), leftCloud) =
      some (.ok (leftResource, newListener, newPool), (0 : ℚ), resumedCloud) ∧
    ¬∃ events, Resumed activeService Clock.ideal {} someNetworks httpDeployment leftCloud events
      resumedCloud leftResource.id := by
  refine ⟨leftCloud_returned, fun resumed => ?_⟩
  obtain ⟨events, resumed⟩ := resumed
  have same : resumedEvents = events := List.append_cancel_left resumed.history
  have settled := resumed.settled
  rw [← same] at settled
  have first := settled.1 _ rfl (by decide)
  revert first
  decide +kernel

end Left

end Tobiko.Openstack.Octavia
