import Tobiko.Openstack.Topology.NodeIndex

/-!
Contract: what the indexes of `OpenStackTopology` say of its nodes in every reachable topology.

Owns: the runs of `add_node`, the agreement of the names and of the groups with the nodes,
and when the address index only holds addresses of the nodes.

Does not own: whether a node still has the addresses that it reported.
-/

namespace Tobiko.Openstack.Topology

open Tobiko.Foundation

section Consistency

variable {Client Address : Type} [DecidableEq Address]

/-- A run of `add_node` whose calls are allowed. A call that raises changes nothing. -/
inductive Reached (world : World Client Address)
    (allowed : OpenStackTopology Client Address → Arguments Client → Prop) :
    OpenStackTopology Client Address → Prop
  | start : Reached world allowed .init
  | add (topology arguments node after) (reached : Reached world allowed topology)
      (allows : allowed topology arguments)
      (adds : topology.addNode world arguments = .ok (node, after)) :
      Reached world allowed after

/-- The indexes by name and by group agree with the nodes, and the one by address refers to
nodes. -/
structure OpenStackTopology.Indexed (topology : OpenStackTopology Client Address) : Prop where
  names : ∀ name id, topology.names.get? name = some id ↔
    ∃ node, topology.nodes[id]? = some node ∧ node.name = name
  groups : ∀ group id, id ∈ (topology.groups.get? group).getD [] ↔
    ∃ node, topology.nodes[id]? = some node ∧ group ∈ node.groups
  addresses : ∀ address id, topology.addresses.get? address = some id →
    ∃ node, topology.nodes[id]? = some node

/-- The address index only holds addresses of the nodes that it refers to, of those that it
is asked for. -/
def OpenStackTopology.AddressesFound (world : World Client Address)
    (topology : OpenStackTopology Client Address) : Prop :=
  ∀ address id, world.hasIpVersion address = true → topology.addresses.get? address = some id →
    ∃ node, topology.nodes[id]? = some node ∧ address ∈ node.addresses

/-- When the call finds its node in `_add_node` by its name, then each address of the call
that is in no index yet is one of that node. -/
def OpenStackTopology.KnowsAddresses (world : World Client Address)
    (topology : OpenStackTopology Client Address) (arguments : Arguments Client) : Prop :=
  ∀ details id, topology.getNode world (world.requestedName (world.request arguments)) none
      (some (.selection (world.request arguments).addresses)) = .error .noSuchNode →
    world.details arguments (world.request arguments) = .ok details →
    topology.names.get? details.name = some id →
    ∀ address ∈ details.addresses, world.hasIpVersion address = true →
      topology.addresses.get? address = none →
      ∃ node, topology.nodes[id]? = some node ∧ address ∈ node.addresses

variable {world : World Client Address} {topology after : OpenStackTopology Client Address}
  {arguments : Arguments Client} {details : Details Client Address} {id : Nat}

/-! ### Lookups -/

theorem getNode_address {address : Address} :
    topology.getNode world none none (some (.address address)) = .ok id ↔
      world.hasIpVersion address = true ∧ topology.addresses.get? address = some id := by
  cases version : world.hasIpVersion address with
  | false => simp [OpenStackTopology.getNode, World.listAddresses, version]
  | true =>
      cases found : topology.addresses.get? address with
      | none => simp [OpenStackTopology.getNode, World.listAddresses, version, found]
      | some other => simp [OpenStackTopology.getNode, World.listAddresses, version, found]

/-- What `get_node` finds is a node. -/
theorem getNode_node (indexed : topology.Indexed) {name hostname : Option String}
    {address : Option (AddressArgument Address)}
    (found : topology.getNode world name hostname address = .ok id) :
    ∃ node, topology.nodes[id]? = some node := by
  unfold OpenStackTopology.getNode at found
  simp only at found
  split at found
  · rename_i other named
    cases found
    obtain ⟨name, _, present⟩ := Option.bind_eq_some_iff.mp named
    obtain ⟨node, inNodes, _⟩ := (indexed.names name _).mp present
    exact ⟨node, inNodes⟩
  · split at found
    · rename_i other addressed
      cases found
      obtain ⟨address, _, present⟩ := List.exists_of_findSome?_eq_some addressed
      exact indexed.addresses address _ present
    · cases found

theorem getNode_error {name hostname : Option String} {error : TopologyError}
    {address : Option (AddressArgument Address)}
    (failed : topology.getNode world name hostname address = .error error) :
    error = .noSuchNode := by
  unfold OpenStackTopology.getNode at failed
  simp only at failed
  split at failed
  · cases failed
  · split at failed
    · cases failed
    · cases failed
      rfl

/-! ### The parts of a call -/

/-- How a call of `add_node` goes: it finds its node or inserts it, and adds it to its
group. -/
theorem addNode_cases (adds : topology.addNode world arguments = .ok (id, after)) :
    ∃ middle, after = middle.joinGroup arguments.group id ∧
      (topology.getNode world (world.requestedName (world.request arguments)) none
          (some (.selection (world.request arguments).addresses)) = .ok id ∧ middle = topology ∨
        topology.getNode world (world.requestedName (world.request arguments)) none
          (some (.selection (world.request arguments).addresses)) = .error .noSuchNode ∧
        ∃ details, world.details arguments (world.request arguments) = .ok details ∧
          topology.insert details = (id, middle)) := by
  unfold OpenStackTopology.addNode at adds
  cases finds : topology.findOrInsert world arguments (world.request arguments) with
  | error error =>
      rw [finds] at adds
      cases adds
  | ok found =>
      obtain ⟨node, middle⟩ := found
      rw [finds] at adds
      cases adds
      refine ⟨middle, rfl, ?_⟩
      unfold OpenStackTopology.findOrInsert at finds
      split at finds
      · rename_i other present
        cases finds
        exact .inl ⟨present, rfl⟩
      · rename_i error absent
        rw [getNode_error absent] at absent
        refine .inr ⟨absent, ?_⟩
        cases known : world.details arguments (world.request arguments) with
        | error error =>
            rw [known] at finds
            cases finds
        | ok details =>
            rw [known] at finds
            exact ⟨details, rfl, Except.ok.inj finds⟩

theorem insert_known (known : topology.names.get? details.name = some id) :
    (topology.insert details).1 = id ∧ (topology.insert details).2.nodes = topology.nodes ∧
      (topology.insert details).2.names = topology.names ∧
      (topology.insert details).2.groups = topology.groups := by
  simp [OpenStackTopology.insert, OpenStackTopology.nodeOf, known]

theorem insert_new (new : topology.names.get? details.name = none) :
    (topology.insert details).1 = topology.nodes.length ∧
      (topology.insert details).2.nodes = topology.nodes ++
        [⟨details.name, details.hostname, details.sshClient, details.addresses, []⟩] ∧
      (topology.insert details).2.names = topology.names.set details.name topology.nodes.length ∧
      (topology.insert details).2.groups = topology.groups := by
  simp [OpenStackTopology.insert, OpenStackTopology.nodeOf, new]

theorem insert_addresses {address : Address} :
    (topology.insert details).2.addresses.get? address =
      (topology.addresses.get? address).or
        (if address ∈ details.addresses then some (topology.insert details).1 else none) := by
  cases known : topology.names.get? details.name with
  | none =>
      simp [OpenStackTopology.insert, OpenStackTopology.nodeOf, known, Dict.get?_foldl_setDefault]
  | some id =>
      simp [OpenStackTopology.insert, OpenStackTopology.nodeOf, known, Dict.get?_foldl_setDefault]

theorem getElem?_concat_eq_some {Element : Type} {elements : List Element}
    {last element : Element} {index : Nat} :
    (elements ++ [last])[index]? = some element ↔
      elements[index]? = some element ∨ index = elements.length ∧ last = element := by
  rcases Nat.lt_trichotomy index elements.length with inside | rfl | outside
  · rw [List.getElem?_append_left inside]
    simp [Nat.ne_of_lt inside]
  · rw [List.getElem?_concat_length]
    simp
  · have beyond : elements.length + 1 ≤ index := outside
    rw [List.getElem?_eq_none (by simpa using beyond), List.getElem?_eq_none (Nat.le_of_lt outside)]
    simp [Nat.ne_of_gt outside]

/-- The nodes stay when one is inserted. -/
theorem insert_keeps {node : Node Client Address} (inNodes : topology.nodes[id]? = some node) :
    (topology.insert details).2.nodes[id]? = some node := by
  cases known : topology.names.get? details.name with
  | none =>
      rw [(insert_new known).2.1]
      exact getElem?_concat_eq_some.mpr (.inl inNodes)
  | some other =>
      rw [(insert_known known).2.1]
      exact inNodes

/-- An inserted node is one of the nodes. -/
theorem insert_node (indexed : topology.Indexed) :
    ∃ node, (topology.insert details).2.nodes[(topology.insert details).1]? = some node := by
  cases known : topology.names.get? details.name with
  | none =>
      obtain ⟨number, nodes, _⟩ := insert_new known
      rw [number, nodes]
      exact ⟨_, List.getElem?_concat_length⟩
  | some id =>
      obtain ⟨number, nodes, _⟩ := insert_known known
      rw [number, nodes]
      obtain ⟨node, inNodes, _⟩ := (indexed.names _ _).mp known
      exact ⟨node, inNodes⟩

theorem insert_names (indexed : topology.Indexed) (name : String) (id : Nat) :
    (topology.insert details).2.names.get? name = some id ↔
      ∃ node, (topology.insert details).2.nodes[id]? = some node ∧ node.name = name := by
  cases known : topology.names.get? details.name with
  | some other =>
      obtain ⟨_, nodes, names, _⟩ := insert_known known
      rw [nodes, names]
      exact indexed.names name id
  | none =>
      obtain ⟨_, nodes, names, _⟩ := insert_new known
      rw [nodes, names, Dict.get?_set]
      simp only [getElem?_concat_eq_some]
      split
      · rename_i same
        subst same
        constructor
        · intro here
          cases here
          exact ⟨_, .inr ⟨rfl, rfl⟩, rfl⟩
        · rintro ⟨node, old | ⟨here, _⟩, named⟩
          · have taken := (indexed.names details.name id).mpr ⟨node, old, named⟩
            rw [known] at taken
            cases taken
          · rw [here]
      · rename_i different
        rw [indexed.names]
        constructor
        · rintro ⟨node, old, named⟩
          exact ⟨node, .inl old, named⟩
        · rintro ⟨node, old | ⟨_, rfl⟩, named⟩
          · exact ⟨node, old, named⟩
          · exact absurd named.symm different

theorem insert_groups (indexed : topology.Indexed) (group : String) (id : Nat) :
    id ∈ ((topology.insert details).2.groups.get? group).getD [] ↔
      ∃ node, (topology.insert details).2.nodes[id]? = some node ∧ group ∈ node.groups := by
  cases known : topology.names.get? details.name with
  | some other =>
      obtain ⟨_, nodes, _, groups⟩ := insert_known known
      rw [nodes, groups]
      exact indexed.groups group id
  | none =>
      obtain ⟨_, nodes, _, groups⟩ := insert_new known
      rw [nodes, groups, indexed.groups]
      simp only [getElem?_concat_eq_some]
      constructor
      · rintro ⟨node, old, member⟩
        exact ⟨node, .inl old, member⟩
      · rintro ⟨node, old | ⟨_, rfl⟩, member⟩
        · exact ⟨node, old, member⟩
        · cases member

theorem insert_indexed (indexed : topology.Indexed) : (topology.insert details).2.Indexed := by
  refine ⟨insert_names indexed, insert_groups indexed, fun address id found => ?_⟩
  rw [insert_addresses, Option.or_eq_some_iff] at found
  rcases found with old | ⟨_, new⟩
  · obtain ⟨node, inNodes⟩ := indexed.addresses address id old
    exact ⟨node, insert_keeps inNodes⟩
  · split at new
    · cases new
      exact insert_node indexed
    · cases new

/-! ### Groups -/

theorem getElem?_modify_eq_some {Element : Type} {elements : List Element} {element : Element}
    {change : Element → Element} {number index : Nat} :
    (elements.modify number change)[index]? = some element ↔
      ∃ before, elements[index]? = some before ∧
        element = if number = index then change before else before := by
  rw [List.getElem?_modify, Option.map_eq_map, Option.map_eq_some_iff]
  constructor
  · rintro ⟨before, found, rfl⟩
    refine ⟨before, found, ?_⟩
    split <;> rfl
  · rintro ⟨before, found, rfl⟩
    refine ⟨before, found, ?_⟩
    split <;> rfl

omit [DecidableEq Address] in
/-- Groups change neither the name nor the addresses of a node. -/
theorem nodes_joinGroup {group : Option String} {number : Nat}
    (Good : String → List Address → Prop) :
    (∃ node, (topology.joinGroup group number).nodes[id]? = some node ∧
        Good node.name node.addresses) ↔
      ∃ node, topology.nodes[id]? = some node ∧ Good node.name node.addresses := by
  unfold OpenStackTopology.joinGroup
  split
  · unfold OpenStackTopology.addToGroup
    simp only
    split
    · rfl
    · simp only [getElem?_modify_eq_some]
      constructor
      · rintro ⟨node, ⟨before, found, rfl⟩, good⟩
        refine ⟨before, found, ?_⟩
        split at good
        · exact good
        · exact good
      · rintro ⟨before, found, good⟩
        refine ⟨_, ⟨before, found, rfl⟩, ?_⟩
        split
        · exact good
        · exact good
  · rfl

omit [DecidableEq Address] in
theorem names_joinGroup (topology : OpenStackTopology Client Address) (group : Option String)
    (number : Nat) :
    (topology.joinGroup group number).names = topology.names ∧
      (topology.joinGroup group number).addresses = topology.addresses := by
  unfold OpenStackTopology.joinGroup
  split
  · unfold OpenStackTopology.addToGroup
    simp only
    split
    · exact ⟨rfl, rfl⟩
    · exact ⟨rfl, rfl⟩
  · exact ⟨rfl, rfl⟩

theorem groups_addToGroup (indexed : topology.Indexed) {group : String} {number : Nat}
    (inNodes : ∃ node, topology.nodes[number]? = some node) (other : String) (id : Nat) :
    id ∈ ((topology.addToGroup group number).groups.get? other).getD [] ↔
      ∃ node, (topology.addToGroup group number).nodes[id]? = some node ∧
        other ∈ node.groups := by
  unfold OpenStackTopology.addToGroup
  simp only
  split
  · exact indexed.groups other id
  · simp only [getElem?_modify_eq_some, Dict.get?_set]
    by_cases same : other = group
    · subst same
      rw [if_pos rfl, Option.getD_some, List.mem_append, List.mem_singleton, indexed.groups]
      constructor
      · rintro (⟨node, found, member⟩ | rfl)
        · refine ⟨_, ⟨node, found, rfl⟩, ?_⟩
          split
          · exact List.mem_append_left _ member
          · exact member
        · obtain ⟨node, found⟩ := inNodes
          refine ⟨_, ⟨node, found, rfl⟩, ?_⟩
          rw [if_pos rfl]
          exact List.mem_append_right _ List.mem_cons_self
      · rintro ⟨node, ⟨before, found, rfl⟩, member⟩
        split at member
        · rename_i here
          exact .inr here.symm
        · exact .inl ⟨before, found, member⟩
    · rw [if_neg same, indexed.groups]
      constructor
      · rintro ⟨node, found, member⟩
        refine ⟨_, ⟨node, found, rfl⟩, ?_⟩
        split
        · exact List.mem_append_left _ member
        · exact member
      · rintro ⟨node, ⟨before, found, rfl⟩, member⟩
        refine ⟨before, found, ?_⟩
        split at member
        · simpa [same] using member
        · exact member

theorem joinGroup_indexed (indexed : topology.Indexed) {group : Option String} {number : Nat}
    (inNodes : ∃ node, topology.nodes[number]? = some node) :
    (topology.joinGroup group number).Indexed := by
  obtain ⟨names, addresses⟩ := names_joinGroup topology group number
  refine ⟨fun name id => ?_, ?_, fun address id found => ?_⟩
  · rw [names, indexed.names]
    exact (nodes_joinGroup fun other _ => other = name).symm
  · unfold OpenStackTopology.joinGroup
    split
    · exact groups_addToGroup indexed inNodes
    · exact indexed.groups
  · rw [addresses] at found
    obtain ⟨node, known⟩ := indexed.addresses address id found
    obtain ⟨after, present, _⟩ := (nodes_joinGroup fun _ _ => True).mpr ⟨node, known, trivial⟩
    exact ⟨after, present⟩

/-! ### Runs -/

theorem init_indexed : (OpenStackTopology.init : OpenStackTopology Client Address).Indexed :=
  ⟨fun name id => by simp [OpenStackTopology.init],
    fun group id => by simp [OpenStackTopology.init],
    fun address id found => by simp [OpenStackTopology.init] at found⟩

theorem addNode_indexed (indexed : topology.Indexed)
    (adds : topology.addNode world arguments = .ok (id, after)) : after.Indexed := by
  obtain ⟨middle, rfl, ⟨found, rfl⟩ | ⟨_, details, _, inserts⟩⟩ := addNode_cases adds
  · exact joinGroup_indexed indexed (getNode_node indexed found)
  · have kept : (topology.insert details).2.Indexed := insert_indexed indexed
    have present : ∃ node,
        (topology.insert details).2.nodes[(topology.insert details).1]? = some node :=
      insert_node indexed
    rw [inserts] at kept present
    exact joinGroup_indexed kept present

/-- **The indexes by name and by group agree with the nodes in every run.** -/
theorem Reached.indexed {allowed : OpenStackTopology Client Address → Arguments Client → Prop}
    (reached : Reached world allowed topology) : topology.Indexed := by
  induction reached with
  | start => exact init_indexed
  | add topology arguments node after reached allows adds inductionHypothesis =>
      exact addNode_indexed inductionHypothesis adds

/-! ### Addresses -/

theorem addressesFound_joinGroup {group : Option String} {number : Nat} :
    (topology.joinGroup group number).AddressesFound world ↔ topology.AddressesFound world := by
  obtain ⟨_, addresses⟩ := names_joinGroup topology group number
  unfold OpenStackTopology.AddressesFound
  rw [addresses]
  refine forall_congr' fun address => forall_congr' fun id => ?_
  rw [nodes_joinGroup fun _ known => address ∈ known]

/-- A new node comes with its addresses. -/
theorem insert_new_addressesFound (accurate : topology.AddressesFound world)
    (new : topology.names.get? details.name = none) :
    (topology.insert details).2.AddressesFound world := by
  intro address id version found
  rw [insert_addresses, Option.or_eq_some_iff] at found
  rcases found with old | ⟨_, added⟩
  · obtain ⟨node, inNodes, member⟩ := accurate address id version old
    exact ⟨node, insert_keeps inNodes, member⟩
  · split at added
    · rename_i member
      obtain ⟨number, nodes, _⟩ := insert_new new
      cases added
      rw [number, nodes]
      exact ⟨_, List.getElem?_concat_length, member⟩
    · cases added

/-- The node that is there already does not learn the addresses that are indexed for it. -/
theorem insert_known_addressesFound (accurate : topology.AddressesFound world)
    (known : topology.names.get? details.name = some id) :
    (topology.insert details).2.AddressesFound world ↔
      ∀ address ∈ details.addresses, world.hasIpVersion address = true →
        topology.addresses.get? address = none →
        ∃ node, topology.nodes[id]? = some node ∧ address ∈ node.addresses := by
  obtain ⟨number, nodes, _⟩ := insert_known known
  unfold OpenStackTopology.AddressesFound
  rw [nodes]
  simp only [insert_addresses, number, Option.or_eq_some_iff]
  constructor
  · intro found address member version new
    exact found address id version (.inr ⟨new, if_pos member⟩)
  · rintro knows address other version (old | ⟨new, added⟩)
    · exact accurate address other version old
    · split at added
      · rename_i member
        cases added
        exact knows address member version new
      · cases added

/-- A call keeps the address index right just when the node that it finds by its name has the
addresses that are new. -/
theorem addNode_addressesFound (accurate : topology.AddressesFound world)
    (adds : topology.addNode world arguments = .ok (id, after)) :
    after.AddressesFound world ↔ topology.KnowsAddresses world arguments := by
  obtain ⟨middle, rfl, ⟨found, rfl⟩ | ⟨absent, details, known, inserts⟩⟩ := addNode_cases adds
  · rw [addressesFound_joinGroup]
    refine iff_of_true accurate fun details other absent => ?_
    rw [found] at absent
    cases absent
  · rw [addressesFound_joinGroup]
    obtain rfl : (topology.insert details).2 = middle := congrArg Prod.snd inserts
    have only : topology.KnowsAddresses world arguments ↔
        ∀ id, topology.names.get? details.name = some id → ∀ address ∈ details.addresses,
          world.hasIpVersion address = true → topology.addresses.get? address = none →
          ∃ node, topology.nodes[id]? = some node ∧ address ∈ node.addresses := by
      constructor
      · exact fun knows id => knows details id absent known
      · intro knows other id _ same
        obtain rfl := Except.ok.inj (known.symm.trans same)
        exact knows id
    rw [only]
    cases named : topology.names.get? details.name with
    | none =>
        exact iff_of_true (insert_new_addressesFound accurate named) fun id present => by
          cases present
    | some other =>
        rw [insert_known_addressesFound accurate named]
        simp

theorem Reached.addressesFound (reached : Reached world
      (fun topology arguments => topology.KnowsAddresses world arguments) topology) :
    topology.AddressesFound world := by
  induction reached with
  | start =>
      intro address id version found
      simp [OpenStackTopology.init] at found
  | add topology arguments node after reached knows adds inductionHypothesis =>
      exact (addNode_addressesFound inductionHypothesis adds).mpr knows

/-! ### What the indexes promise -/

theorem mem_allNodes (indexed : topology.Indexed) {node : Node Client Address}
    (inNodes : topology.nodes[id]? = some node) : id ∈ topology.allNodes := by
  have named := (indexed.names node.name id).mpr ⟨node, inNodes, rfl⟩
  refine List.mem_filterMap.mpr ⟨node.name, ?_, named⟩
  rw [← Dict.isSome_get?, named]
  rfl

/-- A node is selected by each of its addresses. -/
theorem mem_listOpenstackNodes (indexed : topology.Indexed) {node : Node Client Address}
    {address : Address} (inNodes : topology.nodes[id]? = some node)
    (member : address ∈ node.addresses) :
    id ∈ topology.listOpenstackNodes world (some [address]) none := by
  unfold OpenStackTopology.listOpenstackNodes
  rw [if_neg (by simp), List.mem_filter]
  exact ⟨mem_allNodes indexed inNodes, by simp [inNodes, member]⟩

/-- No two nodes have one name. -/
def OpenStackTopology.NamesUnique (topology : OpenStackTopology Client Address) : Prop :=
  ∀ (id other : Nat) (first second : Node Client Address), topology.nodes[id]? = some first →
    topology.nodes[other]? = some second → first.name = second.name → id = other

/-- The members of a group are the nodes that have it. -/
def OpenStackTopology.GroupsAgree (topology : OpenStackTopology Client Address) : Prop :=
  ∀ group id, id ∈ (topology.groups.get? group).getD [] ↔
    ∃ node, topology.nodes[id]? = some node ∧ group ∈ node.groups

/-- What `get_node` finds by an address has the address, so that it is selected by it. -/
def OpenStackTopology.AddressesAgree (world : World Client Address)
    (topology : OpenStackTopology Client Address) : Prop :=
  ∀ address id, topology.getNode world none none (some (.address address)) = .ok id →
    (∃ node, topology.nodes[id]? = some node ∧ address ∈ node.addresses) ∧
      id ∈ topology.listOpenstackNodes world (some [address]) none

theorem addressesAgree_iff (indexed : topology.Indexed) :
    topology.AddressesAgree world ↔ topology.AddressesFound world := by
  simp only [OpenStackTopology.AddressesAgree, OpenStackTopology.AddressesFound, getNode_address]
  constructor
  · intro agree address id version found
    exact (agree address id ⟨version, found⟩).1
  · rintro accurate address id ⟨version, found⟩
    obtain ⟨node, inNodes, member⟩ := accurate address id version found
    exact ⟨⟨node, inNodes, member⟩, mem_listOpenstackNodes indexed inNodes member⟩

/-- **The indexes agree with the nodes in every run**: by name and by group always, and by
address as long as no call finds a known node under an address that is new. From then on they
do not. -/
theorem topology_index_consistent (world : World Client Address) :
    (∀ topology, Reached world (fun _ _ => True) topology →
      topology.NamesUnique ∧ topology.GroupsAgree) ∧
    ∀ topology, Reached world
        (fun topology arguments => topology.KnowsAddresses world arguments) topology →
      topology.AddressesAgree world ∧
      ∀ arguments id after, topology.addNode world arguments = .ok (id, after) →
        (after.AddressesAgree world ↔ topology.KnowsAddresses world arguments) := by
  refine ⟨fun topology reached => ?_, fun topology reached => ?_⟩
  · have indexed := reached.indexed
    refine ⟨fun id other first second inFirst inSecond same => ?_, indexed.groups⟩
    have here := (indexed.names first.name id).mpr ⟨first, inFirst, rfl⟩
    have there := (indexed.names first.name other).mpr ⟨second, inSecond, same.symm⟩
    exact Option.some.inj (here.symm.trans there)
  · have indexed := reached.indexed
    refine ⟨(addressesAgree_iff indexed).mpr reached.addressesFound, ?_⟩
    intro arguments id after adds
    rw [addressesAgree_iff (addNode_indexed indexed adds),
      addNode_addressesFound reached.addressesFound adds]

end Consistency

/-! ### A host with two addresses -/

/-- A host that two addresses lead to, and that only reports the first one. -/
def twoAddresses : World Unit Nat :=
  ⟨id, fun host => if host = "192.0.2.1" then [1] else [2], fun _ => true,
    fun _ => some "controller", fun _ => some [1]⟩

def byAddress (address : String) : Arguments Unit :=
  ⟨none, some address, none, none, true, some ()⟩

/-- The topology after both addresses were added. -/
def oneNode : OpenStackTopology Unit Nat :=
  ⟨[⟨"controller", "controller", some (), [1], []⟩], Dict.empty.set "controller" 0, .empty,
    (Dict.empty.set 1 0).set 2 0⟩

/-- The node is found by the second address, which it does not have. -/
theorem second_address_lost :
    Reached twoAddresses (fun _ _ => True) oneNode ∧
      oneNode.getNode twoAddresses none none (some (.address 2)) = .ok 0 ∧
      oneNode.nodes.map Node.addresses = [[1]] ∧
      oneNode.listOpenstackNodes twoAddresses (some [2]) none = [] ∧
      ¬ oneNode.AddressesAgree twoAddresses := by
  refine ⟨?_, by decide, rfl, by decide, fun agree => absurd (agree 2 0 (by decide)).2 (by decide)⟩
  exact .add { oneNode with addresses := Dict.empty.set 1 0 } (byAddress "192.0.2.2") 0 _
    (.add .init (byAddress "192.0.2.1") 0 _ .start trivial rfl) trivial rfl

end Tobiko.Openstack.Topology
