import Tobiko.Openstack.Topology.IndexConsistency

/-!
Contract: the nodes of `OpenStackTopology` that are selected by groups.

Owns: `match_strings`, `list_group_names`, `get_group` and `get_groups`, which nodes a list of
names and patterns selects, and exactly when these are the nodes of its groups.

Does not own: regular expressions. A pattern is the predicate of the texts that it matches.
-/

namespace Tobiko.Openstack.Topology

open Tobiko.Foundation

/-- A name of a group, or a pattern. -/
inductive Matcher where
  | name (name : String)
  | pattern (accepts : String → Bool)

/-- `match_strings`: a string may be there more than once. -/
def matchStrings (strings : List String) : List Matcher → List String
  | [] => []
  | .name name :: matchers =>
      (if name ∈ strings then [name] else []) ++ matchStrings strings matchers
  | .pattern accepts :: matchers => strings.filter accepts ++ matchStrings strings matchers

section Groups

variable {Client Address : Type}

namespace OpenStackTopology

/-- `list_group_names`: without matchers all the names. -/
def listGroupNames (topology : OpenStackTopology Client Address) (matchers : List Matcher) :
    List String :=
  let groupNames := topology.groups.keys
  if !matchers.isEmpty && !groupNames.isEmpty then matchStrings groupNames matchers
  else groupNames

/-- `get_group`, with `none` for a `NoSuchOpenStackTopologyNodeGroup`. -/
def getGroup (topology : OpenStackTopology Client Address) (group : String) :
    Option (List Nat) :=
  topology.groups.get? group

/-- The loop of `get_groups`: the names of the nodes in these groups. -/
def nodeNames (topology : OpenStackTopology Client Address) : List String → Option (List String)
  | [] => some []
  | group :: groups =>
      match topology.getGroup group with
      | none => none
      | some nodes =>
          (topology.nodeNames groups).map fun names =>
            nodes.filterMap (fun id => topology.nodes[id]?.map Node.name) ++ names

variable [DecidableEq Address]

def getGroups (topology : OpenStackTopology Client Address) (groups : List Matcher) :
    Option (List Nat) :=
  (topology.nodeNames (topology.listGroupNames groups)).map fun names =>
    topology.allNodes.filter fun id =>
      (topology.nodes[id]?.map Node.name).any fun name => name ∈ names

/-! ### What a selection should be -/

omit [DecidableEq Address] in
def InGroup (topology : OpenStackTopology Client Address) (group : String) (id : Nat) : Prop :=
  id ∈ (topology.groups.get? group).getD []

end OpenStackTopology

/-- The group has the name, or the pattern matches its name. -/
def Matcher.Accepts : Matcher → String → Prop
  | .name wanted, group => group = wanted
  | .pattern accepts, group => accepts group = true

namespace OpenStackTopology

/-- The node is in a group that one of these accepts. -/
def InGroups (topology : OpenStackTopology Client Address) (groups : List Matcher) (id : Nat) :
    Prop :=
  ∃ matcher ∈ groups, ∃ group, matcher.Accepts group ∧ topology.InGroup group id

/-- The wanted nodes in the order of the topology, each once. -/
structure IsSelection [DecidableEq Address] (topology : OpenStackTopology Client Address)
    (wanted : Nat → Prop) (selection : List Nat) : Prop where
  mem : ∀ id, id ∈ selection ↔ id ∈ topology.allNodes ∧ wanted id
  order : selection.Sublist topology.allNodes
  distinct : selection.Nodup

end OpenStackTopology

/-! ### The groups that are listed -/

theorem mem_matchStrings {strings : List String} {matchers : List Matcher} {group : String} :
    group ∈ matchStrings strings matchers ↔
      group ∈ strings ∧ ∃ matcher ∈ matchers, matcher.Accepts group := by
  induction matchers with
  | nil => simp [matchStrings]
  | cons matcher matchers inductionHypothesis =>
      have step : ∀ accepted : Prop, (group ∈ strings ∧ accepted ∨
          group ∈ matchStrings strings matchers) ↔
            group ∈ strings ∧ (accepted ∨ ∃ other ∈ matchers, other.Accepts group) := by
        intro accepted
        rw [inductionHypothesis]
        exact and_or_left.symm
      simp only [List.mem_cons, exists_eq_or_imp]
      cases matcher with
      | name wanted =>
          rw [matchStrings, List.mem_append, ← step]
          apply or_congr_left
          by_cases present : wanted ∈ strings
          · rw [if_pos present, List.mem_singleton]
            exact ⟨fun same => ⟨same ▸ present, same⟩, And.right⟩
          · rw [if_neg present]
            refine iff_of_false List.not_mem_nil ?_
            rintro ⟨member, rfl⟩
            exact present member
      | pattern accepts =>
          rw [matchStrings, List.mem_append, ← step, List.mem_filter]
          rfl

namespace OpenStackTopology

variable {topology : OpenStackTopology Client Address}

theorem InGroup.mem_keys {group : String} {id : Nat} (inGroup : topology.InGroup group id) :
    group ∈ topology.groups.keys := by
  rw [← Dict.isSome_get?]
  cases present : topology.groups.get? group with
  | some nodes => rfl
  | none =>
      rw [InGroup, present] at inGroup
      cases inGroup

theorem mem_listGroupNames_keys {groups : List Matcher} {group : String}
    (listed : group ∈ topology.listGroupNames groups) : group ∈ topology.groups.keys := by
  unfold listGroupNames at listed
  simp only at listed
  split at listed
  · exact (mem_matchStrings.mp listed).1
  · exact listed

/-- The groups of a list that is not empty. -/
theorem inGroups_iff {groups : List Matcher} (nonempty : groups ≠ []) (id : Nat) :
    (∃ group ∈ topology.listGroupNames groups, topology.InGroup group id) ↔
      topology.InGroups groups id := by
  have filled : groups.isEmpty = false := List.isEmpty_eq_false_iff.mpr nonempty
  have listed : ∀ group, topology.InGroup group id →
      (group ∈ topology.listGroupNames groups ↔ ∃ matcher ∈ groups, matcher.Accepts group) := by
    intro group inGroup
    have key := inGroup.mem_keys
    have known : topology.groups.keys.isEmpty = false :=
      List.isEmpty_eq_false_iff.mpr (List.ne_nil_of_mem key)
    simp only [listGroupNames, filled, known, Bool.not_false, Bool.and_self, if_true,
      mem_matchStrings, key, true_and]
  constructor
  · rintro ⟨group, member, inGroup⟩
    obtain ⟨matcher, inList, accepts⟩ := (listed group inGroup).mp member
    exact ⟨matcher, inList, group, accepts, inGroup⟩
  · rintro ⟨matcher, inList, group, accepts, inGroup⟩
    exact ⟨group, (listed group inGroup).mpr ⟨matcher, inList, accepts⟩, inGroup⟩

/-- Without a name or a pattern all the groups are listed. -/
theorem inGroups_nil_iff (id : Nat) :
    (∃ group ∈ topology.listGroupNames [], topology.InGroup group id) ↔
      ∃ group, topology.InGroup group id :=
  ⟨fun ⟨group, _, inGroup⟩ => ⟨group, inGroup⟩,
    fun ⟨group, inGroup⟩ => ⟨group, inGroup.mem_keys, inGroup⟩⟩

/-! ### The nodes that are selected -/

/-- Every listed group is known, and its nodes give their names. -/
theorem nodeNames_eq_some {groups : List String}
    (known : ∀ group ∈ groups, group ∈ topology.groups.keys) :
    ∃ names, topology.nodeNames groups = some names ∧ ∀ name, name ∈ names ↔
      ∃ group ∈ groups, ∃ id node, topology.InGroup group id ∧
        topology.nodes[id]? = some node ∧ node.name = name := by
  induction groups with
  | nil => exact ⟨[], rfl, fun name => iff_of_false List.not_mem_nil (by simp)⟩
  | cons group groups inductionHypothesis =>
      obtain ⟨present, others⟩ := List.forall_mem_cons.mp known
      obtain ⟨names, found, members⟩ := inductionHypothesis others
      rw [← Dict.isSome_get?] at present
      obtain ⟨nodes, inGroup⟩ := Option.isSome_iff_exists.mp present
      refine ⟨_, by rw [nodeNames, getGroup, inGroup]; simp only [found, Option.map_some]; rfl, ?_⟩
      intro name
      simp only [List.mem_append, List.mem_cons, exists_eq_or_imp, members, List.mem_filterMap]
      apply or_congr_left
      constructor
      · rintro ⟨id, member, named⟩
        obtain ⟨node, inNodes, same⟩ := Option.map_eq_some_iff.mp named
        refine ⟨id, node, ?_, inNodes, same⟩
        rw [InGroup, inGroup]
        exact member
      · rintro ⟨id, node, member, inNodes, same⟩
        rw [InGroup, inGroup] at member
        exact ⟨id, member, by rw [inNodes, Option.map_some, same]⟩

variable [DecidableEq Address]

theorem nodup_allNodes (indexed : topology.Indexed) : topology.allNodes.Nodup := by
  refine topology.names.distinct.filterMap ?_
  intro one two id oneNamed twoNamed
  obtain ⟨node, inNodes, oneSame⟩ := (indexed.names one id).mp oneNamed
  obtain ⟨other, otherIn, twoSame⟩ := (indexed.names two id).mp twoNamed
  rw [inNodes] at otherIn
  rw [← oneSame, ← twoSame, Option.some.inj otherIn]

/-- **The nodes of the listed groups are selected.** -/
theorem getGroups_isSelection (indexed : topology.Indexed) (groups : List Matcher) :
    ∃ selection, topology.getGroups groups = some selection ∧
      topology.IsSelection
        (fun id => ∃ group ∈ topology.listGroupNames groups, topology.InGroup group id)
        selection := by
  obtain ⟨names, found, members⟩ :=
    nodeNames_eq_some fun group listed => @mem_listGroupNames_keys _ _ topology groups group listed
  refine ⟨_, by rw [getGroups, found, Option.map_some], ?_, List.filter_sublist,
    (nodup_allNodes indexed).filter _⟩
  intro id
  rw [List.mem_filter]
  apply and_congr_right
  intro inTopology
  obtain ⟨name, -, named⟩ := List.mem_filterMap.mp inTopology
  obtain ⟨node, inNodes, rfl⟩ := (indexed.names name id).mp named
  rw [inNodes, Option.map_some, Option.any_some, decide_eq_true_iff, members]
  constructor
  · rintro ⟨group, listed, other, otherNode, inGroup, otherIn, same⟩
    -- No other node has the name.
    have otherNamed := (indexed.names node.name other).mpr ⟨otherNode, otherIn, same⟩
    rw [named] at otherNamed
    rw [Option.some.inj otherNamed]
    exact ⟨group, listed, inGroup⟩
  · rintro ⟨group, listed, inGroup⟩
    exact ⟨group, listed, id, node, inGroup, inNodes, rfl⟩

/-! ### Unions of groups -/

/-- The topology's nodes in the groups of the list are selected, in order and each once. -/
def SelectsGroups (topology : OpenStackTopology Client Address) (groups : List Matcher) : Prop :=
  ∃ selection, topology.getGroups groups = some selection ∧
    topology.IsSelection (topology.InGroups groups) selection

/-- Two lists together select what each of them does. -/
def SelectsUnion (topology : OpenStackTopology Client Address) (left right : List Matcher) : Prop :=
  ∃ leftNodes rightNodes bothNodes, topology.getGroups left = some leftNodes ∧
    topology.getGroups right = some rightNodes ∧
      topology.getGroups (left ++ right) = some bothNodes ∧
        ∀ id, id ∈ bothNodes ↔ id ∈ leftNodes ∨ id ∈ rightNodes

theorem IsSelection.congr {wanted other : Nat → Prop} {selection : List Nat}
    (selects : topology.IsSelection wanted selection)
    (same : ∀ id ∈ topology.allNodes, wanted id ↔ other id) :
    topology.IsSelection other selection := by
  refine ⟨fun id => ?_, selects.order, selects.distinct⟩
  rw [selects.mem]
  exact and_congr_right fun member => same id member

theorem InGroup.mem_allNodes (indexed : topology.Indexed) {group : String} {id : Nat}
    (inGroup : topology.InGroup group id) : id ∈ topology.allNodes := by
  obtain ⟨node, inNodes, -⟩ := (indexed.groups group id).mp inGroup
  exact Tobiko.Openstack.Topology.mem_allNodes indexed inNodes

theorem selectsGroups_iff (indexed : topology.Indexed) (groups : List Matcher) :
    topology.SelectsGroups groups ↔ groups ≠ [] ∨ ∀ group id, ¬topology.InGroup group id := by
  obtain ⟨selection, found, selects⟩ := getGroups_isSelection indexed groups
  by_cases empty : groups = []
  · subst empty
    simp only [inGroups_nil_iff] at selects
    constructor
    · rintro ⟨other, otherFound, otherSelects⟩
      rw [found] at otherFound
      refine .inr fun group id inGroup => ?_
      have listed := (selects.mem id).mpr ⟨inGroup.mem_allNodes indexed, group, inGroup⟩
      rw [Option.some.inj otherFound] at listed
      obtain ⟨-, matcher, nothing, -⟩ := (otherSelects.mem id).mp listed
      cases nothing
    · rintro (nonempty | nowhere)
      · exact absurd rfl nonempty
      · refine ⟨selection, found, selects.congr fun id _ => ?_⟩
        refine iff_of_false (fun ⟨group, inGroup⟩ => nowhere group id inGroup) ?_
        rintro ⟨matcher, nothing, -⟩
        cases nothing
  · refine iff_of_true ⟨selection, found, selects.congr fun id _ => ?_⟩ (.inl empty)
    exact inGroups_iff empty id

theorem mem_getGroups (indexed : topology.Indexed) {groups : List Matcher} {selection : List Nat}
    (found : topology.getGroups groups = some selection) (id : Nat) :
    id ∈ selection ↔ ∃ group ∈ topology.listGroupNames groups, topology.InGroup group id := by
  obtain ⟨other, otherFound, selects⟩ := getGroups_isSelection indexed groups
  rw [found] at otherFound
  rw [Option.some.inj otherFound, selects.mem]
  exact and_iff_right_of_imp fun ⟨group, _, inGroup⟩ => inGroup.mem_allNodes indexed

/-- The union is about the groups that are listed. -/
theorem selectsUnion_iff_listed (indexed : topology.Indexed) (left right : List Matcher) :
    topology.SelectsUnion left right ↔ ∀ id,
      (∃ group ∈ topology.listGroupNames (left ++ right), topology.InGroup group id) ↔
        (∃ group ∈ topology.listGroupNames left, topology.InGroup group id) ∨
          ∃ group ∈ topology.listGroupNames right, topology.InGroup group id := by
  constructor
  · rintro ⟨leftNodes, rightNodes, bothNodes, leftFound, rightFound, bothFound, union⟩ id
    rw [← mem_getGroups indexed leftFound, ← mem_getGroups indexed rightFound,
      ← mem_getGroups indexed bothFound]
    exact union id
  · intro listed
    obtain ⟨leftNodes, leftFound, -⟩ := getGroups_isSelection indexed left
    obtain ⟨rightNodes, rightFound, -⟩ := getGroups_isSelection indexed right
    obtain ⟨bothNodes, bothFound, -⟩ := getGroups_isSelection indexed (left ++ right)
    refine ⟨leftNodes, rightNodes, bothNodes, leftFound, rightFound, bothFound, fun id => ?_⟩
    rw [mem_getGroups indexed leftFound, mem_getGroups indexed rightFound,
      mem_getGroups indexed bothFound]
    exact listed id

theorem selectsUnion_iff (indexed : topology.Indexed) (left right : List Matcher) :
    topology.SelectsUnion left right ↔ (left = [] ↔ right = []) ∨
      ∀ group id, topology.InGroup group id → topology.InGroups (left ++ right) id := by
  -- One list is empty, and the other one selects the nodes of its groups only.
  have oneEmpty : ∀ groups : List Matcher,
      ((∀ id, topology.InGroups groups id ↔
          (∃ group, topology.InGroup group id) ∨ topology.InGroups groups id) ↔
        ∀ group id, topology.InGroup group id → topology.InGroups groups id) := by
    intro groups
    constructor
    · exact fun union group id inGroup => (union id).mpr (.inl ⟨group, inGroup⟩)
    · intro covered id
      refine ⟨.inr, fun either => ?_⟩
      obtain ⟨group, inGroup⟩ | selected := either
      · exact covered group id inGroup
      · exact selected
  rw [selectsUnion_iff_listed indexed]
  by_cases leftEmpty : left = []
  · subst leftEmpty
    by_cases rightEmpty : right = []
    · subst rightEmpty
      exact iff_of_true (fun id => (or_self_iff).symm) (.inl Iff.rfl)
    · simp only [List.nil_append, inGroups_nil_iff, inGroups_iff rightEmpty, rightEmpty, true_iff,
        false_or]
      exact oneEmpty right
  · have both : left ++ right ≠ [] := List.append_ne_nil_of_left_ne_nil leftEmpty right
    by_cases rightEmpty : right = []
    · subst rightEmpty
      simp only [List.append_nil, inGroups_nil_iff, inGroups_iff leftEmpty, leftEmpty, iff_true,
        false_or]
      rw [← oneEmpty left]
      exact forall_congr' fun id => iff_congr Iff.rfl or_comm
    · simp only [inGroups_iff both, inGroups_iff leftEmpty, inGroups_iff rightEmpty]
      refine iff_of_true (fun id => ?_) (.inl (iff_of_false leftEmpty rightEmpty))
      simp only [InGroups, List.mem_append, or_and_right, exists_or]

end OpenStackTopology

/-- **A list selects the nodes of its groups, and two lists together the union of theirs, except
that the empty list selects the nodes of all groups.** -/
theorem getGroups_union_iff [DecidableEq Address] {topology : OpenStackTopology Client Address}
    (indexed : topology.Indexed) :
    (∀ groups, topology.SelectsGroups groups ↔
        groups ≠ [] ∨ ∀ group id, ¬topology.InGroup group id) ∧
      ∀ left right, topology.SelectsUnion left right ↔ (left = [] ↔ right = []) ∨
        ∀ group id, topology.InGroup group id → topology.InGroups (left ++ right) id :=
  ⟨OpenStackTopology.selectsGroups_iff indexed, OpenStackTopology.selectsUnion_iff indexed⟩

/-- The topology with one more node, which is in the group. -/
def OpenStackTopology.withNode (topology : OpenStackTopology Unit Nat) (name group : String) :
    OpenStackTopology Unit Nat :=
  let (node, topology) := topology.insert ⟨name, name, none, []⟩
  topology.joinGroup (some group) node

theorem OpenStackTopology.withNode_indexed {topology : OpenStackTopology Unit Nat}
    (indexed : topology.Indexed) (name group : String) :
    (topology.withNode name group).Indexed :=
  joinGroup_indexed (insert_indexed indexed) (insert_node indexed)

/-- A topology with one node in one group, and with two further nodes in another one. -/
def oneController : OpenStackTopology Unit Nat :=
  OpenStackTopology.init.withNode "controller-0" "controller"

def twoComputes : OpenStackTopology Unit Nat :=
  (oneController.withNode "compute-0" "compute").withNode "compute-1" "compute"

theorem oneController_indexed : oneController.Indexed :=
  OpenStackTopology.withNode_indexed init_indexed _ _

theorem twoComputes_indexed : twoComputes.Indexed :=
  OpenStackTopology.withNode_indexed
    (OpenStackTopology.withNode_indexed oneController_indexed _ _) _ _

/-- The nodes of one group and of two are selected, and the empty list is refused. -/
theorem getGroups_union_iff_twoComputes :
    twoComputes.SelectsGroups [.name "compute"] ∧ ¬twoComputes.SelectsGroups [] ∧
      twoComputes.SelectsUnion [.name "controller"] [.name "compute"] ∧
      ¬twoComputes.SelectsUnion [.name "controller"] [] := by
  have compute : twoComputes.InGroup "compute" 1 := by
    show 1 ∈ _
    decide
  obtain ⟨groups, union⟩ := getGroups_union_iff twoComputes_indexed
  refine ⟨(groups _).mpr (.inl (List.cons_ne_nil _ _)), fun selects => ?_,
    (union _ _).mpr (.inl (iff_of_false (List.cons_ne_nil _ _) (List.cons_ne_nil _ _))),
    fun selects => ?_⟩
  · obtain nonempty | nowhere := (groups []).mp selects
    · exact nonempty rfl
    · exact nowhere "compute" 1 compute
  · obtain both | covered := (union _ _).mp selects
    · exact List.cons_ne_nil _ _ (both.mpr rfl)
    · obtain ⟨matcher, member, group, accepts, inGroup⟩ := covered "compute" 1 compute
      cases List.mem_singleton.mp member
      have same : group = "controller" := accepts
      subst same
      have notThere : 1 ∉ (twoComputes.groups.get? "controller").getD [] := by decide
      exact notThere inGroup

/-- No group is asked for, and the node of a group is selected. -/
theorem noGroup_selects :
    ¬∀ topology : OpenStackTopology Unit Nat, topology.Indexed →
      ∀ groups, topology.SelectsGroups groups := by
  intro claimed
  have selects := claimed oneController oneController_indexed []
  rw [OpenStackTopology.selectsGroups_iff oneController_indexed] at selects
  have inGroup : oneController.InGroup "controller" 0 := by
    show 0 ∈ _
    decide
  exact selects.elim (fun nonempty => nonempty rfl) fun nowhere => nowhere "controller" 0 inGroup

end Groups

end Tobiko.Openstack.Topology
