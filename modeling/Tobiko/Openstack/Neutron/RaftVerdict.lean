import Tobiko.Openstack.Neutron.RaftCluster

/-!
Contract: what `test_raft_cluster` in `tobiko/openstack/tests/_neutron.py` says of a RAFT cluster
of OVN databases from the statuses that its hosts print.

Owns: the status of a node, when the servers of a node are heard from, and the verdict on the
statuses of the round that has been collected.

Does not own: the functions that collect and check the statuses.
-/

namespace Tobiko.Openstack.Neutron

open Tobiko.Common Tobiko.Common.Time Tobiko.Foundation

/-! ### Nodes -/

/-- What a node says of itself and of the servers that it knows. -/
structure Node where
  role : Text
  leader : Text
  electionTimer : Nat
  servers : List Text

/-- A status that describes it. -/
structure Describes (status : ClusterStatus) (node : Node) : Prop where
  role : status.get? "Role".toList = some (.value node.role)
  leader : status.get? "Leader".toList = some (.value node.leader)
  electionTimer : status.get? "Election timer".toList =
    some (.value (Nat.toDigits 10 node.electionTimer))
  servers : status.get? "Servers".toList = some (.items node.servers)

/-- Election is in progress. -/
def Node.IsCandidate (node : Node) : Prop := node.role.map Char.toLower = "candidate".toList

def Node.isLeader (node : Node) : Bool := node.role = "leader".toList

/-- The server that the line tells of answers in time, or nothing is known of it: a follower hears
from its leader only. -/
def Node.HearsFrom (node : Node) (server : Text) : Prop :=
  Text.contains "self".toList server ∨
    (node.role = "follower".toList ∧ node.leader.isPrefixOf server = false) ∨
      ∃ age, findAges server = [age] ∧ age ≤ node.electionTimer

def Node.Healthy (node : Node) : Prop := ∀ server ∈ node.servers, node.HearsFrom server

section Checks

variable {Exc : Type} {status : ClusterStatus} {node : Node}

def IsRaftStatusError (error : ClusterError Exc) : Prop := ∃ message, error = .raftStatusError message

theorem getDetail_of {name : String} {detail : Detail}
    (present : status.get? name.toList = some detail) :
    (getDetail status name : Except (ClusterError Exc) Detail) = .ok detail := by
  unfold getDetail
  rw [present]

theorem checkAge_verdict (timer : Nat) (server : Text) :
    ((∃ age, findAges server = [age] ∧ age ≤ timer) ∧
      (checkAge timer server : Except (ClusterError Exc) Unit) = .ok ()) ∨
    ((¬ ∃ age, findAges server = [age] ∧ age ≤ timer) ∧
      ∃ error : ClusterError Exc, checkAge timer server = .error error ∧
        IsRaftStatusError error) := by
  unfold checkAge
  split
  · rename_i age found
    by_cases late : (timer : Int) < age
    · refine .inr ⟨?_, _, if_pos late, _, rfl⟩
      rintro ⟨other, same, inTime⟩
      rw [found] at same
      cases same
      omega
    · exact .inl ⟨⟨age, found, by omega⟩, if_neg late⟩
  · rename_i unparsed
    refine .inr ⟨?_, _, rfl, _, rfl⟩
    rintro ⟨age, same, _⟩
    exact unparsed age same

/-- The check of a server passes when it is heard from, and else says so. -/
theorem checkServer_verdict (describes : Describes status node) (server : Text) :
    (node.HearsFrom server ∧
      (checkServer status node.electionTimer (.value node.leader) server :
        Except (ClusterError Exc) Unit) = .ok ()) ∨
    (¬ node.HearsFrom server ∧ ∃ error : ClusterError Exc,
      checkServer status node.electionTimer (.value node.leader) server = .error error ∧
        IsRaftStatusError error) := by
  unfold checkServer
  rw [getDetail_of describes.role]
  by_cases itself : Text.contains "self".toList server
  · exact .inl ⟨.inl itself, if_pos itself⟩
  · rw [if_neg itself]
    by_cases quiet : node.role = "follower".toList ∧ node.leader.isPrefixOf server = false
    · refine .inl ⟨.inr (.inl quiet), ?_⟩
      show (if Detail.value node.role = .value "follower".toList then _ else _) = _
      rw [if_pos (by rw [quiet.1])]
      show (if node.leader.isPrefixOf server then _ else _) = _
      rw [quiet.2]
      rfl
    · have checked : (do
          let role ← (Except.ok (Detail.value node.role) : Except (ClusterError Exc) Detail)
          if role = .value "follower".toList then
            if ← (Detail.value node.leader).startsText server then
              checkAge node.electionTimer server
            else .ok ()
          else checkAge node.electionTimer server) = checkAge node.electionTimer server := by
        show (if Detail.value node.role = .value "follower".toList then _ else _) = _
        by_cases follower : node.role = "follower".toList
        · have heard : node.leader.isPrefixOf server = true := by simpa [follower] using quiet
          rw [if_pos (by rw [follower])]
          show (if node.leader.isPrefixOf server then _ else _) = _
          rw [heard]
          rfl
        · exact if_neg fun same => follower (Detail.value.inj same)
      rw [checked]
      rcases @checkAge_verdict Exc node.electionTimer server with
        ⟨inTime, passed⟩ | ⟨late, error, failed, isError⟩
      · exact .inl ⟨.inr (.inr inTime), passed⟩
      · refine .inr ⟨?_, error, failed, isError⟩
        rintro (self | follower | inTime)
        · exact itself self
        · exact quiet follower
        · exact late inTime

/-- All of them are checked, up to the first that is not heard from. -/
theorem checkServers_verdict (describes : Describes status node) (servers : List Text) :
    ((∀ server ∈ servers, node.HearsFrom server) ∧
      (servers.forM (checkServer status node.electionTimer (.value node.leader)) :
        Except (ClusterError Exc) Unit) = .ok ()) ∨
    ((¬ ∀ server ∈ servers, node.HearsFrom server) ∧ ∃ error : ClusterError Exc,
      servers.forM (checkServer status node.electionTimer (.value node.leader)) = .error error ∧
        IsRaftStatusError error) := by
  induction servers with
  | nil => exact .inl ⟨by simp, rfl⟩
  | cons server servers inductionHypothesis =>
      have step : (server :: servers).forM
          (checkServer status node.electionTimer (.value node.leader)) =
          ((checkServer status node.electionTimer (.value node.leader) server >>= fun _ =>
            servers.forM (checkServer status node.electionTimer (.value node.leader))) :
              Except (ClusterError Exc) Unit) := rfl
      rw [step, List.forall_mem_cons]
      rcases @checkServer_verdict Exc _ _ describes server with
        ⟨heard, passed⟩ | ⟨unheard, error, failed, isError⟩
      · rw [passed]
        rcases inductionHypothesis with ⟨others, rest⟩ | ⟨others, error, rest, isError⟩
        · exact .inl ⟨⟨heard, others⟩, rest⟩
        · exact .inr ⟨fun all => others all.2, error, rest, isError⟩
      · rw [failed]
        exact .inr ⟨fun all => unheard all.1, error, rfl, isError⟩

theorem checkRaftTimers_verdict (describes : Describes status node) :
    (node.Healthy ∧ (checkRaftTimers status : Except (ClusterError Exc) Unit) = .ok ()) ∨
    (¬ node.Healthy ∧ ∃ error : ClusterError Exc, checkRaftTimers status = .error error ∧
      IsRaftStatusError error) := by
  have checked : (checkRaftTimers status : Except (ClusterError Exc) Unit) =
      node.servers.forM (checkServer status node.electionTimer (.value node.leader)) := by
    unfold checkRaftTimers
    rw [getDetail_of describes.electionTimer, getDetail_of describes.leader,
      getDetail_of describes.servers]
    have number : (Detail.value (Nat.toDigits 10 node.electionTimer)).int =
        (.ok node.electionTimer : Except (ClusterError Exc) Int) := by
      unfold Detail.int
      dsimp only
      rw [Text.int_toDigits]
    show ((Detail.value (Nat.toDigits 10 node.electionTimer)).int >>= _) = _
    rw [number]
    rfl
  rw [checked]
  exact checkServers_verdict describes node.servers

/-! ### The nodes of a round -/

def leaders (nodes : List Node) : Nat := nodes.countP Node.isLeader

/-- What the check of the nodes raises: that a server is not heard from, or the number of the
leaders. -/
def Refused (leaderFound : Bool) (nodes : List Node) (error : ClusterError Exc) : Prop :=
  (IsRaftStatusError error ∧ ∃ node ∈ nodes, ¬ node.Healthy) ∨
    (error = .assertion ∧ leaderFound.toNat + leaders nodes ≠ 1)

/-- The loop over the nodes: it goes on while no node but one leads. -/
theorem foldlM_checkNode {statuses : List ClusterStatus} {nodes : List Node}
    (describe : List.Forall₂ Describes statuses nodes) (leaderFound : Bool) :
    ((∀ node ∈ nodes, node.Healthy) ∧ ∃ found : Bool,
      found.toNat = leaderFound.toNat + leaders nodes ∧
      (statuses.foldlM checkNode leaderFound : Except (ClusterError Exc) Bool) = .ok found) ∨
    ∃ error : ClusterError Exc, statuses.foldlM checkNode leaderFound = .error error ∧
      Refused leaderFound nodes error := by
  induction describe generalizing leaderFound with
  | nil => exact .inl ⟨by simp, leaderFound, rfl, rfl⟩
  | @cons status node statuses nodes describes _ inductionHypothesis =>
      rw [List.foldlM_cons, List.forall_mem_cons]
      have counted : leaders (node :: nodes) = leaders nodes + node.isLeader.toNat := by
        rw [leaders, List.countP_cons]
        cases node.isLeader <;> rfl
      rcases @checkRaftTimers_verdict Exc _ _ describes with
        ⟨healthy, passed⟩ | ⟨unhealthy, error, failed, isError⟩
      · have step : (checkNode leaderFound status : Except (ClusterError Exc) Bool) =
            if node.isLeader then (if leaderFound then .error .assertion else .ok true)
            else .ok leaderFound := by
          unfold checkNode
          rw [passed, getDetail_of describes.role]
          show (if Detail.value node.role = .value "leader".toList then _ else _) = _
          simp only [Detail.value.injEq, Node.isLeader, decide_eq_true_eq]
        rw [step]
        by_cases leader : node.isLeader = true
        · rw [if_pos leader]
          cases leaderFound with
          | true =>
              refine .inr ⟨.assertion, rfl, .inr ⟨rfl, ?_⟩⟩
              rw [counted, leader]
              show 1 + (leaders nodes + 1) ≠ 1
              omega
          | false =>
              rcases inductionHypothesis true with
                ⟨others, found, same, rest⟩ | ⟨error, rest, refused⟩
              · refine .inl ⟨⟨healthy, others⟩, found, ?_, rest⟩
                rw [same, counted, leader]
                show 1 + leaders nodes = 0 + (leaders nodes + 1)
                omega
              · refine .inr ⟨error, rest, refused.imp ?_ ?_⟩
                · exact fun unhealthy => ⟨unhealthy.1, by simpa using .inr unhealthy.2⟩
                · refine fun wrong => ⟨wrong.1, ?_⟩
                  have number : 1 + leaders nodes ≠ 1 := wrong.2
                  rw [counted, leader]
                  show 0 + (leaders nodes + 1) ≠ 1
                  omega
        · rw [if_neg leader]
          have uncounted : leaders (node :: nodes) = leaders nodes := by
            rw [counted, Bool.eq_false_iff.mpr leader]
            rfl
          rcases inductionHypothesis leaderFound with
            ⟨others, found, same, rest⟩ | ⟨error, rest, refused⟩
          · exact .inl ⟨⟨healthy, others⟩, found, by rw [same, uncounted], rest⟩
          · refine .inr ⟨error, rest, refused.imp ?_ ?_⟩
            · exact fun unhealthy => ⟨unhealthy.1, by simpa using .inr unhealthy.2⟩
            · exact fun wrong => ⟨wrong.1, by rw [uncounted]; exact wrong.2⟩
      · have step : (checkNode leaderFound status : Except (ClusterError Exc) Bool) =
            .error error := by
          unfold checkNode
          rw [failed]
          rfl
        rw [step]
        exact .inr ⟨error, rfl, .inl ⟨isError, node, List.mem_cons_self, unhealthy⟩⟩

theorem checkNodes_verdict {statuses : List ClusterStatus} {nodes : List Node}
    (describe : List.Forall₂ Describes statuses nodes) :
    ((∀ node ∈ nodes, node.Healthy) ∧ leaders nodes = 1 ∧
      (checkNodes statuses : Except (ClusterError Exc) Unit) = .ok ()) ∨
    ∃ error : ClusterError Exc, checkNodes statuses = .error error ∧
      Refused false nodes error := by
  unfold checkNodes
  rcases @foldlM_checkNode Exc _ _ describe false with
    ⟨healthy, found, same, ran⟩ | ⟨error, ran, refused⟩
  · have number : found.toNat = leaders nodes := by
      rw [same]
      exact Nat.zero_add _
    rw [ran]
    cases found with
    | true => exact .inl ⟨healthy, number.symm, rfl⟩
    | false =>
        refine .inr ⟨.assertion, rfl, .inr ⟨rfl, ?_⟩⟩
        have none : leaders nodes = 0 := number.symm
        rw [none]
        decide
  · rw [ran]
    exact .inr ⟨error, rfl, refused⟩

end Checks

/-! ### The rounds -/

/-- A text that `cluster/status` prints at the node. -/
def Prints (text : Text) (node : Node) : Prop :=
  ∃ entries : List Entry, (∀ entry ∈ entries, entry.WellFormed) ∧ text = statusText entries ∧
    Describes (Dict.ofPairs (entries.flatMap Entry.pairs)) node

def Answers (answers : List (Text × Text)) (nodes : List Node) : Prop :=
  List.Forall₂ (fun answer node => Prints answer.2 node) answers nodes

theorem Describes.set_host {status : ClusterStatus} {node : Node}
    (describes : Describes status node) (hostId : Detail) :
    Describes (status.set "host".toList hostId) node := by
  constructor
  · rw [Dict.get?_set, if_neg (by decide), describes.role]
  · rw [Dict.get?_set, if_neg (by decide), describes.leader]
  · rw [Dict.get?_set, if_neg (by decide), describes.electionTimer]
  · rw [Dict.get?_set, if_neg (by decide), describes.servers]

section Rounds

variable {Exc : Type}

/-- The statuses of a round are collected unless one of the nodes is a candidate. -/
theorem collectHosts_verdict {answers : List (Text × Text)} {nodes : List Node}
    (printed : Answers answers nodes) (before : List ClusterStatus) :
    ((∃ node ∈ nodes, node.IsCandidate) ∧
      (collectHosts answers before : Except (ClusterError Exc) _) = .ok none) ∨
    ((∀ node ∈ nodes, ¬ node.IsCandidate) ∧ ∃ statuses,
      List.Forall₂ Describes statuses nodes ∧
      (collectHosts answers before : Except (ClusterError Exc) _) =
        .ok (some (before ++ statuses))) := by
  induction printed generalizing before with
  | nil => exact .inr ⟨by simp, [], .nil, by rw [collectHosts, List.append_nil]⟩
  | @cons answer node answers nodes prints _ inductionHypothesis =>
      obtain ⟨entries, wellFormed, printed, describes⟩ := prints
      obtain ⟨hostId, stdout⟩ := answer
      have described := describes.set_host (.value hostId)
      have step : (collectHosts ((hostId, stdout) :: answers) before :
          Except (ClusterError Exc) _) =
          if node.role.map Char.toLower = "candidate".toList then .ok none
          else collectHosts answers (before ++ [(Dict.ofPairs (entries.flatMap Entry.pairs)).set
            "host".toList (.value hostId)]) := by
        rw [collectHosts]
        have parsed : parseClusterStatus stdout =
            .ok (Dict.ofPairs (entries.flatMap Entry.pairs)) := by
          rw [show stdout = statusText entries from printed]
          exact parse_printed wellFormed
        rw [parsed]
        show (getDetail _ "Role" >>= _) = _
        rw [getDetail_of described.role]
        rfl
      rw [step, List.forall_mem_cons]
      by_cases candidate : node.role.map Char.toLower = "candidate".toList
      · exact .inl ⟨⟨node, List.mem_cons_self, candidate⟩, if_pos candidate⟩
      · rw [if_neg candidate]
        rcases inductionHypothesis (before ++ [(Dict.ofPairs (entries.flatMap Entry.pairs)).set
            "host".toList (.value hostId)]) with
          ⟨⟨other, member, electing⟩, rest⟩ | ⟨quiet, statuses, describe, rest⟩
        · exact .inl ⟨⟨other, List.mem_cons_of_mem _ member, electing⟩, rest⟩
        · refine .inr ⟨⟨candidate, quiet⟩, _, .cons described describe, ?_⟩
          rw [rest, List.append_assoc]
          rfl

end Rounds

section Verdict

variable {World Exc : Type} (hosts : DatabaseHosts World Exc)

/-- The hosts answer, when they do, with statuses of their nodes. -/
def PrintsStatuses : Prop :=
  ∀ before answers after, hosts.runOnHosts before = (.ok answers, after) →
    ∃ nodes, Answers answers nodes

/-- A round that is over, in which the nodes have answered. -/
def Round (nodes : List Node) (after : World) : Prop :=
  ∃ before answers, hosts.runOnHosts before = (.ok answers, after) ∧ Answers answers nodes

/-- A round without elections. -/
def StableRound (nodes : List Node) (after : World) : Prop :=
  Round hosts nodes after ∧ ∀ node ∈ nodes, ¬ node.IsCandidate

/-- Nothing has been done in between but to look at the clock and to sleep. -/
def Waits (clock : Clock World) : World → World → Prop :=
  Relation.ReflTransGen fun before after =>
    after = (clock.time before).2 ∨ ∃ seconds, after = clock.sleep seconds before

/-- In the last round an election was in progress. -/
def Electing (after : World) : Prop :=
  ∃ nodes between, Round hosts nodes between ∧ (∃ node ∈ nodes, node.IsCandidate) ∧
    Waits hosts.clock between after

theorem untimed_electing : Retry.Untimed hosts.clock (Electing hosts) := by
  constructor
  · rintro state ⟨nodes, between, round, candidate, waits⟩
    exact ⟨nodes, between, round, candidate, waits.tail (.inl rfl)⟩
  · rintro seconds state ⟨nodes, between, round, candidate, waits⟩
    exact ⟨nodes, between, round, candidate, waits.tail (.inr ⟨seconds, rfl⟩)⟩

/-- The last round is stable, its nodes hear from the servers that they have to, and one of them
leads. -/
def Accepted (after : World) : Prop :=
  ∃ nodes, StableRound hosts nodes after ∧ (∀ node ∈ nodes, node.Healthy) ∧ leaders nodes = 1

/-- Why the cluster is refused: from the answers of the last round, each error. -/
inductive RefusedFor : ClusterError Exc → World → Prop
  | raised {exception : Exc} {before after : World}
      (raised : hosts.runOnHosts before = (.error exception, after)) :
      RefusedFor (.raised exception) after
  | unheard {message : Text} {nodes : List Node} {after : World}
      (stable : StableRound hosts nodes after) (unhealthy : ∃ node ∈ nodes, ¬ node.Healthy) :
      RefusedFor (.raftStatusError message) after
  | leaders {nodes : List Node} {after : World}
      (stable : StableRound hosts nodes after) (number : leaders nodes ≠ 1) :
      RefusedFor .assertion after
  | electing {error : RetryLimitError} {after : World} (electing : Electing hosts after) :
      RefusedFor (.retryLimit error) after

variable {hosts}

theorem runOnHosts_ensures (prints : PrintsStatuses hosts) (before : World → Prop) :
    Effect.Ensures before (runOnHosts hosts)
      (fun answers after => ∃ nodes, Answers answers nodes ∧ Round hosts nodes after)
      (RefusedFor hosts) := by
  refine Effect.ensures_bind
    (fun result after => ∃ start, hosts.runOnHosts start = (result, after))
    (Effect.ensures_update fun state _ => ⟨state, rfl⟩) fun result => ?_
  cases result with
  | error exception =>
      apply Effect.ensures_raise
      rintro state ⟨start, asked⟩
      exact .raised asked
  | ok answers =>
      apply Effect.ensures_pure
      rintro state ⟨start, asked⟩
      obtain ⟨nodes, printed⟩ := prints start answers state asked
      exact ⟨nodes, printed, start, answers, asked, printed⟩

/-- A turn collects the statuses of a stable round, or leaves an election behind it. -/
theorem collectTurn_ensures (prints : PrintsStatuses hosts) (before : World → Prop)
    (attempt : RetryAttempt) (locals : Unit) :
    Effect.Ensures before (collectTurn hosts attempt locals)
      (Retry.Turn.Holds (fun _ => Electing hosts) fun statuses after =>
        ∃ nodes, StableRound hosts nodes after ∧ List.Forall₂ Describes statuses nodes)
      (RefusedFor hosts) := by
  refine Effect.ensures_bind _ (runOnHosts_ensures prints before) fun answers => ?_
  intro state answered
  obtain ⟨nodes, printed, round⟩ := answered
  rcases @collectHosts_verdict Exc _ _ printed [] with
    ⟨candidate, collected⟩ | ⟨quiet, statuses, describe, collected⟩
  · rw [collected]
    exact Effect.ensures_pure_at ⟨nodes, state, round, candidate, .refl⟩
  · rw [collected]
    exact Effect.ensures_pure_at ⟨nodes, ⟨round, quiet⟩, describe⟩

theorem collect_ensures (prints : PrintsStatuses hosts) (turns : Nat) :
    Effect.Ensures (fun _ => True) (collectRaftClusterDetails hosts turns)
      (fun statuses after =>
        ∃ nodes, StableRound hosts nodes after ∧ List.Forall₂ Describes statuses nodes)
      (RefusedFor hosts) :=
  Retry.loop_ensures_first (fun _ _ => True) (fun _ => Electing hosts)
    (fun _ => ⟨fun _ _ => trivial, fun _ _ _ => trivial⟩)
    (fun _ => untimed_electing hosts)
    (fun attempt locals => collectTurn_ensures prints _ attempt locals)
    (fun attempt locals => collectTurn_ensures prints _ attempt locals)
    (fun _ _ _ electing => .electing electing) turns ()

/-- **The verdict on a cluster is about one round:** the test passes only when the nodes that have
answered last are all settled, hear in time from the servers that they have to hear from, and have
one leader; and each error that it raises tells the reason why they do not. -/
theorem raft_cluster_verdict (prints : PrintsStatuses hosts) (turns : Nat) :
    Effect.Ensures (fun _ => True) (testRaftCluster hosts turns)
      (fun _ => Accepted hosts) (RefusedFor hosts) := by
  refine Effect.ensures_bind _ (collect_ensures prints turns) fun statuses => ?_
  intro state collected
  obtain ⟨nodes, stable, describe⟩ := collected
  rcases @checkNodes_verdict Exc _ _ describe with
    ⟨healthy, one, passed⟩ | ⟨error, failed, refused⟩
  · rw [passed]
    exact Effect.ensures_pure_at ⟨nodes, stable, healthy, one⟩
  · rw [failed]
    apply Effect.ensures_raise_at
    rcases refused with ⟨⟨message, rfl⟩, unhealthy⟩ | ⟨rfl, number⟩
    · exact .unheard stable unhealthy
    · refine .leaders stable fun one => number ?_
      rw [one]
      rfl

/-- The status of the other server, which follows the leader or is a candidate. -/
def otherStatus (role leader : Text) : List Entry :=
  [.value "Role".toList role, .value "Leader".toList leader,
    .value "Election timer".toList "1000".toList,
    .items "Servers".toList ["5a2f (5a2f at tcp:10.0.0.1:6643) last msg 48 ms ago".toList]]

theorem otherStatus_wellFormed {role leader : Text}
    (roleEntry : (Entry.value "Role".toList role).WellFormed)
    (leaderEntry : (Entry.value "Leader".toList leader).WellFormed) :
    ∀ entry ∈ otherStatus role leader, entry.WellFormed := by
  intro entry member
  simp only [otherStatus, List.mem_cons, List.not_mem_nil, or_false] at member
  rcases member with rfl | rfl | rfl | rfl
  · exact roleEntry
  · exact leaderEntry
  · exact ⟨⟨by decide, by decide, by decide⟩,
      isLine_of_ends (by decide) (by decide) (by decide) (by decide)⟩
  · refine ⟨⟨by decide, by decide, by decide⟩, fun line member => ?_⟩
    rw [List.mem_singleton.mp member]
    exact isLine_of_ends (by decide) (by decide) (by decide) (by decide)

def followerStatus : List Entry := otherStatus "follower".toList "5a2f".toList

def candidateStatus : List Entry := otherStatus "candidate".toList "unknown".toList

theorem followerStatus_wellFormed : ∀ entry ∈ followerStatus, entry.WellFormed :=
  otherStatus_wellFormed
    ⟨⟨by decide, by decide, by decide⟩,
      isLine_of_ends (by decide) (by decide) (by decide) (by decide)⟩
    ⟨⟨by decide, by decide, by decide⟩,
      isLine_of_ends (by decide) (by decide) (by decide) (by decide)⟩

theorem candidateStatus_wellFormed : ∀ entry ∈ candidateStatus, entry.WellFormed :=
  otherStatus_wellFormed
    ⟨⟨by decide, by decide, by decide⟩,
      isLine_of_ends (by decide) (by decide) (by decide) (by decide)⟩
    ⟨⟨by decide, by decide, by decide⟩,
      isLine_of_ends (by decide) (by decide) (by decide) (by decide)⟩

/-- Two hosts that answer at once; in the first second the second one is a candidate. -/
def twoHosts : DatabaseHosts ℚ Unit where
  clock := Clock.ideal
  runOnHosts now :=
    (.ok [("first".toList, statusText leaderStatus),
      ("second".toList, statusText (if now < 1 then candidateStatus else followerStatus))], now)

def leaderNode : Node :=
  ⟨"leader".toList, "self".toList, 1000, ["5a2f (5a2f at tcp:10.0.0.1:6643) (self)".toList,
    "8c3d (8c3d at tcp:10.0.0.2:6643) last msg 52 ms ago".toList]⟩

def otherNode (role leader : Text) : Node :=
  ⟨role, leader, 1000, ["5a2f (5a2f at tcp:10.0.0.1:6643) last msg 48 ms ago".toList]⟩

theorem prints_leader : Prints (statusText leaderStatus) leaderNode :=
  ⟨leaderStatus, leaderStatus_wellFormed, rfl, by decide, by decide, by decide, by decide⟩

theorem prints_follower :
    Prints (statusText followerStatus) (otherNode "follower".toList "5a2f".toList) :=
  ⟨followerStatus, followerStatus_wellFormed, rfl, by decide, by decide, by decide, by decide⟩

theorem prints_candidate :
    Prints (statusText candidateStatus) (otherNode "candidate".toList "unknown".toList) :=
  ⟨candidateStatus, candidateStatus_wellFormed, rfl, by decide, by decide, by decide, by decide⟩

theorem twoHosts_prints : PrintsStatuses twoHosts := by
  rintro before answers after asked
  cases asked
  split
  · exact ⟨[_, _], .cons prints_leader (.cons prints_candidate .nil)⟩
  · exact ⟨[_, _], .cons prints_leader (.cons prints_follower .nil)⟩

/-- The round in which the second host is a candidate is dropped, and the next one is accepted. -/
theorem raft_cluster_verdict_accepts :
    (testRaftCluster twoHosts 1 0).isNone ∧
      ∃ after, testRaftCluster twoHosts 2 0 = some (.ok (), after) ∧ Accepted twoHosts after := by
  have ran : (testRaftCluster twoHosts 2 0).map (fun ended => ended.1) = some (.ok ()) := by
    decide +kernel
  obtain ⟨⟨result, after⟩, ended, rfl⟩ := Option.map_eq_some_iff.mp ran
  refine ⟨by decide +kernel, after, ended, ?_⟩
  exact (raft_cluster_verdict twoHosts_prints 2 0 trivial _ _ ended).1 () rfl

end Verdict

end Tobiko.Openstack.Neutron
