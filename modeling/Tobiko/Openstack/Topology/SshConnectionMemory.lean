import Tobiko.Openstack.Topology.SshConnections

/-!
Contract: what the SSH connection manager remembers of its attempts.

Owns: the invariant that ties its connections to the attempts of all calls, and what a call
answers after any calls.

Does not own: the model of the manager.
-/

namespace Tobiko.Openstack.Topology

open Tobiko.Foundation

section Memory

variable {Address Client Failure : Type}

/-! ### The attempts of one call -/

/-- The attempts with keys taken in order up to the first that succeeds, and its client. -/
inductive Tried : List (Address × Option Client) → List (Attempt Address Client Failure) →
    Option Client → Prop where
  | done : Tried [] [] none
  | succeeded (key : Address × Option Client) (keys : List (Address × Option Client))
      (client : Client) : Tried (key :: keys) [⟨key, .ok client⟩] (some client)
  | failed (key : Address × Option Client) (failure : Failure)
      {keys : List (Address × Option Client)} {made : List (Attempt Address Client Failure)}
      {answer : Option Client} (rest : Tried keys made answer) :
      Tried (key :: keys) (⟨key, .error failure⟩ :: made) answer

namespace Tried

variable {keys : List (Address × Option Client)} {made : List (Attempt Address Client Failure)}

theorem sublist {answer : Option Client} (tried : Tried keys made answer) :
    (made.map Attempt.key).Sublist keys := by
  induction tried with
  | done => exact List.Sublist.slnil
  | succeeded key keys client => exact (List.nil_sublist keys).cons_cons key
  | failed key failure rest inductionHypothesis => exact inductionHypothesis.cons_cons key

/-- Without an answer all attempts have been made, and have failed. -/
theorem of_none (tried : Tried keys made none) :
    ∀ key ∈ keys, ∃ failure, ⟨key, .error failure⟩ ∈ made := by
  generalize noAnswer : (none : Option Client) = answer at tried
  induction tried with
  | done => exact List.forall_mem_nil _
  | succeeded key keys client => cases noAnswer
  | failed key failure rest inductionHypothesis =>
      refine List.forall_mem_cons.mpr ⟨⟨failure, List.mem_cons_self⟩, fun other member => ?_⟩
      obtain ⟨last, inRest⟩ := inductionHypothesis noAnswer other member
      exact ⟨last, List.mem_cons_of_mem _ inRest⟩

/-- The attempt that answers is the one that has succeeded. -/
theorem mem_ok_iff {answer : Option Client} (tried : Tried keys made answer) :
    (∀ client, answer = some client → ∃ key, ⟨key, .ok client⟩ ∈ made) ∧
      ∀ one client, ⟨one, .ok client⟩ ∈ made → answer = some client ∧
        ∀ two other, (⟨two, .ok other⟩ : Attempt Address Client Failure) ∈ made → two = one := by
  induction tried with
  | done => exact ⟨fun _ absent => (nomatch absent), fun _ _ absent => (nomatch absent)⟩
  | succeeded key keys client =>
      refine ⟨fun _ same => ⟨key, by rw [Option.some.inj same]; exact List.mem_cons_self⟩, ?_⟩
      intro one other member
      cases List.mem_singleton.mp member
      exact ⟨rfl, fun two _ again => congrArg Attempt.key (List.mem_singleton.mp again)⟩
  | failed key failure rest inductionHypothesis =>
      obtain ⟨answered, unique⟩ := inductionHypothesis
      have inRest : ∀ {one : Address × Option Client} {client : Client} {rest},
          (⟨one, .ok client⟩ : Attempt Address Client Failure) ∈ ⟨key, .error failure⟩ :: rest →
            ⟨one, .ok client⟩ ∈ rest := by
        intro one client rest member
        exact (List.mem_cons.mp member).resolve_left fun same => nomatch same
      refine ⟨fun client same => ?_, fun one client member => ?_⟩
      · obtain ⟨one, member⟩ := answered client same
        exact ⟨one, List.mem_cons_of_mem _ member⟩
      · obtain ⟨same, only⟩ := unique one client (inRest member)
        exact ⟨same, fun two other again => only two other (inRest again)⟩

end Tried

/-! ### What the attempts say of a key -/

/-- The connection that an attempt leaves. -/
def connectionAfter (key : Address × Option Client) :
    Option (Except Failure Client) → SSHConnection Address Client Failure
  | none => newConnection key
  | some (.ok client) => ⟨key.1, some client, key.2, none⟩
  | some (.error failure) => ⟨key.1, none, key.2, some failure⟩

theorem isValid_connectionAfter {key : Address × Option Client}
    {outcome : Option (Except Failure Client)} :
    (connectionAfter key outcome).isValid = true ↔ ∃ client, outcome = some (.ok client) := by
  cases outcome with
  | none => exact iff_of_false Bool.false_ne_true fun ⟨_, absent⟩ => nomatch absent
  | some outcome =>
      cases outcome with
      | ok client => exact iff_of_true rfl ⟨client, rfl⟩
      | error failure => exact iff_of_false Bool.false_ne_true fun ⟨_, absent⟩ => nomatch absent

variable [DecidableEq Address]

section Keys

variable (call : ConnectCall Address Client)

/-- The keys of the addresses, each once. -/
def keysOnce : List (Address × Option Client) :=
  (firstOccurrences id call.addresses).map fun address => (address, call.proxyClient)

theorem mem_keysOnce {key : Address × Option Client} :
    key ∈ keysOnce call ↔ ∃ address ∈ call.addresses, (address, call.proxyClient) = key := by
  have same : ∀ address, address ∈ firstOccurrences id call.addresses ↔
      address ∈ call.addresses := by
    intro address
    have members := @mem_keys_firstOccurrences Address Address _ id call.addresses address
    rwa [List.map_id, List.map_id] at members
  rw [keysOnce, List.mem_map]
  simp only [same]

theorem nodup_keysOnce : (keysOnce call).Nodup := by
  have distinct := @nodup_keys_firstOccurrences Address Address _ id call.addresses
  rw [List.map_id] at distinct
  exact distinct.map fun one two same => congrArg Prod.fst same

end Keys

variable [DecidableEq Client]

/-- What came of the attempt with a key, if it was made. -/
def outcomeOf (attempts : List (Attempt Address Client Failure)) (key : Address × Option Client) :
    Option (Except Failure Client) :=
  (attempts.find? fun attempt => attempt.key = key).map Attempt.outcome

theorem outcomeOf_eq_none {attempts : List (Attempt Address Client Failure)}
    {key : Address × Option Client} :
    outcomeOf attempts key = none ↔ key ∉ attempts.map Attempt.key := by
  rw [outcomeOf, Option.map_eq_none_iff, List.find?_eq_none, List.mem_map]
  simp

theorem mem_of_outcomeOf {attempts : List (Attempt Address Client Failure)}
    {key : Address × Option Client} {outcome : Except Failure Client}
    (made : outcomeOf attempts key = some outcome) : ⟨key, outcome⟩ ∈ attempts := by
  obtain ⟨attempt, found, rfl⟩ := Option.map_eq_some_iff.mp made
  have same : attempt.key = key := by simpa using List.find?_some found
  rw [← same]
  exact List.mem_of_find?_eq_some found

theorem outcomeOf_append_of_ne {attempts : List (Attempt Address Client Failure)}
    {attempt : Attempt Address Client Failure} {key : Address × Option Client}
    (other : attempt.key ≠ key) :
    outcomeOf (attempts ++ [attempt]) key = outcomeOf attempts key := by
  rw [outcomeOf, List.find?_append, List.find?_cons_of_neg (by simpa using other), List.find?_nil,
    Option.or_none]
  rfl

theorem outcomeOf_append_self {attempts : List (Attempt Address Client Failure)}
    {key : Address × Option Client} {outcome : Except Failure Client}
    (fresh : outcomeOf attempts key = none) :
    outcomeOf (attempts ++ [⟨key, outcome⟩]) key = some outcome := by
  have absent : attempts.find? (fun attempt => attempt.key = key) = none :=
    Option.map_eq_none_iff.mp fresh
  rw [outcomeOf, List.find?_append, absent, Option.none_or, List.find?_cons_of_pos (by simp)]
  rfl

/-! ### The invariant -/

/-- No key is attempted twice, and each connection is what the attempt with its key has left. -/
structure Remembers (manager : SSHConnectionManager Address Client Failure) : Prop where
  once : (manager.attempts.map Attempt.key).Nodup
  kept : ∀ attempt ∈ manager.attempts, attempt.key ∈ manager.connections.keys
  left : ∀ key connection, manager.connections.get? key = some connection →
    connection = connectionAfter key (outcomeOf manager.attempts key)

namespace Remembers

variable {manager : SSHConnectionManager Address Client Failure}

theorem initial :
    Remembers (SSHConnectionManager.initial : SSHConnectionManager Address Client Failure) where
  once := List.nodup_nil
  kept := List.forall_mem_nil _
  left := fun _ _ absent => nomatch absent

/-- Two attempts with one key are one attempt. -/
theorem eq_of_key (remembers : Remembers manager) {one two : Attempt Address Client Failure}
    (oneIn : one ∈ manager.attempts) (twoIn : two ∈ manager.attempts) (same : one.key = two.key) :
    one = two :=
  List.inj_on_of_nodup_map remembers.once oneIn twoIn same

theorem outcomeOf_eq (remembers : Remembers manager) {key : Address × Option Client}
    {outcome : Except Failure Client} :
    outcomeOf manager.attempts key = some outcome ↔ ⟨key, outcome⟩ ∈ manager.attempts := by
  refine ⟨mem_of_outcomeOf, fun member => ?_⟩
  cases made : outcomeOf manager.attempts key with
  | none => exact absurd (List.mem_map_of_mem member) (outcomeOf_eq_none.mp made)
  | some other =>
      have same := remembers.eq_of_key (mem_of_outcomeOf made) member rfl
      rw [(Attempt.mk.inj same).2]

theorem getConnection (remembers : Remembers manager) (key : Address × Option Client) :
    (manager.getConnection key).2 = connectionAfter key (outcomeOf manager.attempts key) ∧
      Remembers (manager.getConnection key).1 := by
  have listed : (manager.connections.get? key).getD (newConnection key) =
      connectionAfter key (outcomeOf manager.attempts key) := by
    cases present : manager.connections.get? key with
    | some connection => exact remembers.left key connection present
    | none =>
        have fresh : outcomeOf manager.attempts key = none := by
          rw [outcomeOf_eq_none, List.mem_map]
          rintro ⟨attempt, member, same⟩
          have inKeys := remembers.kept attempt member
          rw [same, ← Dict.isSome_get?, present] at inKeys
          cases inKeys
        rw [fresh]
        rfl
  refine ⟨listed, remembers.once, fun attempt member => ?_, fun other connection found => ?_⟩
  · rw [← Dict.isSome_get?]
    have inKeys := remembers.kept attempt member
    rw [← Dict.isSome_get?] at inKeys
    obtain ⟨connection, present⟩ := Option.isSome_iff_exists.mp inKeys
    simp only [SSHConnectionManager.getConnection, Dict.get?_setDefault, present, Option.some_or,
      Option.isSome_some]
  · simp only [SSHConnectionManager.getConnection, Dict.get?_setDefault] at found
    cases present : manager.connections.get? other with
    | some old =>
        rw [present, Option.some_or] at found
        rw [← Option.some.inj found]
        exact remembers.left other old present
    | none =>
        rw [present, Option.none_or] at found
        by_cases same : other = key
        · subst same
          rw [if_pos rfl] at found
          rw [← Option.some.inj found]
          rw [present, Option.getD_none] at listed
          exact listed
        · rw [if_neg same] at found
          cases found

theorem getConnections (remembers : Remembers manager) (keys : List (Address × Option Client)) :
    (manager.getConnections keys).1.attempts = manager.attempts ∧
      (manager.getConnections keys).2 =
        keys.map (fun key => connectionAfter key (outcomeOf manager.attempts key)) ∧
      Remembers (manager.getConnections keys).1 := by
  induction keys generalizing manager with
  | nil => exact ⟨rfl, rfl, remembers⟩
  | cons key keys inductionHypothesis =>
      obtain ⟨first, firstRemembers⟩ := remembers.getConnection key
      obtain ⟨attempts, connections, lastRemembers⟩ := inductionHypothesis firstRemembers
      refine ⟨attempts, ?_, lastRemembers⟩
      rw [List.map_cons, ← first]
      exact congrArg (List.cons _) connections

/-- An attempt with a new key is remembered. -/
theorem record (remembers : Remembers manager) {key : Address × Option Client}
    (fresh : outcomeOf manager.attempts key = none) (outcome : Except Failure Client) :
    Remembers (manager.record (newConnection key) outcome) := by
  have sameKey : (newConnection key : SSHConnection Address Client Failure).key = key := rfl
  refine ⟨?_, fun attempt member => ?_, fun other connection found => ?_⟩
  · simp only [SSHConnectionManager.record, List.map_append, List.map_cons, List.map_nil, sameKey]
    refine List.nodup_append.mpr ⟨remembers.once, List.nodup_singleton _, ?_⟩
    intro one oneIn two twoIn same
    rw [List.mem_singleton.mp twoIn] at same
    rw [same] at oneIn
    exact outcomeOf_eq_none.mp fresh oneIn
  · simp only [SSHConnectionManager.record, sameKey] at member ⊢
    rw [Dict.mem_keys_set]
    obtain old | new := List.mem_append.mp member
    · exact .inr (remembers.kept attempt old)
    · rw [List.mem_singleton.mp new]
      exact .inl rfl
  · simp only [SSHConnectionManager.record, sameKey, Dict.get?_set] at found ⊢
    by_cases same : other = key
    · subst same
      rw [if_pos rfl] at found
      rw [outcomeOf_append_self fresh, ← Option.some.inj found]
      cases outcome with
      | ok client => rfl
      | error failure => rfl
    · rw [if_neg same] at found
      rw [outcomeOf_append_of_ne fun again => same again.symm]
      exact remembers.left other connection found

end Remembers

/-! ### The calls -/

/-- **The loop tries the new connections in order, and its attempts are remembered.** -/
theorem tryConnections_tried
    (connectTo : List (Attempt Address Client Failure) → Address × Option Client →
      Except Failure Client)
    {keys : List (Address × Option Client)} (distinct : keys.Nodup)
    {manager : SSHConnectionManager Address Client Failure} (remembers : Remembers manager)
    (fresh : ∀ key ∈ keys, outcomeOf manager.attempts key = none) :
    ∃ made,
      (SSHConnectionManager.tryConnections connectTo manager (keys.map newConnection)).1.attempts =
          manager.attempts ++ made ∧
        Tried keys made
          (SSHConnectionManager.tryConnections connectTo manager (keys.map newConnection)).2 ∧
        Remembers
          (SSHConnectionManager.tryConnections connectTo manager (keys.map newConnection)).1 := by
  induction keys generalizing manager with
  | nil => exact ⟨[], (List.append_nil _).symm, .done, remembers⟩
  | cons key keys inductionHypothesis =>
      have new := fresh key List.mem_cons_self
      rw [List.map_cons, SSHConnectionManager.tryConnections]
      cases outcome : connectTo manager.attempts
          (newConnection key : SSHConnection Address Client Failure).key with
      | ok client => exact ⟨_, rfl, .succeeded key keys client, remembers.record new (.ok client)⟩
      | error failure =>
          obtain ⟨absent, distinctRest⟩ := List.nodup_cons.mp distinct
          have freshRest : ∀ other ∈ keys,
              outcomeOf (manager.record (newConnection key) (.error failure)).attempts other =
                none := by
            intro other member
            have different : key ≠ other := fun same => absent (same ▸ member)
            rw [SSHConnectionManager.record, outcomeOf_append_of_ne different]
            exact fresh other (List.mem_cons_of_mem _ member)
          obtain ⟨made, attempts, tried, after⟩ :=
            inductionHypothesis distinctRest (remembers.record new (.error failure)) freshRest
          refine ⟨⟨key, .error failure⟩ :: made, ?_, tried.failed key failure, after⟩
          rw [attempts, SSHConnectionManager.record, List.append_assoc]
          rfl

/-- The listed connections are what the attempts of the earlier calls have left. -/
theorem listConnections_eq {manager : SSHConnectionManager Address Client Failure}
    (remembers : Remembers manager) (call : ConnectCall Address Client) :
    (manager.listConnections call.addresses call.proxyClient).1.attempts = manager.attempts ∧
      (manager.listConnections call.addresses call.proxyClient).2 =
        (keysOnce call).map (fun key => connectionAfter key (outcomeOf manager.attempts key)) ∧
      Remembers (manager.listConnections call.addresses call.proxyClient).1 :=
  remembers.getConnections (keysOnce call)

end Memory

end Tobiko.Openstack.Topology
