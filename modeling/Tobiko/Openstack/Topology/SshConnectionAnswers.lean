import Tobiko.Openstack.Topology.SshConnectionMemory

/-!
Contract: what the SSH connection manager answers after any calls.

Owns: the client that a call returns, the attempts that it makes, and exactly when it cannot
reach any address.

Does not own: the invariant of the manager.
-/

namespace Tobiko.Openstack.Topology

open Tobiko.Foundation

section Answers

variable {Address Client Failure : Type}

/-- The client of the first address of the call with a successful attempt among these. -/
def FirstSuccess (attempts : List (Attempt Address Client Failure))
    (call : ConnectCall Address Client) (client : Client) : Prop :=
  ∃ before address after, call.addresses = before ++ address :: after ∧
    ⟨(address, call.proxyClient), .ok client⟩ ∈ attempts ∧
      ∀ earlier ∈ before, ∀ other, ⟨(earlier, call.proxyClient), .ok other⟩ ∉ attempts

/-- No address of the call has a successful attempt among these. -/
def NoSuccess (attempts : List (Attempt Address Client Failure))
    (call : ConnectCall Address Client) : Prop :=
  ∀ address ∈ call.addresses, ∀ client, ⟨(address, call.proxyClient), .ok client⟩ ∉ attempts

/-- The outcomes are remembered: what a call answers with the attempts that it makes after the
earlier ones. -/
structure Memoizes (earlier : List (Attempt Address Client Failure))
    (call : ConnectCall Address Client) (made : List (Attempt Address Client Failure))
    (answer : Except (ConnectError Address Failure) Client) : Prop where
  once : ((earlier ++ made).map Attempt.key).Nodup
  listed : (made.map Attempt.key).Sublist call.keys
  returned : ∀ client, answer = .ok client ↔
    FirstSuccess earlier call client ∨ NoSuccess earlier call ∧ FirstSuccess made call client
  raised : ∀ error, answer = .error error →
    ∃ failures, error = .unreachable call.addresses failures
  unreachable : (∃ failures, answer = .error (.unreachable call.addresses failures)) ↔
    ∀ address ∈ call.addresses, ∃ failure,
      ⟨(address, call.proxyClient), .error failure⟩ ∈ earlier ++ made

/-- The first address of the call with the only successful attempt. -/
theorem firstSuccess_of_only {made : List (Attempt Address Client Failure)}
    {call : ConnectCall Address Client} {address : Address} {client : Client}
    (inCall : address ∈ call.addresses)
    (member : ⟨(address, call.proxyClient), .ok client⟩ ∈ made)
    (only : ∀ key other, (⟨key, .ok other⟩ : Attempt Address Client Failure) ∈ made →
      key = (address, call.proxyClient)) : FirstSuccess made call client := by
  obtain ⟨before, after, split, absent⟩ := List.eq_append_cons_of_mem inCall
  refine ⟨before, address, after, split, member, fun earlier inBefore other again => ?_⟩
  have same : earlier = address := congrArg Prod.fst (only _ other again)
  exact absent (same ▸ inBefore)

theorem NoSuccess.not_first {attempts : List (Attempt Address Client Failure)}
    {call : ConnectCall Address Client} (nothing : NoSuccess attempts call) (client : Client) :
    ¬FirstSuccess attempts call client := by
  rintro ⟨before, address, after, split, member, -⟩
  refine nothing address ?_ client member
  rw [split]
  exact List.mem_append_right _ List.mem_cons_self

variable [DecidableEq Address] [DecidableEq Client]
variable {manager : SSHConnectionManager Address Client Failure}
variable {call : ConnectCall Address Client}

/-! ### The first connection that is valid -/

/-- The connection of an address after these attempts. -/
def connectionOf (attempts : List (Attempt Address Client Failure))
    (call : ConnectCall Address Client) (address : Address) :
    SSHConnection Address Client Failure :=
  connectionAfter (address, call.proxyClient) (outcomeOf attempts (address, call.proxyClient))

theorem head?_valid (attempts : List (Attempt Address Client Failure)) :
    (((keysOnce call).map fun key => connectionAfter key (outcomeOf attempts key)).filter
        SSHConnection.isValid).head? =
      (call.addresses.find? fun address => (connectionOf attempts call address).isValid).map
        (connectionOf attempts call) := by
  rw [List.head?_filter, keysOnce, List.map_map, List.find?_map]
  rw [@find?_firstOccurrences Address Address _ id _ _ fun one two same => congrArg _ same]
  rfl

theorem valid_iff (remembers : Remembers manager) (address : Address) :
    (connectionOf manager.attempts call address).isValid = true ↔
      ∃ client, ⟨(address, call.proxyClient), .ok client⟩ ∈ manager.attempts := by
  rw [connectionOf, isValid_connectionAfter]
  simp only [remembers.outcomeOf_eq]

/-- Only one client is the first one. -/
theorem FirstSuccess.unique (remembers : Remembers manager) {one two : Client}
    (oneFirst : FirstSuccess manager.attempts call one)
    (twoFirst : FirstSuccess manager.attempts call two) : one = two := by
  have found : ∀ {client}, FirstSuccess manager.attempts call client →
      ∃ address, call.addresses.find? (fun address =>
        (connectionOf manager.attempts call address).isValid) = some address ∧
          ⟨(address, call.proxyClient), .ok client⟩ ∈ manager.attempts := by
    intro client ⟨before, address, after, split, member, noneBefore⟩
    refine ⟨address, List.find?_eq_some_iff_append.mpr ⟨?_, before, after, split, ?_⟩, member⟩
    · exact (valid_iff remembers address).mpr ⟨client, member⟩
    · intro earlier inBefore
      rw [Bool.not_eq_true']
      rw [Bool.eq_false_iff, Ne, valid_iff remembers]
      exact fun ⟨other, made⟩ => noneBefore earlier inBefore other made
  obtain ⟨address, oneFound, oneMade⟩ := found oneFirst
  obtain ⟨other, twoFound, twoMade⟩ := found twoFirst
  rw [oneFound] at twoFound
  cases twoFound
  have same := remembers.eq_of_key oneMade twoMade rfl
  exact Except.ok.inj (Attempt.mk.inj same).2

/-! ### The connections that are tried -/

theorem filter_untried (attempts : List (Attempt Address Client Failure))
    (noneValid : ∀ key ∈ keysOnce call,
      (connectionAfter key (outcomeOf attempts key)).isValid = false) :
    (((keysOnce call).map fun key => connectionAfter key (outcomeOf attempts key)).filter
        fun connection => connection.failure.isNone) =
      ((keysOnce call).filter fun key => (outcomeOf attempts key).isNone).map newConnection := by
  have untried : ∀ key ∈ keysOnce call,
      (connectionAfter key (outcomeOf attempts key)).failure.isNone =
        (outcomeOf attempts key).isNone := by
    intro key member
    have notValid := noneValid key member
    cases outcome : outcomeOf attempts key with
    | none => rfl
    | some result =>
        cases result with
        | ok client =>
            rw [outcome] at notValid
            cases notValid
        | error failure => rfl
  rw [List.filter_map]
  have same : (keysOnce call).filter ((fun connection : SSHConnection Address Client Failure =>
      connection.failure.isNone) ∘ fun key => connectionAfter key (outcomeOf attempts key)) =
        (keysOnce call).filter fun key => (outcomeOf attempts key).isNone :=
    List.filter_congr untried
  rw [same]
  refine List.map_congr_left fun key member => ?_
  rw [Option.isNone_iff_eq_none.mp (List.mem_filter.mp member).2]
  rfl

/-! ### The answer of a call -/

theorem Memoizes.of_valid (remembers : Remembers manager) {client : Client}
    (first : FirstSuccess manager.attempts call client) :
    Memoizes manager.attempts call [] (.ok client) := by
  refine ⟨?_, List.nil_sublist _, fun other => ⟨?_, ?_⟩, fun _ absent => (nomatch absent), ?_⟩
  · rw [List.append_nil]
    exact remembers.once
  · intro same
    exact .inl (Except.ok.inj same ▸ first)
  · rintro (otherFirst | ⟨nothing, -⟩)
    · rw [first.unique remembers otherFirst]
    · exact absurd first (nothing.not_first client)
  · refine iff_of_false (fun ⟨_, absent⟩ => nomatch absent) fun allFailed => ?_
    obtain ⟨before, address, after, split, member, -⟩ := first
    have inCall : address ∈ call.addresses := by
      rw [split]
      exact List.mem_append_right _ List.mem_cons_self
    obtain ⟨failure, failed⟩ := allFailed address inCall
    rw [List.append_nil] at failed
    have same := remembers.eq_of_key member failed rfl
    cases (Attempt.mk.inj same).2

section New

variable {made : List (Attempt Address Client Failure)}

omit [DecidableEq Address] [DecidableEq Client] in
/-- An attempt of the call has succeeded. -/
theorem Memoizes.of_success
    (once : ((manager.attempts ++ made).map Attempt.key).Nodup)
    (listed : (made.map Attempt.key).Sublist call.keys)
    (nothing : NoSuccess manager.attempts call) {key : Address × Option Client} {client : Client}
    (member : ⟨key, .ok client⟩ ∈ made)
    (only : ∀ two other, (⟨two, .ok other⟩ : Attempt Address Client Failure) ∈ made →
      two = key ∧ other = client) :
    Memoizes manager.attempts call made (.ok client) := by
  have inKeys : key ∈ call.keys := listed.subset (List.mem_map_of_mem member)
  obtain ⟨address, inCall, rfl⟩ := List.mem_map.mp inKeys
  refine ⟨once, listed, fun other => ⟨?_, ?_⟩, fun _ absent => (nomatch absent), ?_⟩
  · intro same
    rw [← Except.ok.inj same]
    exact .inr ⟨nothing, firstSuccess_of_only inCall member fun two other again =>
      (only two other again).1⟩
  · rintro (earlier | ⟨-, before, first, after, -, otherMember, -⟩)
    · exact absurd earlier (nothing.not_first other)
    · rw [(only _ other otherMember).2]
  · refine iff_of_false (fun ⟨_, absent⟩ => nomatch absent) fun allFailed => ?_
    obtain ⟨failure, failed⟩ := allFailed address inCall
    have same := List.inj_on_of_nodup_map once (List.mem_append_right _ member) failed rfl
    cases (Attempt.mk.inj same).2

/-- All attempts of the call have failed, and so have those of the addresses tried earlier. -/
theorem Memoizes.of_failures {failures : List (Option Failure)}
    (once : ((manager.attempts ++ made).map Attempt.key).Nodup)
    (listed : (made.map Attempt.key).Sublist call.keys)
    (nothing : NoSuccess manager.attempts call)
    (noneMade : ∀ key client, (⟨key, .ok client⟩ : Attempt Address Client Failure) ∉ made)
    (failed : ∀ key ∈ (keysOnce call).filter fun key => (outcomeOf manager.attempts key).isNone,
      ∃ failure, ⟨key, .error failure⟩ ∈ made) :
    Memoizes manager.attempts call made (.error (.unreachable call.addresses failures)) := by
  refine ⟨once, listed, fun other => ⟨fun absent => (nomatch absent), ?_⟩, ?_, ?_⟩
  · rintro (earlier | ⟨-, before, first, after, -, otherMember, -⟩)
    · exact absurd earlier (nothing.not_first other)
    · exact absurd otherMember (noneMade _ other)
  · intro error same
    exact ⟨failures, (Except.error.inj same).symm⟩
  · refine iff_of_true ⟨failures, rfl⟩ fun address inCall => ?_
    -- The address has been tried by an earlier call, or is tried by this one.
    cases outcome : outcomeOf manager.attempts (address, call.proxyClient) with
    | none =>
        have inKeys : (address, call.proxyClient) ∈
            (keysOnce call).filter fun key => (outcomeOf manager.attempts key).isNone := by
          rw [List.mem_filter, outcome]
          exact ⟨(mem_keysOnce call).mpr ⟨address, inCall, rfl⟩, rfl⟩
        obtain ⟨failure, member⟩ := failed _ inKeys
        exact ⟨failure, List.mem_append_right _ member⟩
    | some result =>
        have member := mem_of_outcomeOf outcome
        cases result with
        | ok client => exact absurd member (nothing address inCall client)
        | error failure => exact ⟨failure, List.mem_append_left _ member⟩

theorem Memoizes.of_tried {next : SSHConnectionManager Address Client Failure}
    {answer : Option Client} {failures : List (Option Failure)}
    (nextRemembers : Remembers next) (attempts : next.attempts = manager.attempts ++ made)
    (nothing : NoSuccess manager.attempts call)
    (tried : Tried ((keysOnce call).filter fun key => (outcomeOf manager.attempts key).isNone) made
      answer) :
    Memoizes manager.attempts call made
      (match answer with
      | some client => .ok client
      | none => .error (.unreachable call.addresses failures)) := by
  obtain ⟨answered, unique⟩ := tried.mem_ok_iff
  have keysListed : (keysOnce call).Sublist call.keys := unseen_sublist.map _
  have once : ((manager.attempts ++ made).map Attempt.key).Nodup := attempts ▸ nextRemembers.once
  have listed := (tried.sublist.trans List.filter_sublist).trans keysListed
  cases answer with
  | some client =>
      obtain ⟨key, member⟩ := answered client rfl
      refine Memoizes.of_success once listed nothing member fun two other again => ?_
      have same := (unique two other again).1
      exact ⟨(unique key client member).2 two other again, (Option.some.inj same).symm⟩
  | none =>
      refine Memoizes.of_failures once listed nothing (fun key client member => ?_) tried.of_none
      cases (unique key client member).1

end New

/-- **A call remembers its attempts, and answers from these and those of the earlier calls.** -/
theorem Remembers.connect (remembers : Remembers manager)
    (connectTo : List (Attempt Address Client Failure) → Address × Option Client →
      Except Failure Client) (nonempty : call.addresses ≠ []) :
    ∃ made, (manager.connect connectTo call).1.attempts = manager.attempts ++ made ∧
      Remembers (manager.connect connectTo call).1 ∧
        Memoizes manager.attempts call made (manager.connect connectTo call).2 := by
  obtain ⟨attempts, connections, listedRemembers⟩ := listConnections_eq remembers call
  rw [SSHConnectionManager.connect, if_neg nonempty]
  simp only [connections, head?_valid]
  cases first : call.addresses.find? fun address =>
      (connectionOf manager.attempts call address).isValid with
  | some address =>
      obtain ⟨valid, before, after, split, noneBefore⟩ := List.find?_eq_some_iff_append.mp first
      obtain ⟨client, member⟩ := (valid_iff remembers address).mp valid
      have isFirst : FirstSuccess manager.attempts call client := by
        refine ⟨before, address, after, split, member, fun earlier inBefore other made => ?_⟩
        have notValid := noneBefore earlier inBefore
        rw [(valid_iff remembers earlier).mpr ⟨other, made⟩] at notValid
        cases notValid
      have connected : (connectionOf manager.attempts call address).sshClient = some client := by
        rw [connectionOf, remembers.outcomeOf_eq.mpr member]
        rfl
      simp only [Option.map_some, connected]
      exact ⟨[], by rw [attempts, List.append_nil], listedRemembers,
        Memoizes.of_valid remembers isFirst⟩
  | none =>
      have noneValid : ∀ key ∈ keysOnce call,
          (connectionAfter key (outcomeOf manager.attempts key)).isValid = false := by
        intro key member
        obtain ⟨address, inCall, rfl⟩ := (mem_keysOnce call).mp member
        exact Bool.eq_false_iff.mpr (List.find?_eq_none.mp first address inCall)
      have nothing : NoSuccess manager.attempts call := by
        intro address inCall client member
        have notValid := List.find?_eq_none.mp first address inCall
        exact notValid ((valid_iff remembers address).mpr ⟨client, member⟩)
      have fresh : ∀ key ∈ (keysOnce call).filter fun key =>
          (outcomeOf manager.attempts key).isNone,
            outcomeOf (manager.listConnections call.addresses call.proxyClient).1.attempts key =
              none := by
        intro key member
        rw [attempts]
        exact Option.isNone_iff_eq_none.mp (List.mem_filter.mp member).2
      obtain ⟨made, triedAttempts, tried, triedRemembers⟩ :=
        tryConnections_tried connectTo ((nodup_keysOnce call).filter _) listedRemembers fresh
      rw [attempts] at triedAttempts
      simp only [Option.map_none, filter_untried manager.attempts noneValid]
      generalize SSHConnectionManager.tryConnections connectTo _ _ = result at *
      obtain ⟨next, answer⟩ := result
      have memoizes := fun failures =>
        @Memoizes.of_tried _ _ _ _ _ manager call made next answer failures triedRemembers
          triedAttempts nothing tried
      cases answer with
      | some client => exact ⟨made, triedAttempts, triedRemembers, memoizes []⟩
      | none => exact ⟨made, triedAttempts, triedRemembers, memoizes _⟩

theorem Remembers.foldl_connect (remembers : Remembers manager)
    (connectTo : List (Attempt Address Client Failure) → Address × Option Client →
      Except Failure Client) (calls : List (ConnectCall Address Client)) :
    Remembers (calls.foldl (fun manager call => (manager.connect connectTo call).1) manager) := by
  induction calls generalizing manager with
  | nil => exact remembers
  | cons call calls inductionHypothesis =>
      apply inductionHypothesis
      show Remembers (manager.connect connectTo call).1
      by_cases empty : call.addresses = []
      · rw [SSHConnectionManager.connect, if_pos empty]
        exact remembers
      · obtain ⟨made, -, nextRemembers, -⟩ := remembers.connect connectTo empty
        exact nextRemembers

/-- **After any calls, a call makes no attempt again, returns the first client that is connected or
else the first one that it connects, and fails exactly where all its addresses have.** -/
theorem connect_memoizes
    (connectTo : List (Attempt Address Client Failure) → Address × Option Client →
      Except Failure Client)
    (calls : List (ConnectCall Address Client)) (call : ConnectCall Address Client)
    (nonempty : call.addresses ≠ []) :
    ∃ made,
      ((SSHConnectionManager.connectAll connectTo calls).connect connectTo call).1.attempts =
          (SSHConnectionManager.connectAll connectTo calls).attempts ++ made ∧
        Memoizes (SSHConnectionManager.connectAll connectTo calls).attempts call made
          ((SSHConnectionManager.connectAll connectTo calls).connect connectTo call).2 := by
  obtain ⟨made, attempts, -, memoizes⟩ :=
    (Remembers.initial.foldl_connect connectTo calls).connect connectTo nonempty
  exact ⟨made, attempts, memoizes⟩

/-- Only the address 2 can be connected. -/
def secondAnswers (_ : List (Attempt Nat Nat Nat)) (key : Nat × Option Nat) : Except Nat Nat :=
  if key.1 = 2 then .ok 20 else .error key.1

theorem connect_memoizes_second :
    ∃ made,
      ((SSHConnectionManager.connectAll (secondAnswers) [⟨[1], none⟩]).connect secondAnswers
          ⟨[1, 2], none⟩).1.attempts =
        (SSHConnectionManager.connectAll secondAnswers [⟨[1], none⟩]).attempts ++ made ∧
      Memoizes (SSHConnectionManager.connectAll secondAnswers [⟨[1], none⟩]).attempts
        ⟨[1, 2], none⟩ made
        ((SSHConnectionManager.connectAll secondAnswers [⟨[1], none⟩]).connect secondAnswers
          ⟨[1, 2], none⟩).2 :=
  connect_memoizes secondAnswers [⟨[1], none⟩] ⟨[1, 2], none⟩ (List.cons_ne_nil _ _)

end Answers

end Tobiko.Openstack.Topology
