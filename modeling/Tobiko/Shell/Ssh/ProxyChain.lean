import Mathlib.Data.Finset.Card
import Tobiko.Shell.Ssh.ProxyClient

/-!
Contract: the end of `get_client` and the chains of `proxy_client` links.

Owns: the bound on the proxy jumps that a call follows when the jumps of the
configuration come from a finite set of names, the sessions in which a caller makes
clients of its own between successful calls, and the chains of the clients there.

Does not own: what is left in the registry by a call that raises.
-/

namespace Tobiko.Shell.Ssh

/-- A configuration that can be looked up for every host, with the names of its jumps. -/
structure World.Configured (world : World) (names : Finset String) : Prop where
  config : ∀ host files, ∃ config, world.hostConfig host files = .ok config
  jump : ∀ host files, ∃ jump, world.proxyJump host files = .ok jump ∧ ∀ name ∈ jump, name ∈ names

section Termination

variable {world : World} {arguments : Arguments} {manager after : Manager}
  {result : Except Error Client} {names : Finset String}

/-! ### Fuel -/

/-- A result that one step gives is the result with any fuel. -/
theorem getClient_eq_of_succ
    (gives : ∀ fuel, getClient world (fuel + 1) arguments manager = some (result, after)) :
    ∃ bound, ∀ fuel, bound ≤ fuel →
      getClient world fuel arguments manager = some (result, after) := by
  refine ⟨1, fun fuel enough => ?_⟩
  obtain ⟨more, rfl⟩ := Nat.exists_eq_add_of_le' enough
  exact gives more

/-- A call with such a course has this result with all the fuel that suffices. -/
theorem Evaluates.getClient_eq (evaluates : Evaluates world arguments manager result after) :
    ∃ bound, ∀ fuel, bound ≤ fuel →
      getClient world fuel arguments manager = some (result, after) := by
  induction evaluates with
  | noKey arguments manager text noKey =>
      refine getClient_eq_of_succ fun fuel => ?_
      simp only [getClient, noKey]
  | existing arguments manager key client resolved present =>
      refine getClient_eq_of_succ fun fuel => ?_
      simp only [getClient, resolved, present]
  | recursive arguments manager key resolved present =>
      refine getClient_eq_of_succ fun fuel => ?_
      simp only [getClient, resolved, present]
  | noJump arguments manager key text resolved absent noJump =>
      refine getClient_eq_of_succ fun fuel => ?_
      simp only [getClient, resolved, absent, findProxy_eq, noJump, Option.map_some, makeClient]
  | direct arguments manager key proxyClient result after resolved absent jump makes =>
      refine getClient_eq_of_succ fun fuel => ?_
      simp only [getClient, resolved, absent, findProxy_eq, jump]
      cases proxyClient with
      | none => exact congrArg some makes
      | some client => exact congrArg some makes
  | through arguments manager key name proxy middle result after resolved absent jump inner makes
      inductionHypothesis =>
      obtain ⟨bound, innerEq⟩ := inductionHypothesis
      refine ⟨bound + 1, fun fuel enough => ?_⟩
      obtain ⟨more, rfl⟩ := Nat.exists_eq_succ_of_ne_zero (Nat.ne_zero_of_lt enough)
      have innerEnds := innerEq more (Nat.le_of_succ_le_succ enough)
      simp only [getClient, resolved, absent, findProxy_eq, jump, innerEnds,
        Option.map_some, makes]

/-! ### Termination -/

theorem World.Configured.hostKey (configured : world.Configured names)
    (arguments : Arguments) : ∃ key, world.hostKey arguments = .ok key := by
  obtain ⟨config, found⟩ := configured.config arguments.host.name arguments.configFiles
  exact ⟨arguments.hostKey config, by simp [World.hostKey, found, Except.map]⟩

theorem World.Configured.nextJump (configured : world.Configured names)
    (arguments : Arguments) :
    (∃ proxyClient : Option Client,
        arguments.nextJump world = .ok (proxyClient.elim .none .client)) ∨
      ∃ name ∈ names, arguments.nextJump world = .ok (.host name) := by
  obtain ⟨jump, found, known⟩ := configured.jump arguments.host.name arguments.configFiles
  unfold Arguments.nextJump
  cases arguments.proxyClient with
  | some client => exact .inl ⟨some client, rfl⟩
  | none =>
      cases arguments.proxyJump with
      | client client => exact .inl ⟨some client, rfl⟩
      | none | host =>
          cases jump with
          | none => exact .inl ⟨none, by simp [found, Except.map]⟩
          | some name =>
              by_cases named : truthy name = true
              · exact .inr ⟨name, known name rfl, by simp [found, Except.map, named]⟩
              · exact .inl ⟨none, by simp [found, Except.map, named]⟩

/-- A call ends when the call for the next host does. -/
theorem World.Configured.evaluates_of_next (configured : world.Configured names)
    (next : ∀ key name, world.hostKey arguments = .ok key → manager.clients key = none →
      name ∈ names →
      ∃ proxy middle, Evaluates world (.ofHost name) (manager.store key .undefined) proxy middle) :
    ∃ result after, Evaluates world arguments manager result after := by
  obtain ⟨key, resolved⟩ := configured.hostKey arguments
  cases present : manager.clients key with
  | some entry =>
      cases entry with
      | undefined => exact ⟨_, _, .recursive _ _ key resolved present⟩
      | client client => exact ⟨_, _, .existing _ _ key client resolved present⟩
  | none =>
      rcases configured.nextJump arguments with ⟨proxyClient, jump⟩ |
        ⟨name, known, jump⟩
      · exact ⟨_, _, .direct _ _ key proxyClient _ _ resolved present jump rfl⟩
      · obtain ⟨proxy, middle, inner⟩ := next key name resolved present known
        exact ⟨_, _, .through _ _ key name proxy middle _ _ resolved present jump inner rfl⟩

open Classical in
/-- The names of jumps whose key has neither a client nor a placeholder yet. -/
noncomputable def openNames (world : World) (names : Finset String) (manager : Manager) :
    Finset String :=
  names.filter fun name => ∃ key, world.hostKey (.ofHost name) = .ok key ∧
    manager.clients key = none

theorem mem_openNames {name : String} :
    name ∈ openNames world names manager ↔
      name ∈ names ∧ ∃ key, world.hostKey (.ofHost name) = .ok key ∧
        manager.clients key = none := by
  simp [openNames]

theorem openNames_store {name : String} {key : HostKey} (known : name ∈ names)
    (resolved : world.hostKey (.ofHost name) = .ok key) (absent : manager.clients key = none) :
    openNames world names (manager.store key .undefined) ⊂ openNames world names manager := by
  refine Finset.ssubset_iff_subset_ne.mpr ⟨?_, ?_⟩
  · intro other openAfter
    obtain ⟨member, otherKey, otherResolved, stillAbsent⟩ := mem_openNames.mp openAfter
    rw [store_clients] at stillAbsent
    split at stillAbsent
    · cases stillAbsent
    · exact mem_openNames.mpr ⟨member, otherKey, otherResolved, stillAbsent⟩
  · intro same
    have openBefore : name ∈ openNames world names manager :=
      mem_openNames.mpr ⟨known, key, resolved, absent⟩
    rw [← same] at openBefore
    obtain ⟨-, sameKey, sameResolved, stillAbsent⟩ := mem_openNames.mp openBefore
    rw [resolved] at sameResolved
    cases sameResolved
    simp at stillAbsent

/-- The induction is on the names that are still open: the placeholder of a call closes
the name of its own host before the next jump is followed. -/
theorem World.Configured.evaluates_jump (configured : world.Configured names) {name : String}
    (known : name ∈ names) (manager : Manager) :
    ∃ result after, Evaluates world (.ofHost name) manager result after := by
  generalize measure : (openNames world names manager).card = count
  induction count using Nat.strong_induction_on generalizing name manager with
  | _ count inductionHypothesis =>
      refine configured.evaluates_of_next fun key next resolved absent nextKnown => ?_
      have fewer := Finset.card_lt_card (openNames_store known resolved absent)
      rw [measure] at fewer
      exact inductionHypothesis _ fewer nextKnown _ rfl

theorem World.Configured.evaluates (configured : world.Configured names) (arguments : Arguments)
    (manager : Manager) : ∃ result after, Evaluates world arguments manager result after :=
  configured.evaluates_of_next fun _ _ _ _ known => configured.evaluates_jump known _

/-- What the constructor gets as the proxy of the client that a call makes: with a proxy jump the
client that the call for its host returns. -/
inductive Arguments.ProxyGiven (arguments : Arguments) (world : World) (manager : Manager) :
    Option Client → Prop
  | direct (proxyClient : Option Client)
      (jump : arguments.nextJump world = .ok (proxyClient.elim .none .client)) :
      ProxyGiven arguments world manager proxyClient
  | through (name : String) (client : Client) (fuel : Nat) (middle : Manager)
      (jump : arguments.nextJump world = .ok (.host name))
      (returns : getClient world fuel (.ofHost name) manager = some (.ok client, middle)) :
      ProxyGiven arguments world manager (some client)

/-- The constructor refuses the parameters of the client of a call that has no client in the
registry yet: the call itself, or one that it makes for the host of a proxy jump. -/
inductive Refuses (world : World) : Manager → Arguments → String → Prop
  | here (manager arguments key proxyClient text) (resolved : world.hostKey arguments = .ok key)
      (absent : manager.clients key = none)
      (proxy : arguments.ProxyGiven world (manager.store key .undefined) proxyClient)
      (refused : world.construct (arguments.record key proxyClient) = .error text) :
      Refuses world manager arguments text
  | jump (manager arguments key name text) (resolved : world.hostKey arguments = .ok key)
      (absent : manager.clients key = none) (jump : arguments.nextJump world = .ok (.host name))
      (next : Refuses world (manager.store key .undefined) (.ofHost name) text) :
      Refuses world manager arguments text

theorem makeClient_external {found : Except Error (Option Client)} {middle : Manager}
    {key : HostKey} {text : String}
    (makes : makeClient world arguments key (found, middle) = (.error (.external text), after)) :
    found = .error (.external text) ∨ ∃ proxyClient, found = .ok proxyClient ∧
      world.construct (arguments.record key proxyClient) = .error text := by
  cases found with
  | error error =>
      cases makes
      exact .inl rfl
  | ok proxyClient =>
      simp only [makeClient] at makes
      split at makes
      · rename_i other constructed
        cases makes
        exact .inr ⟨proxyClient, rfl, constructed⟩
      · cases makes

/-- With a configuration only the constructor of a client on the way raises another error. -/
theorem Evaluates.external {text : String} (configured : world.Configured names)
    (evaluates : Evaluates world arguments manager (.error (.external text)) after) :
    Refuses world manager arguments text := by
  generalize raised : Except.error (Error.external text) = result at evaluates
  induction evaluates with
  | noKey arguments manager other noKey =>
      obtain ⟨key, resolved⟩ := configured.hostKey arguments
      rw [resolved] at noKey
      cases noKey
  | existing | recursive => cases raised
  | noJump arguments manager key other _ _ noJump =>
      rcases configured.nextJump arguments with ⟨_, jump⟩ | ⟨_, _, jump⟩
      · rw [jump] at noJump
        cases noJump
      · rw [jump] at noJump
        cases noJump
  | direct arguments manager key proxyClient result after resolved absent jump makes =>
      subst raised
      rcases makeClient_external makes with impossible | ⟨_, same, refused⟩
      · cases impossible
      · cases same
        exact .here _ _ key proxyClient text resolved absent (.direct proxyClient jump) refused
  | through arguments manager key name proxy middle result after resolved absent jump inner makes
      inductionHypothesis =>
      subst raised
      rcases makeClient_external makes with found | ⟨proxyClient, same, refused⟩
      · cases proxy with
        | ok client => cases found
        | error error =>
            cases found
            exact .jump _ _ key name text resolved absent jump (inductionHypothesis rfl)
      · cases proxy with
        | error error => cases same
        | ok client =>
            cases same
            obtain ⟨bound, returns⟩ := inner.getClient_eq
            exact .here _ _ key (some client) text resolved absent
              (.through name client bound middle jump (returns bound le_rfl)) refused

end Termination

/-! ### Sessions -/

/-- A manager with the clients that its caller has made: the `proxy_client` of each. -/
structure Session where
  manager : Manager
  given : String → Option (Option Client)

def Session.init : Session := ⟨Manager.init, fun _ => none⟩

/-- `client.proxy_client`, for a client that exists. -/
def Session.proxyOf (session : Session) : Client → Option (Option Client)
  | .made index => session.manager.proxyOf (.made index)
  | .given name => session.given name

def Session.Has (session : Session) (client : Client) : Prop :=
  ∃ proxy, session.proxyOf client = some proxy

/-- The clients from a client on, along the `proxy_client` links. -/
inductive Session.Chain (session : Session) : Client → List Client → Prop
  | last (client) (direct : session.proxyOf client = some none) : Chain session client [client]
  | link (client proxy chain) (linked : session.proxyOf client = some (some proxy))
      (rest : Chain session proxy chain) : Chain session client (client :: chain)

/-- The clients among the arguments of a call. -/
def Arguments.Passes (arguments : Arguments) (client : Client) : Prop :=
  arguments.proxyClient = some client ∨ arguments.proxyJump = .client client

/-- The sessions after any successful calls, each in its own world, between which the
caller makes clients of its own from clients that exist. -/
inductive Session.Successful : Session → Prop
  | init : Successful Session.init
  | make (session name proxy) (successful : Successful session)
      (fresh : session.given name = none) (known : ∀ client ∈ proxy, session.Has client) :
      Successful { session with given := Function.update session.given name (some proxy) }
  | call (session world fuel arguments client after) (successful : Successful session)
      (known : ∀ client, arguments.Passes client → session.Has client)
      (returns : getClient world fuel arguments session.manager = some (.ok client, after)) :
      Successful { session with manager := after }

/-! ### Chains -/

section Chains

variable {session later : Session} {client : Client} {chain : List Client}

theorem Session.Chain.unique (first : session.Chain client chain) {other : List Client}
    (second : session.Chain client other) : chain = other := by
  induction first generalizing other with
  | last client direct =>
      cases second with
      | last => rfl
      | link _ proxy _ linked =>
          rw [direct] at linked
          cases linked
  | link client proxy chain linked rest inductionHypothesis =>
      cases second with
      | last _ direct =>
          rw [linked] at direct
          cases direct
      | link _ otherProxy otherChain otherLinked otherRest =>
          rw [linked] at otherLinked
          cases otherLinked
          rw [inductionHypothesis otherRest]

/-- Every client of a chain has a chain that is not longer. -/
theorem Session.Chain.of_mem (first : session.Chain client chain) {member : Client}
    (visited : member ∈ chain) :
    ∃ rest, session.Chain member rest ∧ rest.length ≤ chain.length := by
  induction first with
  | last client direct =>
      rw [List.mem_singleton] at visited
      subst visited
      exact ⟨_, .last _ direct, le_rfl⟩
  | link client proxy chain linked rest inductionHypothesis =>
      rcases List.mem_cons.mp visited with rfl | later
      · exact ⟨_, .link _ _ _ linked rest, le_rfl⟩
      · obtain ⟨shorter, ofMember, bound⟩ := inductionHypothesis later
        exact ⟨shorter, ofMember, Nat.le_succ_of_le bound⟩

/-- A finite chain never visits the same client twice. -/
theorem Session.Chain.nodup (first : session.Chain client chain) : chain.Nodup := by
  induction first with
  | last client direct => exact List.nodup_singleton client
  | link client proxy chain linked rest inductionHypothesis =>
      refine List.nodup_cons.mpr ⟨fun again => ?_, inductionHypothesis⟩
      obtain ⟨shorter, ofClient, bound⟩ := rest.of_mem again
      have same := ofClient.unique (.link _ _ _ linked rest)
      rw [same] at bound
      exact absurd bound (Nat.not_succ_le_self _)

/-- All the clients stay, with their proxies. -/
def Session.Extends (session later : Session) : Prop :=
  ∀ client proxy, session.proxyOf client = some proxy → later.proxyOf client = some proxy

theorem Session.Extends.keepsChain (extended : session.Extends later)
    (first : session.Chain client chain) : later.Chain client chain := by
  induction first with
  | last client direct => exact .last _ (extended client none direct)
  | link client proxy chain linked rest inductionHypothesis =>
      exact .link _ _ _ (extended client _ linked) inductionHypothesis

theorem Session.Extends.has (extended : session.Extends later) (known : session.Has client) :
    later.Has client := by
  obtain ⟨proxy, hasProxy⟩ := known
  exact ⟨proxy, extended client proxy hasProxy⟩

/-- Every client that exists has a chain. -/
def Session.Linked (session : Session) : Prop :=
  ∀ client, session.Has client → ∃ chain, session.Chain client chain

/-- A new client whose proxy exists leaves all the clients with chains. -/
theorem Session.Linked.extend (linked : session.Linked) (extended : session.Extends later)
    {new : Client} {proxy : Option Client} (hasProxy : later.proxyOf new = some proxy)
    (known : ∀ client ∈ proxy, session.Has client)
    (others : ∀ client, later.Has client → client = new ∨ session.Has client) :
    later.Linked := by
  have ofOld : ∀ client, session.Has client → ∃ chain, later.Chain client chain := by
    intro client old
    obtain ⟨chain, first⟩ := linked client old
    exact ⟨chain, extended.keepsChain first⟩
  intro client isThere
  rcases others client isThere with rfl | old
  · cases proxy with
    | none => exact ⟨_, .last _ hasProxy⟩
    | some next =>
        obtain ⟨chain, rest⟩ := ofOld next (known next rfl)
        exact ⟨_, .link _ _ _ hasProxy rest⟩
  · exact ofOld client old

end Chains

/-! ### What a call does to the chains -/

section Calls

variable {world : World} {arguments : Arguments} {manager after middle : Manager}
  {result : Except Error Client} {key : HostKey} {given : String → Option (Option Client)}

theorem extends_of_grows (grown : manager.made <+: after.made) :
    Session.Extends ⟨manager, given⟩ ⟨after, given⟩ := by
  intro client proxy hasProxy
  cases client with
  | made index =>
      have recorded : manager.proxyOf (.made index) = some proxy := hasProxy
      exact proxyOf_of_prefix grown recorded
  | given name => exact hasProxy

theorem has_of_made (middle : Manager) {client : Client} (same : after.made = middle.made)
    (known : Session.Has ⟨middle, given⟩ client) : Session.Has ⟨after, given⟩ client :=
  (extends_of_grows ⟨[], by rw [List.append_nil, same]⟩).has known

theorem linked_of_made (middle : Manager) (same : after.made = middle.made)
    (linked : Session.Linked ⟨middle, given⟩) : Session.Linked ⟨after, given⟩ := by
  intro client known
  obtain ⟨chain, first⟩ := linked client (has_of_made after same.symm known)
  exact ⟨chain, (extends_of_grows ⟨[], by rw [List.append_nil, same]⟩).keepsChain first⟩

theorem linked_of_makeClient {found : Except Error (Option Client)}
    (linked : Session.Linked ⟨middle, given⟩)
    (known : ∀ proxyClient, found = .ok proxyClient →
      ∀ client ∈ proxyClient, Session.Has ⟨middle, given⟩ client)
    (makes : makeClient world arguments key (found, middle) = (result, after)) :
    Session.Linked ⟨after, given⟩ := by
  rcases makeClient_made makes with same | ⟨proxyClient, rfl, rfl, appended⟩
  · exact linked_of_made middle same linked
  · obtain ⟨found, same, hasProxy⟩ := proxyOf_made makes
    cases same
    have madeHasProxy : Session.proxyOf ⟨after, given⟩ (.made middle.made.length) =
        some proxyClient := hasProxy
    refine linked.extend (extends_of_grows (makeClient_grows makes)) madeHasProxy
      (known proxyClient rfl) fun client isThere => ?_
    obtain ⟨proxy, hasOne⟩ := isThere
    cases client with
    | given name => exact .inr ⟨proxy, hasOne⟩
    | made index =>
        by_cases older : index < middle.made.length
        · have hasOld : Session.proxyOf ⟨middle, given⟩ (.made index) =
              some middle.made[index].proxyClient := by
            simp only [Session.proxyOf, Manager.proxyOf, List.getElem?_eq_getElem older,
              Option.map_some]
          exact .inr ⟨_, hasOld⟩
        · left
          have below : index < after.made.length := by
            obtain ⟨record, present, -⟩ := Option.map_eq_some_iff.mp hasOne
            exact (List.getElem?_eq_some_iff.mp present).1
          rw [appended, List.length_append, List.length_singleton] at below
          rw [show index = middle.made.length by omega]

theorem passes_of_nextJump {client : Client}
    (jump : arguments.nextJump world = .ok (.client client)) : arguments.Passes client := by
  unfold Arguments.nextJump at jump
  cases explicit : arguments.proxyClient with
  | some other =>
      simp only [explicit] at jump
      cases jump
      exact .inl explicit
  | none =>
      cases hop : arguments.proxyJump with
      | client other =>
          simp only [explicit, hop] at jump
          cases jump
          exact .inr hop
      | none | host =>
          simp only [explicit, hop] at jump
          cases configured : world.proxyJump arguments.host.name arguments.configFiles with
          | error text =>
              rw [configured] at jump
              cases jump
          | ok found =>
              rw [configured] at jump
              cases found with
              | none => cases jump
              | some name =>
                  simp only [Except.map] at jump
                  split at jump
                  · cases jump
                  · cases jump

/-- A call in a session with chains returns a client of the session and leaves chains. -/
theorem Evaluates.linked (evaluates : Evaluates world arguments manager result after)
    (recorded : Recorded manager) (linked : Session.Linked ⟨manager, given⟩)
    (known : ∀ client, arguments.Passes client → Session.Has ⟨manager, given⟩ client) :
    Session.Linked ⟨after, given⟩ ∧
      ∀ client, result = .ok client → Session.Has ⟨after, given⟩ client := by
  have ofMake : ∀ {arguments key found middle result after},
      makeClient world arguments key (found, middle) = (result, after) →
        ∀ client, result = .ok client → Session.Has ⟨after, given⟩ client := by
    rintro arguments key found middle result after makes client rfl
    obtain ⟨proxyClient, -, hasProxy⟩ := proxyOf_made makes
    cases client with
    | given name => cases hasProxy
    | made index => exact ⟨proxyClient, hasProxy⟩
  induction evaluates with
  | noKey | recursive => exact ⟨linked, fun _ impossible => by cases impossible⟩
  | existing arguments manager key client resolved present =>
      refine ⟨linked, ?_⟩
      rintro _ ⟨⟩
      obtain ⟨proxy, hasProxy⟩ := recorded key client present
      cases client with
      | given name => cases hasProxy
      | made index => exact ⟨proxy, hasProxy⟩
  | noJump arguments manager key text resolved absent noJump =>
      have storeLinked : Session.Linked ⟨manager.store key .undefined, given⟩ :=
        linked_of_made manager rfl linked
      exact ⟨storeLinked, fun _ impossible => by cases impossible⟩
  | direct arguments manager key proxyClient result after resolved absent jump makes =>
      have storeLinked : Session.Linked ⟨manager.store key .undefined, given⟩ :=
        linked_of_made manager rfl linked
      refine ⟨linked_of_makeClient storeLinked ?_ makes, ofMake makes⟩
      rintro _ ⟨⟩ client rfl
      have before := known client (passes_of_nextJump jump)
      exact has_of_made manager rfl before
  | through arguments manager key name proxy middle result after resolved absent jump inner makes
      inductionHypothesis =>
      have ofHost : ∀ client, (Arguments.ofHost name).Passes client →
          Session.Has ⟨manager.store key .undefined, given⟩ client := by
        intro client passes
        rcases passes with impossible | impossible
        · cases impossible
        · cases impossible
      have storeLinked : Session.Linked ⟨manager.store key .undefined, given⟩ :=
        linked_of_made manager rfl linked
      obtain ⟨innerLinked, innerHas⟩ := inductionHypothesis recorded.store storeLinked ofHost
      refine ⟨linked_of_makeClient innerLinked ?_ makes, ofMake makes⟩
      intro proxyClient found client member
      cases proxy with
      | error error => cases found
      | ok innerClient =>
          cases found
          obtain rfl : innerClient = client := Option.mem_some_iff.mp member
          exact innerHas innerClient rfl

end Calls

/-- What holds in a session after successful calls. -/
structure Session.Consistent (session : Session) : Prop where
  recorded : Recorded session.manager
  linked : session.Linked
  clean : ∀ key, session.manager.clients key ≠ some .undefined

theorem Session.Successful.consistent {session : Session} (successful : session.Successful) :
    session.Consistent := by
  induction successful with
  | init =>
      constructor
      · intro key client present
        cases present
      · rintro (index | name) ⟨proxy, hasProxy⟩
        · simp [Session.init, Session.proxyOf, Manager.proxyOf, Manager.init] at hasProxy
        · cases hasProxy
      · intro key placeholder
        cases placeholder
  | make session name proxy _ fresh known inductionHypothesis =>
      refine ⟨inductionHypothesis.recorded, ?_, inductionHypothesis.clean⟩
      have hasProxy : Session.proxyOf
          { session with given := Function.update session.given name (some proxy) }
          (.given name) = some proxy := by simp [Session.proxyOf]
      refine inductionHypothesis.linked.extend ?_ hasProxy known ?_
      · intro client other hasProxy
        cases client with
        | made index => exact hasProxy
        | given otherName =>
            have present : session.given otherName = some other := hasProxy
            have different : otherName ≠ name := by
              rintro rfl
              rw [fresh] at present
              cases present
            simpa [Session.proxyOf, different] using hasProxy
      · rintro (index | otherName) ⟨other, hasProxy⟩
        · exact .inr ⟨other, hasProxy⟩
        · by_cases same : otherName = name
          · exact .inl (by rw [same])
          · exact .inr ⟨other, by simpa [Session.proxyOf, same] using hasProxy⟩
  | call session world fuel arguments client after _ known returns inductionHypothesis =>
      have evaluates := evaluates_of_getClient returns
      refine ⟨evaluates.recorded inductionHypothesis.recorded, ?_, ?_⟩
      · exact (evaluates.linked inductionHypothesis.recorded inductionHypothesis.linked known).1
      · exact fun key placeholder =>
          inductionHypothesis.clean key (evaluates.no_placeholder placeholder)

/-! ### The end of a call -/

/-- **Termination.** After successful calls, a call in a configuration with finitely many
proxy jumps ends. It returns a client with a finite chain of different proxies, or it
reports a recursive definition that there is, or the constructor refuses the parameters of its own
client or of one on the way along the proxy jumps. -/
theorem get_client_terminates {world : World} {names : Finset String} {session : Session}
    {arguments : Arguments} (configured : world.Configured names)
    (successful : session.Successful)
    (known : ∀ client, arguments.Passes client → session.Has client) :
    ∃ bound result after,
      (∀ fuel, bound ≤ fuel →
        getClient world fuel arguments session.manager = some (result, after)) ∧
      (∀ client, result = .ok client →
        ∃ chain, Session.Chain { session with manager := after } client chain ∧ chain.Nodup) ∧
      (result = .error .recursiveDefinition → Recursive world arguments) ∧
      ∀ text, result = .error (.external text) →
        Refuses world session.manager arguments text := by
  obtain ⟨result, after, evaluates⟩ := configured.evaluates arguments session.manager
  obtain ⟨bound, ends⟩ := evaluates.getClient_eq
  have consistent := successful.consistent
  refine ⟨bound, result, after, ends, ?_, ?_, ?_⟩
  · intro client returned
    obtain ⟨linked, isThere⟩ := evaluates.linked consistent.recorded consistent.linked known
    obtain ⟨chain, first⟩ := linked client (isThere client returned)
    exact ⟨chain, first, first.nodup⟩
  · rintro rfl
    exact evaluates.recursive_of_raises consistent.clean
  · rintro text rfl
    exact evaluates.external configured

theorem plainWorld_configured (makes : Bool) : (plainWorld makes).Configured ∅ where
  config host _ := ⟨_, rfl⟩
  jump _ _ := ⟨none, rfl, fun _ impossible => by cases impossible⟩

/-- A host behind a gateway, which is itself behind a bastion host. -/
def chainWorld : World :=
  { plainWorld true with
    proxyJump := fun host _ =>
      if host = "host" then .ok (some "gateway")
      else if host = "gateway" then .ok (some "bastion")
      else .ok none }

theorem chainWorld_configured : chainWorld.Configured {"gateway", "bastion"} where
  config host _ := ⟨_, rfl⟩
  jump host _ := by
    show ∃ jump, (if host = "host" then Except.ok (some "gateway")
      else if host = "gateway" then .ok (some "bastion") else .ok none) = Except.ok jump ∧ _
    split
    · exact ⟨_, rfl, by simp⟩
    · split
      · exact ⟨_, rfl, by simp⟩
      · exact ⟨_, rfl, by simp⟩

/-- The manager after a call for the gateway, and after another one for the host. -/
def gatewayManager : Manager :=
  ((getClient chainWorld 2 (.ofHost "gateway") Manager.init).map Prod.snd).getD Manager.init

def chainManager : Manager :=
  ((getClient chainWorld 2 (.ofHost "host") gatewayManager).map Prod.snd).getD Manager.init

/-- The client of the host is behind the one that the first call has made for the gateway. -/
theorem get_client_terminates_chain :
    getClient chainWorld 2 (.ofHost "host") gatewayManager = some (.ok (.made 2), chainManager) ∧
      chainManager.proxyOf (.made 2) = some (some (.made 1)) ∧
      chainManager.proxyOf (.made 1) = some (some (.made 0)) ∧
      ∃ chain, Session.Chain ⟨chainManager, fun _ => none⟩ (.made 2) chain ∧ chain.Nodup := by
  have first : getClient chainWorld 2 (.ofHost "gateway") Session.init.manager =
      some (.ok (.made 1), gatewayManager) := rfl
  have second : ∀ fuel, getClient chainWorld (fuel + 2) (.ofHost "host") gatewayManager =
      some (.ok (.made 2), chainManager) := fun _ => rfl
  have passesNone : ∀ name (session : Session) client, (Arguments.ofHost name).Passes client →
      session.Has client := by
    intro name session client passes
    rcases passes with impossible | impossible
    · cases impossible
    · cases impossible
  have successful : Session.Successful ⟨gatewayManager, fun _ => none⟩ :=
    .call _ chainWorld 2 (.ofHost "gateway") (.made 1) _ .init (passesNone _ _) first
  obtain ⟨bound, result, after, ends, returns, -⟩ :=
    @get_client_terminates _ _ _ (.ofHost "host") chainWorld_configured successful
      (passesNone _ _)
  have same := (ends (bound + 2) (Nat.le_add_right bound 2)).symm.trans (second bound)
  cases same
  exact ⟨second 0, rfl, rfl, returns _ rfl⟩

/-- `valid_port` -/
def validPort (port : Nat) : Except String Unit :=
  if port = 0 ∨ 65535 < port then .error ("Invalid port number: " ++ toString port) else .ok ()

/-- Hosts without proxy jumps, where the constructor checks the number of the port. -/
def checkedWorld : World :=
  { plainWorld true with
    construct := fun record =>
      match record.port with
      | some (.number port) => validPort port
      | _ => .ok () }

/-- A call with the port number 70000 raises the error of this check. -/
theorem invalid_port_raises :
    ¬ ∀ world names (session : Session) arguments, World.Configured world names →
      session.Successful →
      (∀ client, arguments.Passes client → session.Has client) →
      ∃ bound result after,
        (∀ fuel, bound ≤ fuel →
          getClient world fuel arguments session.manager = some (result, after)) ∧
        ((∃ client, result = .ok client ∧
            ∃ chain, Session.Chain { session with manager := after } client chain ∧ chain.Nodup) ∨
          result = .error .recursiveDefinition ∧ Recursive world arguments) := by
  intro terminates
  let arguments : Arguments := { Arguments.ofHost "host" with port := some (.number 70000) }
  have configured : checkedWorld.Configured ∅ :=
    ⟨(plainWorld_configured true).config, (plainWorld_configured true).jump⟩
  have passesNone : ∀ client, arguments.Passes client → Session.init.Has client := by
    intro client passes
    rcases passes with impossible | impossible
    · cases impossible
    · cases impossible
  obtain ⟨bound, result, after, ends, outcome⟩ :=
    terminates checkedWorld ∅ Session.init arguments configured .init passesNone
  have raises : getClient checkedWorld (bound + 1) arguments Manager.init =
      some (.error (.external "Invalid port number: 70000"),
        Manager.init.store ⟨some "host", some (.number 70000), some "root", .none⟩
          .undefined) := rfl
  have same := (ends (bound + 1) (Nat.le_succ bound)).symm.trans raises
  cases same
  rcases outcome with ⟨client, impossible, -⟩ | ⟨impossible, -⟩
  · cases impossible
  · cases impossible

end Tobiko.Shell.Ssh
