import Mathlib.Logic.Relation
import Tobiko.Shell.Ssh.Client

/-!
Contract: the proxies of the clients that `SSHClientManager` returns.

Owns: the proxy that a call of `get_client` asks for, the one that the returned client
has, and when these agree although the keys of the registry say nothing about a
`proxy_client`.

Does not own: how the proxy jumps of the configuration are followed.
-/

namespace Tobiko.Shell.Ssh

/-- `client.proxy_client` of a client that the manager has made. -/
def Manager.proxyOf (manager : Manager) : Client → Option (Option Client)
  | .made index => manager.made[index]?.map ClientRecord.proxyClient
  | .given _ => none

/-- The proxy that a call asks for: the `proxy_client` that it is given, or no proxy
when it is given neither a `proxy_client` nor a `proxy_jump` and no jump is configured. -/
def Arguments.requestedProxy (world : World) (arguments : Arguments) : Option (Option Client) :=
  match arguments.proxyClient, arguments.proxyJump with
  | some client, _ => some (some client)
  | none, .none =>
      match world.proxyJump arguments.host.name arguments.configFiles with
      | .ok (some name) => if truthy name then none else some none
      | .ok none => some none
      | .error _ => none
  | none, _ => none

/-- The client that is in the registry under the key of a call, if there is one, has
the proxy that the call asks for. -/
def ExistingHasProxy (world : World) (arguments : Arguments) (manager : Manager)
    (proxy : Option Client) : Prop :=
  ∀ key existing, world.hostKey arguments = .ok key →
    manager.clients key = some (.client existing) → manager.proxyOf existing = some proxy

/-- One call on a manager, by anyone. -/
def Calls (before after : Manager) : Prop :=
  ∃ world fuel arguments result, getClient world fuel arguments before = some (result, after)

/-- Every client of the registry is one that the manager has made. -/
def Recorded (manager : Manager) : Prop :=
  ∀ key client, manager.clients key = some (.client client) →
    ∃ proxy, manager.proxyOf client = some proxy

section Records

variable {world : World} {arguments : Arguments} {manager after middle : Manager}
  {result : Except Error Client} {key : HostKey}

/-! ### What the manager has made -/

theorem proxyOf_of_prefix {client : Client} {proxy : Option Client}
    (grown : manager.made <+: after.made) (recorded : manager.proxyOf client = some proxy) :
    after.proxyOf client = some proxy := by
  cases client with
  | given name => cases recorded
  | made index =>
      obtain ⟨record, found, same⟩ := Option.map_eq_some_iff.mp recorded
      obtain ⟨added, rest⟩ := grown
      have kept : after.made[index]? = some record := by
        rw [← rest, List.getElem?_append_left (List.getElem?_eq_some_iff.mp found).1, found]
      simp [Manager.proxyOf, kept, same]

theorem makeClient_made {found : Except Error (Option Client)}
    (makes : makeClient world arguments key (found, middle) = (result, after)) :
    after.made = middle.made ∨ ∃ proxyClient, found = .ok proxyClient ∧
      result = .ok (.made middle.made.length) ∧
      after.made = middle.made ++ [arguments.record key proxyClient] := by
  cases found with
  | error error =>
      cases makes
      exact .inl rfl
  | ok proxyClient =>
      simp only [makeClient] at makes
      split at makes
      · cases makes
        exact .inl rfl
      · cases makes
        exact .inr ⟨proxyClient, rfl, rfl, rfl⟩

theorem makeClient_grows {found : Except Error (Option Client)}
    (makes : makeClient world arguments key (found, middle) = (result, after)) :
    middle.made <+: after.made := by
  rcases makeClient_made makes with same | ⟨_, -, -, appended⟩
  · exact ⟨[], by rw [List.append_nil, same]⟩
  · rw [appended]
    exact List.prefix_append _ _

/-- A call forgets no client. -/
theorem Evaluates.grows (evaluates : Evaluates world arguments manager result after) :
    manager.made <+: after.made := by
  induction evaluates with
  | noKey | existing | recursive | noJump => exact List.prefix_rfl
  | direct _ manager key proxyClient _ _ _ _ _ makes =>
      have grown : (manager.store key .undefined).made <+: _ := makeClient_grows makes
      exact grown
  | through _ _ key name proxy middle _ _ _ _ _ _ makes inductionHypothesis =>
      exact inductionHypothesis.trans (makeClient_grows makes)

theorem proxyOf_made {found : Except Error (Option Client)} {client : Client}
    (makes : makeClient world arguments key (found, middle) = (.ok client, after)) :
    ∃ proxyClient, found = .ok proxyClient ∧ after.proxyOf client = some proxyClient := by
  cases found with
  | error error => cases makes
  | ok proxyClient =>
      simp only [makeClient] at makes
      split at makes
      · cases makes
      · cases makes
        exact ⟨proxyClient, rfl, by simp [Manager.proxyOf, Arguments.record]⟩

theorem Recorded.store (recorded : Recorded manager) :
    Recorded (manager.store key .undefined) := by
  intro other client present
  rw [store_clients] at present
  split at present
  · cases present
  · exact recorded other client present

theorem Recorded.make {found : Except Error (Option Client)} (recorded : Recorded middle)
    (makes : makeClient world arguments key (found, middle) = (result, after)) :
    Recorded after := by
  intro other client present
  by_cases same : other = key
  · subst same
    rcases makeClient_cases makes with ⟨_, -, -, rfl⟩ | ⟨_, -, rfl⟩ |
      ⟨_, made, -, rfl, stored⟩
    · exact recorded other client present
    · exact recorded other client present
    · obtain ⟨proxyClient, -, hasProxy⟩ := proxyOf_made makes
      rw [stored, store_clients, if_pos rfl] at present
      cases present
      exact ⟨proxyClient, hasProxy⟩
  · rw [makeClient_keeps makes same] at present
    obtain ⟨proxy, hasProxy⟩ := recorded other client present
    exact ⟨proxy, proxyOf_of_prefix (makeClient_grows makes) hasProxy⟩

theorem Evaluates.recorded (evaluates : Evaluates world arguments manager result after)
    (recorded : Recorded manager) : Recorded after := by
  induction evaluates with
  | noKey | existing | recursive => exact recorded
  | noJump => exact recorded.store
  | direct _ _ key proxyClient _ _ _ _ _ makes => exact recorded.store.make makes
  | through _ _ key name proxy middle _ _ _ _ _ _ makes inductionHypothesis =>
      exact (inductionHypothesis recorded.store).make makes

theorem recorded_of_reachable
    {allowed : World → Arguments → Manager → Except Error Client → Prop}
    (reachable : Reachable allowed manager) : Recorded manager := by
  induction reachable with
  | init =>
      intro key client present
      cases present
  | call world fuel arguments manager result after _ ends _ inductionHypothesis =>
      exact (evaluates_of_getClient ends).recorded inductionHypothesis

theorem grows_of_calls (calls : Relation.ReflTransGen Calls manager after) :
    manager.made <+: after.made := by
  induction calls with
  | refl => exact List.prefix_rfl
  | tail _ call inductionHypothesis =>
      obtain ⟨world, fuel, arguments, result, ends⟩ := call
      exact inductionHypothesis.trans (evaluates_of_getClient ends).grows

/-! ### The proxy that is asked for -/

theorem nextJump_of_requested {proxy : Option Client}
    (requests : arguments.requestedProxy world = some proxy) :
    arguments.nextJump world = .ok (proxy.elim .none .client) := by
  unfold Arguments.requestedProxy at requests
  unfold Arguments.nextJump
  split at requests
  · rename_i client given
    cases requests
    simp [given]
  · rename_i noClient noJump
    simp only [noClient, noJump]
    split at requests
    · rename_i name configured
      split at requests
      · cases requests
      · rename_i empty
        cases requests
        simp [configured, Except.map, empty]
    · rename_i configured
      cases requests
      simp [configured, Except.map]
    · cases requests
  · cases requests

/-- A call that follows no host returns the client under its key or makes one with the
proxy that it asks for. -/
theorem Evaluates.returns_cases {client : Client} {proxy : Option Client}
    (evaluates : Evaluates world arguments manager (.ok client) after)
    (jump : arguments.nextJump world = .ok (proxy.elim .none .client)) :
    ∃ key, world.hostKey arguments = .ok key ∧
      (manager.clients key = some (.client client) ∧ after = manager ∨
        manager.clients key = none ∧ after.proxyOf client = some proxy) := by
  cases evaluates with
  | existing _ _ key _ resolved present => exact ⟨key, resolved, .inl ⟨present, rfl⟩⟩
  | direct _ _ key proxyClient _ _ resolved absent sameJump makes =>
      refine ⟨key, resolved, .inr ⟨absent, ?_⟩⟩
      obtain ⟨found, same, hasProxy⟩ := proxyOf_made makes
      cases same
      rw [jump] at sameJump
      rw [hasProxy]
      cases proxy with
      | none =>
          cases proxyClient with
          | none => rfl
          | some other => cases sameJump
      | some client =>
          cases proxyClient with
          | none => cases sameJump
          | some other =>
              cases sameJump
              rfl
  | through _ _ key name other middle _ _ _ _ sameJump =>
      rw [jump] at sameJump
      cases proxy with
      | none => cases sameJump
      | some client => cases sameJump

theorem Evaluates.proxyOf_eq_iff {client : Client} {proxy : Option Client}
    (evaluates : Evaluates world arguments manager (.ok client) after)
    (requests : arguments.requestedProxy world = some proxy) :
    after.proxyOf client = some proxy ↔ ExistingHasProxy world arguments manager proxy := by
  obtain ⟨key, resolved, ⟨present, rfl⟩ | ⟨absent, hasProxy⟩⟩ :=
    evaluates.returns_cases (nextJump_of_requested requests)
  · constructor
    · intro hasProxy other existing sameKey found
      rw [resolved] at sameKey
      cases sameKey
      rw [present] at found
      cases found
      exact hasProxy
    · intro agrees
      exact agrees key client resolved present
  · constructor
    · intro _ other existing sameKey found
      rw [resolved] at sameKey
      cases sameKey
      rw [absent] at found
      cases found
    · intro _
      exact hasProxy

end Records

/-- **The requested proxy.** After any calls, a call returns a client with the proxy
that it asks for exactly when the registry has no client with another proxy under its
key. Two such calls that ask for different proxies return different clients. -/
theorem requested_proxy_iff {world : World} {fuel : Nat} {arguments : Arguments}
    {manager after : Manager} {client : Client} {proxy : Option Client}
    (reachable : Reachable (fun _ _ _ _ => True) manager)
    (returns : getClient world fuel arguments manager = some (.ok client, after))
    (requests : arguments.requestedProxy world = some proxy) :
    (∃ made, after.proxyOf client = some made) ∧
    (after.proxyOf client = some proxy ↔ ExistingHasProxy world arguments manager proxy) ∧
      ∀ laterWorld laterFuel laterArguments later final other otherProxy,
        Relation.ReflTransGen Calls after later →
        getClient laterWorld laterFuel laterArguments later = some (.ok other, final) →
        laterArguments.requestedProxy laterWorld = some otherProxy →
        ExistingHasProxy world arguments manager proxy →
        ExistingHasProxy laterWorld laterArguments later otherProxy →
        proxy ≠ otherProxy → client ≠ other := by
  have evaluates := evaluates_of_getClient returns
  have agreement := evaluates.proxyOf_eq_iff requests
  refine ⟨?_, agreement, ?_⟩
  · have recorded := recorded_of_reachable reachable
    obtain ⟨key, resolved, ⟨present, rfl⟩ | ⟨absent, hasProxy⟩⟩ :=
      evaluates.returns_cases (nextJump_of_requested requests)
    · exact recorded key client present
    · exact ⟨proxy, hasProxy⟩
  · intro laterWorld laterFuel laterArguments later final other otherProxy calls again
      laterRequests agrees laterAgrees different same
    subst same
    have laterEvaluates := evaluates_of_getClient again
    have first : final.proxyOf client = some proxy :=
      proxyOf_of_prefix ((grows_of_calls calls).trans laterEvaluates.grows)
        (agreement.mpr agrees)
    have second := (laterEvaluates.proxyOf_eq_iff laterRequests).mpr laterAgrees
    rw [first] at second
    exact different (Option.some.inj second)

/-- A call with an explicit proxy. -/
def throughProxy : Arguments :=
  { Arguments.ofHost "host" with proxyClient := some (.given "proxy") }

/-- The manager after this call. -/
def managerThroughProxy : Manager :=
  { (Manager.init.store plainKey .undefined).store plainKey (.client (.made 0)) with
    made := [throughProxy.record plainKey (some (.given "proxy"))] }

theorem managerThroughProxy_reachable :
    Reachable (fun _ _ _ _ => True) managerThroughProxy := by
  have returns : getClient (plainWorld true) 1 throughProxy Manager.init =
      some (.ok (.made 0), managerThroughProxy) := rfl
  exact .call _ _ _ _ _ _ .init returns trivial

theorem managerThroughProxy_plainKey :
    managerThroughProxy.clients plainKey = some (.client (.made 0)) := by
  simp [managerThroughProxy]

/-- A call for the host returns the client that is there, with the proxy or without. -/
theorem getClient_managerThroughProxy {arguments : Arguments}
    (resolved : (plainWorld true).hostKey arguments = .ok plainKey) :
    getClient (plainWorld true) 1 arguments managerThroughProxy =
      some (.ok (.made 0), managerThroughProxy) := by
  simp only [getClient, resolved, managerThroughProxy_plainKey]

/-- A client with a proxy is there when a call asks for none, when one asks for the same proxy, and
when a call for another host makes a client without a proxy. -/
theorem requested_proxy_iff_again :
    (managerThroughProxy.proxyOf (.made 0) = some none ↔
      ExistingHasProxy (plainWorld true) (.ofHost "host") managerThroughProxy none) ∧
    (managerThroughProxy.proxyOf (.made 0) = some (some (.given "proxy")) ↔
      ExistingHasProxy (plainWorld true) throughProxy managerThroughProxy
        (some (.given "proxy"))) ∧
    ∃ other final, getClient (plainWorld true) 1 (.ofHost "other") managerThroughProxy =
      some (.ok other, final) ∧ Client.made 0 ≠ other := by
  have plain := requested_proxy_iff managerThroughProxy_reachable
    (@getClient_managerThroughProxy (.ofHost "host") rfl) rfl
  have again := requested_proxy_iff managerThroughProxy_reachable
    (@getClient_managerThroughProxy throughProxy rfl) rfl
  have made : ∃ final, getClient (plainWorld true) 1 (.ofHost "other") managerThroughProxy =
      some (.ok (.made 1), final) := ⟨_, rfl⟩
  obtain ⟨final, made⟩ := made
  have absent : ExistingHasProxy (plainWorld true) (.ofHost "other") managerThroughProxy none := by
    intro key existing resolved present
    cases resolved
    cases present
  exact ⟨plain.2.1, again.2.1, .made 1, final, made,
    again.2.2 _ _ _ _ _ _ none .refl made rfl (again.2.1.mp rfl) absent nofun⟩

/-- A call without a proxy returns the client that an earlier call has made with one. -/
theorem earlier_proxy_returned :
    ¬ ∀ manager, Reachable (fun _ _ _ _ => True) manager →
      ∀ world fuel arguments client after proxy,
        getClient world fuel arguments manager = some (.ok client, after) →
        arguments.requestedProxy world = some proxy → after.proxyOf client = some proxy := by
  intro honoured
  have again := @getClient_managerThroughProxy (.ofHost "host") rfl
  have wrong := honoured _ managerThroughProxy_reachable _ _ _ _ _ none again rfl
  cases wrong

end Tobiko.Shell.Ssh
