import Mathlib.Logic.Function.Basic
import Mathlib.Data.List.Nodup

/-!
Contract: the registry of `SSHClientManager` in `tobiko/shell/ssh/_client.py`.

Owns: the keys of the registry, `get_client` and `get_proxy_client` with the
placeholder that they store before they follow the proxy jumps of a host, the
clients that they make, and what is left in the registry when a call raises.

The host configuration (`ssh_host_config`) and the construction of a client
(`SSHClientFixture(...)`) are functions of a `World`, which may raise and may be
another one in every call.
-/

namespace Tobiko.Shell.Ssh

/-! ### Truth values -/

/-- Python's truth value of an object. -/
class Truthy (α : Type) where
  truthy : α → Bool

export Truthy (truthy)

instance : Truthy String := ⟨fun text => !text.isEmpty⟩

instance {α : Type} [Truthy α] : Truthy (Option α) := ⟨fun value => value.any truthy⟩

/-- `left or right` -/
def pyOr {α : Type} [Truthy α] (left right : α) : α := if truthy left then left else right

/-! ### Clients, keys and arguments -/

/-- A port number, or the text of a configuration file. -/
inductive Port where
  | number (value : Nat)
  | text (value : String)
deriving DecidableEq, Repr

instance : Truthy Port := ⟨fun
  | .number value => value != 0
  | .text value => truthy value⟩

/-- A host: a text, or a `netaddr.IPAddress` whose text is given. -/
inductive Host where
  | text (value : String)
  | address (value : String)
deriving DecidableEq, Repr

/-- `str(host)` for an address, the host itself otherwise. -/
def Host.name : Host → String
  | .text value => value
  | .address value => value

/-- The identity of an `SSHClientFixture`: the manager made it, or the caller has it. -/
inductive Client where
  | made (index : Nat)
  | given (name : String)
deriving DecidableEq, Repr

inductive ProxyJump where
  | none
  | host (name : String)
  | client (client : Client)
deriving DecidableEq, Repr

structure HostConfig where
  hostname : Option String
  port : Option Port
  username : Option String
deriving DecidableEq, Repr

/-- The arguments of `get_client`. -/
structure Arguments where
  host : Host
  hostname : Option String
  username : Option String
  port : Option Port
  proxyJump : ProxyJump
  hostConfig : Option HostConfig
  configFiles : Option (List String)
  proxyClient : Option Client
  connectParameters : List (String × String)
deriving DecidableEq, Repr

/-- `get_client(host)` -/
def Arguments.ofHost (name : String) : Arguments :=
  ⟨.text name, none, none, none, .none, none, none, none, []⟩

structure HostKey where
  hostname : Option String
  port : Option Port
  username : Option String
  proxyJump : ProxyJump
deriving DecidableEq, Repr

/-- What the constructor of `SSHClientFixture` receives. -/
structure ClientRecord where
  host : String
  hostname : Option String
  port : Option Port
  username : Option String
  proxyClient : Option Client
  hostConfig : Option HostConfig
  connectParameters : List (String × String)
deriving DecidableEq, Repr

/-! ### The manager -/

/-- `UNDEFINED_CLIENT`, or a client. -/
inductive Entry where
  | undefined
  | client (client : Client)
deriving DecidableEq, Repr

/-- `clients` is the registry, `made` lists the clients made so far. -/
structure Manager where
  clients : HostKey → Option Entry
  made : List ClientRecord

/-- `SSHClientManager()` -/
def Manager.init : Manager := ⟨fun _ => none, []⟩

def Manager.store (manager : Manager) (key : HostKey) (entry : Entry) : Manager :=
  { manager with clients := Function.update manager.clients key (some entry) }

/-- The code outside the manager: `ssh_host_config(host, config_files)` with the
properties that `get_client` reads, its `proxy_jump`, which `get_proxy_client`
reads, and the constructor of a client. -/
structure World where
  hostConfig : String → Option (List String) → Except String HostConfig
  proxyJump : String → Option (List String) → Except String (Option String)
  construct : ClientRecord → Except String Unit

inductive Error where
  | recursiveDefinition
  | external (text : String)
deriving DecidableEq, Repr

/-- `host_key`, once the global configuration of the host is known. -/
def Arguments.hostKey (arguments : Arguments) (globalConfig : HostConfig) : HostKey :=
  let hostname := match arguments.hostConfig with
    | some config => pyOr arguments.hostname config.hostname
    | none => arguments.hostname
  let port := match arguments.hostConfig with
    | some config => pyOr arguments.port config.port
    | none => arguments.port
  let username := match arguments.hostConfig with
    | some config => pyOr arguments.username config.username
    | none => arguments.username
  { hostname := pyOr hostname globalConfig.hostname
    port := pyOr port globalConfig.port
    username := pyOr username globalConfig.username
    proxyJump := arguments.proxyJump }

def World.hostKey (world : World) (arguments : Arguments) : Except String HostKey :=
  (world.hostConfig arguments.host.name arguments.configFiles).map arguments.hostKey

/-- The client that is made for a key. -/
def Arguments.record (arguments : Arguments) (key : HostKey) (proxyClient : Option Client) :
    ClientRecord where
  host := arguments.host.name
  hostname := key.hostname
  port := key.port
  username := key.username
  proxyClient := proxyClient
  hostConfig := arguments.hostConfig
  connectParameters := arguments.connectParameters

/-- `get_proxy_client`, which calls `get_client` with the proxy jump of the host
and nothing else. A proxy jump that is given as a text is not followed. -/
def getProxyClient (world : World)
    (getClient : String → Manager → Option (Except Error Client × Manager))
    (host : String) (proxyJump : ProxyJump) (configFiles : Option (List String))
    (manager : Manager) : Option (Except Error (Option Client) × Manager) :=
  match proxyJump with
  | .client client => some (.ok (some client), manager)
  | _ =>
      match world.proxyJump host configFiles with
      | .error text => some (.error (.external text), manager)
      | .ok none => some (.ok none, manager)
      | .ok (some name) =>
          if truthy name then
            (getClient name manager).map fun (result, after) => (result.map some, after)
          else some (.ok none, manager)

/-- `proxy_client or self.get_proxy_client(...)` -/
def findProxy (world : World)
    (getClient : String → Manager → Option (Except Error Client × Manager))
    (arguments : Arguments) (manager : Manager) :
    Option (Except Error (Option Client) × Manager) :=
  match arguments.proxyClient with
  | some client => some (.ok (some client), manager)
  | none => getProxyClient world getClient arguments.host.name arguments.proxyJump
      arguments.configFiles manager

/-- The construction of the client, unless the search for the proxy raised. -/
def makeClient (world : World) (arguments : Arguments) (key : HostKey) :
    Except Error (Option Client) × Manager → Except Error Client × Manager
  | (.error error, manager) => (.error error, manager)
  | (.ok proxyClient, manager) =>
      let record := arguments.record key proxyClient
      match world.construct record with
      | .error text => (.error (.external text), manager)
      | .ok _ =>
          let newClient := Client.made manager.made.length
          (.ok newClient, { manager.store key (.client newClient) with
            made := manager.made ++ [record] })

/-- `get_client`. The placeholder is stored before the proxy is looked for. The
result is `none` when `fuel` does not suffice to follow the proxy jumps. -/
def getClient (world : World) : Nat → Arguments → Manager →
    Option (Except Error Client × Manager)
  | 0, _, _ => none
  | fuel + 1, arguments, manager =>
      match world.hostKey arguments with
      | .error text => some (.error (.external text), manager)
      | .ok key =>
          match manager.clients key with
          | some (.client existingClient) => some (.ok existingClient, manager)
          | some .undefined => some (.error .recursiveDefinition, manager)
          | none =>
              (findProxy world (fun name => getClient world fuel (.ofHost name)) arguments
                (manager.store key .undefined)).map (makeClient world arguments key)

/-! ### The course of a call -/

/-- What `get_client` does for the proxy: it has one, it follows a host, or it
goes without. -/
def Arguments.nextJump (world : World) (arguments : Arguments) : Except String ProxyJump :=
  match arguments.proxyClient with
  | some client => .ok (.client client)
  | none =>
      match arguments.proxyJump with
      | .client client => .ok (.client client)
      | _ => (world.proxyJump arguments.host.name arguments.configFiles).map fun
          | some name => if truthy name then .host name else .none
          | none => .none

/-- A call that ends, with its result and the manager after it. -/
inductive Evaluates (world : World) :
    Arguments → Manager → Except Error Client → Manager → Prop
  | noKey (arguments manager text) (noKey : world.hostKey arguments = .error text) :
      Evaluates world arguments manager (.error (.external text)) manager
  | existing (arguments manager key client) (resolved : world.hostKey arguments = .ok key)
      (present : manager.clients key = some (.client client)) :
      Evaluates world arguments manager (.ok client) manager
  | recursive (arguments manager key) (resolved : world.hostKey arguments = .ok key)
      (present : manager.clients key = some .undefined) :
      Evaluates world arguments manager (.error .recursiveDefinition) manager
  | noJump (arguments manager key text) (resolved : world.hostKey arguments = .ok key)
      (absent : manager.clients key = none) (noJump : arguments.nextJump world = .error text) :
      Evaluates world arguments manager (.error (.external text)) (manager.store key .undefined)
  | direct (arguments manager key proxyClient result after)
      (resolved : world.hostKey arguments = .ok key) (absent : manager.clients key = none)
      (jump : arguments.nextJump world = .ok (proxyClient.elim .none .client))
      (makes : makeClient world arguments key (.ok proxyClient, manager.store key .undefined) =
        (result, after)) :
      Evaluates world arguments manager result after
  | through (arguments manager key name proxy middle result after)
      (resolved : world.hostKey arguments = .ok key) (absent : manager.clients key = none)
      (jump : arguments.nextJump world = .ok (.host name))
      (inner : Evaluates world (.ofHost name) (manager.store key .undefined) proxy middle)
      (makes : makeClient world arguments key (proxy.map some, middle) = (result, after)) :
      Evaluates world arguments manager result after

/-- The keys of a call and of the calls that follow the proxy jumps from there. -/
inductive Followed (world : World) : Arguments → List HostKey → Prop
  | here (arguments key) (resolved : world.hostKey arguments = .ok key) :
      Followed world arguments [key]
  | jump (arguments key name keys) (resolved : world.hostKey arguments = .ok key)
      (jump : arguments.nextJump world = .ok (.host name))
      (followed : Followed world (.ofHost name) keys) : Followed world arguments (key :: keys)

/-- Following the proxy jumps reaches the same key twice. -/
def Recursive (world : World) (arguments : Arguments) : Prop :=
  ∃ keys, Followed world arguments keys ∧ ¬ keys.Nodup

section Calls

variable {world : World} {arguments : Arguments} {manager after middle : Manager}
  {result : Except Error Client} {key : HostKey}

theorem findProxy_eq (getClient : String → Manager → Option (Except Error Client × Manager)) :
    findProxy world getClient arguments manager =
      match arguments.nextJump world with
      | .error text => some (.error (.external text), manager)
      | .ok .none => some (.ok none, manager)
      | .ok (.client client) => some (.ok (some client), manager)
      | .ok (.host name) =>
          (getClient name manager).map fun (result, after) => (result.map some, after) := by
  unfold findProxy Arguments.nextJump
  cases arguments.proxyClient with
  | some client => rfl
  | none =>
      unfold getProxyClient
      cases arguments.proxyJump with
      | client client => rfl
      | none | host =>
          cases world.proxyJump arguments.host.name arguments.configFiles with
          | error text => rfl
          | ok jump =>
              cases jump with
              | none => rfl
              | some name =>
                  by_cases named : truthy name = true
                  · simp [named, Except.map]
                  · simp [named, Except.map]

/-- Every call that ends has such a course. -/
theorem evaluates_of_getClient {fuel : Nat}
    (ends : getClient world fuel arguments manager = some (result, after)) :
    Evaluates world arguments manager result after := by
  induction fuel generalizing arguments manager result after with
  | zero => cases ends
  | succ fuel inductionHypothesis =>
      unfold getClient at ends
      cases resolved : world.hostKey arguments with
      | error text =>
          simp only [resolved, Option.some.injEq, Prod.mk.injEq] at ends
          obtain ⟨rfl, rfl⟩ := ends
          exact .noKey _ _ text resolved
      | ok key =>
          simp only [resolved] at ends
          cases present : manager.clients key with
          | some entry =>
              cases entry with
              | client existingClient =>
                  simp only [present, Option.some.injEq, Prod.mk.injEq] at ends
                  obtain ⟨rfl, rfl⟩ := ends
                  exact .existing _ _ key _ resolved present
              | undefined =>
                  simp only [present, Option.some.injEq, Prod.mk.injEq] at ends
                  obtain ⟨rfl, rfl⟩ := ends
                  exact .recursive _ _ key resolved present
          | none =>
              simp only [present, findProxy_eq] at ends
              cases jump : arguments.nextJump world with
              | error text =>
                  simp only [jump, Option.map_some, makeClient, Option.some.injEq,
                    Prod.mk.injEq] at ends
                  obtain ⟨rfl, rfl⟩ := ends
                  exact .noJump _ _ key text resolved present jump
              | ok next =>
                  cases next with
                  | none =>
                      simp only [jump, Option.map_some, Option.some.injEq] at ends
                      exact .direct _ _ key none _ _ resolved present jump ends
                  | client client =>
                      simp only [jump, Option.map_some, Option.some.injEq] at ends
                      exact .direct _ _ key (some client) _ _ resolved present jump ends
                  | host name =>
                      simp only [jump, Option.map_map, Option.map_eq_some_iff] at ends
                      obtain ⟨⟨proxy, middle⟩, inner, makes⟩ := ends
                      exact .through _ _ key name proxy middle _ _ resolved present jump
                        (inductionHypothesis inner) makes

theorem makeClient_cases {found : Except Error (Option Client)}
    (makes : makeClient world arguments key (found, middle) = (result, after)) :
    (∃ error, found = .error error ∧ result = .error error ∧ after = middle) ∨
      (∃ text, result = .error (.external text) ∧ after = middle) ∨
      ∃ proxyClient client, found = .ok proxyClient ∧ result = .ok client ∧
        after.clients = (middle.store key (.client client)).clients := by
  cases found with
  | error error =>
      cases makes
      exact .inl ⟨error, rfl, rfl, rfl⟩
  | ok proxyClient =>
      simp only [makeClient] at makes
      split at makes
      · cases makes
        exact .inr (.inl ⟨_, rfl, rfl⟩)
      · cases makes
        exact .inr (.inr ⟨proxyClient, _, rfl, rfl, rfl⟩)

/-! ### What a call leaves in the registry -/

@[simp] theorem store_clients (entry : Entry) (other : HostKey) :
    (manager.store key entry).clients other =
      if other = key then some entry else manager.clients other := by
  simp [Manager.store, Function.update_apply]

/-- What is made with an absent key leaves all the other keys alone. -/
theorem makeClient_keeps {found : Except Error (Option Client)} {other : HostKey}
    (makes : makeClient world arguments key (found, middle) = (result, after))
    (different : other ≠ key) : after.clients other = middle.clients other := by
  rcases makeClient_cases makes with ⟨-, -, -, rfl⟩ | ⟨-, -, rfl⟩ | ⟨-, client, -, -, same⟩
  · rfl
  · rfl
  · rw [same, store_clients, if_neg different]

/-- A placeholder that is there when a client has been made was there before, at another key. -/
theorem makeClient_placeholder {found : Except Error (Option Client)} {client : Client}
    {other : HostKey}
    (makes : makeClient world arguments key (found, middle) = (.ok client, after))
    (placeholder : after.clients other = some .undefined) :
    (∃ proxyClient, found = .ok proxyClient) ∧ other ≠ key ∧
      middle.clients other = some .undefined := by
  rcases makeClient_cases makes with ⟨_, -, impossible, -⟩ | ⟨_, impossible, -⟩ |
    ⟨proxyClient, made, same, -, stored⟩
  · cases impossible
  · cases impossible
  · rw [stored, store_clients] at placeholder
    split at placeholder
    · cases placeholder
    · rename_i different
      exact ⟨⟨proxyClient, same⟩, different, placeholder⟩

theorem ne_of_absent {other : HostKey} {entry : Entry} (absent : manager.clients key = none)
    (present : manager.clients other = some entry) : other ≠ key := by
  rintro rfl
  rw [absent] at present
  cases present

/-- No call removes or replaces what is in the registry. -/
theorem Evaluates.keeps (evaluates : Evaluates world arguments manager result after)
    {other : HostKey} {entry : Entry} (present : manager.clients other = some entry) :
    after.clients other = some entry := by
  induction evaluates with
  | noKey | existing | recursive => exact present
  | noJump arguments manager key text resolved absent noJump =>
      have different := ne_of_absent absent present
      rwa [store_clients, if_neg different]
  | direct arguments manager key proxyClient result after resolved absent jump makes =>
      have different := ne_of_absent absent present
      rwa [makeClient_keeps makes different, store_clients, if_neg different]
  | through arguments manager key name proxy middle result after resolved absent jump inner makes
      inductionHypothesis =>
      have different := ne_of_absent absent present
      rw [makeClient_keeps makes different]
      refine inductionHypothesis ?_
      rwa [store_clients, if_neg different]

/-- A call raises before it stores its placeholder: the host configuration of its own
host raises, or there is a placeholder already. -/
def RaisesEarly (world : World) (arguments : Arguments) (manager : Manager) : Prop :=
  (∃ text, world.hostKey arguments = .error text) ∨
    ∃ key, world.hostKey arguments = .ok key ∧ manager.clients key = some .undefined

/-- A call that raises later leaves its placeholder behind. -/
theorem Evaluates.leaves_placeholder {error : Error}
    (evaluates : Evaluates world arguments manager (.error error) after)
    (late : ¬ RaisesEarly world arguments manager) :
    ∃ key, manager.clients key = none ∧ after.clients key = some .undefined := by
  cases evaluates with
  | noKey _ _ text noKey => exact absurd (.inl ⟨text, noKey⟩) late
  | recursive _ _ key resolved present => exact absurd (.inr ⟨key, resolved, present⟩) late
  | noJump _ _ key text resolved absent noJump => exact ⟨key, absent, by simp⟩
  | direct _ _ key proxyClient _ _ resolved absent jump makes =>
      refine ⟨key, absent, ?_⟩
      rcases makeClient_cases makes with ⟨_, impossible, -⟩ | ⟨-, -, rfl⟩ | ⟨_, _, -, impossible, -⟩
      · cases impossible
      · simp
      · cases impossible
  | through _ _ key name proxy middle _ _ resolved absent jump inner makes =>
      refine ⟨key, absent, ?_⟩
      have placeholder : middle.clients key = some .undefined := inner.keeps (by simp)
      rcases makeClient_cases makes with ⟨-, -, -, rfl⟩ | ⟨-, -, rfl⟩ | ⟨_, _, -, impossible, -⟩
      · exact placeholder
      · exact placeholder
      · cases impossible

theorem Evaluates.early_keeps {error : Error}
    (evaluates : Evaluates world arguments manager (.error error) after)
    (early : RaisesEarly world arguments manager) : after.clients = manager.clients := by
  have noEntry : ∀ key, world.hostKey arguments = .ok key → manager.clients key = none → False := by
    rintro key resolved absent
    rcases early with ⟨text, noKey⟩ | ⟨other, sameKey, present⟩
    · rw [resolved] at noKey
      cases noKey
    · rw [resolved] at sameKey
      cases sameKey
      rw [absent] at present
      cases present
  cases evaluates with
  | noKey | recursive => rfl
  | noJump _ _ key text resolved absent => exact (noEntry key resolved absent).elim
  | direct _ _ key proxyClient _ _ resolved absent => exact (noEntry key resolved absent).elim
  | through _ _ key name proxy middle _ _ resolved absent =>
      exact (noEntry key resolved absent).elim

/-- A call that returns leaves no placeholder that was not there before. -/
theorem Evaluates.no_placeholder {client : Client}
    (evaluates : Evaluates world arguments manager (.ok client) after) {other : HostKey}
    (placeholder : after.clients other = some .undefined) :
    manager.clients other = some .undefined := by
  generalize returned : Except.ok client = result at evaluates
  induction evaluates generalizing client with
  | noKey | recursive | noJump => cases returned
  | existing => exact placeholder
  | direct _ _ key proxyClient _ _ resolved absent jump makes =>
      subst returned
      obtain ⟨-, different, before⟩ := makeClient_placeholder makes placeholder
      rwa [store_clients, if_neg different] at before
  | through _ _ key name proxy middle _ _ resolved absent jump inner makes inductionHypothesis =>
      subst returned
      obtain ⟨⟨proxyClient, found⟩, different, inside⟩ :=
        makeClient_placeholder makes placeholder
      cases proxy with
      | error error => cases found
      | ok client =>
          have before := inductionHypothesis inside rfl
          rwa [store_clients, if_neg different] at before

/-! ### Recursive definitions -/

/-- The key at which a call finds a placeholder was followed before, or had one
when the call started. -/
theorem Evaluates.recursive_key {error : Error}
    (evaluates : Evaluates world arguments manager (.error error) after)
    (recursive : error = .recursiveDefinition) :
    ∃ keys last, Followed world arguments (keys ++ [last]) ∧
      (last ∈ keys ∨ manager.clients last = some .undefined) := by
  generalize raised : Except.error error = result at evaluates
  induction evaluates generalizing error with
  | noKey | noJump =>
      subst recursive
      cases raised
  | existing => cases raised
  | recursive _ _ key resolved present =>
      exact ⟨[], key, .here _ key resolved, .inr present⟩
  | direct _ _ key proxyClient _ _ resolved absent jump makes =>
      subst raised recursive
      rcases makeClient_cases makes with ⟨_, impossible, -⟩ | ⟨_, impossible, -⟩ |
        ⟨_, _, -, impossible, -⟩
      · cases impossible
      · cases impossible
      · cases impossible
  | through _ _ key name proxy middle _ _ resolved absent jump inner makes inductionHypothesis =>
      subst raised recursive
      rcases makeClient_cases makes with ⟨innerError, found, same, -⟩ | ⟨_, impossible, -⟩ |
        ⟨_, _, -, impossible, -⟩
      · cases same
        have innerRaised : Except.error .recursiveDefinition = proxy := by
          cases proxy with
          | ok client => cases found
          | error error =>
              cases found
              rfl
        obtain ⟨keys, last, followed, twice⟩ := inductionHypothesis rfl innerRaised
        refine ⟨key :: keys, last, .jump _ key name _ resolved jump followed, ?_⟩
        rw [store_clients] at twice
        rcases twice with before | placeholder
        · exact .inl (List.mem_cons_of_mem key before)
        · split at placeholder
          · rename_i same
            exact .inl (by simp [same])
          · exact .inr placeholder
      · cases impossible
      · cases impossible

/-- Without a placeholder in the registry only a recursive definition is reported
as one. -/
theorem Evaluates.recursive_of_raises
    (evaluates : Evaluates world arguments manager (.error .recursiveDefinition) after)
    (clean : ∀ key, manager.clients key ≠ some .undefined) : Recursive world arguments := by
  obtain ⟨keys, last, followed, twice⟩ := evaluates.recursive_key rfl
  refine ⟨keys ++ [last], followed, fun nodup => ?_⟩
  have apart := (List.nodup_append.mp nodup).2.2
  rcases twice with before | placeholder
  · exact apart last before last (List.mem_singleton_self last) rfl
  · exact clean last placeholder

end Calls

/-! ### Sequences of calls -/

/-- The managers after any sequence of allowed calls, each in its own world. -/
inductive Reachable
    (allowed : World → Arguments → Manager → Except Error Client → Prop) : Manager → Prop
  | init : Reachable allowed Manager.init
  | call (world fuel arguments manager result after) (reachable : Reachable allowed manager)
      (ends : getClient world fuel arguments manager = some (result, after))
      (allows : allowed world arguments manager result) : Reachable allowed after

/-- A call that returns or raises early. -/
def ReturnsOrRaisesEarly (world : World) (arguments : Arguments) (manager : Manager)
    (result : Except Error Client) : Prop :=
  ∀ error, result = .error error → RaisesEarly world arguments manager

theorem no_placeholder_of_reachable {manager : Manager}
    (reachable : Reachable ReturnsOrRaisesEarly manager) (key : HostKey) :
    manager.clients key ≠ some .undefined := by
  induction reachable with
  | init => exact fun impossible => by cases impossible
  | call world fuel arguments manager result after _ ends allows inductionHypothesis =>
      have evaluates := evaluates_of_getClient ends
      cases result with
      | ok client => exact fun placeholder =>
          inductionHypothesis (evaluates.no_placeholder placeholder)
      | error error =>
          rw [evaluates.early_keeps (allows error rfl)]
          exact inductionHypothesis

/-- **The registry after an error.** A call that raises leaves the registry as it was
exactly when it raises early. After calls that do so or return, a definition is
reported as recursive only when it is. -/
theorem registry_kept_iff {world : World} {fuel : Nat} {arguments : Arguments}
    {manager after : Manager} {error : Error}
    (raises : getClient world fuel arguments manager = some (.error error, after)) :
    (after.clients = manager.clients ↔ RaisesEarly world arguments manager) ∧
      (Reachable ReturnsOrRaisesEarly manager → error = .recursiveDefinition →
        Recursive world arguments) := by
  have evaluates := evaluates_of_getClient raises
  constructor
  · constructor
    · intro same
      by_contra late
      obtain ⟨key, absent, placeholder⟩ := evaluates.leaves_placeholder late
      rw [same, absent] at placeholder
      cases placeholder
    · exact evaluates.early_keeps
  · rintro reachable rfl
    exact evaluates.recursive_of_raises (no_placeholder_of_reachable reachable)

/-- A world in which hosts have no proxy jump; clients may be made or not. -/
def plainWorld (makes : Bool) : World where
  hostConfig host _ := .ok ⟨some host, some (.number 22), some "root"⟩
  proxyJump _ _ := .ok none
  construct _ := if makes then .ok () else .error "invalid parameter"

def plainKey : HostKey := ⟨some "host", some (.number 22), some "root", .none⟩

/-- The construction of a client fails after the placeholder has been stored. -/
theorem registry_kept_iff_plain :
    (Manager.init.store plainKey .undefined).clients = Manager.init.clients ↔
      RaisesEarly (plainWorld false) (.ofHost "host") Manager.init := by
  have fails : getClient (plainWorld false) 1 (.ofHost "host") Manager.init =
      some (.error (.external "invalid parameter"), Manager.init.store plainKey .undefined) := rfl
  exact (registry_kept_iff fails).1

/-- The construction of a client fails, and the next call for the same host reports
a recursive definition. -/
theorem failed_call_leaves_placeholder :
    ¬ ∀ manager, Reachable (fun _ _ _ _ => True) manager → ∀ world fuel arguments error after,
      getClient world fuel arguments manager = some (.error error, after) →
        after.clients = manager.clients ∧
          (error = .recursiveDefinition → Recursive world arguments) := by
  intro consistent
  let left : Manager := Manager.init.store plainKey .undefined
  have fails : getClient (plainWorld false) 1 (.ofHost "host") Manager.init =
      some (.error (.external "invalid parameter"), left) := rfl
  have reachable : Reachable (fun _ _ _ _ => True) left := .call _ _ _ _ _ _ .init fails trivial
  have placeholder : left.clients plainKey = some .undefined := by simp [left]
  have resolved : (plainWorld true).hostKey (.ofHost "host") = .ok plainKey := rfl
  have again : getClient (plainWorld true) 1 (.ofHost "host") left =
      some (.error .recursiveDefinition, left) := by
    simp only [getClient, resolved, placeholder]
  obtain ⟨keys, followed, twice⟩ := (consistent left reachable _ _ _ _ _ again).2 rfl
  cases followed with
  | here => exact twice (List.nodup_singleton _)
  | jump _ _ name _ _ jump => cases jump

end Tobiko.Shell.Ssh
