import Tobiko.Foundation.Dictionary
import Tobiko.Foundation.Effect
import Tobiko.Foundation.Url

/-!
Contract: the addresses of `tobiko/shell/ssh/_forward.py`, their URLs, and the manager that forwards
them through tunnels.

Owns: `binding_address` and `binding_url`, exactly which addresses are read back from their URLs, and
where the URL of `get_forward_url` points to after any calls of the manager.

Does not own: how a tunnel transports data, and how its local port is found.
-/

namespace Tobiko.Shell.Ssh

open Tobiko.Foundation

/-- A pair of a host name and a port, or the path of a Unix socket. -/
inductive Address where
  | tcp (hostname : Option Text) (port : Option Nat)
  | unix (path : Text)
  deriving DecidableEq

inductive ForwardError where
  | url (error : Url.Error)
  /-- Invalid URL: {!r} -/
  | invalidUrl
  /-- Invalid address type: {!r} -/
  | invalidAddressType
  | external (text : String)
  deriving DecidableEq

inductive GivenUrl where
  | text (url : Text)
  | parsed (url : Url)

section Addresses

variable (rules : Url.Rules)

def parseUrl : GivenUrl → Except ForwardError Url
  | .parsed url => .ok url
  | .text url =>
      match Url.parse rules url with
      | .ok url => .ok url
      | .error error => .error (.url error)

def bindingAddress (url : GivenUrl) : Except ForwardError Address :=
  match parseUrl rules url with
  | .error error => .error error
  | .ok url =>
      if url.netloc ≠ [] then
        match url.port rules with
        | .error error => .error (.url error)
        | .ok port => .ok (.tcp (url.hostname rules) port)
      else if url.path ≠ [] then .ok (.unix url.path)
      else .error .invalidUrl

end Addresses

/-- What `format` makes of `None`. -/
def noneText : Text := "None".toList

def bindingUrl : Address → Text
  | .tcp hostname port =>
      "tcp".toList ++ "://".toList ++
        (hostname.getD noneText ++ ':' :: (port.map (Nat.toDigits 10)).getD noneText)
  | .unix path => "unix".toList ++ "://".toList ++ path

/-! ### The manager -/

/-- A port that a socket can be bound to. -/
abbrev LocalPort : Type := { port : Nat // 1 ≤ port ∧ port ≤ 65535 }

def localAddress (port : LocalPort) : Address := .tcp (some "127.0.0.1".toList) (some port.1)

/-- `SSHTunnelForwarderFixture` -/
structure Forwarder where
  forwarding : Dict Address Address

namespace Forwarder

def init : Forwarder := ⟨.empty⟩

/-- `put_forwarding`, where the local address is a free one. -/
def putForwarding (forwarder : Forwarder) (remote : Address) (port : LocalPort) : Forwarder :=
  ⟨forwarder.forwarding.setDefault remote (localAddress port)⟩

def getForwarding (forwarder : Forwarder) (remote : Address) : Option Address :=
  forwarder.forwarding.get? remote

end Forwarder

/-- `SSHPortForwardManager`. The address of a tunnel may be `None`. -/
structure ForwardManager (Client : Type) where
  forwardAddresses : Dict (Address × Option Client) (Option Address)
  forwarders : Dict (Address × Option Client) (Option Forwarder)

def ForwardManager.init {Client : Type} : ForwardManager Client := ⟨.empty, .empty⟩

abbrev ForwardCall (Client Result : Type) : Type :=
  Effect ForwardError (ForwardManager Client) Result

section Manager

variable {Client : Type} [DecidableEq Client]

/-- The fixture that is set up for an address, where `tunnel` is the free port that is found and bound
for it, or what raises. -/
def makeForwarder (tunnel : Except ForwardError LocalPort) (address : Address) :
    Option Client → Except ForwardError (Option Forwarder)
  | none => .ok none
  | some _ =>
      match tunnel with
      | .error error => .error error
      | .ok port => .ok (some (Forwarder.init.putForwarding address port))

def getForwarder (tunnel : Except ForwardError LocalPort) (address : Address)
    (sshClient : Option Client) : ForwardCall Client (Option Forwarder) := do
  let manager ← Effect.get
  match manager.forwarders.get? (address, sshClient) with
  | some forwarder => pure forwarder
  | none =>
      let forwarder ← Effect.ofExcept (makeForwarder tunnel address sshClient)
      Effect.modify fun manager =>
        { manager with forwarders := manager.forwarders.set (address, sshClient) forwarder }
      pure forwarder

/-- The address behind a forwarder, if there is one. -/
def forwardAddress (address : Address) : Option Forwarder → Option Address
  | some forwarder => forwarder.getForwarding address
  | none => some address

/-- The method `get_forward_port_address` of the manager. -/
def managerForwardAddress (tunnel : Except ForwardError LocalPort) (address : Address)
    (sshClient : Option Client) : ForwardCall Client (Option Address) := do
  let manager ← Effect.get
  match manager.forwardAddresses.get? (address, sshClient) with
  | some forward => pure forward
  | none =>
      let forwarder ← getForwarder tunnel address sshClient
      let forward := forwardAddress address forwarder
      Effect.modify fun manager =>
        { manager with forwardAddresses := manager.forwardAddresses.set (address, sshClient) forward }
      pure forward

/-- The function `get_forward_port_address`, with the default client. -/
def getForwardPortAddress (sshProxyClient : Except ForwardError (Option Client))
    (tunnel : Except ForwardError LocalPort) (address : Address) (sshClient : Option Client) :
    ForwardCall Client (Option Address) :=
  match sshClient with
  | some client => managerForwardAddress tunnel address (some client)
  | none => do
      let client ← Effect.ofExcept sshProxyClient
      managerForwardAddress tunnel address client

def getForwardUrl (rules : Url.Rules) (sshProxyClient : Except ForwardError (Option Client))
    (tunnel : Except ForwardError LocalPort) (url : GivenUrl) (sshClient : Option Client) :
    ForwardCall Client Text := do
  let url ← Effect.ofExcept (parseUrl rules url)
  let client ← Effect.ofExcept (sshClient.elim sshProxyClient fun client => .ok (some client))
  let address ← Effect.ofExcept (bindingAddress rules (.parsed url))
  match ← getForwardPortAddress sshProxyClient tunnel address client with
  | none => Effect.raise .invalidAddressType
  | some forward => pure (bindingUrl forward)

end Manager

/-! ### Addresses that are read back -/

/-- The address of a URL that is given as a text. -/
def ReadsBack (rules : Url.Rules) (url : Text) (address : Address) : Prop :=
  bindingAddress rules (.text url) = .ok address

section RoundTrip

variable (rules : Url.Rules)

theorem isLowerScheme_tcp : Url.IsLowerScheme "tcp".toList := ⟨rfl, rfl⟩

theorem isLowerScheme_unix : Url.IsLowerScheme "unix".toList := ⟨rfl, rfl⟩

/-- What is read from the URL of a host and a port. -/
theorem bindingAddress_tcp {host : Text} (isHost : host.all Url.isHostCharacter = true) (port : Nat) :
    bindingAddress rules (.text (bindingUrl (.tcp (some host) (some port)))) =
      match Url.parsePort
        (Url.splitPort rules.portColon (host ++ ':' :: Nat.toDigits 10 port)).2 with
      | .error error => .error (.url error)
      | .ok read => .ok (.tcp
          (if (Url.splitPort rules.portColon (host ++ ':' :: Nat.toDigits 10 port)).1 = [] then none
            else some (Url.lowerHost rules
              (Url.splitPort rules.portColon (host ++ ':' :: Nat.toDigits 10 port)).1)) read) := by
  have isNetloc := Url.isHost_hostPort isHost port
  have plain := Url.plain_of_isHost isNetloc
  have checked := Url.checkNetloc_unbracketed rules plain (Url.notMem_of_isHost isNetloc rfl)
    (Url.notMem_of_isHost isNetloc rfl)
  have parsed : Url.parse rules (bindingUrl (.tcp (some host) (some port))) =
      .ok ⟨"tcp".toList, host ++ ':' :: Nat.toDigits 10 port, [], [], [], []⟩ :=
    Url.parse_netloc isLowerScheme_tcp plain checked
  have noUser : Url.splitUser (host ++ ':' :: Nat.toDigits 10 port) =
      (none, host ++ ':' :: Nat.toDigits 10 port) :=
    Url.splitUser_absent (Url.notMem_of_isHost isNetloc rfl)
  have nonempty : host ++ ':' :: Nat.toDigits 10 port ≠ [] := by
    rw [Ne, List.append_eq_nil_iff, not_and]
    intro _ isNil
    cases isNil
  unfold bindingAddress parseUrl
  dsimp only
  rw [parsed]
  dsimp only
  rw [if_pos nonempty]
  unfold Url.port Url.hostname
  dsimp only
  rw [noUser]

/-- **A host and a port are read back unless the port is looked for behind the first colon of several
or the host is not in lower case.** -/
theorem readsBack_tcp_iff {host : Text} (isHost : host.all Url.isHostCharacter = true)
    (nonempty : host ≠ []) {port : Nat} (inRange : port ≤ 65535) :
    ReadsBack rules (bindingUrl (.tcp (some host) (some port))) (.tcp (some host) (some port)) ↔
      (rules.portColon = .last ∨ ':' ∉ host) ∧ Url.lowerHost rules host = host := by
  have noOpen : '[' ∉ host ++ ':' :: Nat.toDigits 10 port :=
    Url.notMem_of_isHost (Url.isHost_hostPort isHost port) rfl
  have noPortColon : ':' ∉ Nat.toDigits 10 port := Url.notMem_toDigits rfl
  unfold ReadsBack
  rw [bindingAddress_tcp rules isHost port]
  by_cases single : rules.portColon = .last ∨ ':' ∉ host
  · have split : Url.splitPort rules.portColon (host ++ ':' :: Nat.toDigits 10 port) =
        (host, Nat.toDigits 10 port) := by
      obtain last | noColon := single
      · rw [last]
        exact Url.splitPort_last noOpen noPortColon
      · exact Url.splitPort_host noOpen noColon noPortColon
    rw [split, Url.parsePort_toDigits inRange, if_neg nonempty]
    dsimp only
    constructor
    · intro same
      refine ⟨single, ?_⟩
      injection same with same
      injection same with hostname
      injection hostname
    · intro both
      rw [both.2]
  · obtain ⟨notLast, colon⟩ := not_or.mp single
    rw [not_not] at colon
    have first : rules.portColon = .first := by
      cases colonOfPort : rules.portColon with
      | first => rfl
      | last => exact absurd colonOfPort notLast
    rw [first, Url.parsePort_colon (Url.splitPort_first noOpen colon)]
    constructor
    · intro same
      cases same
    · intro both
      obtain last | noColon := both.1
      · cases last
      · exact absurd colon noColon

/-- **The path of a socket is read back unless the parser takes something of it away.** -/
theorem readsBack_unix_iff (path : Text) :
    ReadsBack rules (bindingUrl (.unix ('/' :: path))) (.unix ('/' :: path)) ↔
      path.all Url.isPlainPath = true := by
  obtain ⟨url, parsed, noNetloc, read⟩ := Url.parse_path rules isLowerScheme_unix (by decide) path
  have address : bindingAddress rules (.text (bindingUrl (.unix ('/' :: path)))) =
      .ok (.unix (Url.readPath ('/' :: path))) := by
    have nonempty : url.path ≠ [] := by
      rw [read]
      exact List.cons_ne_nil '/' _
    unfold bindingAddress parseUrl bindingUrl
    dsimp only
    rw [parsed]
    dsimp only
    rw [if_neg (not_not.mpr noNetloc), if_pos nonempty, read]
  have slash : ('/' :: path).all Url.isPlainPath = path.all Url.isPlainPath := by
    rw [List.all_cons]
    rfl
  unfold ReadsBack
  rw [address, ← slash, ← Url.readPath_eq_self_iff]
  constructor
  · intro same
    injection same with same
    injection same
  · intro same
    rw [same]

end RoundTrip

/-! ### Runs of the manager -/

section Runs

variable {Client : Type}

/-- A forwarder for an address: a tunnel from a local port to this address, if there is a client. -/
inductive IsForwarder (address : Address) : Option Client → Option Forwarder → Prop
  | direct : IsForwarder address none none
  | tunnel (client : Client) (port : LocalPort) :
      IsForwarder address (some client) (some (Forwarder.init.putForwarding address port))

theorem isForwarder_made {tunnel : Except ForwardError LocalPort} {address : Address}
    {client : Option Client} {forwarder : Option Forwarder}
    (made : makeForwarder tunnel address client = .ok forwarder) :
    IsForwarder address client forwarder := by
  cases client with
  | none =>
      cases made
      exact IsForwarder.direct
  | some client =>
      cases tunnel with
      | error error => cases made
      | ok port =>
          cases made
          exact IsForwarder.tunnel client port

variable [DecidableEq Client]

/-- Every forwarder is one for its address, and every forward address is the one behind it. -/
structure ForwardManager.Sound (manager : ForwardManager Client) : Prop where
  forwarders : ∀ address client forwarder,
    manager.forwarders.get? (address, client) = some forwarder → IsForwarder address client forwarder
  addresses : ∀ address client forward,
    manager.forwardAddresses.get? (address, client) = some forward →
      ∃ forwarder, manager.forwarders.get? (address, client) = some forwarder ∧
        forward = forwardAddress address forwarder

theorem sound_init : (ForwardManager.init : ForwardManager Client).Sound where
  forwarders := by
    intro address client forwarder found
    cases found
  addresses := by
    intro address client forward found
    cases found

/-- What a call returns for an address: the address behind its forwarder. -/
def Forwards (manager : ForwardManager Client) (address : Address) (client : Option Client)
    (forward : Option Address) : Prop :=
  ∃ forwarder, manager.forwarders.get? (address, client) = some forwarder ∧
    forward = forwardAddress address forwarder

/-- A new forwarder is recorded where there was none. -/
theorem sound_setForwarder {manager : ForwardManager Client} (sound : manager.Sound)
    {address : Address} {client : Option Client} {forwarder : Option Forwarder}
    (absent : manager.forwarders.get? (address, client) = none)
    (isForwarder : IsForwarder address client forwarder) :
    ({ manager with forwarders := manager.forwarders.set (address, client) forwarder } :
      ForwardManager Client).Sound where
  forwarders := by
    intro other otherClient found present
    dsimp only at present
    rw [Dict.get?_set] at present
    by_cases same : (other, otherClient) = (address, client)
    · rw [if_pos same] at present
      cases present
      cases same
      exact isForwarder
    · rw [if_neg same] at present
      exact sound.forwarders other otherClient found present
  addresses := by
    intro other otherClient forward present
    obtain ⟨found, recorded, behind⟩ := sound.addresses other otherClient forward present
    refine ⟨found, ?_, behind⟩
    dsimp only
    rw [Dict.get?_set, if_neg ?_, recorded]
    intro same
    rw [same, absent] at recorded
    cases recorded

theorem getForwarder_ensures (tunnel : Except ForwardError LocalPort) (address : Address)
    (client : Option Client) :
    Effect.Ensures ForwardManager.Sound (getForwarder tunnel address client)
      (fun forwarder manager => manager.Sound ∧
        manager.forwarders.get? (address, client) = some forwarder)
      fun _ manager => manager.Sound := by
  unfold getForwarder
  apply Effect.ensures_bind fun manager state => state.Sound ∧ state = manager
  · apply Effect.ensures_get
    intro manager sound
    exact ⟨sound, rfl⟩
  · intro manager
    cases present : manager.forwarders.get? (address, client) with
    | some forwarder =>
        apply Effect.ensures_pure
        rintro state ⟨sound, rfl⟩
        exact ⟨sound, present⟩
    | none =>
        apply Effect.ensures_bind fun forwarder state =>
          makeForwarder tunnel address client = .ok forwarder ∧ state.Sound ∧ state = manager
        · apply Effect.ensures_ofExcept
          intro error raised state start
          exact start.1
        · intro forwarder
          apply Effect.ensures_bind fun _ state => state.Sound ∧
            state.forwarders.get? (address, client) = some forwarder
          · apply Effect.ensures_modify
            rintro state ⟨made, sound, rfl⟩
            refine ⟨sound_setForwarder sound present (isForwarder_made made), ?_⟩
            dsimp only
            rw [Dict.get?_set, if_pos rfl]
          · intro _
            apply Effect.ensures_pure
            intro state recorded
            exact recorded

theorem managerForwardAddress_ensures (tunnel : Except ForwardError LocalPort) (address : Address)
    (client : Option Client) :
    Effect.Ensures ForwardManager.Sound (managerForwardAddress tunnel address client)
      (fun forward manager => manager.Sound ∧ Forwards manager address client forward)
      fun _ manager => manager.Sound := by
  unfold managerForwardAddress
  apply Effect.ensures_bind fun manager state => state.Sound ∧ state = manager
  · apply Effect.ensures_get
    intro manager sound
    exact ⟨sound, rfl⟩
  · intro manager
    cases present : manager.forwardAddresses.get? (address, client) with
    | some forward =>
        apply Effect.ensures_pure
        rintro state ⟨sound, rfl⟩
        exact ⟨sound, sound.addresses address client forward present⟩
    | none =>
        apply Effect.ensures_bind fun forwarder state => state.Sound ∧
          state.forwarders.get? (address, client) = some forwarder
        · apply (getForwarder_ensures tunnel address client).mono
          · intro state start
            exact start.1
          · intro forwarder state returned
            exact returned
          · intro error state raised
            exact raised
        · intro forwarder
          apply Effect.ensures_bind fun _ state => state.Sound ∧
            state.forwarders.get? (address, client) = some forwarder
          · apply Effect.ensures_modify
            intro state recorded
            refine ⟨⟨recorded.1.forwarders, ?_⟩, recorded.2⟩
            intro other otherClient forward found
            dsimp only at found ⊢
            rw [Dict.get?_set] at found
            by_cases same : (other, otherClient) = (address, client)
            · rw [if_pos same] at found
              cases found
              cases same
              exact ⟨forwarder, recorded.2, rfl⟩
            · rw [if_neg same] at found
              exact recorded.1.addresses other otherClient forward found
          · intro _
            apply Effect.ensures_pure
            intro state recorded
            exact ⟨recorded.1, forwarder, recorded.2, rfl⟩

/-- The client that a call without one is made with. -/
def chosenClient (sshProxyClient : Except ForwardError (Option Client)) (sshClient : Option Client) :
    Except ForwardError (Option Client) :=
  sshClient.elim sshProxyClient fun client => .ok (some client)

theorem getForwardPortAddress_eq {sshProxyClient : Except ForwardError (Option Client)}
    {sshClient client : Option Client} (chosen : chosenClient sshProxyClient sshClient = .ok client)
    (tunnel : Except ForwardError LocalPort) (address : Address) :
    getForwardPortAddress sshProxyClient tunnel address client =
      managerForwardAddress tunnel address client := by
  cases client with
  | some client => rfl
  | none =>
      cases sshClient with
      | some other => cases chosen
      | none =>
          have proxy : sshProxyClient = .ok none := chosen
          rw [proxy]
          rfl

theorem getForwardPortAddress_ensures (sshProxyClient : Except ForwardError (Option Client))
    (tunnel : Except ForwardError LocalPort) (address : Address) (sshClient : Option Client) :
    Effect.Ensures ForwardManager.Sound
      (getForwardPortAddress sshProxyClient tunnel address sshClient)
      (fun _ manager => manager.Sound) fun _ manager => manager.Sound := by
  cases sshClient with
  | some client =>
      apply (managerForwardAddress_ensures tunnel address (some client)).mono
      · intro state sound
        exact sound
      · intro forward state returned
        exact returned.1
      · intro error state raised
        exact raised
  | none =>
      apply Effect.ensures_bind fun _ state => state.Sound
      · apply (Effect.ensures_ofExcept fun _ _ _ sound => sound).mono
        · intro state sound
          exact sound
        · intro client state chosen
          exact chosen.2
        · intro error state raised
          exact raised
      · intro client
        apply (managerForwardAddress_ensures tunnel address client).mono
        · intro state sound
          exact sound
        · intro forward state returned
          exact returned.1
        · intro error state raised
          exact raised

/-- The URL that is returned is that of the address behind the forwarder for the address of the one
that is given. -/
structure ForwardsUrl (rules : Url.Rules) (sshProxyClient : Except ForwardError (Option Client))
    (url : GivenUrl) (sshClient : Option Client) (forwardUrl : Text)
    (manager : ForwardManager Client) : Prop where
  sound : manager.Sound
  forwards : ∃ address client forward, bindingAddress rules url = .ok address ∧
    chosenClient sshProxyClient sshClient = .ok client ∧
    Forwards manager address client (some forward) ∧ forwardUrl = bindingUrl forward

theorem getForwardUrl_ensures (rules : Url.Rules)
    (sshProxyClient : Except ForwardError (Option Client)) (tunnel : Except ForwardError LocalPort)
    (url : GivenUrl) (sshClient : Option Client) :
    Effect.Ensures ForwardManager.Sound (getForwardUrl rules sshProxyClient tunnel url sshClient)
      (ForwardsUrl rules sshProxyClient url sshClient) fun _ manager => manager.Sound := by
  unfold getForwardUrl
  apply Effect.ensures_bind fun parsed state => parseUrl rules url = .ok parsed ∧ state.Sound
  · exact Effect.ensures_ofExcept fun _ _ _ sound => sound
  intro parsed
  apply Effect.ensures_bind fun client state => chosenClient sshProxyClient sshClient = .ok client ∧
    parseUrl rules url = .ok parsed ∧ state.Sound
  · exact Effect.ensures_ofExcept fun _ _ _ start => start.2
  intro client
  apply Effect.ensures_bind fun address state =>
    bindingAddress rules (.parsed parsed) = .ok address ∧
      chosenClient sshProxyClient sshClient = .ok client ∧ parseUrl rules url = .ok parsed ∧
      state.Sound
  · exact Effect.ensures_ofExcept fun _ _ _ start => start.2.2
  intro address manager start
  obtain ⟨read, chosen, given, sound⟩ := start
  have sameAddress : bindingAddress rules url = .ok address := by
    rw [← read]
    unfold bindingAddress
    rw [given]
    rfl
  have ensures : Effect.Ensures (fun state : ForwardManager Client => state.Sound)
      (do
        match ← getForwardPortAddress sshProxyClient tunnel address client with
        | none => Effect.raise .invalidAddressType
        | some forward => pure (bindingUrl forward))
      (ForwardsUrl rules sshProxyClient url sshClient) fun _ manager => manager.Sound := by
    apply Effect.ensures_bind fun forward state => state.Sound ∧
      Forwards state address client forward
    · rw [getForwardPortAddress_eq chosen]
      exact managerForwardAddress_ensures tunnel address client
    · intro forward
      cases forward with
      | none =>
          apply Effect.ensures_raise
          intro state returned
          exact returned.1
      | some forward =>
          apply Effect.ensures_pure
          intro state returned
          exact ⟨returned.1, address, client, forward, sameAddress, chosen, returned.2, rfl⟩
  exact ensures manager sound

/-- The managers that calls leave behind, whether they return or raise. -/
inductive ForwardManager.Reachable (rules : Url.Rules) : ForwardManager Client → Prop
  | init : Reachable rules ForwardManager.init
  | forwardUrl {manager after : ForwardManager Client} (reachable : Reachable rules manager)
      (sshProxyClient : Except ForwardError (Option Client))
      (tunnel : Except ForwardError LocalPort) (url : GivenUrl) (sshClient : Option Client)
      (result : Except ForwardError Text)
      (called : getForwardUrl rules sshProxyClient tunnel url sshClient manager =
        some (result, after)) : Reachable rules after
  | portAddress {manager after : ForwardManager Client} (reachable : Reachable rules manager)
      (sshProxyClient : Except ForwardError (Option Client))
      (tunnel : Except ForwardError LocalPort) (address : Address) (sshClient : Option Client)
      (result : Except ForwardError (Option Address))
      (called : getForwardPortAddress sshProxyClient tunnel address sshClient manager =
        some (result, after)) : Reachable rules after

theorem ForwardManager.Reachable.sound {rules : Url.Rules} {manager : ForwardManager Client}
    (reachable : manager.Reachable rules) : manager.Sound := by
  induction reachable with
  | init => exact sound_init
  | forwardUrl _ sshProxyClient tunnel url sshClient result called sound =>
      have ensures := getForwardUrl_ensures rules sshProxyClient tunnel url sshClient _ sound _ _ called
      cases result with
      | ok forwardUrl => exact (ensures.1 forwardUrl rfl).sound
      | error error => exact ensures.2 error rfl
  | portAddress _ sshProxyClient tunnel address sshClient result called sound =>
      have ensures :=
        getForwardPortAddress_ensures sshProxyClient tunnel address sshClient _ sound _ _ called
      cases result with
      | ok forward => exact ensures.1 forward rfl
      | error error => exact ensures.2 error rfl

theorem readsBack_localAddress (rules : Url.Rules) (port : LocalPort) :
    ReadsBack rules (bindingUrl (localAddress port)) (localAddress port) :=
  (readsBack_tcp_iff rules (by decide) (by decide) port.2.2).mpr ⟨Or.inr (by decide), rfl⟩

/-- Where a URL of `get_forward_url` points to: to the local end of a tunnel to the address of the
given URL, or it is that address's own where there is no client. -/
def PointsTo (rules : Url.Rules) (sshProxyClient : Except ForwardError (Option Client))
    (url : GivenUrl) (sshClient : Option Client) (forwardUrl : Text)
    (manager : ForwardManager Client) : Prop :=
  ∃ address, bindingAddress rules url = .ok address ∧
    ((∃ client port, chosenClient sshProxyClient sshClient = .ok (some client) ∧
        manager.forwarders.get? (address, some client) =
          some (some (Forwarder.init.putForwarding address port)) ∧
        ReadsBack rules forwardUrl (localAddress port)) ∨
      (chosenClient sshProxyClient sshClient = .ok none ∧ forwardUrl = bindingUrl address))

theorem pointsTo_of_forwards {rules : Url.Rules}
    {sshProxyClient : Except ForwardError (Option Client)} {url : GivenUrl}
    {sshClient : Option Client} {forwardUrl : Text} {manager : ForwardManager Client}
    (forwards : ForwardsUrl rules sshProxyClient url sshClient forwardUrl manager) :
    PointsTo rules sshProxyClient url sshClient forwardUrl manager := by
  obtain ⟨address, client, forward, read, chosen, ⟨forwarder, recorded, behind⟩, written⟩ :=
    forwards.forwards
  refine ⟨address, read, ?_⟩
  cases forwards.sound.forwarders address client forwarder recorded with
  | direct =>
      cases behind
      exact Or.inr ⟨chosen, written⟩
  | tunnel client port =>
      have isLocal : forward = localAddress port := by
        have found : (Forwarder.init.putForwarding address port).getForwarding address =
            some (localAddress port) := by
          unfold Forwarder.getForwarding Forwarder.putForwarding
          dsimp only
          rw [Dict.get?_setDefault, if_pos rfl]
          rfl
        rw [forwardAddress, found] at behind
        exact Option.some.inj behind
      rw [written, isLocal]
      exact Or.inl ⟨client, port, chosen, recorded, readsBack_localAddress rules port⟩

end Runs

/-- **A host and a port are read back where the host has one meaning in the URL, a path where the
parser takes nothing of it away, and every URL that is forwarded points to the tunnel for its
address.** -/
theorem readsBack_iff {Client : Type} [DecidableEq Client] (rules : Url.Rules) :
    (∀ host port, host ≠ [] → host.all Url.isHostCharacter = true → 1 ≤ port → port ≤ 65535 →
      (ReadsBack rules (bindingUrl (.tcp (some host) (some port))) (.tcp (some host) (some port)) ↔
        (rules.portColon = .last ∨ ':' ∉ host) ∧ Url.lowerHost rules host = host)) ∧
    (∀ path, ReadsBack rules (bindingUrl (.unix ('/' :: path))) (.unix ('/' :: path)) ↔
      path.all Url.isPlainPath = true) ∧
    ∀ (manager after : ForwardManager Client) sshProxyClient tunnel url sshClient forwardUrl,
      manager.Reachable rules →
      getForwardUrl rules sshProxyClient tunnel url sshClient manager =
        some (.ok forwardUrl, after) →
      PointsTo rules sshProxyClient url sshClient forwardUrl after := by
  refine ⟨fun host port nonempty isHost _ inRange => ?_, fun path => ?_,
    fun manager after sshProxyClient tunnel url sshClient forwardUrl reachable called => ?_⟩
  · exact readsBack_tcp_iff rules isHost nonempty inRange
  · exact readsBack_unix_iff rules path
  · have ensures := getForwardUrl_ensures rules sshProxyClient tunnel url sshClient manager
      reachable.sound _ _ called
    exact pointsTo_of_forwards (ensures.1 forwardUrl rfl)

/-- A server and a socket that are read back. -/
theorem readsBack_server :
    ReadsBack Url.libraryRules (bindingUrl (.tcp (some "server-1.example.org".toList) (some 8080)))
        (.tcp (some "server-1.example.org".toList) (some 8080)) ∧
      ReadsBack Url.libraryRules (bindingUrl (.unix "/run/libvirt.sock".toList))
        (.unix "/run/libvirt.sock".toList) := by
  obtain ⟨hosts, paths, -⟩ := @readsBack_iff Unit _ Url.libraryRules
  refine ⟨(hosts _ 8080 (by decide) (by decide) (by decide) (by decide)).mpr ⟨?_, by decide⟩,
    (paths _).mpr (by decide)⟩
  exact Or.inr (by decide)

/-- An address of IPv6 and a path with a mark are not read back. -/
theorem readsBack_lost :
    ¬ReadsBack Url.libraryRules (bindingUrl (.tcp (some "::1".toList) (some 80)))
        (.tcp (some "::1".toList) (some 80)) ∧
      ¬ReadsBack Url.libraryRules (bindingUrl (.unix "/run/a#b.sock".toList))
        (.unix "/run/a#b.sock".toList) := by
  unfold ReadsBack
  decide

end Tobiko.Shell.Ssh
