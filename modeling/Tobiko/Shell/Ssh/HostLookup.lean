import Tobiko.Foundation.Url
import Tobiko.Shell.Ssh.Client

/-!
Contract: the configuration of a host, as `SSHConfigFixture.lookup` of `tobiko/shell/ssh/_config.py`
puts it together.

Owns: the URL of a host specification, the names that are looked up and set by default, the host
name, port and user name of the result, and exactly when the specification outranks the files.

Does not own: how the configuration files are parsed and matched, and `netaddr`, which is a parameter.
-/

namespace Tobiko.Shell.Ssh

open Tobiko.Foundation

/-- The directives that the files have for a host. -/
structure FileEntries where
  hostname : Option String
  user : Option String
  port : Option String
  includeFiles : Option String

/-- The dictionary of a host. -/
structure HostOptions where
  hostname : Option String
  user : Option String
  port : Option Port
  includeFiles : Option String

/-- `paramiko.SSHConfig.lookup`: a host name that the files do not have is the one looked up. -/
def configLookup (entries : String → FileEntries) (hostname : String) : HostOptions where
  hostname := some ((entries hostname).hostname.getD hostname)
  user := (entries hostname).user
  port := (entries hostname).port.map .text
  includeFiles := (entries hostname).includeFiles

structure HostDefaults where
  port : Option String
  username : Option String

/-- `SSHHostConfig` -/
structure SshHostConfig where
  host : Option String
  hostConfig : HostOptions

namespace SshHostConfig

def hostname (config : SshHostConfig) : Option String := config.hostConfig.hostname.or config.host

def port (config : SshHostConfig) (default : HostDefaults) : Option Port :=
  pyOr config.hostConfig.port (default.port.map .text)

def username (config : SshHostConfig) (default : HostDefaults) : Option String :=
  pyOr config.hostConfig.user default.username

/-- The properties that a client is made with. -/
def properties (config : SshHostConfig) (default : HostDefaults) : HostConfig where
  hostname := config.hostname
  port := config.port default
  username := config.username default

end SshHostConfig

section Lookup

variable (rules : Url.Rules) (addressVersion : Text → Except AddressError Nat)

def sshUrl (host : Text) : Text := "ssh".toList ++ "://".toList ++ host

def getSshHostUrl (host : Text) : Except String Url :=
  match addressVersion host with
  | .error .valueError => .error "ValueError"
  | .error .addrFormatError => (Url.parse rules (sshUrl host)).mapError fun _ => "ValueError"
  | .ok version =>
      let host := if version = 6 then '[' :: (host ++ [']']) else host
      (Url.parse rules (sshUrl host)).mapError fun _ => "ValueError"

/-- What is looked up and set by default. -/
structure LookupNames where
  hostname : Option String
  username : Option String
  port : Option Port

/-- `port or host_url.port or None`: the port of the URL is read only where there is no other. -/
def choosePort (url : Url) (port : Option Port) : Except String (Option Port) :=
  if truthy port then .ok port
  else
    match url.port rules with
    | .error _ => .error "ValueError"
    | .ok read => .ok (pyOr (read.map .number) none)

/-- The first `if` of `lookup`. -/
def lookupNames (host hostname username : Option String) (port : Option Port) :
    Except String LookupNames :=
  let text := (host.getD "").toList
  if '@' ∈ text ∨ ':' ∈ text then
    match getSshHostUrl rules addressVersion text with
    | .error error => .error error
    | .ok url =>
        match choosePort rules url port with
        | .error error => .error error
        | .ok port =>
            .ok ⟨pyOr hostname (pyOr ((url.hostname rules).map String.ofList) none),
              pyOr username (pyOr (url.username.map String.ofList) none), port⟩
  else .ok ⟨pyOr hostname host, username, port⟩

/-- `dict.setdefault`, for a value that is not false. -/
def setDefault {α : Type} [Truthy α] (value default : Option α) : Option α :=
  if truthy default then value.or default else value

/-- `lookup`, where `config` is `None` before the set-up. -/
def lookup (config : Option (String → FileEntries)) (host hostname username : Option String)
    (port : Option Port) : Except String SshHostConfig :=
  match lookupNames rules addressVersion host hostname username port with
  | .error error => .error error
  | .ok names =>
      let options := match config, names.hostname with
        | some entries, some hostname =>
            if truthy hostname then configLookup entries hostname else ⟨none, none, none, none⟩
        | _, _ => ⟨none, none, none, none⟩
      let options := { options with includeFiles := none }
      .ok ⟨host, { options with
        hostname := setDefault options.hostname names.hostname
        user := setDefault options.user names.username
        port := setDefault options.port names.port }⟩

/-- `ssh_host_config(host)`, with the properties of the result. -/
def sshHostConfig (entries : String → FileEntries) (default : HostDefaults) (host : String) :
    Except String HostConfig :=
  (lookup rules addressVersion (some entries) (some host) none none none).map fun config =>
    config.properties default

/-- The world of a manager whose clients look their hosts up. -/
def lookupWorld (entries : String → FileEntries) (default : HostDefaults)
    (proxyJump : String → Option (List String) → Except String (Option String))
    (construct : ClientRecord → Except String Unit) : World where
  hostConfig host _ := sshHostConfig rules addressVersion entries default host
  proxyJump := proxyJump
  construct := construct

end Lookup

/-! ### Host specifications -/

/-- `[user@]host[:port]`, or an address of IPv6 without brackets. -/
inductive HostSpecification where
  | named (user : Option Text) (host : Text) (port : Option Nat)
  | ipv6 (user : Option Text) (address : Text)

namespace HostSpecification

def userText (user : Option Text) : Text := user.elim [] fun user => user ++ ['@']

def portText (port : Option Nat) : Text := port.elim [] fun port => ':' :: Nat.toDigits 10 port

def text : HostSpecification → Text
  | .named user host port => userText user ++ host ++ portText port
  | .ipv6 user address => userText user ++ address

def user : HostSpecification → Option Text
  | .named user _ _ => user
  | .ipv6 user _ => user

def port : HostSpecification → Option Nat
  | .named _ _ port => port
  | .ipv6 _ _ => none

/-- The host. The letters of an address have no case. -/
def host (rules : Url.Rules) : HostSpecification → Text
  | .named _ host _ => host
  | .ipv6 _ address => Url.lowerHost rules address

/-- The texts that the specification is put together from. -/
inductive WellFormed (rules : Url.Rules) (addressVersion : Text → Except AddressError Nat) :
    HostSpecification → Prop
  | named (user : Option Text) (host : Text) (port : Option Nat)
      (plainUser : ∀ name, user = some name →
        name ≠ [] ∧ name.all Url.isHostCharacter = true ∧ ':' ∉ name)
      (nonempty : host ≠ []) (plainHost : host.all Url.isHostCharacter = true)
      (noColon : ':' ∉ host) (lower : Url.lowerHost rules host = host)
      (portInRange : ∀ number, port = some number → 1 ≤ number ∧ number ≤ 65535) :
      WellFormed rules addressVersion (.named user host port)
  | ipv6 (user : Option Text) (address : Text)
      (plainUser : ∀ name, user = some name →
        name ≠ [] ∧ name.all Url.isHostCharacter = true ∧ ':' ∉ name)
      (plainAddress : address.all Url.isHostCharacter = true)
      (colons : 2 ≤ address.count ':')
      (version : addressVersion address = .ok 6) (bracketed : rules.isAddress address = true) :
      WellFormed rules addressVersion (.ipv6 user address)

end HostSpecification

/-- What `netaddr` makes of texts that are no addresses. -/
def RejectsOthers (addressVersion : Text → Except AddressError Nat) : Prop :=
  ∀ text, '/' ∉ text → ('@' ∈ text ∨ text.count ':' = 1) →
    addressVersion text = .error .addrFormatError

/-! ### What is read from a specification -/

section Names

variable {rules : Url.Rules} {addressVersion : Text → Except AddressError Nat}

theorem isLowerScheme_ssh : Url.IsLowerScheme "ssh".toList := ⟨rfl, rfl⟩

/-- A user that a specification can name. -/
def PlainUser (user : Option Text) : Prop :=
  ∀ name, user = some name → name ≠ [] ∧ name.all Url.isHostCharacter = true ∧ ':' ∉ name

theorem notMem_userText {user : Option Text} (plainUser : PlainUser user) {mark : Char}
    (noHost : Url.isHostCharacter mark = false) (notAt : mark ≠ '@') :
    mark ∉ HostSpecification.userText user := by
  cases user with
  | none => exact List.not_mem_nil
  | some name =>
      have plain := (plainUser name rfl).2.1
      change mark ∉ name ++ ['@']
      rw [List.mem_append, List.mem_singleton, not_or]
      exact ⟨Url.notMem_of_isHost plain noHost, notAt⟩

theorem plain_userText {user : Option Text} (plainUser : PlainUser user) {rest : Text}
    (plainRest : rest.all Url.isHostCharacter = true) :
    (HostSpecification.userText user ++ rest).all Url.isNetlocCharacter = true := by
  have plainEnd := Url.plain_of_isHost plainRest
  cases user with
  | none => exact plainEnd
  | some name =>
      have plainName := Url.plain_of_isHost (plainUser name rfl).2.1
      change ((name ++ ['@']) ++ rest).all Url.isNetlocCharacter = true
      rw [List.all_append, List.all_append, plainName, plainEnd]
      rfl

theorem splitUser_userText {user : Option Text} {rest : Text} (absent : '@' ∉ rest) :
    Url.splitUser (HostSpecification.userText user ++ rest) = (user, rest) := by
  cases user with
  | none => exact Url.splitUser_absent absent
  | some name =>
      have shape : HostSpecification.userText (some name) ++ rest = name ++ '@' :: rest := by
        change (name ++ ['@']) ++ rest = name ++ '@' :: rest
        rw [List.append_assoc]
        rfl
      rw [shape]
      exact Url.splitUser_append name absent

/-- The URL of a text that is no address and has no brackets. -/
theorem getSshHostUrl_plain {user : Option Text} (plainUser : PlainUser user) {rest : Text}
    (plainRest : rest.all Url.isHostCharacter = true)
    (rejected : addressVersion (HostSpecification.userText user ++ rest) =
      .error .addrFormatError) :
    getSshHostUrl rules addressVersion (HostSpecification.userText user ++ rest) =
      .ok ⟨"ssh".toList, HostSpecification.userText user ++ rest, [], [], [], []⟩ := by
  have plain := plain_userText plainUser plainRest
  have notMem : ∀ mark, Url.isHostCharacter mark = false → mark ≠ '@' →
      mark ∉ HostSpecification.userText user ++ rest := by
    intro mark noHost notAt
    rw [List.mem_append, not_or]
    exact ⟨notMem_userText plainUser noHost notAt, Url.notMem_of_isHost plainRest noHost⟩
  have checked := Url.checkNetloc_unbracketed rules plain (notMem '[' rfl (by decide))
    (notMem ']' rfl (by decide))
  unfold getSshHostUrl sshUrl
  rw [rejected]
  dsimp only
  rw [Url.parse_netloc isLowerScheme_ssh plain checked]
  rfl

theorem username_plain {user : Option Text} (plainUser : PlainUser user) {rest : Text}
    (absent : '@' ∉ rest) :
    Url.username ⟨"ssh".toList, HostSpecification.userText user ++ rest, [], [], [], []⟩ = user := by
  unfold Url.username
  rw [splitUser_userText absent]
  cases user with
  | none => rfl
  | some name =>
      dsimp only
      rw [Option.map_some, Url.splitMark_absent (plainUser name rfl).2.2]

theorem all_portText {host : Text} (plainHost : host.all Url.isHostCharacter = true)
    (port : Option Nat) :
    (host ++ HostSpecification.portText port).all Url.isHostCharacter = true := by
  cases port with
  | none =>
      change (host ++ []).all Url.isHostCharacter = true
      rw [List.append_nil, plainHost]
  | some number => exact Url.isHost_hostPort plainHost number

theorem splitPort_portText {host : Text} (plainHost : host.all Url.isHostCharacter = true)
    (noColon : ':' ∉ host) (port : Option Nat) :
    Url.splitPort rules.portColon (host ++ HostSpecification.portText port) =
      (host, port.elim [] (Nat.toDigits 10)) := by
  cases port with
  | none =>
      change Url.splitPort rules.portColon (host ++ []) = (host, [])
      rw [List.append_nil]
      exact Url.splitPort_none (Url.notMem_of_isHost plainHost rfl) noColon
  | some number =>
      exact Url.splitPort_host (Url.notMem_of_isHost (Url.isHost_hostPort plainHost number) rfl)
        noColon (Url.notMem_toDigits rfl)

theorem lowerHost_ne_nil {host : Text} (plainHost : host.all Url.isHostCharacter = true)
    (nonempty : host ≠ []) : Url.lowerHost rules host ≠ [] := by
  unfold Url.lowerHost
  cases Text.splitFirst '%' host with
  | some parts =>
      intro isNil
      exact List.cons_ne_nil '%' parts.2 (List.append_eq_nil_iff.mp isNil).2
  | none =>
      unfold Url.lowerText
      rw [if_pos (Url.isAscii_netloc (Url.plain_of_isHost plainHost))]
      intro isNil
      exact nonempty (List.map_eq_nil_iff.mp isNil)

theorem truthy_ofList {text : Text} (nonempty : text ≠ []) :
    truthy (some (String.ofList text)) = true := by
  cases text with
  | nil => exact absurd rfl nonempty
  | cons character text =>
      change (!(String.ofList (character :: text)).isEmpty) = true
      rw [Bool.not_eq_true', ← Bool.not_eq_true, String.isEmpty_iff]
      intro isEmpty
      have lists := congrArg String.toList isEmpty
      rw [String.toList_ofList] at lists
      cases lists

theorem pyOr_none {α : Type} [Truthy α] (right : Option α) : pyOr none right = right := by
  unfold pyOr
  exact if_neg Bool.false_ne_true

theorem pyOr_truthy {α : Type} [Truthy α] {left : α} (holds : truthy left = true) (right : α) :
    pyOr left right = left := by
  unfold pyOr
  exact if_pos holds

theorem pyOr_user {user : Option Text} (plainUser : PlainUser user) (right : Option String) :
    pyOr (user.map String.ofList) right = (user.map String.ofList).or right := by
  cases user with
  | none => exact pyOr_none right
  | some name => exact pyOr_truthy (truthy_ofList (plainUser name rfl).1) right

theorem truthy_number {number : Nat} (positive : 1 ≤ number) :
    truthy (some (Port.number number)) = true := by
  change (number != 0) = true
  rw [bne_iff_ne]
  omega

/-- The host of a URL without brackets. -/
theorem choosePort_plain {user : Option Text} {rest : Text} (absent : '@' ∉ rest) :
    choosePort rules ⟨"ssh".toList, HostSpecification.userText user ++ rest, [], [], [], []⟩ none =
      match Url.parsePort (Url.splitPort rules.portColon rest).2 with
      | .error _ => .error "ValueError"
      | .ok read => .ok (pyOr (read.map .number) none) := by
  have noPort : ¬truthy (none : Option Port) = true := Bool.false_ne_true
  unfold choosePort Url.port
  dsimp only
  rw [if_neg noPort, splitUser_userText absent]

theorem lookupNames_marked {host : Text} (marked : '@' ∈ host ∨ ':' ∈ host) :
    lookupNames rules addressVersion (some (String.ofList host)) none none none =
      match getSshHostUrl rules addressVersion host with
      | .error error => .error error
      | .ok url =>
          match choosePort rules url none with
          | .error error => .error error
          | .ok port =>
              .ok ⟨pyOr ((url.hostname rules).map String.ofList) none,
                pyOr (url.username.map String.ofList) none, port⟩ := by
  unfold lookupNames
  dsimp only
  rw [Option.getD_some, String.toList_ofList, if_pos marked]
  cases getSshHostUrl rules addressVersion host with
  | error error => rfl
  | ok url =>
      dsimp only
      cases choosePort rules url none with
      | error error => rfl
      | ok port =>
          dsimp only
          rw [pyOr_none, pyOr_none]

theorem readPort {port : Option Nat}
    (inRange : ∀ number, port = some number → 1 ≤ number ∧ number ≤ 65535) :
    Url.parsePort (port.elim [] (Nat.toDigits 10)) = .ok port := by
  cases port with
  | none => rfl
  | some number => exact Url.parsePort_toDigits (inRange number rfl).2

theorem pyOr_port {port : Option Nat}
    (inRange : ∀ number, port = some number → 1 ≤ number ∧ number ≤ 65535)
    (right : Option Port) : pyOr (port.map Port.number) right = (port.map Port.number).or right := by
  cases port with
  | none => exact pyOr_none right
  | some number => exact pyOr_truthy (truthy_number (inRange number rfl).1) right

/-- A name with a user or a port is no address. -/
theorem rejects_named (others : RejectsOthers addressVersion) {user : Option Text}
    (plainUser : PlainUser user) {host : Text} (plainHost : host.all Url.isHostCharacter = true)
    (noColon : ':' ∉ host) {port : Option Nat}
    (marked : '@' ∈ HostSpecification.userText user ++ (host ++ HostSpecification.portText port) ∨
      ':' ∈ HostSpecification.userText user ++ (host ++ HostSpecification.portText port)) :
    addressVersion (HostSpecification.userText user ++ (host ++ HostSpecification.portText port)) =
      .error .addrFormatError := by
  have plainRest := all_portText plainHost port
  have noSlash : '/' ∉ HostSpecification.userText user ++
      (host ++ HostSpecification.portText port) := by
    rw [List.mem_append, not_or]
    exact ⟨notMem_userText plainUser rfl (by decide), Url.notMem_of_isHost plainRest rfl⟩
  apply others _ noSlash
  cases user with
  | some name =>
      apply Or.inl
      change '@' ∈ (name ++ ['@']) ++ (host ++ HostSpecification.portText port)
      rw [List.mem_append, List.mem_append]
      exact Or.inl (Or.inr List.mem_cons_self)
  | none =>
      apply Or.inr
      cases port with
      | some number =>
          change (host ++ ':' :: Nat.toDigits 10 number).count ':' = 1
          rw [List.count_append, List.count_eq_zero_of_not_mem noColon, List.count_cons_self,
            List.count_eq_zero_of_not_mem (Url.notMem_toDigits rfl)]
      | none =>
          obtain inAt | inColon := marked
          · exact absurd inAt (Url.notMem_of_isHost plainRest rfl)
          · change ':' ∈ host ++ [] at inColon
            rw [List.append_nil] at inColon
            exact absurd inColon noColon

theorem lookupNames_named (others : RejectsOthers addressVersion) {user : Option Text}
    (plainUser : PlainUser user) {host : Text} (nonempty : host ≠ [])
    (plainHost : host.all Url.isHostCharacter = true) (noColon : ':' ∉ host)
    (lower : Url.lowerHost rules host = host) {port : Option Nat}
    (inRange : ∀ number, port = some number → 1 ≤ number ∧ number ≤ 65535) :
    lookupNames rules addressVersion
        (some (String.ofList (HostSpecification.named user host port).text)) none none none =
      .ok ⟨some (String.ofList host), user.map String.ofList, port.map Port.number⟩ := by
  have plainRest := all_portText plainHost port
  have noAt : '@' ∉ host ++ HostSpecification.portText port := Url.notMem_of_isHost plainRest rfl
  have shape : (HostSpecification.named user host port).text =
      HostSpecification.userText user ++ (host ++ HostSpecification.portText port) :=
    List.append_assoc _ _ _
  rw [shape]
  by_cases marked :
    '@' ∈ HostSpecification.userText user ++ (host ++ HostSpecification.portText port) ∨
      ':' ∈ HostSpecification.userText user ++ (host ++ HostSpecification.portText port)
  · have hostname : Url.hostname rules ⟨"ssh".toList, HostSpecification.userText user ++
        (host ++ HostSpecification.portText port), [], [], [], []⟩ = some host := by
      unfold Url.hostname
      dsimp only
      rw [splitUser_userText noAt]
      dsimp only
      rw [splitPort_portText plainHost noColon, if_neg nonempty, lower]
    rw [lookupNames_marked marked,
      getSshHostUrl_plain plainUser plainRest
        (rejects_named others plainUser plainHost noColon marked)]
    dsimp only
    rw [choosePort_plain noAt, splitPort_portText plainHost noColon, readPort inRange]
    dsimp only
    rw [hostname, username_plain plainUser noAt, Option.map_some,
      pyOr_truthy (truthy_ofList nonempty), pyOr_user plainUser, pyOr_port inRange,
      Option.or_none, Option.or_none]
  · obtain ⟨noUser, noPort⟩ := not_or.mp marked
    have userNone : user = none := by
      cases user with
      | none => rfl
      | some name =>
          have inUser : '@' ∈ (name ++ ['@']) ++ (host ++ HostSpecification.portText port) := by
            rw [List.mem_append, List.mem_append]
            exact Or.inl (Or.inr List.mem_cons_self)
          exact absurd inUser noUser
    have portNone : port = none := by
      cases port with
      | none => rfl
      | some number =>
          have inPort : ':' ∈ HostSpecification.userText user ++
              (host ++ ':' :: Nat.toDigits 10 number) :=
            List.mem_append_right _ (List.mem_append_right _ List.mem_cons_self)
          exact absurd inPort noPort
    unfold lookupNames
    dsimp only
    rw [Option.getD_some, String.toList_ofList, if_neg marked, pyOr_none, userNone, portNone]
    change Except.ok (LookupNames.mk (some (String.ofList ([] ++ (host ++ [])))) none none) = _
    rw [List.append_nil, List.nil_append]
    rfl

/-- The address of a specification is put in brackets. -/
theorem lookupNames_ipv6 {address : Text} (plainAddress : address.all Url.isHostCharacter = true)
    (colons : 2 ≤ address.count ':') (version : addressVersion address = .ok 6)
    (bracketed : rules.isAddress address = true) :
    lookupNames rules addressVersion
        (some (String.ofList (HostSpecification.ipv6 none address).text)) none none none =
      .ok ⟨some (String.ofList (Url.lowerHost rules address)), none, none⟩ := by
  have colon : ':' ∈ address := by
    rw [← List.count_pos_iff]
    omega
  have nonempty : address ≠ [] := List.ne_nil_of_mem colon
  have notMem : ∀ mark, Url.isHostCharacter mark = false → mark ∉ address :=
    fun mark noHost => Url.notMem_of_isHost plainAddress noHost
  have plain : ('[' :: (address ++ [']'])).all Url.isNetlocCharacter = true := by
    rw [List.all_cons, List.all_append, Url.plain_of_isHost plainAddress]
    rfl
  have inBrackets : Url.bracketedHost ('[' :: (address ++ [']'])) = address := by
    have opened : Url.splitMark '[' ('[' :: (address ++ [']'])) = ([], address ++ [']']) :=
      Url.splitMark_append (address ++ [']']) List.not_mem_nil
    have closed : Url.splitMark ']' (address ++ [']']) = (address, []) :=
      Url.splitMark_append [] (notMem ']' rfl)
    unfold Url.bracketedHost
    rw [opened, closed]
  have checked : Url.checkNetloc rules ('[' :: (address ++ [']'])) = .ok () := by
    unfold Url.checkNetloc
    rw [inBrackets, if_neg (by simp), if_neg fun both => both.2 bracketed,
      if_neg fun both => both.1 (Url.isAscii_netloc plain)]
  have noAt : '@' ∉ '[' :: (address ++ [']']) := by
    rw [List.mem_cons, List.mem_append, List.mem_singleton, not_or, not_or]
    exact ⟨by decide, notMem '@' rfl, by decide⟩
  have url : getSshHostUrl rules addressVersion address =
      .ok ⟨"ssh".toList, '[' :: (address ++ [']']), [], [], [], []⟩ := by
    unfold getSshHostUrl sshUrl
    rw [version]
    dsimp only
    rw [if_pos rfl, Url.parse_netloc isLowerScheme_ssh plain checked]
    rfl
  have hostname : Url.hostname rules
      ⟨"ssh".toList, '[' :: (address ++ [']']), [], [], [], []⟩ =
      some (Url.lowerHost rules address) := by
    unfold Url.hostname
    dsimp only
    rw [Url.splitUser_absent noAt, Url.splitPort_bracketed (notMem ']' rfl), if_neg nonempty]
  have username : Url.username ⟨"ssh".toList, '[' :: (address ++ [']']), [], [], [], []⟩ = none := by
    unfold Url.username
    dsimp only
    rw [Url.splitUser_absent noAt]
    rfl
  have port : choosePort rules ⟨"ssh".toList, '[' :: (address ++ [']']), [], [], [], []⟩ none =
      .ok none := by
    have noPort : ¬truthy (none : Option Port) = true := Bool.false_ne_true
    unfold choosePort Url.port
    dsimp only
    rw [if_neg noPort, Url.splitUser_absent noAt, Url.splitPort_bracketed (notMem ']' rfl)]
    rfl
  change lookupNames rules addressVersion (some (String.ofList address)) none none none = _
  rw [lookupNames_marked (Or.inr colon), url]
  dsimp only
  rw [port]
  dsimp only
  rw [hostname, username, Option.map_some,
    pyOr_truthy (truthy_ofList (lowerHost_ne_nil plainAddress nonempty))]
  rfl

/-- With a user the address stays without brackets, and its first colon is taken for the port's. -/
theorem lookupNames_userIpv6 (takesFirst : rules.portColon = .first)
    (others : RejectsOthers addressVersion) {name address : Text}
    (plainUser : PlainUser (some name)) (plainAddress : address.all Url.isHostCharacter = true)
    (colons : 2 ≤ address.count ':') :
    lookupNames rules addressVersion
        (some (String.ofList (HostSpecification.ipv6 (some name) address).text)) none none none =
      .error "ValueError" := by
  have noAt : '@' ∉ address := Url.notMem_of_isHost plainAddress rfl
  have hasAt : '@' ∈ HostSpecification.userText (some name) ++ address := by
    change '@' ∈ (name ++ ['@']) ++ address
    rw [List.mem_append, List.mem_append]
    exact Or.inl (Or.inr List.mem_cons_self)
  have noSlash : '/' ∉ HostSpecification.userText (some name) ++ address := by
    rw [List.mem_append, not_or]
    exact ⟨notMem_userText plainUser rfl (by decide), Url.notMem_of_isHost plainAddress rfl⟩
  have inPort : ':' ∈ (Url.splitPort rules.portColon address).2 := by
    have colon : ':' ∈ address := by
      rw [← List.count_pos_iff]
      omega
    obtain ⟨left, right, rfl, absent⟩ := List.eq_append_cons_of_mem colon
    have split : Url.splitPort .first (left ++ ':' :: right) = (left, right) := by
      unfold Url.splitPort
      rw [if_neg (Url.notMem_of_isHost plainAddress rfl)]
      exact Url.splitMark_append right absent
    rw [List.count_append, List.count_eq_zero_of_not_mem absent, List.count_cons_self] at colons
    rw [takesFirst, split]
    dsimp only
    rw [← List.count_pos_iff]
    omega
  change lookupNames rules addressVersion
    (some (String.ofList (HostSpecification.userText (some name) ++ address))) none none none = _
  rw [lookupNames_marked (Or.inl hasAt),
    getSshHostUrl_plain plainUser plainAddress (others _ noSlash (Or.inl hasAt))]
  dsimp only
  rw [choosePort_plain noAt, Url.parsePort_colon inPort]

end Names

/-! ### What outranks what -/

/-- The number that a port stands for. -/
def Port.Denotes : Port → Nat → Prop
  | .number value, denoted => value = denoted
  | .text value, denoted => value.toList ≠ [] ∧ value.toList.all Text.isDecimal = true ∧
      Text.ofDigits value.toList = denoted

/-- One port, which may be given as a number and as a text. -/
def SamePort (left right : Option Port) : Prop :=
  left = right ∨ ∃ port other number, left = some port ∧ right = some other ∧
    port.Denotes number ∧ other.Denotes number

section Ranking

variable {α : Type} [Truthy α] {same : Option α → Option α → Prop}

/-- A given value is set by default: it outranks the configured one only where there is none. -/
theorem ranked_iff (reflexive : ∀ value, same value value) {given configured default : Option α}
    (isTrue : ∀ value, given = some value → truthy given = true) :
    same (pyOr (configured.or given) default) (pyOr given (pyOr configured default)) ↔
      given = none ∨ configured = none ∨ same (pyOr configured default) given := by
  cases given with
  | none =>
      rw [Option.or_none, pyOr_none]
      exact ⟨fun _ => Or.inl rfl, fun _ => reflexive _⟩
  | some value =>
      have holds := isTrue value rfl
      rw [pyOr_truthy holds]
      cases configured with
      | none =>
          rw [Option.none_or, pyOr_truthy holds]
          exact ⟨fun _ => Or.inr (Or.inl rfl), fun _ => reflexive _⟩
      | some other =>
          rw [Option.some_or]
          constructor
          · intro holdsSame
            exact Or.inr (Or.inr holdsSame)
          · rintro (isNone | isNone | holdsSame)
            · cases isNone
            · cases isNone
            · exact holdsSame

end Ranking

section Verdict

variable (rules : Url.Rules) (addressVersion : Text → Except AddressError Nat)
  (entries : String → FileEntries) (default : HostDefaults)

/-- The specification comes before the files and the files before the defaults, but the host name
of the files comes first. -/
structure Ranked (specification : HostSpecification) (config : HostConfig) : Prop where
  hostname : config.hostname =
    some ((entries (String.ofList (specification.host rules))).hostname.getD
      (String.ofList (specification.host rules)))
  username : config.username = pyOr (specification.user.map String.ofList)
    (pyOr (entries (String.ofList (specification.host rules))).user default.username)
  port : SamePort config.port (pyOr (specification.port.map .number)
    (pyOr ((entries (String.ofList (specification.host rules))).port.map .text)
      (default.port.map .text)))

/-- What is given is not in the files, or nothing else than what the files have. -/
structure Unchallenged (specification : HostSpecification) : Prop where
  readable : ∀ name address, specification ≠ .ipv6 (some name) address
  username : specification.user.map String.ofList = none ∨
    (entries (String.ofList (specification.host rules))).user = none ∨
    pyOr (entries (String.ofList (specification.host rules))).user default.username =
      specification.user.map String.ofList
  port : specification.port.map Port.number = none ∨
    (entries (String.ofList (specification.host rules))).port.map Port.text = none ∨
    SamePort (pyOr ((entries (String.ofList (specification.host rules))).port.map .text)
      (default.port.map .text)) (specification.port.map .number)

variable {rules addressVersion entries default}

/-- The properties of a configuration, from the names that were read. -/
theorem sshHostConfig_eq {host hostname : String} {username : Option String} {port : Option Port}
    (names : lookupNames rules addressVersion (some host) none none none =
      .ok ⟨some hostname, username, port⟩)
    (named : truthy (some hostname) = true)
    (isUser : ∀ value, username = some value → truthy username = true)
    (isPort : ∀ value, port = some value → truthy port = true) :
    sshHostConfig rules addressVersion entries default host =
      .ok ⟨some ((entries hostname).hostname.getD hostname),
        pyOr (((entries hostname).port.map .text).or port) (default.port.map .text),
        pyOr ((entries hostname).user.or username) default.username⟩ := by
  have setGiven : ∀ {α : Type} [Truthy α] (value given : Option α),
      (∀ other, given = some other → truthy given = true) →
      setDefault value given = value.or given := by
    intro α _ value given isGiven
    unfold setDefault
    cases given with
    | none =>
        rw [Option.or_none]
        exact ite_self _
    | some other => exact if_pos (isGiven other rfl)
  have isTrue : truthy hostname = true := named
  unfold sshHostConfig lookup
  rw [names]
  dsimp only
  rw [if_pos isTrue]
  unfold SshHostConfig.properties SshHostConfig.hostname SshHostConfig.port SshHostConfig.username
    configLookup
  simp only [Except.map, setGiven _ _ isUser, setGiven _ _ isPort,
    setGiven _ (some hostname) fun _ _ => named, Option.some_or]

theorem ranked_properties_iff {specification : HostSpecification}
    (isUser : ∀ value, specification.user.map String.ofList = some value →
      truthy (specification.user.map String.ofList) = true)
    (isPort : ∀ value, specification.port.map Port.number = some value →
      truthy (specification.port.map Port.number) = true)
    (readable : ∀ name address, specification ≠ .ipv6 (some name) address) :
    Ranked rules entries default specification
        ⟨some ((entries (String.ofList (specification.host rules))).hostname.getD
            (String.ofList (specification.host rules))),
          pyOr (((entries (String.ofList (specification.host rules))).port.map .text).or
            (specification.port.map .number)) (default.port.map .text),
          pyOr ((entries (String.ofList (specification.host rules))).user.or
            (specification.user.map String.ofList)) default.username⟩ ↔
      Unchallenged rules entries default specification := by
  constructor
  · intro ranked
    exact ⟨readable, (ranked_iff (fun _ => rfl) isUser).mp ranked.username,
      (ranked_iff (fun _ => Or.inl rfl) isPort).mp ranked.port⟩
  · intro unchallenged
    exact ⟨rfl, (ranked_iff (fun _ => rfl) isUser).mpr unchallenged.username,
      (ranked_iff (fun _ => Or.inl rfl) isPort).mpr unchallenged.port⟩

/-- A configuration that is looked up, and what is asked of it. -/
def LooksUp (found : Except String HostConfig) (asked : HostConfig → Prop) : Prop :=
  ∃ config, found = .ok config ∧ asked config

theorem looksUp_ok_iff {config : HostConfig} {asked : HostConfig → Prop} :
    LooksUp (.ok config) asked ↔ asked config := by
  constructor
  · rintro ⟨other, same, holds⟩
    cases same
    exact holds
  · intro holds
    exact ⟨config, rfl, holds⟩

theorem sshHostConfig_ranked_iff (takesFirst : rules.portColon = .first)
    (others : RejectsOthers addressVersion) {specification : HostSpecification}
    (wellFormed : specification.WellFormed rules addressVersion) :
    LooksUp (sshHostConfig rules addressVersion entries default (String.ofList specification.text))
        (Ranked rules entries default specification) ↔
      Unchallenged rules entries default specification := by
  cases wellFormed with
  | named user host port plainUser nonempty plainHost noColon lower portInRange =>
      have isUser : ∀ value, user.map String.ofList = some value →
          truthy (user.map String.ofList) = true := by
        intro value given
        cases user with
        | none => cases given
        | some name => exact truthy_ofList (plainUser name rfl).1
      have isPort : ∀ value, port.map Port.number = some value →
          truthy (port.map Port.number) = true := by
        intro value given
        cases port with
        | none => cases given
        | some number => exact truthy_number (portInRange number rfl).1
      rw [sshHostConfig_eq (lookupNames_named others plainUser nonempty plainHost noColon lower
        portInRange) (truthy_ofList nonempty) isUser isPort, looksUp_ok_iff]
      exact @ranked_properties_iff rules entries default (.named user host port) isUser isPort
        (fun _ _ same => (by cases same))
  | ipv6 user address plainUser plainAddress colons version bracketed =>
      cases user with
      | none =>
          have nonempty : address ≠ [] := by
            rintro rfl
            rw [List.count_nil] at colons
            omega
          have noValue : ∀ {β : Type} [Truthy β] (value : β), (none : Option β) = some value →
              truthy (none : Option β) = true := by
            intro β _ value given
            cases given
          rw [sshHostConfig_eq (lookupNames_ipv6 plainAddress colons version bracketed)
            (truthy_ofList (lowerHost_ne_nil plainAddress nonempty)) noValue noValue,
            looksUp_ok_iff]
          exact @ranked_properties_iff rules entries default (.ipv6 none address) noValue noValue
            (fun _ _ same => (by cases same))
      | some name =>
          have raises : sshHostConfig rules addressVersion entries default
              (String.ofList (HostSpecification.ipv6 (some name) address).text) =
                .error "ValueError" := by
            unfold sshHostConfig lookup
            rw [lookupNames_userIpv6 takesFirst others plainUser plainAddress colons]
            rfl
          rw [raises]
          constructor
          · rintro ⟨config, isError, -⟩
            cases isError
          · intro unchallenged
            exact absurd rfl (unchallenged.readable name address)

/-- The key of a client that is asked for by its host only. -/
theorem hostKey_ofHost (world : World) (name : String) :
    world.hostKey (.ofHost name) =
      (world.hostConfig name none).map fun config =>
        ⟨config.hostname, config.port, config.username, .none⟩ := by
  have keys : (Arguments.ofHost name).hostKey = fun config =>
      ⟨config.hostname, config.port, config.username, .none⟩ := by
    funext config
    unfold Arguments.hostKey Arguments.ofHost
    dsimp only
    rw [pyOr_none, pyOr_none, pyOr_none]
  unfold World.hostKey
  rw [keys]
  rfl

/-- What the key of a client says of its host. -/
def HostKey.config (key : HostKey) : HostConfig := ⟨key.hostname, key.port, key.username⟩

theorem hostKey_asked_iff (world : World) (name : String) (asked : HostConfig → Prop) :
    LooksUp ((world.hostKey (.ofHost name)).map HostKey.config) asked ↔
      LooksUp (world.hostConfig name none) asked := by
  rw [hostKey_ofHost]
  cases world.hostConfig name none with
  | error error => rfl
  | ok config => rfl

end Verdict

/-- **The user and the port of a specification win, in the configuration that is looked up and for
the client of a proxy jump, where the files do not challenge them and an address of IPv6 stands for
itself.** -/
theorem lookup_ranked_iff (rules : Url.Rules) (addressVersion : Text → Except AddressError Nat)
    (entries : String → FileEntries) (default : HostDefaults)
    (proxyJump : String → Option (List String) → Except String (Option String))
    (construct : ClientRecord → Except String Unit) (specification : HostSpecification)
    (takesFirst : rules.portColon = .first) (others : RejectsOthers addressVersion)
    (wellFormed : specification.WellFormed rules addressVersion) :
    (LooksUp (sshHostConfig rules addressVersion entries default (String.ofList specification.text))
        (Ranked rules entries default specification) ↔
      Unchallenged rules entries default specification) ∧
    (LooksUp (((lookupWorld rules addressVersion entries default proxyJump construct).hostKey
          (.ofHost (String.ofList specification.text))).map HostKey.config)
        (Ranked rules entries default specification) ↔
      Unchallenged rules entries default specification) := by
  have looked := @sshHostConfig_ranked_iff rules addressVersion entries default takesFirst others
    specification wellFormed
  refine ⟨looked, ?_⟩
  rw [hostKey_asked_iff]
  exact looked

/-- `netaddr` with one address. -/
def loopbackVersion (text : Text) : Except AddressError Nat :=
  if text = "::1".toList then .ok 6 else .error .addrFormatError

theorem loopbackVersion_rejects : RejectsOthers loopbackVersion := by
  intro text _ marked
  unfold loopbackVersion
  by_cases isLoopback : text = "::1".toList
  · rw [isLoopback] at marked
    exact absurd marked (by decide)
  · exact if_neg isLoopback

/-- The proxy jump `admin@proxy.example.org:2222`. -/
def proxySpecification : HostSpecification :=
  .named (some "admin".toList) "proxy.example.org".toList (some 2222)

theorem proxySpecification_wellFormed :
    proxySpecification.WellFormed Url.libraryRules loopbackVersion := by
  apply HostSpecification.WellFormed.named
  · intro name same
    cases same
    decide
  · decide
  · decide
  · decide
  · decide
  · intro number same
    cases same
    decide

/-- The files have another host name, and the specification gives the user and the port. -/
theorem lookup_ranked_proxy :
    LooksUp (sshHostConfig Url.libraryRules loopbackVersion
        (fun _ => ⟨some "192.0.2.7", none, none, none⟩) ⟨some "22", some "root"⟩
        (String.ofList proxySpecification.text))
      (Ranked Url.libraryRules (fun _ => ⟨some "192.0.2.7", none, none, none⟩)
        ⟨some "22", some "root"⟩ proxySpecification) := by
  apply (lookup_ranked_iff Url.libraryRules loopbackVersion
    (fun _ => ⟨some "192.0.2.7", none, none, none⟩) ⟨some "22", some "root"⟩
    (fun _ _ => .ok none) (fun _ => .ok ()) proxySpecification rfl loopbackVersion_rejects
    proxySpecification_wellFormed).1.mpr
  exact ⟨fun _ _ same => (by cases same), Or.inr (Or.inl rfl), Or.inr (Or.inl rfl)⟩

/-- The files have a user for the host, which the specification's does not outrank. -/
theorem lookup_outranked :
    ¬LooksUp (sshHostConfig Url.libraryRules loopbackVersion
        (fun _ => ⟨none, some "cloud-user", none, none⟩) ⟨none, none⟩
        (String.ofList proxySpecification.text))
      (Ranked Url.libraryRules (fun _ => ⟨none, some "cloud-user", none, none⟩) ⟨none, none⟩
        proxySpecification) := by
  intro looked
  have unchallenged := (sshHostConfig_ranked_iff rfl loopbackVersion_rejects
    proxySpecification_wellFormed).mp looked
  exact absurd unchallenged.username (by decide)

end Tobiko.Shell.Ssh
