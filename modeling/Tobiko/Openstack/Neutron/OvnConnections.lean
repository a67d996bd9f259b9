import Mathlib.Data.List.DropRight
import Tobiko.Foundation.FirstOccurrences
import Tobiko.Foundation.Text
import Tobiko.Foundation.Url

/-!
Contract: the addresses of an OVN connection string, as `parse_ips_from_db_connections` reads them.

Owns: the loop over the parts with its reference port and protocol, the strings that are well formed,
and exactly for which strings the parser returns what these say and raises its own error otherwise.

Does not own: netaddr, which is a parameter.
-/

namespace Tobiko.Openstack.Neutron

open Tobiko.Foundation

inductive ConnectionError where
  | invalidDBConnString (message : Text)
  | addrFormatError
  deriving DecidableEq

/-! ### The parser -/

structure ConnectionFields where
  protocol : Text
  tmpAddr : Text
  port : Text
  deriving DecidableEq

/-- `substr.split(':', 1)` and `con.rsplit(':', 1)` -/
def splitConnection (substr : Text) : Option ConnectionFields :=
  match Text.splitFirst ':' substr with
  | none => none
  | some (protocol, con) =>
      (Text.splitLast ':' con).map fun parts => ⟨protocol, parts.1, parts.2⟩

def unparsedMessage (substr conStr : Text) : Text :=
  "Fail to parse \"".toList ++ substr ++ "\" substring of \"".toList ++ conStr ++
    "\" OVN DB connection string".toList

def differentMessage (conStr : Text) : Text :=
  "Ports or protocols are not identical for OVN DBconnections: ".toList ++ conStr

def invalidAddressMessage (tmpAddr conStr : Text) : Text :=
  "Invalid IP address \"".toList ++ tmpAddr ++ "\" in \"".toList ++ conStr ++ "\"".toList

/-- The variables of the loop. -/
structure ConnectionState (Address : Type) where
  addrs : List Address
  refPort : Text
  refProtocol : Text

/-- The reference is the first value that is not empty. -/
def reference (ref value : Text) : Text := if ref = [] then value else ref

section Parser

variable {Address : Type} (ipAddress : Text → Except AddressError Address) (conStr : Text)

/-- The end of the body: the address of a part that agrees with the others. -/
def parseAddress (state : ConnectionState Address) (fields : ConnectionFields) :
    Except ConnectionError (ConnectionState Address) :=
  match ipAddress (Text.stripBrackets fields.tmpAddr) with
  | .ok addr => .ok { state with addrs := state.addrs ++ [addr] }
  | .error .valueError =>
      .error (.invalidDBConnString (invalidAddressMessage fields.tmpAddr conStr))
  | .error .addrFormatError => .error .addrFormatError

/-- The body of the loop over the parts. -/
def parseConnection (state : ConnectionState Address) (substr : Text) :
    Except ConnectionError (ConnectionState Address) :=
  match splitConnection substr with
  | none => .error (.invalidDBConnString (unparsedMessage substr conStr))
  | some fields =>
      let refPort := reference state.refPort fields.port
      let refProtocol := reference state.refProtocol fields.protocol
      if fields.protocol ≠ refProtocol ∨ fields.port ≠ refPort then
        .error (.invalidDBConnString (differentMessage conStr))
      else parseAddress ipAddress conStr ⟨state.addrs, refPort, refProtocol⟩ fields

def parseIpsFromDbConnections : Except ConnectionError (List Address × Text) :=
  match (conStr.splitOn ',').foldlM (parseConnection ipAddress conStr) ⟨[], [], []⟩ with
  | .error error => .error error
  | .ok state => .ok (state.addrs, state.refPort)

end Parser

/-! ### Well formed strings -/

section WellFormed

variable {Address : Type} (ipAddress : Text → Except AddressError Address)
  (isIpv6 : Address → Bool)

/-- A valid address, in a pair of brackets only where it is one of IPv6. -/
def IsAddress (text : Text) (addr : Address) : Prop :=
  ∃ inner, Text.stripBrackets inner = inner ∧ ipAddress inner = .ok addr ∧
    (text = inner ∨ (isIpv6 addr = true ∧ text = '[' :: (inner ++ [']'])))

/-- `protocol:address:port` -/
structure IsConnection (protocol port substr : Text) (addr : Address) : Prop where
  plainProtocol : ':' ∉ protocol
  plainPort : ':' ∉ port
  spelled : ∃ tmpAddr, substr = protocol ++ ':' :: (tmpAddr ++ ':' :: port) ∧
    IsAddress ipAddress isIpv6 tmpAddr addr

/-- Comma separated connections with one protocol and one port. -/
def WellFormedConnections (conStr : Text) (addrs : List Address) (port : Text) : Prop :=
  ∃ protocol, List.Forall₂ (IsConnection ipAddress isIpv6 protocol port) (conStr.splitOn ',') addrs

/-- What the parser is for. -/
structure ParsesExactly (conStr : Text) : Prop where
  returns : ∀ addrs port, parseIpsFromDbConnections ipAddress conStr = .ok (addrs, port) ↔
    WellFormedConnections ipAddress isIpv6 conStr addrs port
  raises : (¬∃ addrs port, WellFormedConnections ipAddress isIpv6 conStr addrs port) →
    ∃ message, parseIpsFromDbConnections ipAddress conStr = .error (.invalidDBConnString message)

end WellFormed

/-! ### Runs of the loop -/

/-- The first value that is not empty. -/
def firstValue (values : List Text) : Text := values.foldl reference []

section Runs

variable {Address : Type} (ipAddress : Text → Except AddressError Address)

/-- The part is read and agrees with the parts before it, so that its address is looked at. -/
structure Agrees (before : List ConnectionFields) (substr : Text) (fields : ConnectionFields) :
    Prop where
  split : splitConnection substr = some fields
  protocol : fields.protocol = firstValue (before.map ConnectionFields.protocol ++
    [fields.protocol])
  port : fields.port = firstValue (before.map ConnectionFields.port ++ [fields.port])

/-- Parts that the loop goes through. -/
inductive Passed : List Text → List ConnectionFields → List Address → Prop where
  | nil : Passed [] [] []
  | concat {substrs : List Text} {before : List ConnectionFields} {addrs : List Address}
      {substr : Text} {fields : ConnectionFields} {addr : Address}
      (passed : Passed substrs before addrs) (agrees : Agrees before substr fields)
      (valid : ipAddress (Text.stripBrackets fields.tmpAddr) = .ok addr) :
      Passed (substrs ++ [substr]) (before ++ [fields]) (addrs ++ [addr])

variable {ipAddress} {conStr : Text}

theorem firstValue_concat (values : List Text) (value : Text) :
    firstValue (values ++ [value]) = reference (firstValue values) value := by
  rw [firstValue, List.foldl_append]
  rfl

/-- The variables behind parts that are gone through. -/
def stateOf (fields : List ConnectionFields) (addrs : List Address) : ConnectionState Address :=
  ⟨addrs, firstValue (fields.map ConnectionFields.port),
    firstValue (fields.map ConnectionFields.protocol)⟩

theorem parseConnection_agrees {before : List ConnectionFields} {addrs : List Address}
    {substr : Text} {fields : ConnectionFields} (agrees : Agrees before substr fields) :
    parseConnection ipAddress conStr (stateOf before addrs) substr =
      parseAddress ipAddress conStr (stateOf (before ++ [fields]) addrs) fields := by
  have sameProtocol := agrees.protocol
  have samePort := agrees.port
  rw [firstValue_concat] at sameProtocol samePort
  unfold parseConnection
  rw [agrees.split]
  dsimp only [stateOf]
  rw [← sameProtocol, ← samePort, if_neg (by simp), List.map_append, List.map_append,
    List.map_singleton, List.map_singleton, firstValue_concat, firstValue_concat, ← sameProtocol,
    ← samePort]

/-- How a run ends: all parts are gone through, or the first one that is not decides. -/
inductive Ended (ipAddress : Text → Except AddressError Address) (substrs : List Text) :
    Except ConnectionError (ConnectionState Address) → Prop where
  | passed {fields : List ConnectionFields} {addrs : List Address}
      (all : Passed ipAddress substrs fields addrs) :
      Ended ipAddress substrs (.ok (stateOf fields addrs))
  | invalid (message : Text) : Ended ipAddress substrs (.error (.invalidDBConnString message))
  | addrFormatError {before after : List Text} {substr : Text}
      {passedFields : List ConnectionFields} {addrs : List Address} {fields : ConnectionFields}
      (split : substrs = before ++ substr :: after)
      (passed : Passed ipAddress before passedFields addrs)
      (agrees : Agrees passedFields substr fields)
      (malformed : ipAddress (Text.stripBrackets fields.tmpAddr) = .error .addrFormatError) :
      Ended ipAddress substrs (.error .addrFormatError)

theorem foldlM_ended {done rest : List Text} {fields : List ConnectionFields}
    {addrs : List Address} (passed : Passed ipAddress done fields addrs) :
    Ended ipAddress (done ++ rest)
      (rest.foldlM (parseConnection ipAddress conStr) (stateOf fields addrs)) := by
  induction rest generalizing done fields addrs with
  | nil =>
      rw [List.append_nil]
      exact .passed passed
  | cons substr rest inductionHypothesis =>
      rw [List.foldlM_cons]
      by_cases agreement : ∃ next, Agrees fields substr next
      · obtain ⟨next, agrees⟩ := agreement
        rw [parseConnection_agrees agrees, parseAddress]
        cases looked : ipAddress (Text.stripBrackets next.tmpAddr) with
        | ok addr =>
            have later := inductionHypothesis (.concat passed agrees looked)
            rw [List.append_assoc, List.singleton_append] at later
            exact later
        | error error =>
            cases error with
            | addrFormatError => exact .addrFormatError rfl passed agrees looked
            | valueError => exact .invalid _
      · have failed : ∃ message, parseConnection ipAddress conStr (stateOf fields addrs) substr =
            .error (.invalidDBConnString message) := by
          unfold parseConnection
          cases split : splitConnection substr with
          | none => exact ⟨_, rfl⟩
          | some next =>
              dsimp only [stateOf]
              rw [if_pos]
              · exact ⟨_, rfl⟩
              · by_contra same
                rw [not_or, not_not, not_not] at same
                refine agreement ⟨next, split, ?_, ?_⟩
                · rw [firstValue_concat]
                  exact same.1
                · rw [firstValue_concat]
                  exact same.2
        obtain ⟨message, failed⟩ := failed
        rw [failed]
        exact .invalid message

end Runs

/-! ### What is accepted -/

section Accepted

variable {Address : Type} {ipAddress : Text → Except AddressError Address}
  {isIpv6 : Address → Bool} {conStr : Text}

theorem IsConnection.fields {protocol port substr : Text} {addr : Address}
    (connection : IsConnection ipAddress isIpv6 protocol port substr addr) :
    ∃ tmpAddr, splitConnection substr = some ⟨protocol, tmpAddr, port⟩ ∧
      IsAddress ipAddress isIpv6 tmpAddr addr := by
  obtain ⟨tmpAddr, rfl, isAddress⟩ := connection.spelled
  refine ⟨tmpAddr, ?_, isAddress⟩
  unfold splitConnection
  rw [Text.splitFirst_append _ connection.plainProtocol]
  dsimp only
  rw [Text.splitLast_append _ connection.plainPort]
  rfl

theorem IsAddress.strip {text : Text} {addr : Address}
    (isAddress : IsAddress ipAddress isIpv6 text addr) :
    ipAddress (Text.stripBrackets text) = .ok addr := by
  obtain ⟨inner, stripped, valid, same | ⟨-, rfl⟩⟩ := isAddress
  · rw [same, stripped]
    exact valid
  · rw [Text.stripBrackets_pair, stripped]
    exact valid

theorem foldlM_connections {protocol port : Text} {substrs : List Text} {addrs : List Address}
    (connections : List.Forall₂ (IsConnection ipAddress isIpv6 protocol port) substrs addrs)
    (earlier : List Address) :
    substrs.foldlM (parseConnection ipAddress conStr) ⟨earlier, port, protocol⟩ =
      .ok ⟨earlier ++ addrs, port, protocol⟩ := by
  induction connections generalizing earlier with
  | nil => rw [List.append_nil]; rfl
  | @cons substr addr substrs addrs first _ inductionHypothesis =>
      obtain ⟨tmpAddr, split, isAddress⟩ := first.fields
      have kept : ∀ value : Text, reference value value = value := by
        intro value
        unfold reference
        split
        · rfl
        · rfl
      have parsed : parseConnection ipAddress conStr ⟨earlier, port, protocol⟩ substr =
          .ok ⟨earlier ++ [addr], port, protocol⟩ := by
        unfold parseConnection
        rw [split]
        dsimp only
        rw [kept, kept, if_neg (by simp), parseAddress, isAddress.strip]
      rw [List.foldlM_cons, parsed]
      change List.foldlM _ _ _ = _
      rw [inductionHypothesis, List.append_assoc, List.singleton_append]

theorem parse_wellFormed {addrs : List Address} {port : Text}
    (wellFormed : WellFormedConnections ipAddress isIpv6 conStr addrs port) :
    parseIpsFromDbConnections ipAddress conStr = .ok (addrs, port) := by
  obtain ⟨protocol, connections⟩ := wellFormed
  have folded : (conStr.splitOn ',').foldlM (parseConnection ipAddress conStr) ⟨[], [], []⟩ =
      .ok ⟨addrs, port, protocol⟩ := by
    cases parts : conStr.splitOn ',' with
    | nil => exact absurd parts (List.splitOn_ne_nil _ _)
    | cons substr substrs =>
        -- With the references of the first part, empty ones are references as any others.
        have begun : parseConnection ipAddress conStr ⟨[], [], []⟩ substr =
            parseConnection ipAddress conStr ⟨[], port, protocol⟩ substr := by
          rw [parts] at connections
          cases connections with
          | cons first _ =>
              obtain ⟨tmpAddr, split, -⟩ := first.fields
              unfold parseConnection
              rw [split]
              dsimp only
              have same : ∀ value : Text, reference value value = reference [] value := by
                intro value
                unfold reference
                split
                · rfl
                · rfl
              rw [same, same]
        rw [parts] at connections
        have all := @foldlM_connections _ _ _ conStr _ _ _ _ connections []
        rw [List.foldlM_cons] at all ⊢
        rw [begun]
        exact all
  unfold parseIpsFromDbConnections
  rw [folded]

theorem foldl_reference {value : Text} (nonempty : value ≠ []) (values : List Text) :
    values.foldl reference value = value := by
  induction values with
  | nil => rfl
  | cons next values inductionHypothesis =>
      rw [List.foldl_cons, reference, if_neg nonempty]
      exact inductionHypothesis

theorem firstValue_cons {value : Text} (nonempty : value ≠ []) (values : List Text) :
    firstValue (value :: values) = value :=
  foldl_reference nonempty values

/-- The values that follow a first one that is not empty are the same. -/
theorem Passed.same {substrs : List Text} {fields : List ConnectionFields} {addrs : List Address}
    (passed : Passed ipAddress substrs fields addrs) {value : ConnectionFields → Text}
    (agrees : ∀ before substr next, Agrees before substr next →
      value next = firstValue (before.map value ++ [value next]))
    {first : ConnectionFields} (isFirst : fields.head? = some first)
    (nonempty : value first ≠ []) : ∀ other ∈ fields, value other = value first := by
  induction passed with
  | nil => cases isFirst
  | @concat substrs before addrs substr next addr passed agreement _ inductionHypothesis =>
      intro other member
      cases before with
      | nil =>
          cases isFirst
          rw [List.mem_singleton.mp member]
      | cons earliest before =>
          cases isFirst
          rcases List.mem_append.mp member with earlier | last
          · exact inductionHypothesis rfl other earlier
          · rw [List.mem_singleton.mp last, agrees _ _ _ agreement, List.map_cons,
              List.cons_append, firstValue_cons nonempty]

variable (ipAddress isIpv6 conStr) in
/-- What the parser relies on: no address that it looks at is malformed, and of a string that it
goes through the first values are empty only where all are, and brackets are a pair around an
address of IPv6. -/
structure ReliedOn : Prop where
  addresses : ∀ {before after : List Text} {substr : Text} {passedFields : List ConnectionFields}
    {addrs : List Address} {fields : ConnectionFields},
    conStr.splitOn ',' = before ++ substr :: after →
    Passed ipAddress before passedFields addrs → Agrees passedFields substr fields →
    ipAddress (Text.stripBrackets fields.tmpAddr) ≠ .error .addrFormatError
  values : ∀ {fields : List ConnectionFields} {addrs : List Address} {first : ConnectionFields},
    Passed ipAddress (conStr.splitOn ',') fields addrs → fields.head? = some first →
    (first.protocol = [] → ∀ other ∈ fields, other.protocol = []) ∧
      (first.port = [] → ∀ other ∈ fields, other.port = [])
  brackets : ∀ {fields : List ConnectionFields} {addrs : List Address},
    Passed ipAddress (conStr.splitOn ',') fields addrs →
    ∀ other ∈ fields, ∀ addr, ipAddress (Text.stripBrackets other.tmpAddr) = .ok addr →
      IsAddress ipAddress isIpv6 other.tmpAddr addr

theorem splitConnection_spec {substr : Text} {fields : ConnectionFields}
    (split : splitConnection substr = some fields) :
    substr = fields.protocol ++ ':' :: (fields.tmpAddr ++ ':' :: fields.port) ∧
      ':' ∉ fields.protocol ∧ ':' ∉ fields.port := by
  unfold splitConnection at split
  cases first : Text.splitFirst ':' substr with
  | none =>
      rw [first] at split
      cases split
  | some parts =>
      obtain ⟨protocol, con⟩ := parts
      rw [first] at split
      obtain ⟨last, splitCon, rfl⟩ := Option.map_eq_some_iff.mp split
      obtain ⟨whole, plainProtocol⟩ := Text.splitFirst_spec first
      obtain ⟨wholeCon, plainPort⟩ := Text.splitLast_spec splitCon
      refine ⟨?_, plainProtocol, plainPort⟩
      rw [whole, wholeCon]

/-- Parts that are gone through with one protocol and one port are well formed. -/
theorem Passed.connections {substrs : List Text} {fields : List ConnectionFields}
    {addrs : List Address} (passed : Passed ipAddress substrs fields addrs) {protocol port : Text}
    (same : ∀ other ∈ fields, other.protocol = protocol ∧ other.port = port)
    (brackets : ∀ other ∈ fields, ∀ addr, ipAddress (Text.stripBrackets other.tmpAddr) = .ok addr →
      IsAddress ipAddress isIpv6 other.tmpAddr addr) :
    List.Forall₂ (IsConnection ipAddress isIpv6 protocol port) substrs addrs := by
  induction passed with
  | nil => exact .nil
  | @concat substrs before addrs substr next addr passed agreement valid inductionHypothesis =>
      apply List.rel_append
      · exact inductionHypothesis
          (fun other member => same other (List.mem_append_left _ member))
          (fun other member => brackets other (List.mem_append_left _ member))
      · have isLast : next ∈ before ++ [next] := List.mem_append_right _ (List.mem_singleton_self _)
        obtain ⟨sameProtocol, samePort⟩ := same next isLast
        obtain ⟨spelled, plainProtocol, plainPort⟩ := splitConnection_spec agreement.split
        rw [sameProtocol, samePort] at spelled
        rw [sameProtocol] at plainProtocol
        rw [samePort] at plainPort
        exact .cons ⟨plainProtocol, plainPort, next.tmpAddr, spelled, brackets next isLast addr valid⟩
          .nil

theorem Passed.length {substrs : List Text} {fields : List ConnectionFields}
    {addrs : List Address} (passed : Passed ipAddress substrs fields addrs) :
    fields.length = substrs.length := by
  induction passed with
  | nil => rfl
  | concat _ _ _ inductionHypothesis =>
      rw [List.length_append, List.length_append, inductionHypothesis]
      rfl

/-- What is gone through is well formed where the parser may rely on it. -/
theorem Passed.wellFormed {fields : List ConnectionFields} {addrs : List Address}
    (passed : Passed ipAddress (conStr.splitOn ',') fields addrs)
    (reliedOn : ReliedOn ipAddress isIpv6 conStr) :
    ∃ port, WellFormedConnections ipAddress isIpv6 conStr addrs port := by
  have someField : fields ≠ [] := by
    intro none_
    have length := passed.length
    rw [none_] at length
    exact List.splitOn_ne_nil ',' conStr (List.length_eq_zero_iff.mp length.symm)
  obtain ⟨first, rest, rfl⟩ := List.exists_cons_of_ne_nil someField
  obtain ⟨protocols, ports⟩ := reliedOn.values passed rfl
  refine ⟨first.port, first.protocol, passed.connections (fun other member => ⟨?_, ?_⟩)
    (reliedOn.brackets passed)⟩
  · by_cases empty : first.protocol = []
    · rw [protocols empty other member, empty]
    · exact passed.same (fun _ _ _ agrees => agrees.protocol) rfl empty other member
  · by_cases empty : first.port = []
    · rw [ports empty other member, empty]
    · exact passed.same (fun _ _ _ agrees => agrees.port) rfl empty other member

theorem Passed.origin {substrs : List Text} {fields : List ConnectionFields}
    {addrs : List Address} (passed : Passed ipAddress substrs fields addrs)
    {other : ConnectionFields} (member : other ∈ fields) :
    ∃ substr ∈ substrs, splitConnection substr = some other := by
  induction passed with
  | nil => cases member
  | @concat substrs before _ substr next _ _ agreement _ inductionHypothesis =>
      rcases List.mem_append.mp member with earlier | last
      · obtain ⟨origin, originMember, split⟩ := inductionHypothesis earlier
        exact ⟨origin, List.mem_append_left _ originMember, split⟩
      · rw [List.mem_singleton.mp last]
        exact ⟨substr, List.mem_append_right _ (List.mem_singleton_self _), agreement.split⟩

/-- What a well formed string says of its parts. -/
theorem WellFormedConnections.fields {addrs : List Address} {port : Text}
    (wellFormed : WellFormedConnections ipAddress isIpv6 conStr addrs port)
    {fields : List ConnectionFields} {others : List Address}
    (passed : Passed ipAddress (conStr.splitOn ',') fields others) :
    ∃ protocol, ∀ other ∈ fields, other.protocol = protocol ∧ other.port = port ∧
      ∃ addr, IsAddress ipAddress isIpv6 other.tmpAddr addr := by
  obtain ⟨protocol, connections⟩ := wellFormed
  refine ⟨protocol, fun other member => ?_⟩
  obtain ⟨substr, substrMember, splitOther⟩ := passed.origin member
  obtain ⟨addr, -, connection⟩ := exists_related connections substrMember
  obtain ⟨tmpAddr, split, isAddress⟩ := connection.fields
  rw [splitOther] at split
  cases split
  exact ⟨rfl, rfl, addr, isAddress⟩

theorem parse_ended :
    Ended ipAddress (conStr.splitOn ',')
      ((conStr.splitOn ',').foldlM (parseConnection ipAddress conStr) ⟨[], [], []⟩) :=
  foldlM_ended Passed.nil

/-- The parser returns what it goes through. -/
theorem parse_passed {fields : List ConnectionFields} {addrs : List Address}
    (folded : (conStr.splitOn ',').foldlM (parseConnection ipAddress conStr) ⟨[], [], []⟩ =
      .ok (stateOf fields addrs)) :
    parseIpsFromDbConnections ipAddress conStr =
      .ok (addrs, firstValue (fields.map ConnectionFields.port)) := by
  unfold parseIpsFromDbConnections
  rw [folded]
  rfl

theorem parse_error {error : ConnectionError}
    (folded : (conStr.splitOn ',').foldlM (parseConnection ipAddress conStr) ⟨[], [], []⟩ =
      .error error) : parseIpsFromDbConnections ipAddress conStr = .error error := by
  unfold parseIpsFromDbConnections
  rw [folded]

/-- The state behind parts that are gone through. -/
theorem foldlM_passed {substrs : List Text} {fields : List ConnectionFields}
    {addrs : List Address} (passed : Passed ipAddress substrs fields addrs) :
    substrs.foldlM (parseConnection ipAddress conStr) ⟨[], [], []⟩ =
      .ok (stateOf fields addrs) := by
  induction passed with
  | nil => rfl
  | concat passed agreement valid inductionHypothesis =>
      rw [List.foldlM_append, inductionHypothesis]
      change List.foldlM _ _ _ = _
      rw [List.foldlM_cons, parseConnection_agrees agreement, parseAddress, valid]
      rfl

theorem ReliedOn.of_exactly (exactly : ParsesExactly ipAddress isIpv6 conStr) :
    ReliedOn ipAddress isIpv6 conStr where
  addresses := by
    intro before after substr passedFields addrs fields split passed agrees malformed
    have raised : parseIpsFromDbConnections ipAddress conStr = .error .addrFormatError := by
      apply parse_error
      rw [split, List.foldlM_append, foldlM_passed passed]
      change List.foldlM _ _ _ = _
      rw [List.foldlM_cons, parseConnection_agrees agrees, parseAddress, malformed]
      rfl
    by_cases wellFormed : ∃ addrs port, WellFormedConnections ipAddress isIpv6 conStr addrs port
    · obtain ⟨others, port, isFormed⟩ := wellFormed
      rw [(exactly.returns others port).mpr isFormed] at raised
      cases raised
    · obtain ⟨message, invalid⟩ := exactly.raises wellFormed
      rw [invalid] at raised
      cases raised
  values := by
    intro fields addrs first passed isFirst
    have wellFormed := (exactly.returns _ _).mp (parse_passed (foldlM_passed passed))
    obtain ⟨protocol, same⟩ := wellFormed.fields passed
    obtain ⟨firstProtocol, firstPort, -⟩ := same first (List.mem_of_mem_head? isFirst)
    refine ⟨fun empty other member => ?_, fun empty other member => ?_⟩
    · rw [(same other member).1, ← firstProtocol, empty]
    · rw [(same other member).2.1, ← firstPort, empty]
  brackets := by
    intro fields addrs passed other member addr valid
    have wellFormed := (exactly.returns _ _).mp (parse_passed (foldlM_passed passed))
    obtain ⟨protocol, same⟩ := wellFormed.fields passed
    obtain ⟨-, -, otherAddr, isAddress⟩ := same other member
    have sameAddr := isAddress.strip
    rw [valid] at sameAddr
    cases sameAddr
    exact isAddress

theorem ParsesExactly.of_reliedOn (reliedOn : ReliedOn ipAddress isIpv6 conStr) :
    ParsesExactly ipAddress isIpv6 conStr := by
  have ended := @parse_ended _ ipAddress conStr
  generalize folded : (conStr.splitOn ',').foldlM (parseConnection ipAddress conStr) ⟨[], [], []⟩ =
    result at ended
  cases ended with
  | @passed fields addrs passed =>
      obtain ⟨port, wellFormed⟩ := passed.wellFormed reliedOn
      have parsed := parse_wellFormed wellFormed
      refine ⟨fun others otherPort => ⟨fun same => ?_, parse_wellFormed⟩, fun none_ => ?_⟩
      · rw [parsed] at same
        cases same
        exact wellFormed
      · exact absurd ⟨addrs, port, wellFormed⟩ none_
  | invalid message =>
      have raised := parse_error folded
      refine ⟨fun addrs port => ⟨fun same => ?_, fun wellFormed => parse_wellFormed wellFormed⟩,
        fun _ => ⟨message, raised⟩⟩
      rw [raised] at same
      cases same
  | addrFormatError split passed agrees malformed =>
      exact absurd malformed (reliedOn.addresses split passed agrees)

/-- **The parser does what it is for exactly on the strings on which it may rely.** -/
theorem parseIpsFromDbConnections_iff :
    ParsesExactly ipAddress isIpv6 conStr ↔ ReliedOn ipAddress isIpv6 conStr :=
  ⟨ReliedOn.of_exactly, ParsesExactly.of_reliedOn⟩

end Accepted

/-! ### Strings that are not parsed so -/

/-- netaddr on three texts. -/
def sampleAddress (text : Text) : Except AddressError Nat :=
  if text = "10.0.0.5".toList then .ok 4
  else if text = "fd00::5".toList then .ok 6
  else .error .addrFormatError

/-- Text that is no address raises netaddr's error, and a port that is missing in the first part
counts as any port. -/
theorem parseIpsFromDbConnections_malformed :
    ¬ParsesExactly sampleAddress (· == 6) "tcp:ovn-db:6641".toList ∧
      ¬ParsesExactly sampleAddress (· == 6) "tcp:10.0.0.5:,tcp:[fd00::5]:6641".toList := by
  constructor
  · intro exactly
    have raised : parseIpsFromDbConnections sampleAddress "tcp:ovn-db:6641".toList =
        .error .addrFormatError := by
      decide +kernel
    by_cases wellFormed : ∃ addrs port, WellFormedConnections sampleAddress (· == 6)
        "tcp:ovn-db:6641".toList addrs port
    · obtain ⟨addrs, port, isFormed⟩ := wellFormed
      rw [(exactly.returns addrs port).mpr isFormed] at raised
      cases raised
    · obtain ⟨message, invalid⟩ := exactly.raises wellFormed
      rw [invalid] at raised
      cases raised
  · intro exactly
    have returned : parseIpsFromDbConnections sampleAddress
        "tcp:10.0.0.5:,tcp:[fd00::5]:6641".toList = .ok ([4, 6], "6641".toList) := by
      decide +kernel
    obtain ⟨protocol, connections⟩ := (exactly.returns _ _).mp returned
    have parts : "tcp:10.0.0.5:,tcp:[fd00::5]:6641".toList.splitOn ',' =
        ["tcp:10.0.0.5:".toList, "tcp:[fd00::5]:6641".toList] := by
      decide +kernel
    rw [parts] at connections
    cases connections with
    | cons first _ =>
        obtain ⟨tmpAddr, split, -⟩ := first.fields
        have otherwise_ : splitConnection "tcp:10.0.0.5:".toList =
            some ⟨"tcp".toList, "10.0.0.5".toList, []⟩ := by
          decide +kernel
        rw [otherwise_] at split
        cases split

end Tobiko.Openstack.Neutron
