import Tobiko.Foundation.Dictionary
import Tobiko.Shell.Ss.Processes

/-!
Contract: one line in the output of ss.

Owns: the columns of a header, `parse_tcp_socket` with the detection of the IP version,
`parse_unix_socket`, and which of their lines raise which error.

Does not own: netaddr, and the loop over the lines.
-/

namespace Tobiko.Shell.Ss

open Tobiko.Foundation Tobiko.Foundation.Text

/-- The names of the columns. -/
abbrev SockHeader := List String

/-- What a text has for a column of the header. -/
def headerColumns : List (Text × String) :=
  [("Netid".toList, "protocol"), ("State".toList, "state"), ("Recv-Q".toList, "recv_q"),
    ("Send-Q".toList, "send_q"), ("Local Address:Port".toList, "local"),
    ("Peer Address:Port".toList, "remote"), ("Process".toList, "process")]

def sockHeader (headerStr : Text) : SockHeader :=
  (headerColumns.filter fun column => contains column.1 headerStr).map Prod.snd

/-- Replaces the first `column` by its address and its port. -/
def extendColumn (column : String) : SockHeader → SockHeader
  | [] => []
  | header :: rest =>
      if header = column then (column ++ "_addr") :: (column ++ "_port") :: rest
      else header :: extendColumn column rest

def extendPorts (header : SockHeader) : SockHeader :=
  extendColumn "remote" (extendColumn "local" header)

/-- The exceptions of a line: an `AddrFormatError` is no `ValueError`. -/
inductive LineError where
  | valueError (message : Text)
  | addrFormatError
  deriving DecidableEq

inductive SockValue (Address : Type) where
  | text (value : Text)
  | address (value : Address)
  | names (value : List Text)
  deriving DecidableEq

abbrev SockData (Address : Type) := Dict String (SockValue Address)

abbrev Parser (Address : Type) := SockHeader → Text → Except LineError (SockData Address)

def tooFewValues : Text := "not enough values to unpack (expected 2, got 1)".toList

def unableToParse (sockInfo : Text) : Text :=
  "Unable to parse line: \"".toList ++ sockInfo ++ "\"".toList

def unableToParseProcesses (sockInfo : Text) : Text :=
  "Unable to parse processes part of the line: ".toList ++ sockInfo

def IsAddressColumn (header : String) : Prop := header = "local" ∨ header = "remote"

instance (header : String) : Decidable (IsAddressColumn header) :=
  inferInstanceAs (Decidable (_ ∨ _))

section Parsing

variable {Address : Type} (ipAddress : Text → Except LineError Address) (version : Address → Nat)

/-- The version of the first address that is none of the wildcards and can be read. -/
def detectIpVersion : List (String × Text) → Except LineError (Option Nat)
  | [] => .ok none
  | (header, value) :: rest =>
      if IsAddressColumn header then
        match splitLast ':' (strip value) with
        | none => .error (.valueError tooFewValues)
        | some (ip, _) =>
            if ip = ['*'] then detectIpVersion rest
            else
              match ipAddress (stripBrackets ip) with
              | .ok address => .ok (some (version address))
              | .error _ => detectIpVersion rest
      else detectIpVersion rest

def parseSocketAddress (ip : Text) (ipVersion : Option Nat) : Text :=
  if ip = ['*'] then if ipVersion = some 4 then "0.0.0.0".toList else "::".toList else ip

/-- A column that holds no address. -/
def parseOtherColumn (sockInfo : Text) (header : String) (value : Text)
    (socketDetails : SockData Address) : Except LineError (SockData Address) :=
  if header = "process" then
    match getProcesses value with
    | .error _ => .error (.valueError (unableToParseProcesses sockInfo))
    | .ok names => .ok (socketDetails.set header (.names names))
  else .ok (socketDetails.set header (.text value))

def parseTcpColumn (sockInfo : Text) (ipVersion : Option Nat) (header : String) (value : Text)
    (socketDetails : SockData Address) : Except LineError (SockData Address) :=
  if IsAddressColumn header then
    match splitLast ':' (strip value) with
    | none => .error (.valueError tooFewValues)
    | some (ip, port) =>
        match ipAddress (stripBrackets (parseSocketAddress ip ipVersion)) with
        | .error error => .error error
        | .ok address =>
            .ok ((socketDetails.set (header ++ "_addr") (.address address)).set
              (header ++ "_port") (.text port))
  else parseOtherColumn sockInfo header value socketDetails

/-- The loop over the columns; a column without a name is passed over. -/
def parseColumns (parseColumn : String → Text → SockData Address →
    Except LineError (SockData Address)) :
    List (String × Text) → SockData Address → Except LineError (SockData Address)
  | [], socketDetails => .ok socketDetails
  | (header, value) :: rest, socketDetails =>
      if header = "" then parseColumns parseColumn rest socketDetails
      else
        match parseColumn header value socketDetails with
        | .error error => .error error
        | .ok next => parseColumns parseColumn rest next

def parseTcpSocket : Parser Address := fun headers sockInfo =>
  let sockData := words sockInfo
  if headers.length ≠ sockData.length then .error (.valueError (unableToParse sockInfo))
  else
    match detectIpVersion ipAddress version (headers.zip sockData) with
    | .error error => .error error
    | .ok ipVersion =>
        parseColumns (parseTcpColumn ipAddress sockInfo ipVersion) (headers.zip sockData) Dict.empty

def parseUnixSocket : Parser Address := fun headers sockInfo =>
  let sockData := words sockInfo
  if headers.length ≠ sockData.length then .error (.valueError (unableToParse sockInfo))
  else parseColumns (parseOtherColumn sockInfo) (headers.zip sockData) Dict.empty

end Parsing

/-! ### Headers with columns -/

theorem sockHeader_ne_nil {keyword headerStr : Text} {column : String}
    (known : (keyword, column) ∈ headerColumns) (named : contains keyword headerStr = true) :
    sockHeader headerStr ≠ [] := by
  have kept : (keyword, column) ∈
      headerColumns.filter fun column => contains column.1 headerStr :=
    List.mem_filter.mpr ⟨known, named⟩
  exact List.ne_nil_of_mem (List.mem_map_of_mem kept)

theorem extendColumn_ne_nil {column : String} {header : SockHeader} (columns : header ≠ []) :
    extendColumn column header ≠ [] := by
  cases header with
  | nil => exact absurd rfl columns
  | cons first rest =>
      rw [extendColumn]
      split
      · exact List.cons_ne_nil _ _
      · exact List.cons_ne_nil _ _

theorem extendPorts_ne_nil {header : SockHeader} (columns : header ≠ []) :
    extendPorts header ≠ [] :=
  extendColumn_ne_nil (extendColumn_ne_nil columns)

/-! ### What a column holds -/

inductive AddressPart where
  | missing
  | wildcard
  | accepted
  | refused
  | invalid
  deriving DecidableEq

section Outcomes

variable {Address : Type} (ipAddress : Text → Except LineError Address) (version : Address → Nat)

/-- What stands in front of the last colon. -/
def addressPart (value : Text) : AddressPart :=
  match splitLast ':' (strip value) with
  | none => .missing
  | some (ip, _) =>
      if ip = ['*'] then .wildcard
      else
        match ipAddress (stripBrackets ip) with
        | .ok _ => .accepted
        | .error .addrFormatError => .refused
        | .error (.valueError _) => .invalid

/-- The detection of the version ends here, with an address or for want of a colon. -/
def settlesVersion (column : String × Text) : Bool :=
  IsAddressColumn column.1 ∧
    (addressPart ipAddress column.2 = .accepted ∨ addressPart ipAddress column.2 = .missing)

/-- No address column without a colon stands before the first address that can be read. -/
def detectsVersion (columns : List (String × Text)) : Bool :=
  (columns.find? (settlesVersion ipAddress)).all
    fun column => addressPart ipAddress column.2 = .accepted

def isReadable (column : String × Text) : Bool :=
  if column.1 = "" then true
  else if IsAddressColumn column.1 then
    addressPart ipAddress column.2 = .accepted ∨ addressPart ipAddress column.2 = .wildcard
  else if column.1 = "process" then (getProcesses column.2).isOk
  else true

def isRefused (column : String × Text) : Bool :=
  IsAddressColumn column.1 ∧ addressPart ipAddress column.2 = .refused

/-- The line has all columns, and the first one that cannot be read is an address that netaddr
refuses. -/
def hidesOthers (headers : SockHeader) (sockInfo : Text) : Bool :=
  let columns := headers.zip (words sockInfo)
  headers.length = (words sockInfo).length ∧ detectsVersion ipAddress columns = true ∧
    (columns.find? fun column => !isReadable ipAddress column).any (isRefused ipAddress) = true

/-- What each part says about the text of a column. -/
theorem addressPart_spec (value : Text) :
    match addressPart ipAddress value with
    | .missing => splitLast ':' (strip value) = none
    | .wildcard => ∃ port, splitLast ':' (strip value) = some (['*'], port)
    | .accepted => ∃ ip port address, splitLast ':' (strip value) = some (ip, port) ∧
        ip ≠ ['*'] ∧ ipAddress (stripBrackets ip) = .ok address
    | .refused => ∃ ip port, splitLast ':' (strip value) = some (ip, port) ∧
        ip ≠ ['*'] ∧ ipAddress (stripBrackets ip) = .error .addrFormatError
    | .invalid => ∃ ip port message, splitLast ':' (strip value) = some (ip, port) ∧
        ip ≠ ['*'] ∧ ipAddress (stripBrackets ip) = .error (.valueError message) := by
  unfold addressPart
  cases colon : splitLast ':' (strip value) with
  | none => rfl
  | some parts =>
      obtain ⟨ip, port⟩ := parts
      by_cases wildcard : ip = ['*']
      · simp only [if_pos wildcard]
        exact ⟨port, by rw [wildcard]⟩
      · simp only [if_neg wildcard]
        cases read : ipAddress (stripBrackets ip) with
        | ok address => exact ⟨ip, port, address, rfl, wildcard, read⟩
        | error error =>
            cases error with
            | addrFormatError => exact ⟨ip, port, rfl, wildcard, read⟩
            | valueError message => exact ⟨ip, port, message, rfl, wildcard, read⟩

/-! ### The detection of the version -/

theorem detectIpVersion_missing {header : String} {value : Text} {rest : List (String × Text)}
    (isAddress : IsAddressColumn header) (part : addressPart ipAddress value = .missing) :
    detectIpVersion ipAddress version ((header, value) :: rest) =
      .error (.valueError tooFewValues) := by
  have spec := addressPart_spec ipAddress value
  rw [part] at spec
  simp only [detectIpVersion, if_pos isAddress, spec]

theorem detectIpVersion_accepted {header : String} {value : Text} (rest : List (String × Text))
    (isAddress : IsAddressColumn header) (part : addressPart ipAddress value = .accepted) :
    ∃ ipVersion, detectIpVersion ipAddress version ((header, value) :: rest) = .ok ipVersion := by
  have spec := addressPart_spec ipAddress value
  rw [part] at spec
  obtain ⟨ip, port, address, colon, notWildcard, read⟩ := spec
  refine ⟨some (version address), ?_⟩
  simp only [detectIpVersion, if_pos isAddress, colon, if_neg notWildcard, read]

theorem detectIpVersion_passed {header : String} {value : Text} {rest : List (String × Text)}
    (passed : settlesVersion ipAddress (header, value) = false) :
    detectIpVersion ipAddress version ((header, value) :: rest) =
      detectIpVersion ipAddress version rest := by
  rw [detectIpVersion]
  by_cases isAddress : IsAddressColumn header
  · rw [if_pos isAddress]
    simp only [settlesVersion, isAddress, true_and, decide_eq_false_iff_not, not_or] at passed
    have spec := addressPart_spec ipAddress value
    cases part : addressPart ipAddress value with
    | missing => exact absurd part passed.2
    | accepted => exact absurd part passed.1
    | wildcard =>
        rw [part] at spec
        obtain ⟨port, colon⟩ := spec
        simp only [colon, if_true]
    | refused =>
        rw [part] at spec
        obtain ⟨ip, port, colon, notWildcard, read⟩ := spec
        simp only [colon, if_neg notWildcard, read]
    | invalid =>
        rw [part] at spec
        obtain ⟨ip, port, message, colon, notWildcard, read⟩ := spec
        simp only [colon, if_neg notWildcard, read]
  · rw [if_neg isAddress]

/-- The version is found, or a column has no colon; an `AddrFormatError` is caught here. -/
theorem detectIpVersion_cases (columns : List (String × Text)) :
    if detectsVersion ipAddress columns = true then
      ∃ ipVersion, detectIpVersion ipAddress version columns = .ok ipVersion
    else detectIpVersion ipAddress version columns = .error (.valueError tooFewValues) := by
  induction columns with
  | nil => exact ⟨none, rfl⟩
  | cons column rest inductionHypothesis =>
      obtain ⟨header, value⟩ := column
      cases settles : settlesVersion ipAddress (header, value) with
      | false =>
          have same : detectsVersion ipAddress ((header, value) :: rest) =
              detectsVersion ipAddress rest := by
            rw [detectsVersion, List.find?_cons_of_neg (by simp [settles])]
            rfl
          rw [same, detectIpVersion_passed ipAddress version settles]
          exact inductionHypothesis
      | true =>
          have here : detectsVersion ipAddress ((header, value) :: rest) =
              decide (addressPart ipAddress value = .accepted) := by
            rw [detectsVersion, List.find?_cons_of_pos settles]
            rfl
          simp only [settlesVersion, decide_eq_true_iff] at settles
          obtain ⟨isAddress, accepted | missing⟩ := settles
          · rw [here, accepted]
            exact detectIpVersion_accepted ipAddress version rest isAddress accepted
          · rw [here, missing]
            exact detectIpVersion_missing ipAddress version isAddress missing

/-! ### The loop over the columns -/

section Columns

variable {parseColumn : String → Text → SockData Address → Except LineError (SockData Address)}
variable {readable refused : String × Text → Bool}

/-- **The loop ends with the error of the first column that cannot be read.** -/
theorem parseColumns_cases
    (unnamed : ∀ value, readable ("", value) = true)
    (reads : ∀ header value, readable (header, value) = true → header ≠ "" →
      ∀ details, ∃ next, parseColumn header value details = .ok next)
    (refuses : ∀ header value, readable (header, value) = false →
      ∀ details, if refused (header, value) = true then
        parseColumn header value details = .error .addrFormatError
      else ∃ message, parseColumn header value details = .error (.valueError message))
    (columns : List (String × Text)) (details : SockData Address) :
    match columns.find? fun column => !readable column with
    | none => ∃ data, parseColumns parseColumn columns details = .ok data
    | some column =>
        if refused column = true then
          parseColumns parseColumn columns details = .error .addrFormatError
        else
          ∃ message, parseColumns parseColumn columns details = .error (.valueError message) := by
  induction columns generalizing details with
  | nil => exact ⟨details, rfl⟩
  | cons column rest inductionHypothesis =>
      obtain ⟨header, value⟩ := column
      cases isReadable : readable (header, value) with
      | true =>
          rw [List.find?_cons_of_neg (by simp [isReadable]), parseColumns]
          by_cases named : header = ""
          · rw [if_pos named]
            exact inductionHypothesis details
          · rw [if_neg named]
            obtain ⟨next, read⟩ := reads header value isReadable named details
            rw [read]
            exact inductionHypothesis next
      | false =>
          have named : header ≠ "" := by
            intro same
            rw [same, unnamed] at isReadable
            cases isReadable
          have outcome := refuses header value isReadable details
          rw [List.find?_cons_of_pos (by simp [isReadable]), parseColumns, if_neg named]
          by_cases isRefused : refused (header, value) = true
          · rw [if_pos isRefused] at outcome
            simp only [if_pos isRefused, outcome]
          · rw [if_neg isRefused] at outcome
            obtain ⟨message, failed⟩ := outcome
            simp only [if_neg isRefused, failed]
            exact ⟨message, rfl⟩

end Columns

/-! ### The outcome of a line -/

/-- The exception is caught by the loop over the lines. -/
def IsCaught (outcome : Except LineError (SockData Address)) : Prop :=
  (∃ data, outcome = .ok data) ∨ ∃ message, outcome = .error (.valueError message)

/-- The texts that stand for the wildcard are addresses. -/
structure ReadsWildcards : Prop where
  ipv4 : ∃ address, ipAddress "0.0.0.0".toList = .ok address
  ipv6 : ∃ address, ipAddress "::".toList = .ok address

variable {ipAddress}

theorem ReadsWildcards.read (wildcards : ReadsWildcards ipAddress) (ipVersion : Option Nat) :
    ∃ address, ipAddress (stripBrackets (parseSocketAddress ['*'] ipVersion)) = .ok address := by
  have ipv4 : stripBrackets "0.0.0.0".toList = "0.0.0.0".toList := by decide
  have ipv6 : stripBrackets "::".toList = "::".toList := by decide
  rw [parseSocketAddress, if_pos rfl]
  split
  · rw [ipv4]
    exact wildcards.ipv4
  · rw [ipv6]
    exact wildcards.ipv6

theorem parseOtherColumn_cases (sockInfo : Text) (header : String) (value : Text)
    (details : SockData Address) :
    if header = "process" → (getProcesses value).isOk = true then
      ∃ next, parseOtherColumn sockInfo header value details = .ok next
    else parseOtherColumn sockInfo header value details =
      .error (.valueError (unableToParseProcesses sockInfo)) := by
  unfold parseOtherColumn
  by_cases process : header = "process"
  · simp only [process, forall_const, if_true]
    cases getProcesses value with
    | ok names => exact ⟨_, rfl⟩
    | error error => rfl
  · rw [if_pos fun same => absurd same process, if_neg process]
    exact ⟨_, rfl⟩

theorem parseTcpColumn_reads (wildcards : ReadsWildcards ipAddress) {sockInfo : Text}
    {ipVersion : Option Nat} {header : String} {value : Text}
    (readable : isReadable ipAddress (header, value) = true) (named : header ≠ "")
    (details : SockData Address) :
    ∃ next, parseTcpColumn ipAddress sockInfo ipVersion header value details = .ok next := by
  rw [isReadable, if_neg named] at readable
  unfold parseTcpColumn
  by_cases isAddress : IsAddressColumn header
  · rw [if_pos isAddress] at readable ⊢
    have spec := addressPart_spec ipAddress value
    obtain accepted | wildcard := of_decide_eq_true readable
    · rw [accepted] at spec
      obtain ⟨ip, port, address, colon, notWildcard, read⟩ := spec
      simp only [colon, parseSocketAddress, if_neg notWildcard, read]
      exact ⟨_, rfl⟩
    · rw [wildcard] at spec
      obtain ⟨port, colon⟩ := spec
      obtain ⟨address, read⟩ := wildcards.read ipVersion
      simp only [colon, read]
      exact ⟨_, rfl⟩
  · rw [if_neg isAddress] at readable ⊢
    have outcome := parseOtherColumn_cases sockInfo header value details
    have processesRead : header = "process" → (getProcesses value).isOk = true := by
      intro process
      rwa [if_pos process] at readable
    rwa [if_pos processesRead] at outcome

theorem parseTcpColumn_refuses {sockInfo : Text} {ipVersion : Option Nat} {header : String}
    {value : Text} (unreadable : isReadable ipAddress (header, value) = false)
    (details : SockData Address) :
    if isRefused ipAddress (header, value) = true then
      parseTcpColumn ipAddress sockInfo ipVersion header value details = .error .addrFormatError
    else ∃ message, parseTcpColumn ipAddress sockInfo ipVersion header value details =
      .error (.valueError message) := by
  have named : header ≠ "" := by
    intro same
    rw [isReadable, if_pos same] at unreadable
    cases unreadable
  rw [isReadable, if_neg named] at unreadable
  unfold parseTcpColumn isRefused
  by_cases isAddress : IsAddressColumn header
  · simp only [if_pos isAddress, decide_eq_false_iff_not, not_or] at unreadable
    simp only [isAddress, true_and, if_true, decide_eq_true_iff]
    have spec := addressPart_spec ipAddress value
    cases part : addressPart ipAddress value with
    | accepted => exact absurd part unreadable.1
    | wildcard => exact absurd part unreadable.2
    | missing =>
        rw [part] at spec
        simp only [spec]
        exact ⟨_, rfl⟩
    | refused =>
        rw [part] at spec
        obtain ⟨ip, port, colon, notWildcard, read⟩ := spec
        simp only [colon, parseSocketAddress, if_neg notWildcard, read, if_true]
    | invalid =>
        rw [part] at spec
        obtain ⟨ip, port, message, colon, notWildcard, read⟩ := spec
        simp only [colon, parseSocketAddress, if_neg notWildcard, read]
        exact ⟨message, rfl⟩
  · simp only [isAddress, false_and, decide_false, Bool.false_eq_true, if_false] at unreadable ⊢
    have outcome := parseOtherColumn_cases sockInfo header value details
    have process : header = "process" := by
      by_contra other
      rw [if_neg other] at unreadable
      cases unreadable
    rw [if_pos process] at unreadable
    have processesFail : ¬(header = "process" → (getProcesses value).isOk = true) := by
      intro read
      rw [read process] at unreadable
      cases unreadable
    rw [if_neg processesFail] at outcome
    exact ⟨_, outcome⟩

/-- **A line of `parse_tcp_socket` that is not caught has an address that netaddr refuses.** -/
theorem parseTcpSocket_cases (wildcards : ReadsWildcards ipAddress) (headers : SockHeader)
    (sockInfo : Text) :
    if hidesOthers ipAddress headers sockInfo = true then
      parseTcpSocket ipAddress version headers sockInfo = .error .addrFormatError
    else IsCaught (parseTcpSocket ipAddress version headers sockInfo) := by
  unfold parseTcpSocket hidesOthers
  by_cases length : headers.length = (words sockInfo).length
  · simp only [length, ne_eq, not_true_eq_false, if_false, true_and]
    have detected := detectIpVersion_cases ipAddress version (headers.zip (words sockInfo))
    cases detects : detectsVersion ipAddress (headers.zip (words sockInfo)) with
    | false =>
        rw [detects] at detected
        simp only [Bool.false_eq_true, if_false, false_and, decide_false] at detected ⊢
        rw [detected]
        exact .inr ⟨_, rfl⟩
    | true =>
        rw [detects] at detected
        obtain ⟨ipVersion, detected⟩ := detected
        have parsed := @parseColumns_cases Address
          (parseTcpColumn ipAddress sockInfo ipVersion) (isReadable ipAddress)
          (isRefused ipAddress) (fun _ => rfl)
          (fun _ _ readable named => parseTcpColumn_reads wildcards readable named)
          (fun _ _ unreadable => parseTcpColumn_refuses unreadable)
          (headers.zip (words sockInfo)) Dict.empty
        simp only [true_and, detected]
        cases first : (headers.zip (words sockInfo)).find?
            fun column => !isReadable ipAddress column with
        | none =>
            rw [first] at parsed
            exact .inl parsed
        | some column =>
            rw [first] at parsed
            simp only [Option.any_some, Bool.decide_eq_true]
            by_cases isRefused : isRefused ipAddress column = true
            · simp only [if_pos isRefused] at parsed ⊢
              exact parsed
            · simp only [if_neg isRefused] at parsed ⊢
              exact .inr parsed
  · simp only [length, ne_eq, not_false_eq_true, if_true, false_and, decide_false,
      Bool.false_eq_true, if_false]
    exact .inr ⟨_, rfl⟩

theorem parseTcpSocket_isCaught_iff (wildcards : ReadsWildcards ipAddress) (headers : SockHeader)
    (sockInfo : Text) : IsCaught (parseTcpSocket ipAddress version headers sockInfo) ↔
      hidesOthers ipAddress headers sockInfo = false := by
  have outcome := parseTcpSocket_cases version wildcards headers sockInfo
  cases hides : hidesOthers ipAddress headers sockInfo with
  | false =>
      rw [hides, if_neg Bool.false_ne_true] at outcome
      exact iff_of_true outcome rfl
  | true =>
      rw [hides, if_pos rfl] at outcome
      rw [outcome]
      refine iff_of_false ?_ Bool.true_eq_false.mp
      rintro (⟨_, absent⟩ | ⟨_, absent⟩)
      · cases absent
      · cases absent

/-- A line without columns is read as nothing. -/
theorem parseTcpSocket_nil {sockInfo : Text} {data : SockData Address}
    (parsed : parseTcpSocket ipAddress version [] sockInfo = .ok data) : data = Dict.empty := by
  unfold parseTcpSocket at parsed
  by_cases length : ([] : SockHeader).length = (words sockInfo).length
  · simp only [length, ne_eq, not_true_eq_false, if_false, List.zip_nil_left] at parsed
    cases parsed
    rfl
  · rw [if_pos length] at parsed
    cases parsed

/-- Every line of `parse_unix_socket` is caught. -/
theorem parseUnixSocket_isCaught (headers : SockHeader) (sockInfo : Text) :
    IsCaught (@parseUnixSocket Address headers sockInfo) := by
  unfold parseUnixSocket
  by_cases length : headers.length = (words sockInfo).length
  · have parsed := @parseColumns_cases Address (parseOtherColumn sockInfo)
      (fun column => column.1 = "process" → (getProcesses column.2).isOk = true)
      (fun _ => false) (fun _ => by simp)
      (fun header value readable _ details => by
        have outcome := parseOtherColumn_cases sockInfo header value details
        rwa [if_pos (of_decide_eq_true readable)] at outcome)
      (fun header value unreadable details => by
        have outcome := parseOtherColumn_cases sockInfo header value details
        rw [if_neg (of_decide_eq_false unreadable)] at outcome
        exact ⟨_, outcome⟩)
      (headers.zip (words sockInfo)) Dict.empty
    simp only [length, ne_eq, not_true_eq_false, if_false]
    split at parsed
    · exact .inl parsed
    · exact .inr parsed
  · simp only [length, ne_eq, not_false_eq_true, if_true]
    exact .inr ⟨_, rfl⟩

end Outcomes

end Tobiko.Shell.Ss
