import Tobiko.Shell.Ss.SocketLine

/-!
Contract: the sockets that are read from the output of ss.

Owns: `_ss` with its table header and its loop over the lines, and exactly when a line that cannot
be parsed leaves the others listed.

Does not own: how the command is executed.
-/

namespace Tobiko.Shell.Ss

open Tobiko.Foundation Tobiko.Foundation.Text

structure ShellCommandFailed where
  stdout : Text
  stderr : Text
  exitStatus : Int

inductive SsError where
  | socketLookupError (cmd err : Text)
  | shellCommandFailed (failure : ShellCommandFailed)
  /-- An `UnboundLocalError`: the command has failed with no positive exit status. -/
  | unboundStdout
  | lineError (error : LineError)

/-- The header that `_ss` works with, and the sockets that it has listed. -/
structure Listing (Address : Type) where
  headers : Option SockHeader
  sockets : List (SockData Address)

variable {Address : Type}

/-- A table header without columns is none. -/
def givenHeader (tableHeader : Option SockHeader) : Option SockHeader :=
  tableHeader.filter (· ≠ [])

def commandLine (params : Text) (tableHeader : Option SockHeader) : Text :=
  if (givenHeader tableHeader).isSome then "ss -Hnp ".toList ++ params
  else "ss -np ".toList ++ params

def rawData (sockInfo : Text) : SockData Address := Dict.empty.set "raw_data" (.text sockInfo)

def readSocket (parser : Option (Parser Address)) (headers : SockHeader) (sockInfo : Text) :
    Except LineError (SockData Address) :=
  match parser with
  | none => .ok (rawData sockInfo)
  | some parse => if headers ≠ [] then parse headers sockInfo else .ok (rawData sockInfo)

/-- The loop body: of the exceptions only the `ValueError` is caught. -/
def readLine (parser : Option (Parser Address)) (listing : Listing Address) (line : Text) :
    Except LineError (Listing Address) :=
  match listing.headers with
  | none => .ok { listing with headers := some (sockHeader line) }
  | some headers =>
      match readSocket parser headers (strip line) with
      | .ok data => .ok { listing with sockets := listing.sockets ++ [data] }
      | .error (.valueError _) => .ok listing
      | .error .addrFormatError => .error .addrFormatError

def readLines (parser : Option (Parser Address)) :
    List Text → Listing Address → Except LineError (Listing Address)
  | [], listing => .ok listing
  | line :: rest, listing =>
      match readLine parser listing line with
      | .error error => .error error
      | .ok next => readLines parser rest next

/-- `_ss`, where `execute` is `sh.execute` with the client and the parameters of the call. -/
def ss (execute : Text → Except ShellCommandFailed Text) (params : Text)
    (tableHeader : Option SockHeader) (parser : Option (Parser Address)) :
    Except SsError (List (SockData Address)) :=
  match execute (commandLine params tableHeader) with
  | .error failure =>
      if "Error".toList.isPrefixOf failure.stdout then
        .error (.socketLookupError (commandLine params tableHeader) failure.stderr)
      else if failure.exitStatus > 0 then .error (.shellCommandFailed failure)
      else .error .unboundStdout
  | .ok stdout =>
      match readLines parser (splitLines stdout) ⟨givenHeader tableHeader, []⟩ with
      | .error error => .error (.lineError error)
      | .ok listing => .ok listing.sockets

/-! ### The listings -/

/-- The header of `tcp_listening`. -/
def listeningHeader : SockHeader :=
  sockHeader "Recv-Q Send-Q Local Address:PortPeer Address:Port Process".toList

/-- The header of `tcp_connected`. -/
def connectedHeader : SockHeader :=
  sockHeader "State Recv-Q Send-Q Local Address:PortPeer Address:Port Process".toList

/-- The header of `unix_listening`. -/
def unixHeader : SockHeader :=
  extendPorts (sockHeader "Netid Recv-Q Send-Q Local Address:PortPeer Address:Port Process".toList)

/-- The parameters with a filter, unless its value is empty. -/
def withFilter (params keyword value : Text) : Text :=
  if value = [] then params else params ++ keyword ++ value

section Listings

variable (execute : Text → Except ShellCommandFailed Text)
variable (ipAddress : Text → Except LineError Address) (version : Address → Nat)

def listeningParams (address port : Text) : Text :=
  withFilter (withFilter "-t state listening".toList " sport ".toList port) " src ".toList address

def tcpListening (address port : Text) : Except SsError (List (SockData Address)) :=
  ss execute (listeningParams address port) (some listeningHeader)
    (some (parseTcpSocket ipAddress version))

def connectedParams (srcAddress srcPort dstAddress dstPort : Text) : Text :=
  withFilter (withFilter (withFilter (withFilter "-t state connected".toList " sport ".toList
    srcPort) " src ".toList srcAddress) " dport ".toList dstPort) " dst ".toList dstAddress

def tcpConnected (srcAddress srcPort dstAddress dstPort : Text) :
    Except SsError (List (SockData Address)) :=
  ss execute (connectedParams srcAddress srcPort dstAddress dstPort) (some connectedHeader)
    (some (parseTcpSocket ipAddress version))

def unixParams (fileName : Text) : Text :=
  withFilter "-x state listening".toList " src ".toList fileName

def unixListening (fileName : Text) : Except SsError (List (SockData Address)) :=
  ss execute (unixParams fileName) (some unixHeader) (some parseUnixSocket)

end Listings

/-! ### The loop over the lines -/

/-- The lines that can be parsed, in order. -/
def parsedLines (parse : Parser Address) (headers : SockHeader) (lines : List Text) :
    List (SockData Address) :=
  lines.filterMap fun line => (parse headers (strip line)).toOption

theorem readLines_caught {parse : Parser Address} {headers : SockHeader} (columns : headers ≠ [])
    {lines : List Text} (caught : ∀ line ∈ lines, IsCaught (parse headers (strip line)))
    (sockets : List (SockData Address)) :
    readLines (some parse) lines ⟨some headers, sockets⟩ =
      .ok ⟨some headers, sockets ++ parsedLines parse headers lines⟩ := by
  induction lines generalizing sockets with
  | nil =>
      rw [parsedLines, List.filterMap_nil, List.append_nil]
      rfl
  | cons line rest inductionHypothesis =>
      have others := inductionHypothesis fun other member =>
        caught other (List.mem_cons_of_mem _ member)
      rw [readLines, parsedLines, List.filterMap_cons]
      obtain ⟨data, parsed⟩ | ⟨message, failed⟩ := caught line List.mem_cons_self
      · have step : readLine (some parse) ⟨some headers, sockets⟩ line =
            .ok ⟨some headers, sockets ++ [data]⟩ := by
          simp only [readLine, readSocket, if_pos columns, parsed]
        rw [step, parsed]
        have appended := others (sockets ++ [data])
        rw [List.append_assoc] at appended
        exact appended
      · have step : readLine (some parse) ⟨some headers, sockets⟩ line =
            .ok ⟨some headers, sockets⟩ := by
          simp only [readLine, readSocket, if_pos columns, failed]
        rw [step, failed]
        exact others sockets

/-- Without columns every line is listed as it is. -/
theorem readLines_raw (parser : Option (Parser Address)) (lines : List Text)
    (sockets : List (SockData Address)) :
    readLines parser lines ⟨some [], sockets⟩ =
      .ok ⟨some [], sockets ++ lines.map fun line => rawData (strip line)⟩ := by
  induction lines generalizing sockets with
  | nil =>
      rw [List.map_nil, List.append_nil]
      rfl
  | cons line rest inductionHypothesis =>
      have step : readLine parser ⟨some [], sockets⟩ line =
          .ok ⟨some [], sockets ++ [rawData (strip line)]⟩ := by
        cases parser with
        | none => rfl
        | some parse => rfl
      rw [readLines, step, List.map_cons]
      have appended := inductionHypothesis (sockets ++ [rawData (strip line)])
      rw [List.append_assoc] at appended
      exact appended

/-! ### The table of the output -/

/-- The header of the lines, and the lines below it. -/
def tableOf (tableHeader : Option SockHeader) (lines : List Text) : SockHeader × List Text :=
  match givenHeader tableHeader with
  | some headers => (headers, lines)
  | none =>
      match lines with
      | [] => ([], [])
      | first :: rows => (sockHeader first, rows)

theorem readLines_table (parser : Option (Parser Address)) (tableHeader : Option SockHeader)
    (lines : List Text) :
    (readLines parser lines ⟨givenHeader tableHeader, []⟩).map Listing.sockets =
      (readLines parser (tableOf tableHeader lines).2
        ⟨some (tableOf tableHeader lines).1, []⟩).map Listing.sockets := by
  unfold tableOf
  cases givenHeader tableHeader with
  | some headers => rfl
  | none =>
      cases lines with
      | nil => rfl
      | cons first rows => rfl

/-- The lines below the header decide what `_ss` returns. -/
theorem ss_executed {execute : Text → Except ShellCommandFailed Text} {params : Text}
    {tableHeader : Option SockHeader} {stdout : Text}
    (executed : execute (commandLine params tableHeader) = .ok stdout)
    (parser : Option (Parser Address)) :
    ss execute params tableHeader parser =
      ((readLines parser (tableOf tableHeader (splitLines stdout)).2
        ⟨some (tableOf tableHeader (splitLines stdout)).1, []⟩).map Listing.sockets).mapError
          SsError.lineError := by
  rw [← readLines_table]
  simp only [ss, executed]
  cases readLines parser (splitLines stdout) ⟨givenHeader tableHeader, []⟩ with
  | error error => rfl
  | ok listing => rfl

/-! ### The lines that hide the others -/

/-- One line that is not caught ends the loop. -/
theorem readLines_caught_of_ok {parse : Parser Address} {headers : SockHeader}
    (columns : headers ≠ []) {lines : List Text} {sockets : List (SockData Address)}
    {listing : Listing Address}
    (read : readLines (some parse) lines ⟨some headers, sockets⟩ = .ok listing) :
    ∀ line ∈ lines, IsCaught (parse headers (strip line)) := by
  induction lines generalizing sockets with
  | nil => exact List.forall_mem_nil _
  | cons line rest inductionHypothesis =>
      simp only [readLines, readLine, readSocket, if_pos columns] at read
      rw [List.forall_mem_cons]
      cases outcome : parse headers (strip line) with
      | ok data =>
          rw [outcome] at read
          exact ⟨.inl ⟨data, rfl⟩, inductionHypothesis read⟩
      | error error =>
          rw [outcome] at read
          cases error with
          | valueError message => exact ⟨.inr ⟨message, rfl⟩, inductionHypothesis read⟩
          | addrFormatError => cases read

/-- The lines of a header with columns are listed exactly where all of them are caught. -/
theorem ss_parsedLines_iff {execute : Text → Except ShellCommandFailed Text} {params : Text}
    {tableHeader : Option SockHeader} {stdout : Text} {headers : SockHeader} {rows : List Text}
    (executed : execute (commandLine params tableHeader) = .ok stdout)
    (table : tableOf tableHeader (splitLines stdout) = (headers, rows)) (columns : headers ≠ [])
    (parse : Parser Address) :
    ss execute params tableHeader (some parse) = .ok (parsedLines parse headers rows) ↔
      ∀ row ∈ rows, IsCaught (parse headers (strip row)) := by
  rw [ss_executed executed, table]
  constructor
  · intro listed
    cases read : readLines (some parse) rows ⟨some headers, []⟩ with
    | error error =>
        rw [read] at listed
        cases listed
    | ok listing => exact readLines_caught_of_ok columns read
  · intro caught
    rw [readLines_caught columns caught]
    rfl

theorem rawData_ne_empty (sockInfo : Text) :
    (rawData sockInfo : SockData Address) ≠ Dict.empty := by
  intro same
  have keys := congrArg Dict.keys same
  cases keys

/-- Without columns the lines are listed as they are, and no parsed line is. -/
theorem ss_noColumns_iff {ipAddress : Text → Except LineError Address} {version : Address → Nat}
    {execute : Text → Except ShellCommandFailed Text} {params : Text}
    {tableHeader : Option SockHeader} {stdout : Text} {rows : List Text}
    (executed : execute (commandLine params tableHeader) = .ok stdout)
    (table : tableOf tableHeader (splitLines stdout) = ([], rows)) :
    ss execute params tableHeader (some (parseTcpSocket ipAddress version)) =
        .ok (parsedLines (parseTcpSocket ipAddress version) [] rows) ↔ rows = [] := by
  rw [ss_executed executed, table]
  simp only [readLines_raw]
  constructor
  · intro listed
    cases rows with
    | nil => rfl
    | cons row rest =>
        have member : rawData (strip row) ∈
            parsedLines (parseTcpSocket ipAddress version) [] (row :: rest) := by
          rw [← Except.ok.inj listed]
          exact List.mem_cons_self
        obtain ⟨other, -, parsed⟩ := List.mem_filterMap.mp member
        cases outcome : parseTcpSocket ipAddress version [] (strip other) with
        | error error =>
            rw [outcome] at parsed
            cases parsed
        | ok data =>
            rw [outcome] at parsed
            have empty := parseTcpSocket_nil version outcome
            rw [Option.some.inj parsed] at empty
            exact absurd empty (rawData_ne_empty _)
  · rintro rfl
    rfl

section Listed

variable {ipAddress : Text → Except LineError Address} (version : Address → Nat)
variable {execute : Text → Except ShellCommandFailed Text} {params : Text}
variable {tableHeader : Option SockHeader} {stdout : Text}

/-- **The sockets of all lines that can be parsed are listed exactly where the header has columns
and no line hides the others.** -/
theorem ss_tcp_iff (wildcards : ReadsWildcards ipAddress)
    (executed : execute (commandLine params tableHeader) = .ok stdout)
    {headers : SockHeader} {rows : List Text}
    (table : tableOf tableHeader (splitLines stdout) = (headers, rows)) :
    ((∀ row ∈ rows, IsCaught (parseTcpSocket ipAddress version headers (strip row))) ∧
        ss execute params tableHeader (some (parseTcpSocket ipAddress version)) =
          .ok (parsedLines (parseTcpSocket ipAddress version) headers rows)) ↔
      (headers ≠ [] ∨ rows = []) ∧
        ∀ row ∈ rows, hidesOthers ipAddress headers (strip row) = false := by
  simp only [← parseTcpSocket_isCaught_iff version wildcards]
  rw [and_comm]
  refine and_congr_left fun caught => ?_
  by_cases columns : headers = []
  · subst columns
    rw [ss_noColumns_iff executed table]
    exact (or_iff_right fun differs => differs rfl).symm
  · rw [ss_parsedLines_iff executed table columns]
    exact iff_of_true caught (.inl columns)

end Listed

/-! ### The listings again -/

section Given

variable {execute : Text → Except ShellCommandFailed Text} {params : Text}
variable {headers : SockHeader} {stdout : Text}

theorem tableOf_given (columns : headers ≠ []) (lines : List Text) :
    tableOf (some headers) lines = (headers, lines) := by
  simp only [tableOf, givenHeader, Option.filter_some, columns, ne_eq, not_false_eq_true,
    decide_true, if_true]

theorem listeningHeader_columns : listeningHeader ≠ [] :=
  sockHeader_ne_nil (.tail _ (.tail _ (.head _))) (by decide)

theorem connectedHeader_columns : connectedHeader ≠ [] :=
  sockHeader_ne_nil (.tail _ (.head _)) (by decide)

theorem unixHeader_columns : unixHeader ≠ [] :=
  extendPorts_ne_nil (sockHeader_ne_nil (.head _) (by decide))

/-- A listing of TCP sockets is complete where no line hides the others. -/
theorem ss_tcp_given_iff {ipAddress : Text → Except LineError Address} (version : Address → Nat)
    (wildcards : ReadsWildcards ipAddress) (columns : headers ≠ [])
    (executed : execute (commandLine params (some headers)) = .ok stdout) :
    ss execute params (some headers) (some (parseTcpSocket ipAddress version)) =
        .ok (parsedLines (parseTcpSocket ipAddress version) headers (splitLines stdout)) ↔
      ∀ line ∈ splitLines stdout, hidesOthers ipAddress headers (strip line) = false := by
  rw [ss_parsedLines_iff executed (tableOf_given columns _) columns]
  simp only [parseTcpSocket_isCaught_iff version wildcards]

theorem tcpListening_iff {ipAddress : Text → Except LineError Address} (version : Address → Nat)
    (wildcards : ReadsWildcards ipAddress) {address port : Text}
    (executed : execute (commandLine (listeningParams address port) (some listeningHeader)) =
      .ok stdout) :
    tcpListening execute ipAddress version address port =
        .ok (parsedLines (parseTcpSocket ipAddress version) listeningHeader (splitLines stdout)) ↔
      ∀ line ∈ splitLines stdout, hidesOthers ipAddress listeningHeader (strip line) = false :=
  ss_tcp_given_iff version wildcards listeningHeader_columns executed

theorem tcpConnected_iff {ipAddress : Text → Except LineError Address} (version : Address → Nat)
    (wildcards : ReadsWildcards ipAddress) {srcAddress srcPort dstAddress dstPort : Text}
    (executed : execute (commandLine (connectedParams srcAddress srcPort dstAddress dstPort)
      (some connectedHeader)) = .ok stdout) :
    tcpConnected execute ipAddress version srcAddress srcPort dstAddress dstPort =
        .ok (parsedLines (parseTcpSocket ipAddress version) connectedHeader (splitLines stdout)) ↔
      ∀ line ∈ splitLines stdout, hidesOthers ipAddress connectedHeader (strip line) = false :=
  ss_tcp_given_iff version wildcards connectedHeader_columns executed

/-- **No line hides the others in a listing of UNIX sockets.** -/
theorem unixListening_lists {fileName : Text}
    (executed : execute (commandLine (unixParams fileName) (some unixHeader)) = .ok stdout) :
    (unixListening execute fileName : Except SsError (List (SockData Address))) =
      .ok (parsedLines parseUnixSocket unixHeader (splitLines stdout)) := by
  rw [unixListening,
    ss_parsedLines_iff executed (tableOf_given unixHeader_columns _) unixHeader_columns]
  exact fun line _ => parseUnixSocket_isCaught unixHeader (strip line)

end Given

/-- `netaddr.IPAddress` on the addresses below; the value is the version. -/
def readAddress (text : Text) : Except LineError Nat :=
  if text = "127.0.0.1".toList ∨ text = "0.0.0.0".toList then .ok 4
  else if text = "::".toList then .ok 6
  else .error .addrFormatError

theorem readAddress_wildcards : ReadsWildcards readAddress :=
  ⟨⟨4, by decide⟩, ⟨6, by decide⟩⟩

def loopbackLine : Text := "0 128 127.0.0.1:22 0.0.0.0:* users:((\"sshd\",pid=9,fd=3))".toList

def scopedLine : Text := "0 128 127.0.0.53%lo:53 0.0.0.0:* users:((\"dns\",pid=7,fd=5))".toList

def wildcardLine : Text := "0 511 *:80 *:* users:((\"httpd\",pid=4,fd=3))".toList

/-- A line without the columns of the addresses. -/
def shortLine : Text := "0 128".toList

def listeningLines : List Text := [loopbackLine, shortLine, wildcardLine]

/-- The short line is left out, and the lines around it are listed. -/
theorem ss_tcp_iff_listening :
    (∀ row ∈ listeningLines,
        IsCaught (parseTcpSocket readAddress id listeningHeader (strip row))) ∧
      ss (fun _ => .ok (['\n'].intercalate listeningLines)) [] (some listeningHeader)
          (some (parseTcpSocket readAddress id)) =
        .ok (parsedLines (parseTcpSocket readAddress id) listeningHeader listeningLines) := by
  have table : tableOf (some listeningHeader) (splitLines (['\n'].intercalate listeningLines)) =
      (listeningHeader, listeningLines) := by
    have threeLines : splitLines (['\n'].intercalate listeningLines) = listeningLines := rfl
    rw [tableOf_given listeningHeader_columns, threeLines]
  have listed := @ss_tcp_iff Nat readAddress id
    (fun _ => .ok (['\n'].intercalate listeningLines)) [] (some listeningHeader)
    (['\n'].intercalate listeningLines) readAddress_wildcards rfl listeningHeader listeningLines
    table
  exact listed.mpr ⟨.inl listeningHeader_columns, by decide⟩

/-- An address with an interface scope hides the line below it. -/
theorem scopedLine_hides :
    ¬((∀ row ∈ [scopedLine, loopbackLine],
          IsCaught (parseTcpSocket readAddress id listeningHeader (strip row))) ∧
        ss (fun _ => .ok (scopedLine ++ '\n' :: loopbackLine)) [] (some listeningHeader)
            (some (parseTcpSocket readAddress id)) =
          .ok (parsedLines (parseTcpSocket readAddress id) listeningHeader
            [scopedLine, loopbackLine])) := by
  rintro ⟨-, listed⟩
  have raised : ss (fun _ => .ok (scopedLine ++ '\n' :: loopbackLine)) [] (some listeningHeader)
      (some (parseTcpSocket readAddress id)) = .error (.lineError .addrFormatError) :=
    rfl
  rw [raised] at listed
  cases listed

end Tobiko.Shell.Ss
