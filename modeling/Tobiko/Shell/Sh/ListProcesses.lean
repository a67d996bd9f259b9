import Tobiko.Foundation.Effect
import Tobiko.Shell.Sh.ProcessTable

/-!
Contract: the processes that `tobiko/shell/sh/_ps.py` lists.

Owns: the schema of the table of `ps`, the selection of processes, `list_processes`, and what it
makes of an output that shows processes.

Does not own: regular expressions, the execution of `ps`, and how the command line of a process is
read. A listing reads it once for a process, so that it belongs to the output here.

The host and whether it runs CirrOS are those of the call for each process, and are left out.
-/

namespace Tobiko.Shell.Sh.Ps

open Tobiko.Foundation
open Tobiko.Foundation.Text (isLineBreak splitLines strip)

structure PsProcess where
  command : Text
  pid : Int
  deriving DecidableEq

/-- `IS_KERNEL_RE`, which matches behind a line feed at the end, too. -/
def isKernel (process : PsProcess) : Bool :=
  match process.command with
  | '[' :: rest =>
      let lines := if rest.getLast? = some '\n' then [rest, rest.dropLast] else [rest]
      lines.any fun line => line.getLast? = some ']' && '\n' ∉ line
  | _ => false

inductive PsError (Exc : Type) where
  /-- Unable to list processes from host: {error} -/
  | psError (error : Text)
  | runtimeError
  | indexError
  | valueError
  | typeError
  | raised (exception : Exc)

/-! ### The table -/

inductive PsValue where
  | pid (value : Int)
  | command (value : Text)

inductive PsKey where
  | pid
  | command
  deriving DecidableEq

section Table

variable {Exc : Type}

def parsePid (value : Text) : Except (PsError Exc) (PsKey × PsValue) :=
  match Text.int value with
  | none => .error .valueError
  | some pid => .ok (.pid, .pid pid)

def parseCommand (value : Text) : Except (PsError Exc) (PsKey × PsValue) :=
  .ok (.command, .command value)

/-- `PS_TABLE_SCHEMA` -/
def psTableSchema : TableSchema PsKey PsValue (PsError Exc) := fun name =>
  if name = "pid".toList then some parsePid
  else if name = "cmd".toList ∨ name = "command".toList then some parseCommand
  else none

/-- `PsProcess(**process_data)` -/
def psProcess (data : Dict PsKey PsValue) : Except (PsError Exc) PsProcess :=
  match data.get? .pid, data.get? .command with
  | some (.pid pid), some (.command command) => .ok ⟨command, pid⟩
  | _, _ => .error .typeError

def ofTableError : TableError (PsError Exc) → PsError Exc
  | .runtimeError => .runtimeError
  | .indexError => .indexError
  | .raised error => error

/-! ### The selection -/

/-- The result of `shell_command` for a command line, and its text. -/
structure CommandLine where
  words : List Text
  text : Text

structure ListParams where
  pid : Option Int := none
  command : Option Text := none
  isKernel : Option Bool := some false
  commandLine : Option CommandLine := none
  isCirros : Option Bool := none

/-- The patterns that `re.compile` makes of texts. -/
abbrev Compile (Exc : Type) := Text → Except Exc (Text → Bool)

/-- `str(process.command_line)` -/
def lineText : Option Text → Text
  | none => "None".toList
  | some line => line

/-- The pattern of the commands: the first word of the command line where no command is given. -/
def commandPattern (params : ListParams) (selection : List PsProcess) :
    Except (PsError Exc) (Option Text) :=
  if selection = [] then .ok params.command
  else match params.command, params.commandLine with
    | some command, _ => .ok (some command)
    | none, none => .ok none
    | none, some commandLine =>
        match commandLine.words with
        | [] => .error .indexError
        | word :: _ => .ok (some word)

def selectPid (processes : List PsProcess) : Option Int → List PsProcess
  | none => processes
  | some pid => processes.filter fun process => process.pid = pid

def selectKernel (processes : List PsProcess) : Option Bool → List PsProcess
  | none => processes
  | some kernel => processes.filter fun process => isKernel process = kernel

def selectCommand (compile : Compile Exc) (command : Option Text) (processes : List PsProcess) :
    Except (PsError Exc) (List PsProcess) :=
  match processes, command with
  | [], _ => .ok []
  | _, none => .ok processes
  | _, some command => do
      let pattern ← (compile command).mapError .raised
      pure (processes.filter fun process => pattern process.command)

/-- The command lines are read one after the other. -/
def filterLines (commandLine : PsProcess → Except Exc (Option Text)) (pattern : Text → Bool) :
    List PsProcess → Except (PsError Exc) (List PsProcess)
  | [] => .ok []
  | process :: processes => do
      let line ← (commandLine process).mapError .raised
      let others ← filterLines commandLine pattern processes
      pure (if pattern (lineText line) then process :: others else others)

def selectLine (compile : Compile Exc) (commandLine : PsProcess → Except Exc (Option Text))
    (wanted : Option CommandLine) (processes : List PsProcess) :
    Except (PsError Exc) (List PsProcess) :=
  match processes, wanted with
  | [], _ => .ok []
  | _, none => .ok processes
  | _, some wanted => do
      let pattern ← (compile wanted.text).mapError .raised
      filterLines commandLine pattern processes

/-- `select_processes` -/
def selectProcesses (compile : Compile Exc) (commandLine : PsProcess → Except Exc (Option Text))
    (params : ListParams) (processes : List PsProcess) : Except (PsError Exc) (List PsProcess) := do
  let selection := selectPid processes params.pid
  let command ← commandPattern params selection
  let selection ← selectCommand compile command selection
  selectLine compile commandLine params.commandLine (selectKernel selection params.isKernel)

/-! ### The listing -/

/-- What `ps` has put out, and what the command lines of the processes are then. -/
structure PsResult (Exc : Type) where
  stdout : Option Text
  stderr : Text
  commandLine : PsProcess → Except Exc (Option Text)

/-- The arguments of the command that is executed. -/
def psCommand (params : ListParams) : List Text :=
  match params.pid, params.isCirros with
  | some pid, some false => ["ps".toList, "-p".toList, (toString pid).toList]
  | _, _ => ["ps".toList, "-A".toList]

/-- The processes of an output. -/
def readProcesses (lower : Text → Text) (output : Text) :
    Except (PsError Exc) (List PsProcess) :=
  (parseTable lower psTableSchema psProcess (splitLines output)).mapError ofTableError

/-- What is made of a result of `ps`. -/
def listResult (lower : Text → Text) (compile : Compile Exc) (params : ListParams)
    (result : PsResult Exc) : Except (PsError Exc) (List PsProcess) :=
  match result.stdout.map strip with
  | none | some [] => .error (.psError result.stderr)
  | some output => do
      let processes ← readProcesses lower output
      selectProcesses compile result.commandLine params processes

/-- `list_processes` -/
def listProcesses (lower : Text → Text) (compile : Compile Exc)
    (execute : List Text → Except Exc (PsResult Exc)) (params : ListParams) :
    Except (PsError Exc) (List PsProcess) := do
  let result ← (execute (psCommand params)).mapError .raised
  listResult lower compile params result

end Table

/-! ### What is selected -/

section Select

variable {Exc : Type} {compile : Compile Exc} {commandLine : PsProcess → Except Exc (Option Text)}
  {params : ListParams} {processes selection : List PsProcess}

/-- The pattern of the commands, where there is one. -/
def patternText (params : ListParams) : Option Text :=
  params.command.or (params.commandLine.bind (·.words.head?))

def matchesCommand (compile : Compile Exc) (command : Option Text) (process : PsProcess) : Bool :=
  command.all fun command => (compile command).toOption.any fun pattern => pattern process.command

def matchesLine (compile : Compile Exc) (commandLine : PsProcess → Except Exc (Option Text))
    (wanted : Option CommandLine) (process : PsProcess) : Bool :=
  wanted.all fun wanted => (compile wanted.text).toOption.any fun pattern =>
    (commandLine process).toOption.any fun line => pattern (lineText line)

/-- The process is one that the parameters ask for. -/
def wanted (compile : Compile Exc) (commandLine : PsProcess → Except Exc (Option Text))
    (params : ListParams) (process : PsProcess) : Bool :=
  params.pid.all (fun pid => process.pid = pid) &&
    matchesCommand compile (patternText params) process &&
    params.isKernel.all (fun kernel => isKernel process = kernel) &&
    matchesLine compile commandLine params.commandLine process

theorem selectPid_eq (processes : List PsProcess) (wanted : Option Int) :
    selectPid processes wanted =
      processes.filter fun process => wanted.all fun pid => process.pid = pid := by
  cases wanted with
  | none => exact (List.filter_eq_self.mpr fun _ _ => rfl).symm
  | some pid => rfl

theorem selectKernel_eq (processes : List PsProcess) (wanted : Option Bool) :
    selectKernel processes wanted =
      processes.filter fun process => wanted.all fun kernel => isKernel process = kernel := by
  cases wanted with
  | none => exact (List.filter_eq_self.mpr fun _ _ => rfl).symm
  | some kernel => rfl

theorem commandPattern_ok {command : Option Text} (nonempty : processes ≠ [])
    (made : (commandPattern params processes : Except (PsError Exc) _) = .ok command) :
    command = patternText params := by
  unfold commandPattern at made
  unfold patternText
  rw [if_neg nonempty] at made
  split at made
  · rename_i given _ same
    cases made
    rw [same]
    rfl
  · rename_i noCommand noLine
    cases made
    rw [noCommand, noLine]
    rfl
  · rename_i wanted noCommand same
    rw [noCommand, same]
    split at made
    · cases made
    · rename_i word words known
      cases made
      simp [known]

theorem selectCommand_ok {command : Option Text}
    (selected : selectCommand compile command processes = .ok selection) :
    selection = processes.filter (matchesCommand compile command) := by
  unfold selectCommand at selected
  split at selected
  · cases selected
    rfl
  · cases selected
    exact (List.filter_eq_self.mpr fun _ _ => rfl).symm
  · rename_i command _
    obtain ⟨pattern, compiled, selected⟩ := eq_ok_of_bind selected
    have same : matchesCommand compile (some command) =
        fun process => pattern process.command := by
      funext process
      simp [matchesCommand, eq_ok_of_mapError compiled, Except.toOption]
    cases selected
    rw [same]

theorem filterLines_ok {pattern : Text → Bool}
    (selected : filterLines commandLine pattern processes = .ok selection) :
    selection = processes.filter fun process =>
      (commandLine process).toOption.any fun line => pattern (lineText line) := by
  induction processes generalizing selection with
  | nil =>
      cases selected
      rfl
  | cons process processes inductionHypothesis =>
      unfold filterLines at selected
      obtain ⟨line, read, selected⟩ := eq_ok_of_bind selected
      obtain ⟨others, rest, selected⟩ := eq_ok_of_bind selected
      cases selected
      rw [List.filter_cons, ← inductionHypothesis rest, eq_ok_of_mapError read]
      rfl

theorem selectLine_ok {wanted : Option CommandLine}
    (selected : selectLine compile commandLine wanted processes = .ok selection) :
    selection = processes.filter (matchesLine compile commandLine wanted) := by
  unfold selectLine at selected
  split at selected
  · cases selected
    rfl
  · cases selected
    exact (List.filter_eq_self.mpr fun _ _ => rfl).symm
  · rename_i wanted _
    obtain ⟨pattern, compiled, selected⟩ := eq_ok_of_bind selected
    have same : matchesLine compile commandLine (some wanted) = fun process =>
        (commandLine process).toOption.any fun line => pattern (lineText line) := by
      funext process
      simp [matchesLine, eq_ok_of_mapError compiled, Except.toOption]
    rw [same]
    exact filterLines_ok selected

/-- The processes with a pid, which the parameters ask for by the other criteria. -/
theorem filter_wanted (processes : List PsProcess) :
    processes.filter (wanted compile commandLine params) =
      (selectKernel ((selectPid processes params.pid).filter
        (matchesCommand compile (patternText params))) params.isKernel).filter
          (matchesLine compile commandLine params.commandLine) := by
  rw [selectKernel_eq, selectPid_eq, List.filter_filter, List.filter_filter, List.filter_filter]
  congr 1
  funext process
  unfold wanted
  simp only [Bool.and_comm, Bool.and_left_comm, Bool.and_assoc]

/-- The selected processes are those that are wanted, in their order. -/
theorem selectProcesses_ok
    (selected : selectProcesses compile commandLine params processes = .ok selection) :
    selection = processes.filter (wanted compile commandLine params) := by
  unfold selectProcesses at selected
  obtain ⟨command, made, selected⟩ := eq_ok_of_bind selected
  obtain ⟨others, byCommand, selected⟩ := eq_ok_of_bind selected
  rw [filter_wanted, selectLine_ok selected, selectCommand_ok byCommand]
  by_cases none_left : selectPid processes params.pid = []
  · -- Without processes the pattern is not looked at.
    rw [none_left]
    rfl
  · rw [commandPattern_ok none_left made]

end Select

/-! ### An output that shows processes -/

/-- The names of the columns of a command. -/
def isCommandName (name : Text) : Bool := name = "cmd".toList || name = "command".toList

/-- The cells of a row are those of a process, at the columns that the schema knows. -/
structure ShowsProcess (names cells : List Text) (process : PsProcess) : Prop where
  complete : cells.length = names.length
  pid : ∀ column ∈ names.zip cells, column.1 = "pid".toList →
    Text.int column.2 = some process.pid
  command : ∀ column ∈ names.zip cells, isCommandName column.1 → column.2 = process.command

structure HasColumns (names : List Text) : Prop where
  pid : "pid".toList ∈ names
  command : ∃ name ∈ names, isCommandName name

def processItem (process : PsProcess) (name : Text) : Option (PsKey × PsValue) :=
  if name = "pid".toList then some (.pid, .pid process.pid)
  else if isCommandName name then some (.command, .command process.command)
  else none

section Shown

variable {Exc : Type} {names : List Text} {process : PsProcess}

theorem isCommandName_iff {name : Text} :
    isCommandName name = true ↔ name = "cmd".toList ∨ name = "command".toList := by
  unfold isCommandName
  rw [Bool.or_eq_true, decide_eq_true_iff, decide_eq_true_iff]

theorem not_isPid {name : Text} (isCommand : isCommandName name = true) :
    name ≠ "pid".toList := by
  intro isPid
  rw [isPid] at isCommand
  revert isCommand
  decide

theorem processItem_pid (process : PsProcess) :
    processItem process "pid".toList = some (.pid, .pid process.pid) := if_pos rfl

theorem processItem_command {name : Text} (isCommand : isCommandName name = true)
    (process : PsProcess) :
    processItem process name = some (.command, .command process.command) := by
  rw [processItem, if_neg (not_isPid isCommand), if_pos isCommand]

/-- A column adds what it shows, and nothing where the schema does not know it. -/
theorem schema_cell {name cell : Text}
    (pid : name = "pid".toList → Text.int cell = some process.pid)
    (command : isCommandName name → cell = process.command) :
    ((psTableSchema : TableSchema PsKey PsValue (PsError Exc)) name).map
        (fun getter => getter cell) = (processItem process name).map .ok := by
  unfold psTableSchema
  by_cases isPid : name = "pid".toList
  · rw [if_pos isPid, Option.map_some, parsePid, pid isPid, isPid, processItem_pid]
    rfl
  · rw [if_neg isPid]
    by_cases isCommand : isCommandName name = true
    · rw [if_pos (isCommandName_iff.mp isCommand), Option.map_some, parseCommand,
        command isCommand, processItem_command isCommand]
      rfl
    · rw [if_neg fun known => isCommand (isCommandName_iff.mpr known), processItem, if_neg isPid,
        if_neg isCommand]
      rfl

theorem readCells_shown {cells : List Text} (shows : ShowsProcess names cells process) :
    readCells (psTableSchema : TableSchema PsKey PsValue (PsError Exc)) names cells =
      (names.filterMap (processItem process)).map .ok := by
  obtain ⟨complete, pid, command⟩ := shows
  unfold readCells
  induction names generalizing cells with
  | nil => rfl
  | cons name names inductionHypothesis =>
      cases cells with
      | nil => cases complete
      | cons cell cells =>
          have others := inductionHypothesis (Nat.succ.inj complete)
            (fun column member => pid column (List.mem_cons_of_mem _ member))
            (fun column member => command column (List.mem_cons_of_mem _ member))
          have own := @schema_cell Exc process name cell (pid (name, cell) List.mem_cons_self)
            (command (name, cell) List.mem_cons_self)
          rw [List.zip_cons_cons, List.filterMap_cons, List.filterMap_cons, others]
          simp only [own]
          cases processItem process name with
          | none => rfl
          | some item => rfl

theorem psProcess_items (hasColumns : HasColumns names) (process : PsProcess) :
    psProcess (.ofPairs (names.filterMap (processItem process))) =
      (.ok process : Except (PsError Exc) _) := by
  have item (name : Text) (pair : PsKey × PsValue) (same : processItem process name = some pair) :
      pair = (.pid, .pid process.pid) ∨ pair = (.command, .command process.command) := by
    unfold processItem at same
    split at same
    · exact .inl (Option.some.inj same).symm
    · split at same
      · exact .inr (Option.some.inj same).symm
      · cases same
  have pid : (Dict.ofPairs (names.filterMap (processItem process))).get? .pid =
      some (.pid process.pid) := by
    apply Dict.get?_ofPairs_of_agree
    · exact List.mem_filterMap.mpr ⟨_, hasColumns.pid, processItem_pid process⟩
    · intro pair member isPid
      obtain ⟨name, _, same⟩ := List.mem_filterMap.mp member
      obtain same | same := item name pair same
      · rw [same]
      · rw [same] at isPid
        cases isPid
  have command : (Dict.ofPairs (names.filterMap (processItem process))).get? .command =
      some (.command process.command) := by
    obtain ⟨name, member, isCommand⟩ := hasColumns.command
    apply Dict.get?_ofPairs_of_agree
    · exact List.mem_filterMap.mpr ⟨name, member, processItem_command isCommand process⟩
    · intro pair member isCommand
      obtain ⟨name, _, same⟩ := List.mem_filterMap.mp member
      obtain same | same := item name pair same
      · rw [same] at isCommand
        cases isCommand
      · rw [same]
  unfold psProcess
  rw [pid, command]

theorem readRow_shown {cells : List Text} (hasColumns : HasColumns names)
    (shows : ShowsProcess names cells process) :
    readRow (gettersOf psTableSchema names) psProcess cells =
      (.ok process : Except (TableError (PsError Exc)) _) := by
  rw [readRow_cells psTableSchema shows.complete psProcess (readCells_shown shows),
    psProcess_items hasColumns]
  rfl

theorem complete_of_shown {rows : List (List Text)} {processes : List PsProcess}
    (shown : List.Forall₂ (ShowsProcess names) rows processes) :
    ∀ cells ∈ rows, cells.length = names.length := by
  induction shown with
  | nil => simp
  | cons own others inductionHypothesis =>
      exact List.forall_mem_cons.mpr ⟨own.complete, inductionHypothesis⟩

theorem mapM_readRow_shown {rows : List (List Text)} {processes : List PsProcess}
    (hasColumns : HasColumns names) (shown : List.Forall₂ (ShowsProcess names) rows processes) :
    rows.mapM (readRow (gettersOf psTableSchema names) psProcess) =
      (.ok processes : Except (TableError (PsError Exc)) _) := by
  induction shown with
  | nil => rfl
  | cons own others inductionHypothesis =>
      rw [List.mapM_cons, readRow_shown hasColumns own, inductionHypothesis]
      rfl

end Shown

/-- An output of `ps`: a header that names the columns, and lines that show processes. -/
structure PsOutput (lower : Text → Text) where
  text : Text
  header : Text
  lines : List Text
  rows : List (List Text)
  processes : List PsProcess
  stripped : strip text = ['\n'].intercalate (header :: lines)
  areLines : ∀ line ∈ header :: lines, line ≠ [] ∧ line.any isLineBreak = false
  hasColumns : HasColumns (columnNames lower header)
  areRows : AreRows rows lines
  shown : List.Forall₂ (ShowsProcess (columnNames lower header)) rows processes

section Output

variable {Exc : Type} {lower : Text → Text}

theorem PsOutput.read (output : PsOutput lower) :
    readProcesses lower (strip output.text) =
      (.ok output.processes : Except (PsError Exc) _) := by
  have headerLine := (output.areLines output.header List.mem_cons_self).1
  unfold readProcesses parseTable
  rw [output.stripped, Text.splitLines_intercalate output.areLines, headerOf, if_neg headerLine]
  show (readRows (gettersOf psTableSchema _) psProcess _ output.lines).mapError _ = _
  rw [readRows_shown output.areRows (complete_of_shown output.shown),
    mapM_readRow_shown output.hasColumns output.shown]
  rfl

theorem PsOutput.strip_ne_nil (output : PsOutput lower) : strip output.text ≠ [] := by
  have headerLine := (output.areLines output.header List.mem_cons_self).1
  rw [output.stripped]
  cases output.lines with
  | nil => simpa using headerLine
  | cons line lines => simp [headerLine]

theorem listResult_shown (output : PsOutput lower) (compile : Compile Exc)
    (commandLine : PsProcess → Except Exc (Option Text)) (params : ListParams) (stderr : Text) :
    listResult lower compile params ⟨some output.text, stderr, commandLine⟩ =
      selectProcesses compile commandLine params output.processes := by
  unfold listResult
  rw [Option.map_some]
  split
  · rename_i same
    cases same
  · rename_i same
    exact absurd (Option.some.inj same) output.strip_ne_nil
  · rename_i text _ same
    rw [← Option.some.inj same, output.read]
    rfl

/-- **A listing selects among the processes that `ps` shows, whatever the order of the columns and
the blanks between them: what it returns are those that are asked for, in their order.** -/
theorem list_processes_shown (output : PsOutput lower) (compile : Compile Exc)
    {execute : List Text → Except Exc (PsResult Exc)} {params : ListParams} {stderr : Text}
    {commandLine : PsProcess → Except Exc (Option Text)}
    (executed : execute (psCommand params) = .ok ⟨some output.text, stderr, commandLine⟩) :
    listProcesses lower compile execute params =
        selectProcesses compile commandLine params output.processes ∧
      ∀ selection, listProcesses lower compile execute params = .ok selection →
        selection = output.processes.filter (wanted compile commandLine params) := by
  have listed : listProcesses lower compile execute params =
      selectProcesses compile commandLine params output.processes := by
    unfold listProcesses
    rw [executed]
    exact listResult_shown output compile commandLine params stderr
  constructor
  · exact listed
  · intro selection returned
    rw [listed] at returned
    exact selectProcesses_ok returned

/-- A table with a process of the kernel and with one whose command has blanks. -/
def testOutput : PsOutput (·.map Char.toLower) where
  text := "  PID CMD\n    2 [kthreadd]\n   42 sshd: -D  \n".toList
  header := "PID CMD".toList
  lines := ["    2 [kthreadd]".toList, "   42 sshd: -D".toList]
  rows := [["2".toList, "[kthreadd]".toList], ["42".toList, "sshd: -D".toList]]
  processes := [⟨"[kthreadd]".toList, 2⟩, ⟨"sshd: -D".toList, 42⟩]
  stripped := by decide
  areLines := by decide
  hasColumns := by
    constructor
    · decide
    · exact ⟨"cmd".toList, by decide, by decide⟩
  areRows := by
    apply AreRows.row
    · have shows : Shows ["2".toList, "[kthreadd]".toList] "2 [kthreadd]".toList :=
        @Shows.column "2".toList " ".toList "[kthreadd]".toList _ (Systemctl.isWord_of_all (by decide) rfl)
          (by decide) (by decide) (.last (by decide) (Text.trimmed_of_ends rfl rfl))
      exact @IsRow.padded _ "    ".toList _ [] (by decide) shows (by decide)
    · apply AreRows.row _ .none
      have shows : Shows ["42".toList, "sshd: -D".toList] "42 sshd: -D".toList :=
        @Shows.column "42".toList " ".toList "sshd: -D".toList _ (Systemctl.isWord_of_all (by decide) rfl)
          (by decide) (by decide) (.last (by decide) (Text.trimmed_of_ends rfl rfl))
      exact @IsRow.padded _ "   ".toList _ [] (by decide) shows (by decide)
  shown := by
    apply List.Forall₂.cons
    · constructor
      · rfl
      · decide
      · decide
    · apply List.Forall₂.cons _ .nil
      constructor
      · rfl
      · decide
      · decide

def literal (command : Text) : Except Unit (Text → Bool) := .ok command.isPrefixOf

/-- A host with these processes, on which only the listing of all of them succeeds. -/
def testExecute (words : List Text) : Except Unit (PsResult Unit) :=
  if words = ["ps".toList, "-A".toList] then .ok ⟨some testOutput.text, [], fun _ => .ok none⟩
  else .error ()

theorem list_processes_shown_sshd :
    listProcesses (·.map Char.toLower) literal testExecute
        ⟨none, some "sshd".toList, some false, none, none⟩ = .ok [⟨"sshd: -D".toList, 42⟩] ∧
      [⟨"sshd: -D".toList, 42⟩] = testOutput.processes.filter
        (wanted literal (fun _ => .ok none) ⟨none, some "sshd".toList, some false, none, none⟩) := by
  have shown := list_processes_shown testOutput literal
    (show testExecute (psCommand ⟨none, some "sshd".toList, some false, none, none⟩) =
      .ok ⟨some testOutput.text, [], fun _ => .ok none⟩ from if_pos rfl)
  have listed : selectProcesses literal (fun _ => .ok none)
      ⟨none, some "sshd".toList, some false, none, none⟩ testOutput.processes =
        .ok [⟨"sshd: -D".toList, 42⟩] := rfl
  have returned := shown.1.trans listed
  exact ⟨returned, shown.2 _ returned⟩

end Output

end Tobiko.Shell.Sh.Ps
