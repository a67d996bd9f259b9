import Tobiko.Foundation.Text

/-!
Contract: the names of the processes in the output of ss.

Owns: `get_processes` with its stack of parentheses and its recursion, and exactly when it returns
the names of all processes.

Does not own: the columns of a line, and how an error is reported.
-/

namespace Tobiko.Shell.Ss

open Tobiko.Foundation Tobiko.Foundation.Text

/-- Both are an `IndexError`. -/
inductive ProcessError where
  | popFromEmptyList
  | listIndexOutOfRange
  deriving DecidableEq

/-- The variables of `get_processes`. -/
structure Scan where
  stack : List Nat
  processList : List Text
  nested : Bool
  deriving DecidableEq

/-- What one symbol does. At the closing parenthesis of the outermost pair the stack is not
popped. -/
def scanSymbol (recurse : Text → Except ProcessError (List Text)) (processes : Text) (idx : Nat)
    (symbol : Char) (scan : Scan) : Except ProcessError Scan :=
  if symbol = '(' then .ok { scan with stack := scan.stack ++ [idx], nested := true }
  else if symbol = ')' then
    match scan.stack with
    | [] => .error .popFromEmptyList
    | [first] =>
        (recurse ((processes.take idx).drop (first + 1))).map fun names =>
          { scan with processList := scan.processList ++ names }
    | first :: second :: rest => .ok { scan with stack := (first :: second :: rest).dropLast }
  else .ok scan

def scanFrom (recurse : Text → Except ProcessError (List Text)) (processes : Text) :
    Nat → Text → Scan → Except ProcessError Scan
  | _, [], scan => .ok scan
  | idx, symbol :: rest, scan =>
      match scanSymbol recurse processes idx symbol scan with
      | .error error => .error error
      | .ok next => scanFrom recurse processes (idx + 1) rest next

/-- `processes.split('"', 2)[1]` -/
def quotedName (processes : Text) : Except ProcessError Text :=
  match splitFirst '"' processes with
  | none => .error .listIndexOutOfRange
  | some (_, behind) =>
      match splitFirst '"' behind with
      | none => .ok behind
      | some (name, _) => .ok name

/-- `get_processes` for the texts of up to `length` characters. -/
def getProcessesWithin : Nat → Text → Except ProcessError (List Text)
  | 0, processes => (quotedName processes).map fun name => [name]
  | length + 1, processes =>
      match scanFrom (getProcessesWithin length) processes 0 processes ⟨[], [], false⟩ with
      | .error error => .error error
      | .ok scan =>
          if scan.nested then .ok scan.processList
          else (quotedName processes).map fun name => scan.processList ++ [name]

def getProcesses (processes : Text) : Except ProcessError (List Text) :=
  getProcessesWithin processes.length processes

/-! ### The recursion -/

theorem scanSymbol_congr {recurse other : Text → Except ProcessError (List Text)}
    {processes : Text} (nonempty : processes ≠ [])
    (same : ∀ inner : Text, inner.length < processes.length → recurse inner = other inner)
    (idx : Nat) (symbol : Char) (scan : Scan) :
    scanSymbol recurse processes idx symbol scan = scanSymbol other processes idx symbol scan := by
  have shorter : ∀ first, ((processes.take idx).drop (first + 1)).length < processes.length := by
    intro first
    have positive := List.length_pos_of_ne_nil nonempty
    rw [List.length_drop, List.length_take]
    omega
  unfold scanSymbol
  simp only [same _ (shorter _)]

theorem scanFrom_congr {recurse other : Text → Except ProcessError (List Text)} {processes : Text}
    (nonempty : processes ≠ [])
    (same : ∀ inner : Text, inner.length < processes.length → recurse inner = other inner)
    (idx : Nat) (rest : Text) (scan : Scan) :
    scanFrom recurse processes idx rest scan = scanFrom other processes idx rest scan := by
  induction rest generalizing idx scan with
  | nil => rfl
  | cons symbol rest inductionHypothesis =>
      simp only [scanFrom, scanSymbol_congr nonempty same, inductionHypothesis]

/-- The result is the same for every sufficient length; the induction is on the length of the
text. -/
theorem getProcessesWithin_eq {length : Nat} {processes : Text}
    (enough : processes.length ≤ length) :
    getProcessesWithin length processes = getProcesses processes := by
  induction size : processes.length using Nat.strong_induction_on generalizing processes length with
  | _ size inductionHypothesis =>
      cases processes with
      | nil => cases length <;> rfl
      | cons symbol rest =>
          obtain ⟨length, rfl⟩ : ∃ fewer, length = fewer + 1 :=
            Nat.exists_eq_succ_of_ne_zero (Nat.ne_zero_of_lt enough)
          have same : ∀ inner : Text, inner.length < (symbol :: rest).length →
              getProcessesWithin length inner = getProcessesWithin rest.length inner := by
            intro inner shorter
            have within : inner.length ≤ rest.length := Nat.le_of_lt_succ shorter
            rw [inductionHypothesis _ (size ▸ shorter)
                (within.trans (Nat.le_of_succ_le_succ enough)) rfl,
              inductionHypothesis _ (size ▸ shorter) within rfl]
          rw [getProcesses, List.length_cons, getProcessesWithin, getProcessesWithin,
            scanFrom_congr (List.cons_ne_nil _ _) same]

/-- `get_processes` calls itself. -/
theorem getProcesses_eq (processes : Text) :
    getProcesses processes =
      match scanFrom getProcesses processes 0 processes ⟨[], [], false⟩ with
      | .error error => .error error
      | .ok scan =>
          if scan.nested then .ok scan.processList
          else (quotedName processes).map fun name => scan.processList ++ [name] := by
  cases processes with
  | nil => rfl
  | cons symbol rest =>
      have same : ∀ inner : Text, inner.length < (symbol :: rest).length →
          getProcessesWithin rest.length inner = getProcesses inner :=
        fun inner shorter => getProcessesWithin_eq (Nat.le_of_lt_succ shorter)
      rw [getProcesses, List.length_cons, getProcessesWithin,
        scanFrom_congr (List.cons_ne_nil _ _) same]

/-! ### Texts without parentheses, and groups of them -/

/-- A text that leaves the stack alone. -/
structure Flat (text : Text) : Prop where
  noOpening : '(' ∉ text
  noClosing : ')' ∉ text

section Scanning

variable {recurse : Text → Except ProcessError (List Text)} {processes : Text}

theorem scanFrom_flat {text : Text} (flat : Flat text) (idx : Nat) (rest : Text) (scan : Scan) :
    scanFrom recurse processes idx (text ++ rest) scan =
      scanFrom recurse processes (idx + text.length) rest scan := by
  induction text generalizing idx with
  | nil => rfl
  | cons symbol text inductionHypothesis =>
      have notOpening : symbol ≠ '(' := fun same => flat.noOpening (same ▸ List.mem_cons_self)
      have notClosing : symbol ≠ ')' := fun same => flat.noClosing (same ▸ List.mem_cons_self)
      have flatRest : Flat text :=
        ⟨fun member => flat.noOpening (List.mem_cons_of_mem _ member),
          fun member => flat.noClosing (List.mem_cons_of_mem _ member)⟩
      have unchanged : scanSymbol recurse processes idx symbol scan = .ok scan := by
        rw [scanSymbol, if_neg notOpening, if_neg notClosing]
      rw [List.cons_append, scanFrom, unchanged, List.length_cons, ← Nat.add_assoc,
        Nat.add_right_comm]
      exact inductionHypothesis flatRest (idx + 1)

theorem scanFrom_opening (idx : Nat) (rest : Text) (scan : Scan) :
    scanFrom recurse processes idx ('(' :: rest) scan =
      scanFrom recurse processes (idx + 1) rest
        { scan with stack := scan.stack ++ [idx], nested := true } :=
  rfl

/-- A text that leaves the stack as it is while one pair is open. -/
def Balanced (text : Text) : Prop :=
  ∀ (recurse : Text → Except ProcessError (List Text)) (processes : Text) (idx first : Nat)
    (rest : Text) (names : List Text),
    scanFrom recurse processes idx (text ++ rest) ⟨[first], names, true⟩ =
      scanFrom recurse processes (idx + text.length) rest ⟨[first], names, true⟩

theorem Flat.balanced {text : Text} (flat : Flat text) : Balanced text :=
  fun _ _ idx _ rest _ => scanFrom_flat flat idx rest _

theorem Balanced.append {left right : Text} (leftBalanced : Balanced left)
    (rightBalanced : Balanced right) : Balanced (left ++ right) := by
  intro recurse processes idx first rest names
  rw [List.append_assoc, leftBalanced, rightBalanced, List.length_append, Nat.add_assoc]

/-- The parenthesis of an inner pair is popped. -/
theorem balanced_group {body : Text} (flat : Flat body) : Balanced ('(' :: body ++ [')']) := by
  intro recurse processes idx first rest names
  rw [List.append_assoc, List.cons_append, scanFrom_opening, scanFrom_flat flat]
  have length : idx + ('(' :: body ++ [')']).length = idx + 1 + body.length + 1 := by
    simp only [List.length_append, List.length_cons, List.length_nil]
    omega
  rw [length]
  rfl

/-- **Of a text with an outermost pair only the text within its first pair is read.** -/
theorem getProcesses_pair {label inner tail : Text} (flat : Flat label)
    (innerBalanced : Balanced inner) (tailBalanced : Balanced tail) :
    getProcesses (label ++ '(' :: (inner ++ ')' :: tail)) = getProcesses inner := by
  obtain ⟨processes, whole⟩ : ∃ processes, processes = label ++ '(' :: (inner ++ ')' :: tail) :=
    ⟨_, rfl⟩
  have within : (processes.take (0 + label.length + 1 + inner.length)).drop
      (0 + label.length + 1) = inner := by
    have shape : processes = (label ++ ['('] ++ inner) ++ ')' :: tail := by
      rw [whole]
      simp
    have upToInner : (label ++ ['('] ++ inner).length = 0 + label.length + 1 + inner.length := by
      simp only [List.length_append, List.length_singleton]
      omega
    have upToLabel : (label ++ ['(']).length = 0 + label.length + 1 := by
      simp only [List.length_append, List.length_singleton]
      omega
    rw [shape, List.take_left' upToInner, List.drop_left' upToLabel]
  have closed : scanSymbol getProcesses processes (0 + label.length + 1 + inner.length) ')'
      ⟨[0 + label.length], [], true⟩ = (getProcesses inner).map fun names =>
        ⟨[0 + label.length], names, true⟩ := by
    show (getProcesses _).map _ = _
    rw [within]
    rfl
  have scanned : scanFrom getProcesses processes 0 processes ⟨[], [], false⟩ =
      (getProcesses inner).map fun names => ⟨[0 + label.length], names, true⟩ := by
    have start : scanFrom getProcesses processes 0 processes ⟨[], [], false⟩ =
        scanFrom getProcesses processes 0 (label ++ '(' :: (inner ++ ')' :: tail))
          ⟨[], [], false⟩ := by
      rw [← whole]
    have ending := fun names => tailBalanced getProcesses processes
      (0 + label.length + 1 + inner.length + 1) (0 + label.length) [] names
    rw [start, scanFrom_flat flat, scanFrom_opening, List.nil_append, innerBalanced, scanFrom,
      closed]
    cases getProcesses inner with
    | error error => rfl
    | ok names =>
        rw [List.append_nil] at ending
        exact ending names
  rw [← whole, getProcesses_eq, scanned]
  cases getProcesses inner with
  | error error => rfl
  | ok names => rfl

end Scanning

/-! ### The processes that ss writes -/

/-- A process that has the socket open. -/
structure SocketProcess where
  name : Text
  pid : ℕ
  fd : ℕ
  deriving DecidableEq

namespace SocketProcess

def body (process : SocketProcess) : Text :=
  '"' :: process.name ++ '"' :: (",pid=".toList ++ Nat.toDigits 10 process.pid ++
    (",fd=".toList ++ Nat.toDigits 10 process.fd))

def render (process : SocketProcess) : Text := '(' :: process.body ++ [')']

end SocketProcess

/-- `users:(("n1",pid=p1,fd=f1),("n2",pid=p2,fd=f2),...)` -/
def renderUsers (processes : List SocketProcess) : Text :=
  "users:(".toList ++ [','].intercalate (processes.map SocketProcess.render) ++ [')']

/-- A name without quotes and parentheses. -/
structure PlainName (name : Text) : Prop where
  noQuote : '"' ∉ name
  flat : Flat name

theorem flat_toDigits (number : ℕ) : Flat (Nat.toDigits 10 number) := by
  constructor
  · intro member
    exact absurd (Nat.isDigit_of_mem_toDigits (by decide) (by decide) member) (by decide)
  · intro member
    exact absurd (Nat.isDigit_of_mem_toDigits (by decide) (by decide) member) (by decide)

theorem Flat.append {left right : Text} (leftFlat : Flat left) (rightFlat : Flat right) :
    Flat (left ++ right) := by
  constructor
  · rw [List.mem_append]
    exact fun member => member.elim leftFlat.noOpening rightFlat.noOpening
  · rw [List.mem_append]
    exact fun member => member.elim leftFlat.noClosing rightFlat.noClosing

theorem flat_body {process : SocketProcess} (plain : PlainName process.name) :
    Flat process.body := by
  have quoted : Flat ['"'] := ⟨by decide, by decide⟩
  have pid : Flat ",pid=".toList := ⟨by decide, by decide⟩
  have fd : Flat ",fd=".toList := ⟨by decide, by decide⟩
  have numbers := (pid.append (flat_toDigits process.pid)).append
    (fd.append (flat_toDigits process.fd))
  have whole := (quoted.append plain.flat).append (quoted.append numbers)
  simpa [SocketProcess.body] using whole

/-- The text within the parentheses of a process gives its name. -/
theorem getProcesses_body {process : SocketProcess} (plain : PlainName process.name) :
    getProcesses process.body = .ok [process.name] := by
  have scanned : scanFrom getProcesses process.body 0 process.body ⟨[], [], false⟩ =
      .ok ⟨[], [], false⟩ := by
    have flat := @scanFrom_flat getProcesses process.body _ (flat_body plain) 0 [] ⟨[], [], false⟩
    rw [List.append_nil] at flat
    exact flat
  have named : quotedName process.body = .ok process.name := by
    have first : splitFirst '"' process.body =
        some ([], process.name ++ '"' :: (",pid=".toList ++ Nat.toDigits 10 process.pid ++
          (",fd=".toList ++ Nat.toDigits 10 process.fd))) :=
      splitFirst_append _ List.not_mem_nil
    simp only [quotedName, first, splitFirst_append _ plain.noQuote]
  rw [getProcesses_eq, scanned]
  rw [named]
  rfl

theorem balanced_render {process : SocketProcess} (plain : PlainName process.name) :
    Balanced process.render :=
  balanced_group (flat_body plain)

theorem balanced_groups {processes : List SocketProcess}
    (plain : ∀ process ∈ processes, PlainName process.name) :
    Balanced ([','].intercalate (processes.map SocketProcess.render)) := by
  have comma : Balanced [','] := Flat.balanced ⟨by decide, by decide⟩
  induction processes with
  | nil => exact Flat.balanced ⟨List.not_mem_nil, List.not_mem_nil⟩
  | cons process rest inductionHypothesis =>
      have first := balanced_render (plain process List.mem_cons_self)
      have others := inductionHypothesis fun other member =>
        plain other (List.mem_cons_of_mem _ member)
      cases rest with
      | nil => simpa using first
      | cons next rest =>
          have more : (next :: rest).map SocketProcess.render ≠ [] := List.cons_ne_nil _ _
          rw [List.map_cons, List.intercalate_cons_of_ne_nil more]
          exact (first.append comma).append others

/-- Within the outermost pair the first process is the first pair. -/
theorem getProcesses_groups {first : SocketProcess} {rest : List SocketProcess}
    (plain : ∀ process ∈ first :: rest, PlainName process.name) :
    getProcesses ([','].intercalate ((first :: rest).map SocketProcess.render)) =
      .ok [first.name] := by
  have firstPlain := plain first List.mem_cons_self
  have shape : ∃ tail, Balanced tail ∧
      [','].intercalate ((first :: rest).map SocketProcess.render) =
        [] ++ '(' :: (first.body ++ ')' :: tail) := by
    cases rest with
    | nil =>
        refine ⟨[], Flat.balanced ⟨List.not_mem_nil, List.not_mem_nil⟩, ?_⟩
        simp [SocketProcess.render]
    | cons next rest =>
        have comma : Balanced [','] := Flat.balanced ⟨by decide, by decide⟩
        have more : (next :: rest).map SocketProcess.render ≠ [] := List.cons_ne_nil _ _
        have others := balanced_groups fun other member =>
          plain other (List.mem_cons_of_mem _ member)
        refine ⟨_, comma.append others, ?_⟩
        rw [List.map_cons, List.intercalate_cons_of_ne_nil more]
        simp [SocketProcess.render]
  obtain ⟨tail, tailBalanced, shape⟩ := shape
  rw [shape, getProcesses_pair ⟨List.not_mem_nil, List.not_mem_nil⟩
    (flat_body firstPlain).balanced tailBalanced]
  exact getProcesses_body firstPlain

theorem renderUsers_eq (processes : List SocketProcess) :
    renderUsers processes = "users:".toList ++
      '(' :: ([','].intercalate (processes.map SocketProcess.render) ++ [')']) := by
  have label : "users:(".toList = "users:".toList ++ ['('] := by decide
  unfold renderUsers
  generalize [','].intercalate (processes.map SocketProcess.render) = groups
  rw [label, List.append_assoc, List.append_assoc, List.singleton_append]

/-- What is returned is the name of the first process. -/
theorem getProcesses_renderUsers {first : SocketProcess} {rest : List SocketProcess}
    (plain : ∀ process ∈ first :: rest, PlainName process.name) :
    getProcesses (renderUsers (first :: rest)) = .ok [first.name] := by
  have users : Flat "users:".toList := ⟨by decide, by decide⟩
  rw [renderUsers_eq, getProcesses_pair users (balanced_groups plain)
    (Flat.balanced ⟨List.not_mem_nil, List.not_mem_nil⟩)]
  exact getProcesses_groups plain

/-- **All names are returned exactly where there is one process.** -/
theorem getProcesses_renderUsers_iff (processes : List SocketProcess) (nonempty : processes ≠ [])
    (plain : ∀ process ∈ processes, PlainName process.name) :
    getProcesses (renderUsers processes) = .ok (processes.map SocketProcess.name) ↔
      processes.length = 1 := by
  obtain ⟨first, rest, rfl⟩ := List.exists_cons_of_ne_nil nonempty
  rw [getProcesses_renderUsers plain]
  cases rest with
  | nil => simp
  | cons next rest => simp

def httpd : SocketProcess := ⟨"httpd".toList, 4969, 53⟩

theorem httpd_plain : PlainName httpd.name := ⟨by decide, by decide, by decide⟩

def sshd : SocketProcess := ⟨"sshd".toList, 9, 3⟩

theorem servers_plain : ∀ process ∈ [sshd, httpd, httpd], PlainName process.name :=
  List.forall_mem_cons.mpr ⟨⟨by decide, by decide, by decide⟩,
    List.forall_mem_cons.mpr ⟨httpd_plain, List.forall_mem_singleton.mpr httpd_plain⟩⟩

theorem getProcesses_renderUsers_iff_servers :
    getProcesses (renderUsers [httpd]) = .ok ["httpd".toList] ∧
      getProcesses (renderUsers [sshd, httpd, httpd]) ≠
        .ok ([sshd, httpd, httpd].map SocketProcess.name) := by
  constructor
  · exact (getProcesses_renderUsers_iff [httpd] (List.cons_ne_nil _ _)
      (List.forall_mem_singleton.mpr httpd_plain)).mpr rfl
  · intro all
    have one := (getProcesses_renderUsers_iff [sshd, httpd, httpd] (List.cons_ne_nil _ _)
      servers_plain).mp all
    exact absurd one (by decide)

/-- Of two processes the second one is missing. -/
theorem getProcesses_not_all :
    ¬∀ processes : List SocketProcess, processes ≠ [] →
      (∀ process ∈ processes, PlainName process.name) →
      getProcesses (renderUsers processes) = .ok (processes.map SocketProcess.name) := by
  intro claimed
  have plain : ∀ process ∈ [httpd, httpd], PlainName process.name :=
    fun process member => servers_plain process (List.mem_cons_of_mem _ member)
  have all := claimed [httpd, httpd] (List.cons_ne_nil _ _) plain
  rw [getProcesses_renderUsers plain] at all
  exact absurd (congrArg List.length (Except.ok.inj all)) (by decide)

end Tobiko.Shell.Ss
