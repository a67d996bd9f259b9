import Tobiko.Foundation.Shlex

/-!
Contract: shell commands, as lists of arguments and as the text that a shell reads.

Owns: `quote`, `join`, `split` and the text of a `ShellCommand`, that splitting this text
gives the arguments again, and what `shell_command` makes of its argument.

Does not own: the lexer.
-/

namespace Tobiko.Shell.Sh.Command

open Tobiko.Foundation.Shlex

/-- The characters of a text. -/
abbrev Text := List Char

/-- A character of `[\w@&%+=:,.;<>/\-()\[\]|*~]`, in ASCII. -/
def isSafe (character : Char) : Bool :=
  character.isAlphanum || character == '_' ||
    character ∈ ['@', '&', '%', '+', '=', ':', ',', '.', ';', '<', '>', '/', '-', '(', ')',
      '[', ']', '|', '*', '~']

/-- Whether `_find_unsafe(s)` is not `None`. -/
def findUnsafe (s : Text) : Bool := s.any fun character => !isSafe character

/-- `^q.*q$` for the quote `q`: the end may be followed by a newline, and the dot does not
match one. -/
def isQuotedBy (mark : Char) : Text → Bool
  | [] => false
  | first :: rest =>
      let line := if rest.getLast? = some '\n' then rest.dropLast else rest
      first == mark && line.getLast? == some mark && !line.contains '\n'

/-- Whether `_is_quoted(s)` is not `None`. -/
def isQuoted (s : Text) : Bool := isQuotedBy '\'' s || isQuotedBy '"' s

/-- A single quote of the argument, put into double quotes. -/
def quoteCharacter (character : Char) : Text :=
  if character = '\'' then ['\'', '"', '\'', '"', '\''] else [character]

def quote (s : Text) : Text :=
  if s = [] then ['\'', '\'']
  else if isQuoted s then s
  else if !findUnsafe s then s
  else '\'' :: s.flatMap quoteCharacter ++ ['\'']

def join (sequence : List Text) : Text := [' '].intercalate (sequence.map quote)

/-- `ShellCommand`, whose `str` is what `join` makes of it. -/
structure ShellCommand where
  arguments : List Text
  deriving DecidableEq

def ShellCommand.str (command : ShellCommand) : Text := join command.arguments

/-- `ShellCommand.__add__`, for two commands. -/
def ShellCommand.add (command other : ShellCommand) : ShellCommand :=
  ⟨command.arguments ++ other.arguments⟩

/-- `split(command)`; it ends in `none` when `fuel` does not suffice. -/
def split (fuel : Nat) (command : Text) : Option (Except LexError ShellCommand) :=
  (Tobiko.Foundation.Shlex.split fuel command).map fun words => words.map ShellCommand.mk

/-! ### Quoted arguments -/

theorem isPlain_of_isSafe {character : Char} (safe : isSafe character = true) :
    IsPlain character := by
  have apart : ∀ other ∈ [' ', '\t', '\r', '\n', '#', '\'', '"', '\\'], character ≠ other := by
    rintro other member rfl
    have unsafe_ : ∀ one ∈ [' ', '\t', '\r', '\n', '#', '\'', '"', '\\'], isSafe one = false := by
      simp [isSafe]
    rw [unsafe_ _ member] at safe
    cases safe
  refine ⟨?_, apart _ (by decide), ?_, apart _ (by decide)⟩
  · simp [isWhitespace, apart]
  · simp [isQuote, apart]

theorem isPlain_of_not_findUnsafe {s : Text} (safe : findUnsafe s = false) :
    ∀ character ∈ s, IsPlain character := by
  intro character member
  refine isPlain_of_isSafe ?_
  have notUnsafe := List.any_eq_false.mp safe character member
  simpa using notUnsafe

theorem not_isQuotedBy {mark : Char} {s : Text} (first : s.head? ≠ some mark) :
    isQuotedBy mark s = false := by
  cases s with
  | nil => rfl
  | cons character rest =>
      have apart : (character == mark) = false := by
        refine beq_eq_false_iff_ne.mpr fun same => first ?_
        rw [List.head?_cons, same]
      simp only [isQuotedBy, apart, Bool.false_and]

/-- An argument is recovered from its quoted form, up to the end of the quotes. -/
theorem readToken_flatMap_quoteCharacter {s token rest : Text} {quoted : Bool}
    {escapedState : LexState} :
    readToken false (.quotes '\'') token quoted escapedState
        (s.flatMap quoteCharacter ++ '\'' :: rest) =
      readToken false .word (token ++ s) true escapedState rest := by
  induction s generalizing token quoted with
  | nil => rw [List.flatMap_nil, List.nil_append, List.append_nil, readToken_closing]
  | cons character s inductionHypothesis =>
      rw [List.flatMap_cons, List.append_assoc]
      by_cases isMark : character = '\''
      · -- The single quotes are closed, and opened again after the one in double quotes.
        subst isMark
        rw [quoteCharacter, if_pos rfl]
        simp only [List.cons_append, List.nil_append]
        rw [readToken_closing, readToken_opening (by decide),
          readToken_double_quoted (by decide) (by decide), readToken_closing,
          readToken_opening (by decide), inductionHypothesis, List.append_assoc]
        rfl
      · rw [quoteCharacter, if_neg isMark, List.cons_append, List.nil_append,
          readToken_single_quoted isMark, inductionHypothesis, List.append_assoc]
        rfl

/-- Where the argument does not begin with a quote. -/
structure Unquoted (s : Text) : Prop where
  single : s.head? ≠ some '\''
  double : s.head? ≠ some '"'

instance (s : Text) : Decidable (Unquoted s) :=
  decidable_of_iff (s.head? ≠ some '\'' ∧ s.head? ≠ some '"')
    ⟨fun both => ⟨both.1, both.2⟩, fun unquoted => ⟨unquoted.single, unquoted.double⟩⟩

theorem Unquoted.not_isQuoted {s : Text} (unquoted : Unquoted s) : isQuoted s = false := by
  rw [isQuoted, not_isQuotedBy unquoted.single, not_isQuotedBy unquoted.double]
  rfl

/-- **The lexer reads the argument back from what `quote` makes of it**, unless the argument is
left alone as an already quoted one. -/
theorem readToken_quote {s : Text} (rest : Text) (notQuoted : isQuoted s = false) :
    ∃ quoted, (s ≠ [] ∨ quoted = true) ∧
      readToken false .blank [] false .blank (quote s ++ rest) =
        readToken false .word s quoted .blank rest := by
  unfold quote
  by_cases empty : s = []
  · subst empty
    refine ⟨true, .inr rfl, ?_⟩
    rw [if_pos rfl]
    exact readToken_first_quote.trans readToken_closing
  · rw [if_neg empty, notQuoted]
    simp only [if_false, Bool.false_eq_true]
    cases safe : findUnsafe s with
    | false =>
        have plain := isPlain_of_not_findUnsafe safe
        refine ⟨false, .inl empty, ?_⟩
        obtain ⟨character, text, rfl⟩ := List.exists_cons_of_ne_nil empty
        exact readToken_plain plain
    | true =>
        refine ⟨true, .inr rfl, ?_⟩
        have shape : '\'' :: s.flatMap quoteCharacter ++ ['\''] ++ rest =
            '\'' :: (s.flatMap quoteCharacter ++ '\'' :: rest) := by
          simp
        simp only [Bool.not_true, if_false, Bool.false_eq_true]
        rw [shape]
        exact readToken_first_quote.trans readToken_flatMap_quoteCharacter

/-! ### Commands -/

theorem join_cons {s : Text} {arguments : List Text} (more : arguments ≠ []) :
    join (s :: arguments) = quote s ++ ' ' :: join arguments := by
  obtain ⟨next, others, rfl⟩ := List.exists_cons_of_ne_nil more
  simp [join, List.intercalate]

theorem join_singleton (s : Text) : join [s] = quote s := by
  simp [join, List.intercalate]

/-- The induction is on the arguments; each is read up to the blank after it. -/
theorem readTokens_join {arguments : List Text} {fuel : Nat}
    (notQuoted : ∀ s ∈ arguments, isQuoted s = false) (enough : arguments.length < fuel) :
    readTokens fuel .blank (join arguments) = some (.ok arguments) := by
  induction arguments generalizing fuel with
  | nil =>
      obtain ⟨fuel, rfl⟩ := Nat.exists_eq_add_of_lt enough
      rfl
  | cons s arguments inductionHypothesis =>
      have rest : ∀ other ∈ arguments, isQuoted other = false :=
        fun other member => notQuoted other (List.mem_cons_of_mem _ member)
      obtain ⟨fuel, rfl⟩ := Nat.exists_eq_succ_of_ne_zero (Nat.ne_zero_of_lt enough)
      have enoughRest : arguments.length < fuel := Nat.lt_of_succ_lt_succ enough
      by_cases more : arguments = []
      · subst more
        obtain ⟨quoted, present, reads⟩ := readToken_quote [] (notQuoted s List.mem_cons_self)
        obtain ⟨fuel, rfl⟩ := Nat.exists_eq_succ_of_ne_zero (Nat.ne_zero_of_lt enoughRest)
        rw [join_singleton, ← List.append_nil (quote s), readTokens, reads, readToken_end present]
        rfl
      · obtain ⟨quoted, present, reads⟩ :=
          readToken_quote (' ' :: join arguments) (notQuoted s List.mem_cons_self)
        rw [join_cons more, readTokens, reads, readToken_space present]
        simp only [inductionHypothesis rest enoughRest]
        rfl

theorem mark_of_isQuotedBy {mark : Char} {s : Text} (quoted : isQuotedBy mark s = true) :
    ∃ text, s = mark :: text := by
  cases s with
  | nil => cases quoted
  | cons first rest =>
      simp only [isQuotedBy, Bool.and_eq_true, beq_iff_eq] at quoted
      exact ⟨rest, by rw [quoted.1.1]⟩

theorem mark_of_isQuoted {s : Text} (quoted : isQuoted s = true) :
    ∃ mark text, isQuote mark = true ∧ s = mark :: text := by
  rw [isQuoted, Bool.or_eq_true] at quoted
  rcases quoted with single | double
  · obtain ⟨text, shape⟩ := mark_of_isQuotedBy single
    exact ⟨'\'', text, by decide, shape⟩
  · obtain ⟨text, shape⟩ := mark_of_isQuotedBy double
    exact ⟨'"', text, by decide, shape⟩

/-- An argument that is taken as already quoted is never the token that is read first. -/
theorem readToken_quoted_ne {s tail left : Text} {after : LexState} (quoted : isQuoted s = true)
    (behind : tail = [] ∨ ∃ more, tail = ' ' :: more) :
    readToken false .blank [] false .blank (quote s ++ tail) ≠ .ok ⟨some s, after, left⟩ := by
  obtain ⟨mark, text, isMark, shape⟩ := mark_of_isQuoted quoted
  have nonempty : s ≠ [] := by
    rw [shape]
    exact List.cons_ne_nil _ _
  have alone : quote s = s := by rw [quote, if_neg nonempty, if_pos quoted]
  rw [alone, shape]
  exact readToken_mark_ne isMark behind

/-- What the first token has to be where a text is read as `s :: arguments`. -/
theorem readToken_of_readTokens {fuel : Nat} {state : LexState} {text s : Text}
    {arguments : List Text} (reads : readTokens fuel state text = some (.ok (s :: arguments))) :
    ∃ fewer after left, fuel = fewer + 1 ∧
      readToken false state [] false .blank text = .ok ⟨some s, after, left⟩ ∧
      readTokens fewer after left = some (.ok arguments) := by
  cases fuel with
  | zero => cases reads
  | succ fuel =>
      rw [readTokens] at reads
      cases first : readToken false state [] false .blank text with
      | error error =>
          rw [first] at reads
          cases reads
      | ok token =>
          rw [first] at reads
          obtain ⟨word, after, left⟩ := token
          cases word with
          | none => cases reads
          | some word =>
              obtain ⟨others, rest, result⟩ := Option.map_eq_some_iff.mp reads
              cases others with
              | error error => cases result
              | ok words =>
                  cases result
                  exact ⟨fuel, after, left, rfl, rfl, rest⟩

/-- An argument that is taken as already quoted is not read back, wherever it stands. -/
theorem not_isQuoted_of_readTokens_join {arguments : List Text} {fuel : Nat}
    (reads : readTokens fuel .blank (join arguments) = some (.ok arguments)) :
    ∀ s ∈ arguments, isQuoted s = false := by
  induction arguments generalizing fuel with
  | nil => exact List.forall_mem_nil _
  | cons s arguments inductionHypothesis =>
      obtain ⟨fewer, after, left, -, first, others⟩ := readToken_of_readTokens reads
      have shape : ∃ tail, join (s :: arguments) = quote s ++ tail ∧
          (tail = [] ∨ ∃ more, tail = ' ' :: more) := by
        by_cases more : arguments = []
        · subst more
          exact ⟨[], by rw [join_singleton, List.append_nil], .inl rfl⟩
        · exact ⟨' ' :: join arguments, join_cons more, .inr ⟨_, rfl⟩⟩
      obtain ⟨tail, shape, behind⟩ := shape
      have headNotQuoted : isQuoted s = false := by
        cases quoted : isQuoted s with
        | false => rfl
        | true =>
            rw [shape] at first
            exact absurd first (readToken_quoted_ne quoted behind)
      rw [List.forall_mem_cons]
      constructor
      · exact headNotQuoted
      by_cases more : arguments = []
      · subst more
        exact List.forall_mem_nil _
      · obtain ⟨quoted, present, read⟩ := readToken_quote (' ' :: join arguments) headNotQuoted
        rw [join_cons more, read, readToken_space present] at first
        cases first
        exact inductionHypothesis others

/-- **Splitting the text of a command gives its arguments again.** -/
theorem split_str (arguments : List Text) (unquoted : ∀ s ∈ arguments, Unquoted s) (fuel : Nat)
    (enough : arguments.length < fuel) :
    split fuel (ShellCommand.str ⟨arguments⟩) = some (.ok ⟨arguments⟩) := by
  unfold split Tobiko.Foundation.Shlex.split ShellCommand.str
  have notQuoted : ∀ s ∈ arguments, isQuoted s = false :=
    fun s member => (unquoted s member).not_isQuoted
  rw [readTokens_join notQuoted enough]
  rfl

theorem split_str_awkward :
    split 5 (ShellCommand.str ⟨[[], "it's".toList, "a b\n#\\".toList, "ü".toList]⟩) =
      some (.ok ⟨[[], "it's".toList, "a b\n#\\".toList, "ü".toList]⟩) :=
  split_str _ (by decide) 5 (by decide)

/-! ### What becomes a command -/

/-- The argument of `shell_command`: a command, a text, or objects of which `str` is taken. -/
inductive ShellCommandType where
  | parsed (command : ShellCommand)
  | line (text : Text)
  | arguments (words : List Text)
  deriving DecidableEq

/-- The truth of the argument, as of a tuple, a text or a list. -/
def ShellCommandType.truthy : ShellCommandType → Bool
  | .parsed command => !command.arguments.isEmpty
  | .line text => !text.isEmpty
  | .arguments words => !words.isEmpty

theorem split_isSome (command : Text) : (split (command.length + 1) command).isSome := by
  rw [split, Option.isSome_map]
  exact readTokens_isSome (Nat.lt_succ_self _)

/-- `shell_command(command)` -/
def shellCommand : ShellCommandType → Except LexError ShellCommand
  | .parsed command => .ok command
  | .line text => (split (text.length + 1) text).get (split_isSome text)
  | .arguments words => .ok ⟨words⟩

/-- An argument that is false makes an empty command. -/
theorem shellCommand_of_not_truthy {command : ShellCommandType} (empty : command.truthy = false) :
    shellCommand command = .ok ⟨[]⟩ := by
  cases command with
  | parsed command =>
      obtain ⟨arguments⟩ := command
      cases arguments with
      | nil => rfl
      | cons first others => cases empty
  | line text =>
      cases text with
      | nil => rfl
      | cons first others => cases empty
  | arguments words =>
      cases words with
      | nil => rfl
      | cons first others => cases empty

end Tobiko.Shell.Sh.Command
