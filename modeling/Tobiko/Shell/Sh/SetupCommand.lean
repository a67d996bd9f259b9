import Tobiko.Foundation.Effect
import Tobiko.Shell.Sh.Command

/-!
Contract: the command that a process fixture runs, wrapped by a shell, a network namespace and
`sudo`.

Owns: `setup_command`, and when the inner shell gets the whole command as the
one word behind the words of the shell.

Does not own: how the arguments are quoted, and what runs the command.
-/

namespace Tobiko.Shell.Sh.SetupCommand

open Tobiko.Foundation (eq_ok_of_bind)
open Tobiko.Foundation.Shlex (LexError readTokens)
open Tobiko.Shell.Sh.Command

/-- The `shell` and `sudo` parameters, where they are not `None`. -/
inductive Switch where
  | flag (value : Bool)
  | text (text : Text)
  deriving DecidableEq

structure ShellProcessParameters where
  command : ShellCommandType
  networkNamespace : Option Text
  shell : Option Switch
  withSudo : Option Switch

/-- The options `command` and `sudo` of `CONF.tobiko.shell`, here the options of the shell and of
`sudo`. -/
structure ShellConfig where
  shellOption : Text
  sudoOption : Text

def defaultShellCommand (conf : ShellConfig) : Except LexError ShellCommand :=
  shellCommand (.line conf.shellOption)

def defaultSudoCommand (conf : ShellConfig) : Except LexError ShellCommand :=
  shellCommand (.line conf.sudoOption)

def networkNamespaceCommand (networkNamespace : Text) (command : ShellCommand) : ShellCommand :=
  ShellCommand.add ⟨["/sbin/ip".toList, "netns".toList, "exec".toList, networkNamespace]⟩ command

/-- `shell + [str(command)]` -/
def wrap (shell command : ShellCommand) : ShellCommand := ShellCommand.add shell ⟨[command.str]⟩

/-- The command in the shell, where there is one. -/
def shellWrapped (conf : ShellConfig) (command : ShellCommand) :
    Option Switch → Except LexError ShellCommand
  | some (.text shell) => do return wrap (← shellCommand (.line shell)) command
  | some (.flag true) => do return wrap (← defaultShellCommand conf) command
  | some (.flag false) => pure command
  | none => pure command

/-- The words of the `sudo` parameter; none of them where it is false. -/
def sudoCommand (conf : ShellConfig) : Option Switch → Except LexError ShellCommand
  | some (.text []) => pure ⟨[]⟩
  | some (.text words) => shellCommand (.line words)
  | some (.flag true) => defaultSudoCommand conf
  | some (.flag false) => pure ⟨[]⟩
  | none => pure ⟨[]⟩

def setupCommand (conf : ShellConfig) (defaultShell : Option Switch)
    (parameters : ShellProcessParameters) : Except LexError ShellCommand := do
  let command ← shellCommand parameters.command
  let command ← shellWrapped conf command (parameters.shell.or defaultShell)
  match parameters.networkNamespace with
  | some (first :: rest) =>
      let outer ← sudoCommand conf (parameters.withSudo.or (some (.flag true)))
      return ShellCommand.add outer (networkNamespaceCommand (first :: rest) command)
  | _ =>
      let outer ← sudoCommand conf parameters.withSudo
      return ShellCommand.add outer command

/-! ### The inner command -/

/-- `sudo` and the network namespace come in front of the words of the shell. -/
theorem setupCommand_eq_wrap {conf : ShellConfig} {defaultShell : Option Switch}
    {parameters : ShellProcessParameters} {text : Text} {shell command result : ShellCommand}
    (chosen : parameters.shell.or defaultShell = some (.text text))
    (commandRead : shellCommand parameters.command = .ok command)
    (shellRead : shellCommand (.line text) = .ok shell)
    (set : setupCommand conf defaultShell parameters = .ok result) :
    ∃ outer, result = wrap (ShellCommand.add outer shell) command := by
  have wrapped : shellWrapped conf command (some (.text text)) = .ok (wrap shell command) := by
    show shellCommand (.line text) >>= _ = _
    rw [shellRead]
    rfl
  unfold setupCommand at set
  obtain ⟨given, read, set⟩ := eq_ok_of_bind set
  rw [commandRead] at read
  cases read
  obtain ⟨inner, made, set⟩ := eq_ok_of_bind set
  rw [chosen, wrapped] at made
  cases made
  split at set
  · rename_i first rest namespaceChosen
    obtain ⟨outer, -, added⟩ := eq_ok_of_bind set
    cases added
    refine ⟨ShellCommand.add outer (networkNamespaceCommand (first :: rest) ⟨[]⟩), ?_⟩
    simp [wrap, networkNamespaceCommand, ShellCommand.add]
  · obtain ⟨outer, -, added⟩ := eq_ok_of_bind set
    cases added
    exact ⟨outer, congrArg ShellCommand.mk (List.append_assoc _ _ _).symm⟩

/-- **The words of the shell and the text of the inner command are read back exactly where none
of them is taken as already quoted.** -/
theorem split_wrap_iff (shell command : ShellCommand) (fuel : Nat)
    (enough : shell.arguments.length + 1 < fuel) :
    split fuel (wrap shell command).str = some (.ok ⟨shell.arguments ++ [command.str]⟩) ↔
      (∀ word ∈ shell.arguments, isQuoted word = false) ∧ isQuoted command.str = false := by
  have words : (∀ word ∈ shell.arguments ++ [command.str], isQuoted word = false) ↔
      (∀ word ∈ shell.arguments, isQuoted word = false) ∧ isQuoted command.str = false := by
    rw [List.forall_mem_append, List.forall_mem_singleton]
  rw [← words]
  unfold split Tobiko.Foundation.Shlex.split
  change (readTokens fuel .blank (join (shell.arguments ++ [command.str]))).map _ = _ ↔ _
  constructor
  · intro reads
    obtain ⟨result, read, same⟩ := Option.map_eq_some_iff.mp reads
    cases result with
    | error error => cases same
    | ok arguments =>
        cases same
        exact not_isQuoted_of_readTokens_join read
  · intro notQuoted
    have enoughAll : (shell.arguments ++ [command.str]).length < fuel := by
      rw [List.length_append]
      exact enough
    rw [readTokens_join notQuoted enoughAll]
    rfl

theorem split_wrap_iff_echo :
    split 5 (wrap ⟨["/bin/sh".toList, "-c".toList]⟩ ⟨["echo".toList, "a b".toList]⟩).str =
        some (.ok ⟨["/bin/sh".toList, "-c".toList, "echo 'a b'".toList]⟩) ↔
      (∀ word ∈ ["/bin/sh".toList, "-c".toList], isQuoted word = false) ∧
        isQuoted "echo 'a b'".toList = false :=
  split_wrap_iff ⟨["/bin/sh".toList, "-c".toList]⟩ ⟨["echo".toList, "a b".toList]⟩ 5 (by decide)

/-- The inner command of two quoted arguments is not quoted again, and is read as two words. -/
theorem wrap_not_split :
    ¬∀ (shell command : ShellCommand) (fuel : Nat), shell.arguments.length + 1 < fuel →
      split fuel (wrap shell command).str = some (.ok ⟨shell.arguments ++ [command.str]⟩) := by
  intro claimed
  have reads := claimed ⟨["/bin/sh".toList, "-c".toList]⟩ ⟨["a b".toList, "c d".toList]⟩ 6
    (by decide)
  exact absurd reads (by decide)

end Tobiko.Shell.Sh.SetupCommand
