import Mathlib.Data.Rat.Floor
import Tobiko.Foundation.Text
import Tobiko.Shell.Sh.Command

/-!
Contract: `find_files` of `tobiko/shell/find.py`.

Owns: the command line with its expression, and what becomes of the output.

Does not own: how the arguments are read by `find`, and what runs the command.
-/

namespace Tobiko.Shell.Find

open Tobiko.Foundation.Shlex (LexError)
open Tobiko.Shell.Sh.Command (ShellCommand ShellCommandType shellCommand)
open Tobiko.Foundation
open Tobiko.Foundation.Text (strip splitLines)

/-- `NameType`, where it is not `None`. -/
inductive NameType where
  | name (name : Text)
  | names (names : List Text)

def NameType.toList : NameType → List Text
  | .name text => [text]
  | .names texts => texts

/-- The parameters of the expression. -/
structure FindParameters where
  maxDepth : Option Nat
  type : Option Text
  name : Option NameType
  modifiedSince : Option ℚ

def FindParameters.names (parameters : FindParameters) : List Text :=
  (parameters.name.map NameType.toList).getD []

/-- The arguments that a text adds to the command line. -/
def shellWords (text : Text) : Except LexError (List Text) := do
  let command ← shellCommand (.line text)
  pure command.arguments

def quoted (text : Text) : Text := '\'' :: text ++ ['\'']

def integerText (number : Int) : Text :=
  if number < 0 then '-' :: Nat.toDigits 10 number.natAbs else Nat.toDigits 10 number.natAbs

def maxDepthText (maxDepth : Nat) : Text := "-maxdepth ".toList ++ quoted (Nat.toDigits 10 maxDepth)

def typeText (type : Text) : Text := "-type ".toList ++ quoted type

def nameText (name : Text) : Text := "-name ".toList ++ quoted name

/-- `' -o '.join(f"-name '{name}'" for name in names)` -/
def namesText (names : List Text) : Text := " -o ".toList.intercalate (names.map nameText)

/-- `math.ceil(modified_since / 60.)` -/
def minutes (modifiedSince : ℚ) : Int := ⌈modifiedSince / 60⌉

def modifiedText (modifiedSince : ℚ) : Text :=
  "-mmin ".toList ++ integerText (minutes modifiedSince)

/-- The arguments that an optional text adds. -/
def optionWords : Option Text → Except LexError (List Text)
  | none => pure []
  | some text => shellWords text

/-- The arguments that the names add. -/
def namesWords : List Text → Except LexError (List Text)
  | [] => pure []
  | name :: names => shellWords (namesText (name :: names))

/-- The arguments behind the path. -/
def FindParameters.expression (parameters : FindParameters) : Except LexError (List Text) := do
  let maxDepth ← optionWords (parameters.maxDepth.map maxDepthText)
  let type ← optionWords (parameters.type.map typeText)
  let names ← namesWords parameters.names
  let modified ← optionWords (parameters.modifiedSince.map modifiedText)
  pure (maxDepth ++ (type ++ (names ++ modified)))

structure ExecuteResult where
  stdout : Text
  stderr : Text
  exitStatus : Int

inductive FindError where
  | valueError (message : Text)
  | lexError (error : LexError)
  | filesNotFound (exitStatus : Int) (stderr : Text)

def commandLine (command path : ShellCommandType) (parameters : FindParameters) :
    Except LexError ShellCommand := do
  let command ← shellCommand command
  let path ← shellCommand path
  let expression ← parameters.expression
  pure ((command.add path).add ⟨expression⟩)

def fileNames (stdout : Text) : List Text :=
  ((splitLines stdout).filter fun line => strip line ≠ []).map strip

def findFiles (execute : ShellCommand → ExecuteResult) (command path : ShellCommandType)
    (parameters : FindParameters) : Except FindError (List Text) :=
  if path.truthy = false then
    .error (.valueError "Path can't be empty".toList)
  else
    match commandLine command path parameters with
    | .error error => .error (.lexError error)
    | .ok line =>
        let result := execute line
        if fileNames result.stdout = [] then
          .error (.filesNotFound result.exitStatus (strip result.stderr))
        else .ok (fileNames result.stdout)

/-- What is executed is the command with the path and the expression behind it, and what is found are
the lines of its output. -/
theorem findFiles_eq (execute : ShellCommand → ExecuteResult) {command path : ShellCommandType}
    {parameters : FindParameters} {commandWords pathWords : ShellCommand} {words : List Text}
    (given : path.truthy = true) (commandRead : shellCommand command = .ok commandWords)
    (pathRead : shellCommand path = .ok pathWords)
    (expressed : parameters.expression = .ok words) :
    findFiles execute command path parameters =
      let result := execute ⟨commandWords.arguments ++ pathWords.arguments ++ words⟩
      if fileNames result.stdout = [] then
        .error (.filesNotFound result.exitStatus (strip result.stderr))
      else .ok (fileNames result.stdout) := by
  have line : commandLine command path parameters =
      .ok ⟨commandWords.arguments ++ pathWords.arguments ++ words⟩ := by
    unfold commandLine
    rw [commandRead, pathRead, expressed]
    rfl
  unfold findFiles
  rw [if_neg (by simp [given]), line]

end Tobiko.Shell.Find
