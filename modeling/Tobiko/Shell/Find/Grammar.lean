import Mathlib.Algebra.Order.Floor.Ring
import Mathlib.Algebra.Order.Ring.Rat
import Mathlib.Data.Rat.Floor
import Tobiko.Foundation.Text

/-!
Contract: the expressions of `find`, as far as `find_files` uses them.

Owns: the tests, how a list of arguments is read as alternatives of tests, where juxtaposition
binds tighter than `-o`, and what an expression accepts.

Does not own: which arguments are given. Arguments that are not read here are refused.
-/

namespace Tobiko.Shell.Find

open Tobiko.Foundation

inductive FindTest where
  /-- `-maxdepth`, which is an option and always true -/
  | maxDepth (levels : Text)
  | type (letters : Text)
  | name (pattern : Text)
  /-- `-mmin n` -/
  | exactlyMinutes (minutes : Nat)
  /-- `-mmin -n` -/
  | lessThanMinutes (minutes : Nat)
deriving DecidableEq

/-- A file, by the answers that it gives to the tests. `age` is in seconds. -/
structure FoundFile where
  name : Text → Bool
  type : Text → Bool
  age : ℚ

/-- The last modification was in the minute with this number, the first one being the last. -/
def FoundFile.minute (file : FoundFile) : Int := ⌊file.age / 60⌋ + 1

def FindTest.holds (file : FoundFile) : FindTest → Bool
  | .maxDepth _ => true
  | .type letters => file.type letters
  | .name pattern => file.name pattern
  | .exactlyMinutes minutes => decide (file.minute = minutes)
  | .lessThanMinutes minutes => decide (file.age < 60 * minutes)

def readMinutes : Text → Option FindTest
  | [] => none
  | character :: digits =>
      if character = '-' then
        if digits ≠ [] ∧ digits.all Text.isDecimal then
          some (.lessThanMinutes (Text.ofDigits digits))
        else none
      else if (character :: digits).all Text.isDecimal then
        some (.exactlyMinutes (Text.ofDigits (character :: digits)))
      else none

/-- A test with its argument. -/
def readTest (test argument : Text) : Option FindTest :=
  if test = "-maxdepth".toList then some (.maxDepth argument)
  else if test = "-type".toList then some (.type argument)
  else if test = "-name".toList then some (.name argument)
  else if test = "-mmin".toList then readMinutes argument
  else none

/-- A test before the first of some alternatives. -/
def andThen (test : FindTest) : List (List FindTest) → List (List FindTest)
  | [] => [[test]]
  | tests :: alternatives => (test :: tests) :: alternatives

/-- The alternatives that are separated by `-o`, each with the tests that all have to hold. -/
def readAlternatives : List Text → Option (List (List FindTest))
  | [] => some [[]]
  | [_] => none
  | first :: second :: rest =>
      if first = "-o".toList then (readAlternatives (second :: rest)).map fun read => [] :: read
      else do
        let test ← readTest first second
        let alternatives ← readAlternatives rest
        some (andThen test alternatives)

/-- The alternatives of an expression; only one that stands alone may be empty. -/
def readExpression (arguments : List Text) : Option (List (List FindTest)) :=
  (readAlternatives arguments).filter fun alternatives =>
    decide (alternatives.length = 1 ∨ [] ∉ alternatives)

def acceptsAny (file : FoundFile) (alternatives : List (List FindTest)) : Bool :=
  alternatives.any fun tests => tests.all fun test => test.holds file

/-- Whether the expression accepts the file; an expression that is refused accepts none. -/
def accepts (arguments : List Text) (file : FoundFile) : Bool :=
  ((readExpression arguments).map (acceptsAny file)).getD false

/-! ### Reading -/

theorem readAlternatives_test {test argument : Text} {read : FindTest}
    (isTest : readTest test argument = some read) (rest : List Text) :
    readAlternatives (test :: argument :: rest) = (readAlternatives rest).map (andThen read) := by
  have other : test ≠ "-o".toList := by
    intro same
    rw [same] at isTest
    cases isTest
  rw [readAlternatives, if_neg other, isTest]
  cases readAlternatives rest with
  | none => rfl
  | some alternatives => rfl

theorem readAlternatives_or (first : Text) (rest : List Text) :
    readAlternatives ("-o".toList :: first :: rest) =
      (readAlternatives (first :: rest)).map fun read => [] :: read := by
  rw [readAlternatives, if_pos rfl]

end Tobiko.Shell.Find
