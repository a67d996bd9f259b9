import Tobiko.Foundation.KeyOrder

/-!
Contract: `LogFileDigger` of `tobiko/shell/files/_logs.py`.

Owns: the lines that a digger has found, `find_lines` in its two modes, the set up and the
clean up, and histories of calls.

Does not own: how lines are searched for. What a search gives is a parameter of each call.
-/

namespace Tobiko.Shell.Files

open Tobiko.Foundation

/-- `found` has the lines as its keys. -/
structure LogFileDigger (Line : Type) where
  pattern : Option String
  found : Dict Line Unit

/-- What `grep_lines` gives. -/
inductive Grepped (Line Exc : Type) where
  | lines (lines : List Line)
  | noMatchingLinesFound
  | raises (error : Exc)

inductive DiggerError (Exc : Type) where
  | valueError (message : String)
  | notImplemented (message : String)
  | grep (error : Exc)

section Digger

variable {Line Exc : Type}

def LogFileDigger.new (pattern : Option String) : LogFileDigger Line := ⟨pattern, .empty⟩

def LogFileDigger.foundLines (digger : LogFileDigger Line) : List Line := digger.found.keys

/-- `cleanup_fixture` -/
def LogFileDigger.cleanupFixture (digger : LogFileDigger Line) : LogFileDigger Line :=
  { digger with found := .empty }

/-- The pattern of a search. -/
def searchPattern (own given : Option String) : Except (DiggerError Exc) String :=
  match given, own with
  | none, none => .error (.valueError "Invalid pattern: None")
  | none, some pattern => .ok pattern
  | some _, some _ => .error (.notImplemented "Combining patterns is not supported")
  | some pattern, none => .ok pattern

variable [DecidableEq Line]

namespace LogFileDigger

/-- `self.found.update((line, None) for line in lines)` -/
def add (digger : LogFileDigger Line) (lines : List Line) : LogFileDigger Line :=
  { digger with
    found := (lines.map fun line => (line, ())).foldl
      (fun found pair => found.set pair.1 pair.2) digger.found }

/-- The lines that are not in `found`; a line that was returned twice stays twice. -/
def newLines (digger : LogFileDigger Line) (lines : List Line) : List Line :=
  lines.filter fun line => decide (line ∉ digger.found.keys)

variable (digger : LogFileDigger Line) (grepLines : String → Grepped Line Exc)

def findLines (pattern : Option String) (newLines : Bool) :
    Except (DiggerError Exc) (List Line) × LogFileDigger Line :=
  match searchPattern digger.pattern pattern with
  | .error error => (.error error, digger)
  | .ok pattern =>
      match grepLines pattern with
      | .raises error => (.error (.grep error), digger)
      | .noMatchingLinesFound => (.ok (if newLines then [] else digger.foundLines), digger)
      | .lines lines =>
          let fresh := digger.newLines lines
          let after := digger.add fresh
          (.ok (if newLines then fresh else after.foundLines), after)

def findNewLines (pattern : Option String) :
    Except (DiggerError Exc) (List Line) × LogFileDigger Line :=
  digger.findLines grepLines pattern true

/-- `setup_fixture` -/
def setupFixture : Except (DiggerError Exc) Unit × LogFileDigger Line :=
  match digger.pattern with
  | none => (.ok (), digger)
  | some _ =>
      let (result, after) := digger.findLines grepLines none false
      (result.map fun _ => (), after)

end LogFileDigger

/-! ### Calls -/

inductive Call (Line Exc : Type) where
  | findLines (grepLines : String → Grepped Line Exc) (pattern : Option String)
  | findNewLines (grepLines : String → Grepped Line Exc) (pattern : Option String)
  | setUp (grepLines : String → Grepped Line Exc)
  | cleanUp

/-- The lines that the search gives, if there is one. -/
def greppedLines (own : Option String) (grepLines : String → Grepped Line Exc)
    (pattern : Option String) : List Line :=
  match (searchPattern own pattern : Except (DiggerError Exc) String) with
  | .error _ => []
  | .ok pattern =>
      match grepLines pattern with
      | .lines lines => lines
      | _ => []

/-- A digger, and the lines that were returned as new ones since the last clean up. -/
structure History (Line : Type) where
  digger : LogFileDigger Line
  reported : List Line

def History.new (pattern : Option String) : History Line := ⟨.new pattern, []⟩

/-- The lines that a call returns as new ones. -/
def Call.returnedAsNew (digger : LogFileDigger Line) : Call Line Exc → List Line
  | .findNewLines grepLines pattern =>
      match (digger.findNewLines grepLines pattern).1 with
      | .ok lines => lines
      | .error _ => []
  | _ => []

/-- The lines that the search of a call gives. -/
def Call.greppedLines (own : Option String) : Call Line Exc → List Line
  | .findLines grepLines pattern => Files.greppedLines own grepLines pattern
  | .findNewLines grepLines pattern => Files.greppedLines own grepLines pattern
  | .setUp grepLines => Files.greppedLines own grepLines none
  | .cleanUp => []

/-- The digger after a call. -/
def Call.after (digger : LogFileDigger Line) : Call Line Exc → LogFileDigger Line
  | .findLines grepLines pattern => (digger.findLines grepLines pattern false).2
  | .findNewLines grepLines pattern => (digger.findNewLines grepLines pattern).2
  | .setUp grepLines => (digger.setupFixture grepLines).2
  | .cleanUp => digger.cleanupFixture

def History.step (history : History Line) (call : Call Line Exc) : History Line where
  digger := call.after history.digger
  reported :=
    match call with
    | .cleanUp => []
    | call => history.reported ++ call.returnedAsNew history.digger

def History.run (history : History Line) (calls : List (Call Line Exc)) : History Line :=
  calls.foldl History.step history

/-- All the lines that searches gave since the last clean up. -/
def greppedSince (own : Option String) (calls : List (Call Line Exc)) : List Line :=
  calls.foldl (fun lines call =>
    match call with
    | .cleanUp => []
    | call => lines ++ call.greppedLines own) []

end Digger

end Tobiko.Shell.Files
