import Tobiko.Foundation.MethodResolution

/-!
Contract: the decorators of `tobiko/common/_skip.py` on classes.

Owns: the predicates of `skip_if`, `skip_unless` and `skip_on_error` with the wrapper that
asks them, the `setUp` that a decorator finds and replaces, and a call of `setUp` along the
classes of an instance.

Does not own: decorated functions, and the texts of the reasons.
-/

namespace Tobiko.Common.Skip

open Tobiko.Foundation

/-! ### Decorators -/

/-- How a call of a predicate ends. -/
inductive Answer (Exc : Type) where
  | returns (truth : Bool)
  | raises (exception : Exc)

inductive Decorator (Exc : Type) where
  | skipIf (predicate : Answer Exc)
  | skipUnless (predicate : Answer Exc)
  | skipOnError (errorType : Exc → Bool) (predicate : Answer Exc)

/-- The arguments of `_skip_decorator`. -/
structure SkipArguments (Exc : Type) where
  /-- The argument `unless`. -/
  unlessValue : Option Bool
  /-- The exception is an instance of `error_type`, which is empty unless it is given. -/
  errorType : Exc → Bool
  predicate : Answer Exc

def Decorator.arguments {Exc : Type} : Decorator Exc → SkipArguments Exc
  | .skipIf predicate => ⟨some false, fun _ => false, predicate⟩
  | .skipUnless predicate => ⟨some true, fun _ => false, predicate⟩
  | .skipOnError errorType predicate => ⟨none, errorType, predicate⟩

/-- The predicate of the decorator asks to skip. -/
def Decorator.Asks {Exc : Type} : Decorator Exc → Prop
  | .skipIf (.returns truth) => truth = true
  | .skipUnless (.returns truth) => truth = false
  | .skipOnError errorType (.raises exception) => errorType exception = true
  | _ => False

/-- The predicate raises, if anything, only the listed error types. -/
def Decorator.RaisesListed {Exc : Type} (decorator : Decorator Exc) : Prop :=
  ∀ exception, decorator.arguments.predicate = .raises exception →
    decorator.arguments.errorType exception = true

/-! ### Calls of `setUp` -/

/-- How a call of `setUp` ends. -/
inductive Ended (Exc : Type) where
  | returned
  | attributeError
  | skipTest
  | raised (exception : Exc)
  | unfinished

/-- The bodies that are entered and left. -/
inductive Event (Cls : Type) where
  | enters (cls : Cls)
  | leaves (cls : Cls)
  deriving DecidableEq

def Event.cls {Cls : Type} : Event Cls → Cls
  | .enters cls => cls
  | .leaves cls => cls

structure Outcome (Cls Exc : Type) where
  events : List (Event Cls)
  ended : Ended Exc

/-- The wrapper, for the call of the method that it wraps. -/
def SkipArguments.wrapper {Cls Exc : Type} (arguments : SkipArguments Exc)
    (method : Outcome Cls Exc) : Outcome Cls Exc :=
  match arguments.predicate with
  | .raises exception =>
      if arguments.errorType exception then ⟨[], .skipTest⟩ else ⟨[], .raised exception⟩
  | .returns truth =>
      if arguments.unlessValue = none ∨ arguments.unlessValue = some truth then method
      else ⟨[], .skipTest⟩

/-- A `setUp` that a class defines: it calls `super().setUp()`, or it is the one of a base
class that calls nothing. -/
inductive Body where
  | callsSuper
  | callsNothing
  deriving DecidableEq

/-- The body of a class, for its call of `super().setUp()`. -/
def Body.run {Cls Exc : Type} (body : Body) (cls : Cls) (super : Outcome Cls Exc) :
    Outcome Cls Exc :=
  match body with
  | .callsNothing => ⟨[.enters cls, .leaves cls], .returned⟩
  | .callsSuper =>
      match super.ended with
      | .returned => ⟨.enters cls :: (super.events ++ [.leaves cls]), .returned⟩
      | ended => ⟨.enters cls :: super.events, ended⟩

/-- The functions that classes have as `setUp`. Each application of a decorator has its own
wrapper. -/
inductive Method (Cls : Type) where
  | body (cls : Cls) (own : Body)
  /-- The dummy `setUp`, which calls `super(cls, self).setUp()`. -/
  | dummy (cls : Cls)
  | wrapper (index : Nat) (method : Method Cls)

section Calls

variable {Cls Exc : Type} [DecidableEq Cls] (decorators : Nat → Decorator Exc)

def Method.run (super : Cls → Outcome Cls Exc) : Method Cls → Outcome Cls Exc
  | .body cls own => own.run cls (super cls)
  | .dummy cls => super cls
  | .wrapper index method => (decorators index).arguments.wrapper (method.run super)

variable (attributes : Cls → Option (Method Cls))

/-- The `setUp` that is found in the classes is called. -/
def runFound (super : Cls → Outcome Cls Exc) (classes : List Cls) : Outcome Cls Exc :=
  match getAttribute classes attributes with
  | none => ⟨[], .attributeError⟩
  | some method => method.run decorators super

/-- `super(cls, self).setUp()`, for an instance of a class with the given order. -/
def superSetUp (mro : List Cls) : Nat → Cls → Outcome Cls Exc
  | 0, _ => ⟨[], .unfinished⟩
  | fuel + 1, cls =>
      runFound decorators attributes (superSetUp mro fuel) (classesAfter cls mro)

/-- `self.setUp()` -/
def callSetUp (mro : List Cls) : Outcome Cls Exc :=
  runFound decorators attributes (superSetUp decorators attributes mro mro.length) mro

end Calls

/-! ### Decorated classes -/

/-- The classes with the `setUp` that each of them defines. After one that calls nothing
there is no other class. -/
structure Hierarchy (Cls : Type) [DecidableEq Cls] extends Linearization Cls where
  body : Cls → Option Body
  base_last : ∀ cls other, other ∈ mro cls → body other = some .callsNothing →
    classesAfter other (mro cls) = []

namespace Hierarchy

variable {Cls : Type} [DecidableEq Cls] (hierarchy : Hierarchy Cls)

/-- The attributes `setUp` before any class is decorated. -/
def undecorated (cls : Cls) : Option (Method Cls) := (hierarchy.body cls).map (Method.body cls)

/-- `_get_skip_method` -/
def getSkipMethod (attributes : Cls → Option (Method Cls)) (cls : Cls) : Method Cls :=
  (getAttribute (hierarchy.mro cls) attributes).getD (.dummy cls)

/-- The decorator with the given index is applied to a class. -/
def decorate (attributes : Cls → Option (Method Cls)) (index : Nat) (cls : Cls) :
    Cls → Option (Method Cls) :=
  Function.update attributes cls
    (some (.wrapper index (hierarchy.getSkipMethod attributes cls)))

def decorateFrom : Nat → List Cls → (Cls → Option (Method Cls)) → Cls → Option (Method Cls)
  | _, [], attributes => attributes
  | index, cls :: later, attributes =>
      decorateFrom (index + 1) later (hierarchy.decorate attributes index cls)

/-- The attributes once the classes have been decorated, one after the other and maybe more
than once. -/
def attributes (decorated : List Cls) : Cls → Option (Method Cls) :=
  hierarchy.decorateFrom 0 decorated hierarchy.undecorated

end Hierarchy

end Tobiko.Common.Skip
