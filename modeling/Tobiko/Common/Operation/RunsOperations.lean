import Mathlib.Data.Finset.Sort
import Mathlib.Data.Fintype.Card
import Mathlib.Data.String.Basic
import Tobiko.Foundation.ClassHierarchy

/-!
Contract: the names of the operations that an object runs, in `tobiko/common/_operation.py`.

Owns: `add_runs_operation_name` and `get_runs_operation_names` over the attribute
`__tobiko_runs_operations__` of classes, functions and other objects, and what the skip
decorator of `before_operation` and `after_operation` leaves behind.

Does not own: how an operation is found and run, and what the decorated methods do.
-/

namespace Tobiko.Common.RunsOperations

open Tobiko.Foundation

/-! ### Loaded code -/

/-- What may have the attribute. An object here is neither a class nor a function, nor a bound
method, which has the attributes of its function. -/
inductive Holder (Cls Func Obj : Type) where
  | cls (cls : Cls)
  | function (function : Func)
  | object (object : Obj)
deriving DecidableEq

/-- What a class may have as a member. `runs_operation` gives an operation. -/
inductive Value (Cls Func Obj : Type) where
  | operation (name : String)
  | text (text : String)
  | held (holder : Holder Cls Func Obj)
deriving DecidableEq

/-- A set in memory, or a tuple that freezes the names. -/
inductive Kept where
  | set (id : Nat)
  | tuple (names : List String)
deriving DecidableEq

/-- `bases` are the classes after a class in its method resolution order. A built-in class
refuses attributes with a `TypeError`, and a slotted object with an `AttributeError`.
`named` says that `get_object_name` finds the module and the name of a value. -/
structure Code (Cls Func Obj : Type) where
  bases : Cls → List Cls
  testCase : Cls
  sharedFixture : Cls
  builtin : Cls → Bool
  builtin_bases : ∀ cls, builtin cls = true → ∀ base ∈ bases cls, builtin base = true
  typeOf : Obj → Cls
  slotted : Obj → Bool
  dict : Cls → Dict String (Value Cls Func Obj)
  loadObject : String → Option (Value Cls Func Obj)
  named : Value Cls Func Obj → Bool
  functionName : Func → String

/-- The members of the classes, the attributes `__tobiko_runs_operations__`, and the sets that
these refer to. -/
structure State (Cls Func Obj : Type) where
  dict : Cls → Dict String (Value Cls Func Obj)
  kept : Holder Cls Func Obj → Option Kept
  sets : List (Finset String)

inductive Refusal where
  | attributeError
  | typeError
deriving DecidableEq

inductive QueryError where
  | notFound
  | typeError
  | tooDeep
deriving DecidableEq

section Attributes

variable {Cls Func Obj : Type} (code : Code Cls Func Obj)

/-- `__mro__` -/
def Code.mro (cls : Cls) : List Cls := cls :: code.bases cls

/-- How the assignment of an attribute fails, if it does. -/
def Code.refusal : Holder Cls Func Obj → Option Refusal
  | .cls cls => if code.builtin cls then some .typeError else none
  | .function _ => none
  | .object object => if code.slotted object then some .attributeError else none

/-- `get_name_and_object` -/
def Code.resolve : Value Cls Func Obj → Option (Value Cls Func Obj)
  | .text text => code.loadObject text
  | value => if code.named value then some value else none

def Code.start : State Cls Func Obj := ⟨code.dict, fun _ => none, []⟩

/-- `getattr(obj, '__tobiko_runs_operations__')` -/
def State.getattr (state : State Cls Func Obj) : Holder Cls Func Obj → Option Kept
  | .cls cls => getAttribute (code.mro cls) fun cls => state.kept (.cls cls)
  | .function function => state.kept (.function function)
  | .object object => (state.kept (.object object)).or
      (getAttribute (code.mro (code.typeOf object)) fun cls => state.kept (.cls cls))

/-- `set(names)`, for no attribute too. -/
def State.names (state : State Cls Func Obj) : Option Kept → Finset String
  | none => ∅
  | some (.set id) => state.sets.getD id ∅
  | some (.tuple names) => names.toFinset

/-- The attribute `name` of a class, which its metaclass does not have. -/
def State.lookup (state : State Cls Func Obj) (cls : Cls) (name : String) :
    Option (Value Cls Func Obj) :=
  getAttribute (code.mro cls) fun cls => (state.dict cls).get? name

variable [DecidableEq Cls] [DecidableEq Func] [DecidableEq Obj]

/-- `obj.__tobiko_runs_operations__ = kept` -/
def State.setattr (state : State Cls Func Obj) (holder : Holder Cls Func Obj)
    (kept : Kept) : State Cls Func Obj :=
  { state with kept := Function.update state.kept holder (some kept) }

theorem kept_setattr {state : State Cls Func Obj} {holder other : Holder Cls Func Obj}
    {kept : Kept} : (state.setattr holder kept).kept other =
      if other = holder then some kept else state.kept other :=
  Function.update_apply _ _ _ _

theorem setattr_setattr {state : State Cls Func Obj} {holder : Holder Cls Func Obj}
    {first second : Kept} : (state.setattr holder first).setattr holder second =
      state.setattr holder second := by
  simp [State.setattr]

/-! ### Declarations -/

/-- `add_runs_operation_name` -/
def State.addRunsOperationName (state : State Cls Func Obj)
    (holder : Holder Cls Func Obj) (name : String) :
    Except Refusal (State Cls Func Obj) :=
  match state.getattr code holder with
  | some (.set id) => .ok { state with sets := state.sets.modify id (insert name) }
  | found =>
      match code.refusal holder with
      | some refusal => .error refusal
      | none =>
          let names := insert name (state.names found)
          .ok ({ state with sets := state.sets ++ [names] }.setattr holder (.set state.sets.length))

/-- The skip decorator binds an attribute of a class to a wrapper, which `functools.wraps` gives
the attributes of what it wraps. -/
def State.decorate (state : State Cls Func Obj) (cls : Cls) (name : String)
    (wrapped : Option Func) (wrapper : Func) : State Cls Func Obj :=
  { state with
    dict := Function.update state.dict cls
      ((state.dict cls).set name (.held (.function wrapper)))
    kept := Function.update state.kept (.function wrapper)
      (wrapped.bind fun function => state.kept (.function function)) }

/-- `_get_skip_method` for what a class has as `setUp`: a function, or a new one where that is
not callable. A `setUp` that is a class or an object is left out. -/
def skipMethod : Option (Value Cls Func Obj) → Option (Option Func)
  | some (.held (.function function)) => some (some function)
  | some (.held _) => none
  | _ => some none

/-! ### Queries -/

/-- The base classes whose members are searched. -/
def Code.baseClasses (cls : Cls) : List Cls :=
  if code.testCase ∈ code.mro cls then (code.mro cls).takeWhile (· ≠ code.testCase)
  else if code.sharedFixture ∈ code.mro cls then
    (code.mro cls).takeWhile (· ≠ code.sharedFixture)
  else code.mro cls

/-- `name.startswith('__')` -/
def isDunder (name : String) : Bool := name.toList.take 2 = ['_', '_']

/-- The members that `get_runs_operation_names_from_class` asks for their names. -/
def State.searched (state : State Cls Func Obj) (cls : Cls) :
    List (Value Cls Func Obj) :=
  (((inheritedMembers state.dict (code.baseClasses cls)).entries.insertionSort
    fun first second => first.1 ≤ second.1).filter fun entry => !isDunder entry.1).map Prod.snd

/-- The class whose members belong to an object. -/
def Code.classOf : Holder Cls Func Obj → Option Cls
  | .cls cls => some cls
  | .function _ => none
  | .object object => some (code.typeOf object)

/-- What a call gives, with the attributes that it leaves even when it raises. -/
abbrev Answer (Cls Func Obj Result : Type) :=
  State Cls Func Obj × Except QueryError Result

section Recursion

variable (ask : State Cls Func Obj → Value Cls Func Obj →
  Answer Cls Func Obj (List String))

/-- The loop of `get_runs_operation_names_from_class`. -/
def askMembers (state : State Cls Func Obj) :
    List (Value Cls Func Obj) → Answer Cls Func Obj (Finset String)
  | [] => (state, .ok ∅)
  | member :: members =>
      match ask state member with
      | (state, .error error) => (state, .error error)
      | (state, .ok names) =>
          match askMembers state members with
          | (state, .error error) => (state, .error error)
          | (state, .ok more) => (state, .ok (names.toFinset ∪ more))

/-- `sorted(operations)`, kept by the object. -/
def Code.freeze (state : State Cls Func Obj) (holder : Holder Cls Func Obj)
    (names : Finset String) : Answer Cls Func Obj (List String) :=
  match code.refusal holder with
  | some _ => (state, .error .typeError)
  | none => (state.setattr holder (.tuple names.sort), .ok names.sort)

/-- The end of `get_runs_operation_names`, which starts from the names that the object has. -/
def Code.discover (state : State Cls Func Obj) (holder : Holder Cls Func Obj)
    (names : Finset String) : Answer Cls Func Obj (List String) :=
  match code.classOf holder with
  | none => code.freeze state holder names
  | some cls =>
      match askMembers ask state (state.searched code cls) with
      | (state, .error error) => (state, .error error)
      | (state, .ok more) => code.freeze state (.cls cls) (names ∪ more)

/-- `get_runs_operation_names` after the object is found. -/
def Code.askHolder (state : State Cls Func Obj) (holder : Holder Cls Func Obj) :
    Answer Cls Func Obj (List String) :=
  match state.getattr code holder with
  | some (.tuple names) => (state, .ok names)
  | found =>
      match code.refusal holder with
      | some .attributeError => (state, .ok [])
      | some .typeError => (state, .error .typeError)
      | none => code.discover ask (state.setattr holder (.tuple [])) holder (state.names found)

/-- `get_runs_operation_names`. A string that was loaded refuses attributes. -/
def Code.askValue (state : State Cls Func Obj) (value : Value Cls Func Obj) :
    Answer Cls Func Obj (List String) :=
  match code.resolve value with
  | none => (state, .error .notFound)
  | some (.operation name) => (state, .ok [name])
  | some (.text _) => (state, .ok [])
  | some (.held holder) => code.askHolder ask state holder

end Recursion

/-- `get_runs_operation_names` with a bound on how deep it recurses. -/
def Code.askWithin : Nat → State Cls Func Obj → Value Cls Func Obj →
    Answer Cls Func Obj (List String)
  | 0, state, _ => (state, .error .tooDeep)
  | depth + 1, state, value => code.askValue (Code.askWithin depth) state value

/-- `get_runs_operation_names`. Each level of the recursion is at a class or at an object that
the levels above have not reached. -/
def Code.getRunsOperationNames [Fintype Cls] [Fintype Obj] (state : State Cls Func Obj)
    (value : Value Cls Func Obj) : Answer Cls Func Obj (List String) :=
  code.askWithin (Fintype.card Cls + Fintype.card Obj + 1) state value

end Attributes

end Tobiko.Common.RunsOperations
