import Mathlib.Data.List.Dedup
import Mathlib.Data.List.Sort
import Mathlib.Data.String.Basic
import Tobiko.Foundation.ClassHierarchy
import Tobiko.Foundation.FirstOccurrences
import Tobiko.Foundation.Worklist

/-!
Contract: the names of required fixtures in `tobiko/common/_fixture.py`.

Owns: `get_required_fixtures` with the attribute `__tobiko_required_fixtures__` in which it
keeps its results, `visit_objects` and `list_required_fixtures`, and how the answer for a
class depends on earlier queries.

Does not own: the closure that `list_required_fixtures` computes.

The loaded classes, functions and fixtures are a `Code`. An object that is neither a class,
a fixture nor a test method requires nothing and is left out.
-/

namespace Tobiko.Common.RequiredFixtures

open Tobiko.Foundation

/-! ### Loaded code -/

inductive Member (Fixture : Type) where
  | requiredFixture (fixture : Fixture)
  | other
deriving DecidableEq, Repr

/-- An object with a name. A fixture here is an instance. -/
inductive Node (Cls Fixture Method : Type) where
  | cls (cls : Cls)
  | fixture (fixture : Fixture)
  | method (method : Method)
deriving DecidableEq, Repr

/-- `fixtureName` is the name of an instance (`get_fixture_name`), `function` is the function
of a bound method and any other method itself, and `defaults` are the default arguments of
a function, with `none` for what is not a node. The classes take attributes, as those that
are not built in do. -/
structure Code (Cls Fixture Method : Type) where
  mro : Cls → List Cls
  dict : Cls → Dict String (Member Fixture)
  testCase : Cls
  sharedFixture : Cls
  isFixtureClass : Cls → Bool
  classOf : Fixture → Cls
  className : Cls → String
  fixtureName : Fixture → String
  methodName : Method → String
  function : Method → Method
  defaults : Method → List (Option (Node Cls Fixture Method))
  loadObject : String → Option (Node Cls Fixture Method)

/-- The attributes `__tobiko_required_fixtures__` that have been set. -/
structure Attributes (Cls Method : Type) where
  ofClass : Cls → Option (List String)
  ofMethod : Method → Option (List String)

def Attributes.init {Cls Method : Type} : Attributes Cls Method := ⟨fun _ => none, fun _ => none⟩

/-- What `get_required_fixtures` is asked for. -/
inductive Subject (Cls Method : Type) where
  | cls (cls : Cls)
  | method (method : Method)
deriving DecidableEq, Repr

/-- `sorted(names)` -/
def sortNames (names : List String) : List String := names.insertionSort (· ≤ ·)

theorem mem_sortNames {names : List String} {name : String} :
    name ∈ sortNames names ↔ name ∈ names :=
  List.mem_insertionSort _

theorem sortNames_eq_iff {first second : List String} :
    sortNames first = sortNames second ↔ first.Perm second :=
  insertionSort_eq_iff

section Queries

variable {Cls Fixture Method : Type} [DecidableEq Cls] [DecidableEq Fixture]
  [DecidableEq Method]

/-- `get_object_name` -/
def Code.nodeName (code : Code Cls Fixture Method) : Node Cls Fixture Method → String
  | .cls cls => code.className cls
  | .fixture fixture => code.fixtureName fixture
  | .method method => code.methodName method

/-- `is_fixture` -/
def Code.isFixture (code : Code Cls Fixture Method) : Node Cls Fixture Method → Bool
  | .cls cls => code.isFixtureClass cls
  | .fixture _ => true
  | .method _ => false

/-- The base classes whose members are searched. -/
def Code.baseClasses (code : Code Cls Fixture Method) (cls : Cls) : List Cls :=
  if code.testCase ∈ code.mro cls then (code.mro cls).takeWhile (· ≠ code.testCase)
  else if code.sharedFixture ∈ code.mro cls then
    (code.mro cls).takeWhile (· ≠ code.sharedFixture)
  else code.mro cls

/-- The fixtures of `get_required_fixture_properties`. -/
def Code.requiredProperties (code : Code Cls Fixture Method) (cls : Cls) : List Fixture :=
  ((inheritedMembers code.dict (code.baseClasses cls)).entries.insertionSort
    fun first second => first.1 ≤ second.1).filterMap fun entry =>
      match entry.2 with
      | .requiredFixture fixture => some fixture
      | .other => none

/-- The names that `get_required_fixtures` computes. The set of fixtures is a list without
duplicates. -/
def Code.requiredNames (code : Code Cls Fixture Method) : Subject Cls Method → List String
  | .cls cls => sortNames ((code.requiredProperties cls).dedup.map code.fixtureName)
  | .method method => sortNames ((((code.defaults (code.function method)).filterMap id).filter
      code.isFixture).dedup.map code.nodeName)

/-- `getattr(obj, '__tobiko_required_fixtures__', None)` -/
def Code.getattr (code : Code Cls Fixture Method) (attributes : Attributes Cls Method) :
    Subject Cls Method → Option (List String)
  | .cls cls => getAttribute (code.mro cls) attributes.ofClass
  | .method method => attributes.ofMethod (code.function method)

/-- `obj.__tobiko_required_fixtures__ = names`, which a bound method refuses. -/
def Code.setattr (code : Code Cls Fixture Method) (attributes : Attributes Cls Method)
    (subject : Subject Cls Method) (names : List String) : Attributes Cls Method :=
  match subject with
  | .cls cls => { attributes with ofClass := Function.update attributes.ofClass cls (some names) }
  | .method method =>
      if code.function method = method then
        { attributes with ofMethod := Function.update attributes.ofMethod method (some names) }
      else attributes

/-- `get_required_fixtures` -/
def Code.getRequiredFixtures (code : Code Cls Fixture Method)
    (attributes : Attributes Cls Method) (subject : Subject Cls Method) :
    List String × Attributes Cls Method :=
  match code.getattr attributes subject with
  | some names => (names, attributes)
  | none => (code.requiredNames subject,
      code.setattr attributes subject (code.requiredNames subject))

/-! ### Listing -/

/-- An element of `objects`. -/
inductive WorkItem (Cls Fixture Method : Type) where
  | name (name : String)
  | object (node : Node Cls Fixture Method)
deriving DecidableEq, Repr

/-- `get_name_and_object`, which raises for a name that cannot be loaded. -/
def Code.getNameAndObject (code : Code Cls Fixture Method) :
    WorkItem Cls Fixture Method → Option (String × Node Cls Fixture Method)
  | .name name => (code.loadObject name).map fun node => (name, node)
  | .object node => some (code.nodeName node, node)

/-- `name.rsplit('.', 1)[0]`, for a name with a dot. -/
def parentName (name : String) : Option String :=
  if '.' ∈ name.toList then
    some (String.ofList ((name.toList.reverse.dropWhile (· ≠ '.')).tail.reverse))
  else none

/-- The object whose required fixtures are asked for: a class instead of an instance. -/
def Code.subject (code : Code Cls Fixture Method) : Node Cls Fixture Method → Subject Cls Method
  | .cls cls => .cls cls
  | .fixture fixture => .cls (code.classOf fixture)
  | .method method => .method method

/-- The name of the test class of a test method with this name. -/
def parent (name : String) : Node Cls Fixture Method → Option String
  | .method _ => parentName name
  | _ => none

/-- The body of the loop in `list_required_fixtures`: what it appends to the objects, and
its result and the attributes after it. -/
def Code.listBody (code : Code Cls Fixture Method)
    (state : List String × Attributes Cls Method) (name : String)
    (node : Node Cls Fixture Method) :
    List (WorkItem Cls Fixture Method) × List String × Attributes Cls Method :=
  let answer := code.getRequiredFixtures state.2 (code.subject node)
  let result := if code.isFixture node then state.1 ++ [name] else state.1
  (((parent name node).toList ++ answer.1).map .name, result, answer.2)

/-- `list_required_fixtures`, with the loop of `visit_objects`. -/
def Code.listRequiredFixtures (code : Code Cls Fixture Method) (fuel : Nat)
    (objects : List (WorkItem Cls Fixture Method)) (attributes : Attributes Cls Method) :
    Option (List String × Attributes Cls Method) :=
  (workThrough code.getNameAndObject code.listBody fuel objects.reverse [] ([], attributes)).map
    fun state => (sortNames state.1, state.2)

/-- The attributes after any queries. -/
inductive Queried (code : Code Cls Fixture Method) : Attributes Cls Method → Prop
  | start : Queried code .init
  | get (attributes subject) (queried : Queried code attributes) :
      Queried code (code.getRequiredFixtures attributes subject).2
  | list (attributes fuel objects names after) (queried : Queried code attributes)
      (ends : code.listRequiredFixtures fuel objects attributes = some (names, after)) :
      Queried code after

/-! ### What the attributes hold -/

/-- Every list that is kept is the one that was computed for its own object, and bound methods
keep none. -/
structure Faithful (code : Code Cls Fixture Method) (attributes : Attributes Cls Method) :
    Prop where
  ofClass : ∀ cls names, attributes.ofClass cls = some names →
    names = code.requiredNames (.cls cls)
  ofMethod : ∀ method names, attributes.ofMethod method = some names →
    code.function method = method ∧ names = code.requiredNames (.method method)

variable {code : Code Cls Fixture Method} {attributes : Attributes Cls Method}

theorem getRequiredFixtures_fst (subject : Subject Cls Method) :
    (code.getRequiredFixtures attributes subject).1 =
      (code.getattr attributes subject).getD (code.requiredNames subject) := by
  unfold Code.getRequiredFixtures
  cases code.getattr attributes subject with
  | none => rfl
  | some names => rfl

theorem Faithful.ask (faithful : Faithful code attributes) (subject : Subject Cls Method) :
    Faithful code (code.getRequiredFixtures attributes subject).2 := by
  unfold Code.getRequiredFixtures
  split
  · exact faithful
  · cases subject with
    | cls cls =>
        refine ⟨fun other names kept => ?_, faithful.ofMethod⟩
        simp only [Code.setattr, Function.update_apply] at kept
        split at kept
        · rename_i same
          cases kept
          rw [same]
        · exact faithful.ofClass other names kept
    | method method =>
        unfold Code.setattr
        simp only
        split
        · rename_i isFunction
          refine ⟨faithful.ofClass, fun other names kept => ?_⟩
          simp only [Function.update_apply] at kept
          split at kept
          · rename_i same
            cases kept
            rw [same]
            exact ⟨isFunction, rfl⟩
          · exact faithful.ofMethod other names kept
        · exact faithful

theorem listRequiredFixtures_keeps {invariant : Attributes Cls Method → Prop}
    (keeps : ∀ attributes subject, invariant attributes →
      invariant (code.getRequiredFixtures attributes subject).2)
    {fuel : Nat} {objects : List (WorkItem Cls Fixture Method)} {names : List String}
    {after : Attributes Cls Method} (start : invariant attributes)
    (ends : code.listRequiredFixtures fuel objects attributes = some (names, after)) :
    invariant after := by
  obtain ⟨last, works, same⟩ := Option.map_eq_some_iff.mp ends
  cases same
  obtain ⟨visits, course⟩ := exists_visits works
  have sound := course.sound (fun state => invariant state.2) (fun _ => True)
    (fun state _ _ node before _ _ =>
      ⟨keeps state.2 (code.subject node) before, fun _ _ => trivial⟩)
    (fun _ _ => trivial) start
  exact sound.1

theorem Queried.faithful (queried : Queried code attributes) : Faithful code attributes := by
  induction queried with
  | start => exact ⟨fun _ _ kept => (by cases kept), fun _ _ kept => (by cases kept)⟩
  | get attributes subject _ inductionHypothesis => exact inductionHypothesis.ask subject
  | list attributes fuel objects names after _ ends inductionHypothesis =>
      exact listRequiredFixtures_keeps (fun _ subject faithful => faithful.ask subject)
        inductionHypothesis ends

/-! ### The fixtures of a class -/

/-- The member of a class with this name, its own or inherited. -/
def Code.member (code : Code Cls Fixture Method) (cls : Cls) (name : String) :
    Option (Member Fixture) :=
  getAttribute (code.baseClasses cls) fun base => (code.dict base).get? name

omit [DecidableEq Fixture] [DecidableEq Method] in
theorem mem_requiredProperties {cls : Cls} {fixture : Fixture} :
    fixture ∈ code.requiredProperties cls ↔
      ∃ member, code.member cls member = some (.requiredFixture fixture) := by
  unfold Code.requiredProperties
  rw [List.mem_filterMap]
  constructor
  · rintro ⟨⟨name, member⟩, inMembers, found⟩
    have entry := Dict.mem_entries_iff.mp ((List.mem_insertionSort _).mp inMembers)
    rw [get?_inheritedMembers] at entry
    cases member with
    | other => cases found
    | requiredFixture other =>
        cases found
        exact ⟨name, entry⟩
  · rintro ⟨name, found⟩
    refine ⟨(name, .requiredFixture fixture), ?_, rfl⟩
    refine (List.mem_insertionSort _).mpr (Dict.mem_entries_iff.mpr ?_)
    rw [get?_inheritedMembers]
    exact found

/-- The computed names are sorted, and they are those of the fixtures of all the members. -/
theorem requiredNames_spec {cls : Cls} :
    (code.requiredNames (.cls cls)).Pairwise (· ≤ ·) ∧
      ∀ name, name ∈ code.requiredNames (.cls cls) ↔
        ∃ member fixture, code.member cls member = some (.requiredFixture fixture) ∧
          code.fixtureName fixture = name := by
  refine ⟨List.pairwise_insertionSort _ _, fun name => ?_⟩
  simp only [Code.requiredNames, mem_sortNames, List.mem_map, List.mem_dedup,
    mem_requiredProperties]
  constructor
  · rintro ⟨fixture, ⟨member, found⟩, named⟩
    exact ⟨member, fixture, found, named⟩
  · rintro ⟨member, fixture, found, named⟩
    exact ⟨fixture, ⟨member, found⟩, named⟩

/-- The first class in the method resolution order that has kept its list. -/
def Code.firstKept (code : Code Cls Fixture Method) (attributes : Attributes Cls Method)
    (cls : Cls) : Option Cls :=
  (code.mro cls).find? fun base => (attributes.ofClass base).isSome

omit [DecidableEq Cls] in
theorem findSome?_eq_find? {classes : List Cls} {own : Cls → Option (List String)} :
    classes.findSome? own = (classes.find? fun base => (own base).isSome).bind own := by
  induction classes with
  | nil => rfl
  | cons cls classes inductionHypothesis =>
      rw [List.findSome?_cons, List.find?_cons]
      cases present : own cls with
      | none => simpa using inductionHypothesis
      | some names => simp [present]

theorem getRequiredFixtures_eq (faithful : Faithful code attributes) (cls : Cls) :
    (code.getRequiredFixtures attributes (.cls cls)).1 =
      code.requiredNames (.cls ((code.firstKept attributes cls).getD cls)) := by
  have found : code.getattr attributes (.cls cls) =
      (code.firstKept attributes cls).bind attributes.ofClass := findSome?_eq_find?
  unfold Code.getRequiredFixtures
  rw [found]
  cases first : code.firstKept attributes cls with
  | none => rfl
  | some base =>
      have kept := List.find?_some first
      obtain ⟨names, present⟩ := Option.isSome_iff_exists.mp kept
      simp only [Option.bind_some, present, Option.getD_some]
      exact faithful.ofClass base names present

/-! ### The fixtures of a test method -/

/-- One of the default arguments of a test method is this fixture. -/
def Code.TakesDefault (code : Code Cls Fixture Method) (method : Method)
    (fixture : Node Cls Fixture Method) : Prop :=
  some fixture ∈ code.defaults (code.function method) ∧ code.isFixture fixture = true

theorem mem_requiredNames_method {method : Method} {name : String} :
    name ∈ code.requiredNames (.method method) ↔
      ∃ fixture, code.TakesDefault method fixture ∧ code.nodeName fixture = name := by
  simp only [Code.requiredNames, Code.TakesDefault, mem_sortNames, List.mem_map, List.mem_dedup,
    List.mem_filter, List.mem_filterMap, id_eq, exists_eq_right]

/-- The answer for a test method never depends on what is kept. -/
theorem getRequiredFixtures_method (faithful : Faithful code attributes) (method : Method) :
    (code.getRequiredFixtures attributes (.method method)).1 =
      code.requiredNames (.method method) := by
  rw [getRequiredFixtures_fst, Code.getattr]
  cases kept : attributes.ofMethod (code.function method) with
  | none => rfl
  | some names =>
      obtain ⟨isFunction, computed⟩ := faithful.ofMethod _ names kept
      rw [Option.getD_some, computed, Code.requiredNames, Code.requiredNames, isFunction]

end Queries

/-- **Query order.** After any queries, `get_required_fixtures` answers for a class with
the sorted names of the fixtures of its members exactly when the first class in its method
resolution order whose list is kept, if there is one, has members for fixtures of the same
names. -/
theorem required_fixtures_iff {Cls Fixture Method : Type} [DecidableEq Cls]
    [DecidableEq Fixture] [DecidableEq Method] {code : Code Cls Fixture Method}
    {attributes : Attributes Cls Method} (queried : Queried code attributes) (cls : Cls) :
    ((code.getRequiredFixtures attributes (.cls cls)).1 =
        (code.getRequiredFixtures .init (.cls cls)).1 ↔
      ∀ base, code.firstKept attributes cls = some base →
        ((code.requiredProperties base).dedup.map code.fixtureName).Perm
          ((code.requiredProperties cls).dedup.map code.fixtureName)) ∧
      (code.getRequiredFixtures .init (.cls cls)).1 = code.requiredNames (.cls cls) ∧
      (code.requiredNames (.cls cls)).Pairwise (· ≤ ·) ∧
      ∀ name, name ∈ code.requiredNames (.cls cls) ↔
        ∃ member fixture, code.member cls member = some (.requiredFixture fixture) ∧
          code.fixtureName fixture = name := by
  have now := getRequiredFixtures_eq queried.faithful cls
  have first := getRequiredFixtures_eq (.start : Queried code .init).faithful cls
  have noneKept : code.firstKept .init cls = none := by
    simp [Code.firstKept, Attributes.init]
  rw [noneKept, Option.getD_none] at first
  refine ⟨?_, first, requiredNames_spec⟩
  rw [now, first]
  cases kept : code.firstKept attributes cls with
  | none => simp
  | some base =>
      have compared : code.requiredNames (.cls base) = code.requiredNames (.cls cls) ↔
          ((code.requiredProperties base).dedup.map code.fixtureName).Perm
            ((code.requiredProperties cls).dedup.map code.fixtureName) := sortNames_eq_iff
      simpa using compared

/-- Two classes, of which each has a required fixture of its own. -/
inductive TwoClasses where
  | base
  | derived
  | testCase
  | sharedFixture
deriving DecidableEq, Repr

def twoClasses : Code TwoClasses String Unit where
  mro
    | .derived => [.derived, .base]
    | cls => [cls]
  dict
    | .base => .ofPairs [("first", .requiredFixture "module.First")]
    | .derived => .ofPairs [("second", .requiredFixture "module.Second")]
    | _ => .empty
  testCase := .testCase
  sharedFixture := .sharedFixture
  isFixtureClass _ := false
  classOf _ := .sharedFixture
  className _ := "module.Cls"
  fixtureName := id
  methodName _ := "module.test"
  function := id
  defaults _ := []
  loadObject _ := none

theorem required_fixtures_iff_base :
    (twoClasses.getRequiredFixtures (twoClasses.getRequiredFixtures .init (.cls .base)).2
        (.cls .base)).1 = (twoClasses.getRequiredFixtures .init (.cls .base)).1 ↔
    ∀ kept, twoClasses.firstKept (twoClasses.getRequiredFixtures .init (.cls .base)).2 .base =
        some kept →
      ((twoClasses.requiredProperties kept).dedup.map twoClasses.fixtureName).Perm
        ((twoClasses.requiredProperties .base).dedup.map twoClasses.fixtureName) :=
  (required_fixtures_iff (.get _ (.cls .base) .start) TwoClasses.base).1

/-- After a query for the base class, its list is the answer for the derived class. -/
theorem base_list_inherited :
    ¬ ∀ attributes, Queried twoClasses attributes → ∀ cls,
      (twoClasses.getRequiredFixtures attributes (.cls cls)).1 =
        (twoClasses.getRequiredFixtures .init (.cls cls)).1 := by
  intro independent
  have wrong := independent _ (.get .init (.cls .base) .start) .derived
  exact absurd wrong (by decide)

end Tobiko.Common.RequiredFixtures
