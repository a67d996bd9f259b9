import Mathlib
import Tobiko.Common.Lockutils
import Tobiko.Foundation.Registry

/-!
Contract: the fixtures of a `FixtureManager`, by the class and the id that they are asked for.

Owns: `get_fixture` and `remove_fixture` of the manager with the names that they make, that
the manager is a registry by these names, and which classes and ids share one.

Does not own: the loading of objects by their names, and the constructors of fixtures.
-/

namespace Tobiko.Common.FixtureManager

open Tobiko.Foundation

/-! ### Fixtures and their names -/

/-- The fixture ids: `None`, an integer or a string. -/
inductive FixtureId where
  | none
  | int (value : Int)
  | str (value : String)
  deriving DecidableEq

def FixtureId.isTrue : FixtureId → Bool
  | .none => false
  | .int value => decide (value ≠ 0)
  | .str value => decide (value ≠ "")

/-- `str(fixture_id)` -/
def FixtureId.toStr : FixtureId → String
  | .none => "None"
  | .int value => toString value
  | .str value => value

/-- A class, given itself or by a dotted name. -/
inductive FixtureRef (Cls : Type) where
  | cls (cls : Cls)
  | name (name : String)

structure Program (Cls : Type) where
  /-- What `get_object_name` reads of a class. -/
  object : Cls → Object
  /-- `load_object(name)`, which raises where this is `none` -/
  loadObject : String → Option Cls
  isFixtureClass : Cls → Bool

structure Fixture (Cls : Type) where
  identity : Nat
  cls : Cls
  fixtureName : String
  fixtureId : FixtureId
  deriving DecidableEq

inductive FixtureError (Cls : Type) where
  | notLoaded (name : String)
  | noName (error : ObjectNameError)
  /-- `TypeError("Error creating fixture '{name}' from class {obj!r}.")` -/
  | notCreated (name : String) (cls : Cls)
  /-- `TypeError("Invalid fixture object type: '{obj!r}'")` -/
  | invalidType (cls : Cls)
  deriving DecidableEq

/-- The dictionary `fixtures`, and how many objects have been created. -/
abbrev Manager (Cls : Type) := Registry String (Fixture Cls)

section Manager

variable {Cls : Type} (program : Program Cls)

def getNameAndObject : FixtureRef Cls → Except (FixtureError Cls) (String × Cls)
  | .name name =>
      match program.loadObject name with
      | none => .error (.notLoaded name)
      | some cls => .ok (name, cls)
  | .cls cls =>
      match getObjectName (program.object cls) with
      | .error error => .error (.noName error)
      | .ok name => .ok (name, cls)

/-- The name in `get_fixture`, after `if fixture_id: name += f'-{fixture_id}'`. -/
def fixtureKey (name : String) (fixtureId : FixtureId) : String :=
  if fixtureId.isTrue then name ++ ("-" ++ fixtureId.toStr) else name

/-- `init_fixture`, where `constructed` tells whether the constructor returns. -/
def initFixture (constructed : Bool) (identity : Nat) (cls : Cls) (name : String)
    (fixtureId : FixtureId) : Except (FixtureError Cls) (Fixture Cls) :=
  if program.isFixtureClass cls then
    if constructed then .ok ⟨identity, cls, name, fixtureId⟩ else .error (.notCreated name cls)
  else .error (.invalidType cls)

def getFixture (constructed : Bool) (obj : FixtureRef Cls) (fixtureId : FixtureId)
    (manager : Manager Cls) : Except (FixtureError Cls) (Fixture Cls) × Manager Cls :=
  match getNameAndObject program obj with
  | .error error => (.error error, manager)
  | .ok (name, cls) =>
      match manager.entries.get? (fixtureKey name fixtureId) with
      | some fixture => (.ok fixture, manager)
      | none =>
          match initFixture program constructed manager.made cls (fixtureKey name fixtureId)
              fixtureId with
          | .error error => (.error error, manager)
          | .ok fixture =>
              (.ok fixture,
                ⟨manager.entries.set (fixtureKey name fixtureId) fixture, manager.made + 1⟩)

/-- What `get_object_name` reads in `remove_fixture`. -/
def refObject : FixtureRef Cls → Object
  | .name name => .str name
  | .cls cls => program.object cls

/-- The name in `remove_fixture`, after `if fixture_id: name += '-' + str(fixture_id)`. -/
def removalKey (name : String) (fixtureId : FixtureId) : String :=
  if fixtureId.isTrue then name ++ ("-" ++ fixtureId.toStr) else name

def removeFixture (obj : FixtureRef Cls) (fixtureId : FixtureId) (manager : Manager Cls) :
    Except (FixtureError Cls) (Option (Fixture Cls)) × Manager Cls :=
  match getObjectName (refObject program obj) with
  | .error error => (.error (.noName error), manager)
  | .ok name =>
      (.ok (manager.entries.get? (removalKey name fixtureId)),
        ⟨manager.entries.erase (removalKey name fixtureId), manager.made⟩)

/-! ### Runs -/

structure Request (Cls : Type) where
  obj : FixtureRef Cls
  fixtureId : FixtureId
  constructed : Bool

inductive Call (Cls : Type) where
  | get (request : Request Cls)
  | remove (obj : FixtureRef Cls) (fixtureId : FixtureId)

def Request.call (request : Request Cls) (manager : Manager Cls) :
    Except (FixtureError Cls) (Fixture Cls) × Manager Cls :=
  getFixture program request.constructed request.obj request.fixtureId manager

def step (manager : Manager Cls) : Call Cls → Manager Cls
  | .get request => (request.call program manager).2
  | .remove obj fixtureId => (removeFixture program obj fixtureId manager).2

def run (manager : Manager Cls) (calls : List (Call Cls)) : Manager Cls :=
  calls.foldl (step program) manager

/-- The name under which a call of `get_fixture` looks for a fixture. -/
def Request.key (request : Request Cls) : Except (FixtureError Cls) String :=
  (getNameAndObject program request.obj).map fun found => fixtureKey found.1 request.fixtureId

/-- The call removes what is registered under the key. -/
def Call.Removes : Call Cls → String → Prop
  | .get _, _ => False
  | .remove obj fixtureId, key =>
      ∃ name, getObjectName (refObject program obj) = .ok name ∧ removalKey name fixtureId = key

/-! ### The registry -/

/-- The constructor of a class, as the registry sees it. -/
def maker (constructed : Bool) (cls : Cls) (name : String) (fixtureId : FixtureId) :
    Maker (@Fixture.identity Cls) where
  make := fun count => (initFixture program constructed count cls name fixtureId).toOption
  new := by
    intro count fixture made
    unfold initFixture at made
    split at made
    · split at made
      · cases made
        rfl
      · cases made
    · cases made

/-- What a call does to the registry, if it gets a name. -/
def Call.operation : Call Cls → Option (Registry.Operation (@Fixture.identity Cls) String)
  | .get request =>
      match getNameAndObject program request.obj with
      | .error _ => none
      | .ok (name, cls) =>
          some (.fetch (fixtureKey name request.fixtureId)
            (maker program request.constructed cls (fixtureKey name request.fixtureId)
              request.fixtureId))
  | .remove obj fixtureId =>
      match getObjectName (refObject program obj) with
      | .error _ => none
      | .ok name => some (.remove (removalKey name fixtureId))

variable {program} {manager : Manager Cls}

theorem getFixture_eq {request : Request Cls} {name : String} {cls : Cls}
    (found : getNameAndObject program request.obj = .ok (name, cls)) :
    ((request.call program manager).1.toOption, (request.call program manager).2) =
      manager.fetch (fixtureKey name request.fixtureId)
        (maker program request.constructed cls (fixtureKey name request.fixtureId)
          request.fixtureId) := by
  unfold Request.call getFixture Registry.fetch
  rw [found]
  cases present : manager.entries.get? (fixtureKey name request.fixtureId) with
  | some fixture => simp only [present, Except.toOption]
  | none =>
      simp only [present, maker]
      cases initFixture program request.constructed manager.made cls
          (fixtureKey name request.fixtureId) request.fixtureId with
      | error error => rfl
      | ok fixture => rfl

theorem step_of_operation {call : Call Cls}
    {operation : Registry.Operation (@Fixture.identity Cls) String}
    (known : call.operation program = some operation) :
    step program manager call = manager.apply operation := by
  cases call with
  | get request =>
      cases found : getNameAndObject program request.obj with
      | error error =>
          simp only [Call.operation, found] at known
          cases known
      | ok pair =>
          obtain ⟨name, cls⟩ := pair
          simp only [Call.operation, found] at known
          cases known
          exact (Prod.mk.inj (getFixture_eq found)).2
  | remove obj fixtureId =>
      cases found : getObjectName (refObject program obj) with
      | error error =>
          simp only [Call.operation, found] at known
          cases known
      | ok name =>
          simp only [Call.operation, found] at known
          cases known
          simp only [step, removeFixture, found]
          rfl

theorem step_of_no_operation {call : Call Cls} (unknown : call.operation program = none) :
    step program manager call = manager := by
  cases call with
  | get request =>
      cases found : getNameAndObject program request.obj with
      | error error => simp only [step, Request.call, getFixture, found]
      | ok pair =>
          simp only [Call.operation, found] at unknown
          cases unknown
  | remove obj fixtureId =>
      cases found : getObjectName (refObject program obj) with
      | error error => simp only [step, removeFixture, found]
      | ok name =>
          simp only [Call.operation, found] at unknown
          cases unknown

/-- A run of the manager is a run of the registry. -/
theorem run_eq (calls : List (Call Cls)) :
    run program manager calls = manager.run (calls.filterMap (Call.operation program)) := by
  induction calls generalizing manager with
  | nil => rfl
  | cons call calls inductionHypothesis =>
      have first : run program manager (call :: calls) =
          run program (step program manager call) calls := rfl
      rw [first, inductionHypothesis]
      cases known : call.operation program with
      | none => rw [step_of_no_operation known, List.filterMap_cons_none known]
      | some operation =>
          rw [step_of_operation known, List.filterMap_cons_some known]
          rfl

theorem removes_iff {call : Call Cls} {key : String} :
    call.operation program = some (.remove key) ↔ call.Removes program key := by
  cases call with
  | get request =>
      refine iff_of_false (fun removes => ?_) id
      cases found : getNameAndObject program request.obj with
      | error error =>
          simp only [Call.operation, found] at removes
          cases removes
      | ok pair =>
          simp only [Call.operation, found] at removes
          cases removes
  | remove obj fixtureId =>
      cases found : getObjectName (refObject program obj) with
      | error error => simp [Call.operation, Call.Removes, found]
      | ok name => simp [Call.operation, Call.Removes, found]

theorem mem_operations_iff {calls : List (Call Cls)} {key : String} :
    .remove key ∈ calls.filterMap (Call.operation program) ↔
      ∃ call ∈ calls, call.Removes program key := by
  simp only [List.mem_filterMap, removes_iff]

/-- A call that returns a fixture has a name, and is the registry's answer for it. -/
theorem fetch_of_ok {request : Request Cls} {fixture : Fixture Cls} {after : Manager Cls}
    (returned : request.call program manager = (.ok fixture, after)) :
    ∃ key, ∃ maker : Maker (@Fixture.identity Cls), request.key program = .ok key ∧
      manager.fetch key maker = (some fixture, after) := by
  cases found : getNameAndObject program request.obj with
  | error error =>
      unfold Request.call getFixture at returned
      rw [found] at returned
      cases returned
  | ok pair =>
      obtain ⟨name, cls⟩ := pair
      have fetched : ((request.call program manager).1.toOption,
          (request.call program manager).2) = manager.fetch _ _ := getFixture_eq found
      rw [returned] at fetched
      refine ⟨_, _, ?_, fetched.symm⟩
      unfold Request.key
      rw [found]
      rfl

end Manager

/-! ### Keys -/

/-- What the key shows of an id. -/
def FixtureId.text (fixtureId : FixtureId) : Option String :=
  if fixtureId.isTrue then some fixtureId.toStr else .none

/-- The second name is not the first one with an id. -/
def Apart (name other : String) : Prop := ∀ text, other ≠ name ++ ("-" ++ text)

theorem fixtureKey_eq (name : String) (fixtureId : FixtureId) :
    fixtureKey name fixtureId =
      name ++ (fixtureId.text.map fun text => "-" ++ text).getD "" := by
  unfold fixtureKey FixtureId.text
  cases fixtureId.isTrue with
  | true => rfl
  | false => exact (String.append_empty).symm

theorem append_dash_eq {name other text otherText : String}
    (same : name ++ ("-" ++ text) = other ++ ("-" ++ otherText)) :
    name = other ∨ ¬Apart name other ∨ ¬Apart other name := by
  have characters := congrArg String.toList same
  simp only [String.toList_append] at characters
  have dash : "-".toList = ['-'] := rfl
  rw [dash, List.singleton_append, List.singleton_append] at characters
  rcases List.append_eq_append_iff.mp characters with ⟨more, longer, rest⟩ | ⟨more, longer, rest⟩
  · cases more with
    | nil =>
        rw [List.append_nil] at longer
        exact .inl (String.toList_inj.mp longer.symm)
    | cons first more =>
        obtain ⟨rfl, _⟩ := List.cons.inj rest
        refine .inr (.inl fun apart => apart (String.ofList more) (String.toList_inj.mp ?_))
        rw [longer, String.toList_append, String.toList_append, dash, String.toList_ofList]
        rfl
  · cases more with
    | nil =>
        rw [List.append_nil] at longer
        exact .inl (String.toList_inj.mp longer)
    | cons first more =>
        obtain ⟨rfl, _⟩ := List.cons.inj rest
        refine .inr (.inr fun apart => apart (String.ofList more) (String.toList_inj.mp ?_))
        rw [longer, String.toList_append, String.toList_append, dash, String.toList_ofList]
        rfl

theorem ne_append_dash {name text : String} : name ≠ name ++ ("-" ++ text) := by
  intro same
  have lengths := congrArg String.length same
  simp only [String.length_append] at lengths
  have dash : "-".length = 1 := rfl
  omega

/-- **The keys of apart names are equal exactly if names and ids are.** -/
theorem fixtureKey_eq_iff {name other : String} {fixtureId otherId : FixtureId}
    (apart : name ≠ other → Apart name other ∧ Apart other name) :
    fixtureKey name fixtureId = fixtureKey other otherId ↔
      name = other ∧ fixtureId.text = otherId.text := by
  rw [fixtureKey_eq, fixtureKey_eq]
  cases fixtureId.text with
  | none =>
      cases otherId.text with
      | none => simp
      | some otherText =>
          refine iff_of_false (fun same => ?_) nofun
          have longer : name = other ++ ("-" ++ otherText) := by simpa using same
          by_cases names : name = other
          · rw [names] at longer
            exact ne_append_dash longer
          · exact (apart names).2 otherText longer
  | some text =>
      cases otherId.text with
      | none =>
          refine iff_of_false (fun same => ?_) nofun
          have longer : other = name ++ ("-" ++ text) := by simpa using same.symm
          by_cases names : name = other
          · rw [names] at longer
            exact ne_append_dash longer
          · exact (apart names).1 text longer
      | some otherText =>
          constructor
          · intro same
            have names : name = other := by
              by_contra different
              rcases append_dash_eq same with equal | notApart | notApart
              · exact different equal
              · exact notApart (apart different).1
              · exact notApart (apart different).2
            subst names
            have dashes := (String.append_right_inj name).mp same
            exact ⟨rfl, congrArg some ((String.append_right_inj "-").mp dashes)⟩
          · rintro ⟨rfl, same⟩
            rw [Option.some.inj same]

theorem text_int_inj {one two : Int} :
    (FixtureId.int one).text = (FixtureId.int two).text ↔ one = two := by
  refine ⟨fun same => ?_, fun same => by rw [same]⟩
  by_cases oneZero : one = 0
  · by_cases twoZero : two = 0
    · rw [oneZero, twoZero]
    · simp [FixtureId.text, FixtureId.isTrue, oneZero, twoZero] at same
  · by_cases twoZero : two = 0
    · simp [FixtureId.text, FixtureId.isTrue, oneZero, twoZero] at same
    · simp only [FixtureId.text, FixtureId.isTrue, oneZero, twoZero, ne_eq, not_false_eq_true,
        decide_true, if_true, Option.some.injEq] at same
      exact Int.repr_injective same

theorem text_str_inj {one two : String} :
    (FixtureId.str one).text = (FixtureId.str two).text ↔ one = two := by
  refine ⟨fun same => ?_, fun same => by rw [same]⟩
  by_cases oneEmpty : one = ""
  · by_cases twoEmpty : two = ""
    · rw [oneEmpty, twoEmpty]
    · simp [FixtureId.text, FixtureId.isTrue, oneEmpty, twoEmpty] at same
  · by_cases twoEmpty : two = ""
    · simp [FixtureId.text, FixtureId.isTrue, oneEmpty, twoEmpty] at same
    · simpa [FixtureId.text, FixtureId.isTrue, FixtureId.toStr, oneEmpty, twoEmpty] using same

theorem text_int_str {number : Int} {string : String}
    (same : (FixtureId.int number).text = (FixtureId.str string).text) :
    number = 0 ∧ string = "" ∨ string = toString number := by
  by_cases zero : number = 0
  · by_cases empty : string = ""
    · exact .inl ⟨zero, empty⟩
    · simp [FixtureId.text, FixtureId.isTrue, zero, empty] at same
  · by_cases empty : string = ""
    · simp [FixtureId.text, FixtureId.isTrue, zero, empty] at same
    · simp only [FixtureId.text, FixtureId.isTrue, zero, empty, ne_eq, not_false_eq_true,
        decide_true, if_true, Option.some.injEq] at same
      exact .inr same.symm

/-! ### Main result -/

section Main

variable {Cls : Type} (program : Program Cls)

/-- Two returned fixtures of a run are one object exactly if they have one key, and it was not
removed in between. -/
def SameFixtureIff : Prop :=
  ∀ (before between : List (Call Cls)) (first second : Request Cls) (fixture twin : Fixture Cls)
    (key otherKey : String),
    (first.call program (run program Registry.empty before)).1 = .ok fixture →
    (second.call program (run program
      (first.call program (run program Registry.empty before)).2 between)).1 = .ok twin →
    first.key program = .ok key → second.key program = .ok otherKey →
    (fixture.identity = twin.identity ↔
      key = otherKey ∧ ∀ call ∈ between, ¬call.Removes program key)

/-- A removal leaves the fixtures of all other keys. -/
def RemovesOnlyItsKey : Prop :=
  ∀ (manager : Manager Cls) (call : Call Cls) (key : String), ¬call.Removes program key →
    ∀ fixture, manager.entries.get? key = some fixture →
      (step program manager call).entries.get? key = some fixture

variable {program}

theorem sameFixtureIff : SameFixtureIff program := by
  intro before between first second fixture twin key otherKey returned again named otherNamed
  have sound : Registry.Sound (@Fixture.identity Cls) (run program Registry.empty before) := by
    rw [run_eq]
    exact Registry.sound_empty.run _
  cases one : first.call program (run program Registry.empty before) with
  | mk result middle =>
      rw [one] at returned again
      cases returned
      cases two : second.call program (run program middle between) with
      | mk result last =>
          rw [two] at again
          cases again
          obtain ⟨keyOne, makerOne, foundOne, fetchedOne⟩ := fetch_of_ok one
          obtain ⟨keyTwo, makerTwo, foundTwo, fetchedTwo⟩ := fetch_of_ok two
          rw [named] at foundOne
          rw [otherNamed] at foundTwo
          cases foundOne
          cases foundTwo
          rw [run_eq] at fetchedTwo
          rw [Registry.same_value_iff sound fetchedOne fetchedTwo, mem_operations_iff]
          simp only [not_exists, not_and]

theorem removesOnlyItsKey : RemovesOnlyItsKey program := by
  intro manager call key keeps fixture present
  cases known : call.operation program with
  | none =>
      rw [step_of_no_operation known]
      exact present
  | some operation =>
      rw [step_of_operation known]
      refine Registry.stays_apply present fun removes => keeps ?_
      rw [← removes_iff, known, removes]

end Main

/-- **The manager is a map keyed by the name and the text of the id.** -/
theorem fixture_manager_keyed :
    (∀ (Cls : Type) (program : Program Cls),
      SameFixtureIff program ∧ RemovesOnlyItsKey program) ∧
    (∀ (name other : String) (fixtureId otherId : FixtureId),
      (name ≠ other → Apart name other ∧ Apart other name) →
        (fixtureKey name fixtureId = fixtureKey other otherId ↔
          name = other ∧ fixtureId.text = otherId.text)) ∧
    (∀ one two : Int, (FixtureId.int one).text = (FixtureId.int two).text ↔ one = two) ∧
    (∀ one two : String, (FixtureId.str one).text = (FixtureId.str two).text ↔ one = two) ∧
    (∀ (number : Int) (string : String),
      (FixtureId.int number).text = (FixtureId.str string).text →
        number = 0 ∧ string = "" ∨ string = toString number) :=
  ⟨fun _ _ => ⟨sameFixtureIff, removesOnlyItsKey⟩, fun _ _ _ _ => fixtureKey_eq_iff,
    fun _ _ => text_int_inj, fun _ _ => text_str_inj, fun _ _ => text_int_str⟩

/-- One fixture class, `module.MyFixture`. -/
def myFixture : Program Unit where
  object := fun _ => .other none (some "module") (some "MyFixture")
  loadObject := fun _ => none
  isFixtureClass := fun _ => true

/-- The ids 1 and "1" are different, and have one fixture. -/
theorem number_and_text_share_fixture :
    FixtureId.int 1 ≠ .str "1" ∧
      (getFixture myFixture true (.cls ()) (.int 1) Registry.empty).1 =
        .ok ⟨0, (), "module.MyFixture-1", .int 1⟩ ∧
      (getFixture myFixture true (.cls ()) (.str "1")
        (getFixture myFixture true (.cls ()) (.int 1) Registry.empty).2).1 =
        .ok ⟨0, (), "module.MyFixture-1", .int 1⟩ :=
  ⟨by decide, by decide, by decide⟩

end Tobiko.Common.FixtureManager
