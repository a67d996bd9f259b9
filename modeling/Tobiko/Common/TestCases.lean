import Tobiko.Common.Shelves.Undisturbed
import Tobiko.Foundation.Effect

/-!
Contract: the test cases that run in a process, by the manager of `tobiko/common/_case.py`.

Owns: the manager with its stack of test cases, `enter_test_case`, what the bodies of nested test
cases can do with the manager and with the shared resources, and what is left of this when a body
has ended, in whatever way.

Does not own: how a test case runs its methods and reports errors, and the functions that store the
registrations of tests (`Shelves`), which run here without other workers.

An assertion compares test cases by their identity, which is a value here. The times of entries are
only logged, and left out. The errors of the manager itself are told apart from the exceptions of the
bodies, and nothing handles them: they are never raised.
-/

namespace Tobiko.Common.TestCases

open Tobiko.Foundation
open Tobiko.Common.Shelves (isSharedShelf)

/-! ### Shared resources -/

/-- The shelves directory. `run` is what becomes of the file operations of a function, which may meet
faults; the clock allows it that number of attempts at a file. -/
structure SharedResources (World Exc : Type) where
  directory : World → Store String Shelves.Shelf
  attempts : World → String → Nat
  run : Shelves.Body → World →
    (List (Event String String Shelves.Fault) × Shelves.Outcome) × World
  traces : ∀ (body : Shelves.Body) (world : World), body.Traces (directory world)
    (run body world).1.1 (run body world).1.2 (directory (run body world).2)
  exception : Shelves.Error → Exc

namespace SharedResources

variable {World Exc : Type} (resources : SharedResources World Exc)

def registered (world : World) (shelf resource : String) : Finset String :=
  Shelves.registered (resources.directory world) shelf resource

/-- A call of a function, with what it raises and whether a file operation has met a fault. -/
def call (call : Shelves.Call) (world : World) : (Option Exc × Bool) × World :=
  match resources.run call.body world with
  | ((events, .returned _), after) => ((none, events.any Event.isFault), after)
  | ((events, .raised error), after) =>
      ((some (resources.exception error), events.any Event.isFault), after)

def addme (shelf resource testcaseId : String) (world : World) : Option Exc × World :=
  let ((failure, _), after) := resources.call
    (.addmeToSharedResource shelf resource testcaseId (resources.attempts world shelf)) world
  (failure, after)

def removeme (shelf resource testcaseId : String) (world : World) : Option Exc × World :=
  let ((failure, _), after) := resources.call
    (.removemeFromSharedResource shelf resource testcaseId (resources.attempts world shelf)) world
  (failure, after)

def removeTestFromAll (testcaseId : String) (world : World) : (Option Exc × Bool) × World :=
  resources.call (.removeTestFromAllSharedResources testcaseId (resources.attempts world)) world

/-! What the functions do to the registrations is known of their programs. -/

theorem call_directory (call : Shelves.Call) (world : World) :
    ∃ events outcome, call.body.Traces (resources.directory world) events outcome
        (resources.directory (resources.call call world).2) ∧
      (resources.call call world).1.2 = events.any Event.isFault := by
  have traces := resources.traces call.body world
  rcases ended : resources.run call.body world with ⟨⟨events, outcome⟩, after⟩
  rw [ended] at traces
  refine ⟨events, outcome, ?_⟩
  unfold SharedResources.call
  rw [ended]
  cases outcome with
  | returned tests => exact ⟨traces, rfl⟩
  | raised error => exact ⟨traces, rfl⟩

theorem call_others (call : Shelves.Call) (world : World) (shelf resource : String) {id : String}
    (kept : ∀ tests, id ∈ call.change.effect tests ↔ id ∈ tests) :
    id ∈ resources.registered (resources.call call world).2 shelf resource ↔
      id ∈ resources.registered world shelf resource := by
  obtain ⟨events, outcome, traces, -⟩ := resources.call_directory call world
  unfold registered
  rcases call.body_changes _ _ _ traces.runs shelf resource with same | ⟨-, changed⟩
  · rw [same]
  · rw [changed]
    exact kept _

theorem addme_others (shelf resource testcaseId : String) (world : World)
    (otherShelf otherResource : String) (id : String) (other : id ≠ testcaseId) :
    id ∈ resources.registered (resources.addme shelf resource testcaseId world).2 otherShelf
        otherResource ↔ id ∈ resources.registered world otherShelf otherResource := by
  apply resources.call_others
  intro tests
  rw [Shelves.Call.change, Finset.mem_insert]
  exact or_iff_right other

theorem removeme_others (shelf resource testcaseId : String) (world : World)
    (otherShelf otherResource : String) (id : String) (other : id ≠ testcaseId) :
    id ∈ resources.registered (resources.removeme shelf resource testcaseId world).2 otherShelf
        otherResource ↔ id ∈ resources.registered world otherShelf otherResource := by
  apply resources.call_others
  intro tests
  rw [Shelves.Call.change, Finset.mem_erase]
  exact and_iff_right other

theorem remove_others (testcaseId : String) (world : World) (otherShelf otherResource : String)
    (id : String) (other : id ≠ testcaseId) :
    id ∈ resources.registered (resources.removeTestFromAll testcaseId world).2 otherShelf
        otherResource ↔ id ∈ resources.registered world otherShelf otherResource := by
  apply resources.call_others
  intro tests
  rw [Shelves.Call.change, Finset.mem_erase]
  exact and_iff_right other

/-- A removal that has met no fault is complete. -/
theorem remove_complete (testcaseId : String) (world : World)
    (faultless : (resources.removeTestFromAll testcaseId world).1.2 = false) (shelf : String)
    (shared : isSharedShelf shelf = true) (resource : String) :
    testcaseId ∉
      resources.registered (resources.removeTestFromAll testcaseId world).2 shelf resource := by
  obtain ⟨events, outcome, traces, same⟩ := resources.call_directory
    (.removeTestFromAllSharedResources testcaseId (resources.attempts world)) world
  have delivered := Shelves.removeTestFromAllSharedResources_delivers _ testcaseId
    (resources.attempts world) (resources.directory world) events outcome _ traces
    (same.symm.trans faultless)
  exact delivered.2 shelf shared resource

end SharedResources

/-- A step that changes no registration. -/
def SharedResources.Keeps {World Exc : Type} (resources : SharedResources World Exc)
    (step : World → Option Exc × World) : Prop :=
  ∀ world, resources.registered (step world).2 = resources.registered world

/-- The test cases themselves: their ids, and `subTest` as a context manager. The end of a subtest
gets the exception of its body, and raises what is to be raised in its place. -/
structure Cases {World Exc : Type} (resources : SharedResources World Exc) (Case : Type) where
  id : Case → String
  dummy : Case
  enterSubTest : Case → String → World → Option Exc × World
  leaveSubTest : Case → Option Exc → World → Option Exc × World
  enter_keeps : ∀ case name, resources.Keeps (enterSubTest case name)
  leave_keeps : ∀ case exception, resources.Keeps (leaveSubTest case exception)

/-! ### The manager -/

/-- The state of a process: the running test cases, the current one first, and the ids of the tests
whose removal has met a fault. -/
structure State (World Case : Type) where
  cases : List Case
  world : World
  unremoved : List String

inductive CaseError (Exc : Type) where
  | raised (exception : Exc)
  | indexError
  | assertion
  deriving DecidableEq

section Manager

variable {World Exc Case : Type} [DecidableEq Case] {resources : SharedResources World Exc}
  (cases : Cases resources Case)

abbrev CaseEffect (World Exc Case Value : Type) := Effect (CaseError Exc) (State World Case) Value

/-- A step that may raise. -/
def perform (step : World → Option Exc × World) : CaseEffect World Exc Case Unit := do
  match ← Effect.update fun state => ((step state.world).1, { state with world := (step state.world).2 }) with
  | none => pure ()
  | some exception => Effect.raise (.raised exception)

/-- `get_test_case` -/
def State.testCase (state : State World Case) : Case := state.cases.head?.getD cases.dummy

/-- `push_test_case`, which returns the parent. -/
def pushTestCase (case : Case) : CaseEffect World Exc Case Case :=
  Effect.update fun state => (state.testCase cases, { state with cases := case :: state.cases })

/-- `pop_test_case` -/
def popTestCase : CaseEffect World Exc Case Case := do
  let state ← Effect.get
  match state.cases with
  | [] => Effect.raise .indexError
  | case :: rest => do
      Effect.modify fun state => { state with cases := rest }
      pure case

variable (resources) in
/-- `remove_test_from_all_shared_resources`, with a note when a file operation has met a fault. -/
def removeTest (testcaseId : String) : CaseEffect World Exc Case Unit := do
  let (failure, faulted) ← Effect.update fun state =>
    ((resources.removeTestFromAll testcaseId state.world).1,
      { state with world := (resources.removeTestFromAll testcaseId state.world).2 })
  Effect.modify fun state =>
    { state with unremoved := if faulted then testcaseId :: state.unremoved else state.unremoved }
  match failure with
  | none => pure ()
  | some exception => Effect.raise (.raised exception)

/-- The exception that a body ends with. The other errors are no `Exception` of a test. -/
def exceptionOf : Except (CaseError Exc) Unit → Except (CaseError Exc) (Option Exc)
  | .ok () => .ok none
  | .error (.raised exception) => .ok (some exception)
  | .error error => .error error

/-- `with parent.subTest(case.id()): yield` -/
def inSubTest (parent case : Case) (body : CaseEffect World Exc Case Unit) :
    CaseEffect World Exc Case Unit := do
  perform (cases.enterSubTest parent (cases.id case))
  let exception ← Effect.ofExcept (exceptionOf (← body.attempt))
  perform (cases.leaveSubTest parent exception)

/-- The `finally` clause of `enter_test_case`. -/
def leaveTestCase (case : Case) : CaseEffect World Exc Case Unit := do
  let popped ← popTestCase
  if case ≠ popped then
    Effect.raise .assertion
  else
    removeTest resources (cases.id case)

/-- `with enter_test_case(case): ...` -/
def enterTestCase (case : Case) (body : CaseEffect World Exc Case Unit) :
    CaseEffect World Exc Case Unit := do
  let parent ← pushTestCase cases case
  let ended ← (inSubTest cases parent case body).attempt
  leaveTestCase cases case
  Effect.ofExcept ended

/-! ### Bodies -/

variable (Case resources) in
/-- What the body of a test case can do with the manager and the shared resources. -/
inductive Script where
  | perform (step : World → Option Exc × World) (keeps : resources.Keeps step)
  | addme (shelf resource : String)
  | removeme (shelf resource : String)
  | enter (case : Case) (body : Script)
  | both (first second : Script)
  | recovering (body handler : Script)

/-- Calls with the id of the current test case. -/
def asTestCase (call : String → World → Option Exc × World) : CaseEffect World Exc Case Unit := do
  let state ← Effect.get
  perform (call (cases.id (state.testCase cases)))

/-- `try: ... except Exception: ...` -/
def recovering (body handler : CaseEffect World Exc Case Unit) : CaseEffect World Exc Case Unit := do
  match ← body.attempt with
  | .ok () => pure ()
  | .error (.raised _) => handler
  | .error error => Effect.raise error

def Script.run : Script Case resources → CaseEffect World Exc Case Unit
  | .perform step _ => TestCases.perform step
  | .addme shelf resource => asTestCase cases (resources.addme shelf resource)
  | .removeme shelf resource => asTestCase cases (resources.removeme shelf resource)
  | .enter case body => enterTestCase cases case body.run
  | .both first second => do
      first.run
      second.run
  | .recovering body handler => TestCases.recovering body.run handler.run

/-- The ids of the test cases that a body enters. -/
def Script.entered : Script Case resources → List String
  | .perform _ _ | .addme _ _ | .removeme _ _ => []
  | .enter case body => cases.id case :: body.entered
  | .both first second => first.entered ++ second.entered
  | .recovering body handler => body.entered ++ handler.entered

end Manager

/-! ### What a body leaves -/

section Left

variable {World Exc Case : Type} {resources : SharedResources World Exc}
  {cases : Cases resources Case}

/-- What has changed since the start: no test case is left running, the tests whose registrations
are left on the shelves that a removal visits are the current one and those whose removal has met a
fault, and only the current test and the ones that have been entered may have lost any. -/
structure Left (cases : Cases resources Case) (entered : List String) (start after : State World Case) :
    Prop where
  cases_eq : after.cases = start.cases
  unremoved : start.unremoved ⊆ after.unremoved
  added : ∀ shelf, isSharedShelf shelf = true → ∀ resource,
    ∀ id ∈ resources.registered after.world shelf resource,
      id ∈ resources.registered start.world shelf resource ∨ id = cases.id (start.testCase cases) ∨
        id ∈ after.unremoved
  kept : ∀ shelf resource, ∀ id ∈ resources.registered start.world shelf resource,
    id ∉ entered → id ≠ cases.id (start.testCase cases) →
      id ∈ resources.registered after.world shelf resource

theorem Left.refl (start : State World Case) : Left cases [] start start :=
  ⟨rfl, fun _ member => member, fun _ _ _ _ member => .inl member, fun _ _ _ member _ _ => member⟩

theorem Left.mono {entered more : List String} {start after : State World Case}
    (left : Left cases entered start after) (fewer : entered ⊆ more) : Left cases more start after :=
  ⟨left.cases_eq, left.unremoved, left.added, fun shelf resource id member absent =>
    left.kept shelf resource id member fun inEntered => absent (fewer inEntered)⟩

theorem Left.trans {first second : List String} {start middle after : State World Case}
    (before : Left cases first start middle) (behind : Left cases second middle after) :
    Left cases (first ++ second) start after := by
  have current : middle.testCase cases = start.testCase cases := by
    unfold State.testCase
    rw [before.cases_eq]
  refine ⟨behind.cases_eq.trans before.cases_eq,
    fun id member => behind.unremoved (before.unremoved member), ?_, ?_⟩
  · intro shelf shared resource id member
    rcases behind.added shelf shared resource id member with earlier | isCurrent | unremoved
    · rcases before.added shelf shared resource id earlier with start_ | isCurrent | unremoved
      · exact .inl start_
      · exact .inr (.inl isCurrent)
      · exact .inr (.inr (behind.unremoved unremoved))
    · exact .inr (.inl (current ▸ isCurrent))
    · exact .inr (.inr unremoved)
  · intro shelf resource id member absent other
    rw [List.mem_append, not_or] at absent
    apply behind.kept shelf resource id
    · exact before.kept shelf resource id member absent.1 other
    · exact absent.2
    · rwa [current]

def IsRaised (error : CaseError Exc) : Prop := ∃ exception, error = .raised exception

/-- However a body ends, it raises nothing but exceptions of its own, and leaves that. -/
def Leaves (cases : Cases resources Case) (entered : List String)
    (body : CaseEffect World Exc Case Unit) : Prop :=
  ∀ start, Effect.Ensures (fun state => state = start) body (fun _ => Left cases entered start)
    fun error after => IsRaised error ∧ Left cases entered start after

theorem perform_ensures (step : World → Option Exc × World) (start : State World Case) :
    Effect.Ensures (fun state => state = start) (perform step : CaseEffect World Exc Case Unit)
      (fun _ after => after = { start with world := (step start.world).2 })
      fun error after => IsRaised error ∧ after = { start with world := (step start.world).2 } := by
  unfold perform
  apply Effect.ensures_bind fun _ (after : State World Case) =>
    after = { start with world := (step start.world).2 }
  · apply Effect.ensures_update
    rintro state rfl
    rfl
  · intro raised
    cases raised with
    | none => exact Effect.ensures_pure fun _ same => same
    | some exception => exact Effect.ensures_raise fun _ same => ⟨⟨exception, rfl⟩, same⟩

theorem perform_leaves {step : World → Option Exc × World} (keeps : resources.Keeps step) :
    Leaves cases [] (perform step) := by
  intro start
  have left : Left cases [] start { start with world := (step start.world).2 } := by
    refine ⟨rfl, fun _ member => member, ?_, ?_⟩
    · intro shelf _ resource id member
      rw [keeps start.world] at member
      exact .inl member
    · intro shelf resource id member _ _
      rwa [keeps start.world]
  apply (perform_ensures step start).mono
  · exact fun _ same => same
  · rintro ended after rfl
    exact left
  · rintro error after ⟨raised, rfl⟩
    exact ⟨raised, left⟩

/-- A call that changes the registrations of one test is a step of the current test. -/
theorem asTestCase_leaves {call : String → World → Option Exc × World}
    (others : ∀ testcaseId world shelf resource, ∀ id ≠ testcaseId,
      id ∈ resources.registered (call testcaseId world).2 shelf resource ↔
        id ∈ resources.registered world shelf resource) :
    Leaves cases [] (asTestCase cases call) := by
  intro start
  unfold asTestCase
  apply Effect.ensures_bind fun state (after : State World Case) => state = start ∧ after = start
  · exact Effect.ensures_get fun _ same => ⟨same, same⟩
  · intro state
    apply Effect.ensures_of
    · exact fun _ known => known.1
    · rintro rfl
      have left : Left cases [] state
          { state with world := (call (cases.id (state.testCase cases)) state.world).2 } := by
        refine ⟨rfl, fun _ member => member, ?_, ?_⟩
        · intro shelf _ resource id member
          by_cases isCurrent : id = cases.id (state.testCase cases)
          · exact .inr (.inl isCurrent)
          · exact .inl ((others _ _ _ _ id isCurrent).mp member)
        · exact fun shelf resource id member _ other => (others _ _ _ _ id other).mpr member
      apply (perform_ensures (call (cases.id (state.testCase cases))) state).mono
      · exact fun _ known => known.2
      · rintro ended after rfl
        exact left
      · rintro error after ⟨raised, rfl⟩
        exact ⟨raised, left⟩

theorem both_leaves {entered more : List String} {first second : CaseEffect World Exc Case Unit}
    (firstLeaves : Leaves cases entered first) (secondLeaves : Leaves cases more second) :
    Leaves cases (entered ++ more) (do first; second) := by
  intro start
  apply Effect.ensures_bind fun _ => Left cases entered start
  · apply (firstLeaves start).mono
    · exact fun _ same => same
    · exact fun _ _ left => left
    · exact fun _ _ raised => ⟨raised.1, raised.2.mono (List.subset_append_left _ _)⟩
  · intro _ middle left
    apply (secondLeaves middle).mono
    · exact fun _ same => same
    · exact fun _ _ behind => left.trans behind
    · exact fun _ _ raised => ⟨raised.1, left.trans raised.2⟩
    · rfl

theorem recovering_leaves {entered more : List String} {body handler : CaseEffect World Exc Case Unit}
    (bodyLeaves : Leaves cases entered body) (handlerLeaves : Leaves cases more handler) :
    Leaves cases (entered ++ more) (recovering body handler) := by
  intro start
  unfold recovering
  apply Effect.ensures_bind _ (Effect.ensures_attempt (bodyLeaves start))
  intro ended
  cases ended with
  | ok value =>
      apply Effect.ensures_pure
      exact fun _ known => (known.1 value rfl).mono (List.subset_append_left _ _)
  | error error =>
      intro middle known
      obtain ⟨⟨exception, rfl⟩, left⟩ := known.2 error rfl
      apply (handlerLeaves middle).mono
      · exact fun _ same => same
      · exact fun _ _ behind => left.trans behind
      · exact fun _ _ raised => ⟨raised.1, left.trans raised.2⟩
      · rfl

theorem inSubTest_leaves {entered : List String} {body : CaseEffect World Exc Case Unit}
    (leaves : Leaves cases entered body) (parent case : Case) :
    Leaves cases entered (inSubTest cases parent case body) := by
  have ends : Leaves cases entered (do
      let exception ← Effect.ofExcept (exceptionOf (← body.attempt))
      perform (cases.leaveSubTest parent exception)) := by
    intro start
    apply Effect.ensures_bind _ (Effect.ensures_attempt (leaves start))
    intro ended middle known
    have leave : ∀ exception : Option Exc, Left cases entered start middle →
        Effect.Ensures (fun state => state = middle) (perform (cases.leaveSubTest parent exception))
          (fun _ => Left cases entered start)
          fun error after => IsRaised error ∧ Left cases entered start after := by
      intro exception left
      have quiet : Leaves cases [] (perform (cases.leaveSubTest parent exception)) :=
        perform_leaves (cases.leave_keeps parent exception)
      apply (quiet middle).mono
      · exact fun _ same => same
      · exact fun _ _ behind => (left.trans behind).mono (by simp)
      · exact fun _ _ raised => ⟨raised.1, (left.trans raised.2).mono (by simp)⟩
    cases ended with
    | ok value => exact leave none (known.1 value rfl) middle rfl
    | error error =>
        obtain ⟨⟨exception, rfl⟩, left⟩ := known.2 error rfl
        exact leave (some exception) left middle rfl
  exact both_leaves (perform_leaves (cases.enter_keeps parent (cases.id case))) ends

/-- What the removal of a test has changed. -/
structure Removed (resources : SharedResources World Exc) (testcaseId : String)
    (before after : State World Case) : Prop where
  cases_eq : after.cases = before.cases
  unremoved : before.unremoved ⊆ after.unremoved
  others : ∀ shelf resource, ∀ id ≠ testcaseId, id ∈ resources.registered after.world shelf resource ↔
    id ∈ resources.registered before.world shelf resource
  gone : ∀ shelf, isSharedShelf shelf = true → ∀ resource,
    testcaseId ∈ resources.registered after.world shelf resource → testcaseId ∈ after.unremoved

theorem removeTest_ensures (testcaseId : String) (before : State World Case) :
    Effect.Ensures (fun state => state = before)
      (removeTest resources testcaseId : CaseEffect World Exc Case Unit)
      (fun _ => Removed resources testcaseId before)
      fun error after => IsRaised error ∧ Removed resources testcaseId before after := by
  unfold removeTest
  apply Effect.ensures_bind fun ended (after : State World Case) =>
    resources.removeTestFromAll testcaseId before.world = (ended, after.world) ∧
      after = { before with world := after.world }
  · apply Effect.ensures_update
    rintro state rfl
    exact ⟨rfl, rfl⟩
  · rintro ⟨failure, faulted⟩
    apply Effect.ensures_bind fun _ after => Removed resources testcaseId before after
    · apply Effect.ensures_modify
      rintro after ⟨ran, same⟩
      have others := resources.remove_others testcaseId before.world
      have complete := resources.remove_complete testcaseId before.world
      rw [ran] at others complete
      refine ⟨?_, ?_, others, ?_⟩
      · rw [same]
      · rw [same]
        split
        · exact List.subset_cons_self testcaseId before.unremoved
        · exact List.Subset.refl _
      · intro shelf shared resource member
        cases faulted with
        | true => exact List.mem_cons_self
        | false => exact absurd member (complete rfl shelf shared resource)
    · intro _
      cases failure with
      | none => exact Effect.ensures_pure fun _ removed => removed
      | some exception => exact Effect.ensures_raise fun _ removed => ⟨⟨exception, rfl⟩, removed⟩

/-- A test case is current until its removal, and is popped by it. -/
theorem leaveTestCase_ensures [DecidableEq Case] {case : Case} {rest : List Case}
    {before : State World Case} (current : before.cases = case :: rest) :
    Effect.Ensures (fun state => state = before) (leaveTestCase cases case)
      (fun _ => Removed resources (cases.id case) { before with cases := rest })
      fun error after => IsRaised error ∧
        Removed resources (cases.id case) { before with cases := rest } after := by
  unfold leaveTestCase
  apply Effect.ensures_bind fun popped after => popped = case ∧ after = { before with cases := rest }
  · unfold popTestCase
    apply Effect.ensures_bind fun state after => state = before ∧ after = before
    · exact Effect.ensures_get fun _ same => ⟨same, same⟩
    · intro state
      apply Effect.ensures_of
      · exact fun _ known => known.1
      · rintro rfl
        rw [current]
        apply Effect.ensures_bind fun _ after => after = { state with cases := rest }
        · apply Effect.ensures_modify
          rintro after ⟨-, rfl⟩
          rfl
        · exact fun _ => Effect.ensures_pure fun _ same => ⟨rfl, same⟩
  · intro popped
    apply Effect.ensures_of
    · exact fun _ known => known.1
    · rintro rfl
      rw [if_neg (not_not.mpr rfl)]
      apply (removeTest_ensures (cases.id popped) { before with cases := rest }).mono
      · exact fun _ known => known.2
      · exact fun _ _ removed => removed
      · exact fun _ _ raised => raised

/-- What is left by a body and the removal behind it. -/
theorem Left.leave {entered : List String} {case : Case} {start middle after : State World Case}
    (left : Left cases entered { start with cases := case :: start.cases } middle)
    (removed : Removed resources (cases.id case) { middle with cases := start.cases } after) :
    Left cases (cases.id case :: entered) start after := by
  refine ⟨removed.cases_eq, fun id member => removed.unremoved (left.unremoved member), ?_, ?_⟩
  · intro shelf shared resource id member
    by_cases itself : id = cases.id case
    · subst itself
      exact .inr (.inr (removed.gone shelf shared resource member))
    · rcases left.added shelf shared resource id ((removed.others shelf resource id itself).mp member) with
        earlier | isCurrent | unremoved
      · exact .inl earlier
      · exact absurd isCurrent itself
      · exact .inr (.inr (removed.unremoved unremoved))
  · intro shelf resource id member absent _
    rw [List.mem_cons, not_or] at absent
    apply (removed.others shelf resource id absent.1).mpr
    exact left.kept shelf resource id member absent.2 absent.1

theorem enterTestCase_leaves [DecidableEq Case] {entered : List String}
    {body : CaseEffect World Exc Case Unit} (leaves : Leaves cases entered body) (case : Case) :
    Leaves cases (cases.id case :: entered) (enterTestCase cases case body) := by
  intro start
  unfold enterTestCase
  apply Effect.ensures_bind fun _ inside => inside = { start with cases := case :: start.cases }
  · apply Effect.ensures_update
    rintro state rfl
    rfl
  · intro parent
    apply Effect.ensures_bind _ (Effect.ensures_attempt (inSubTest_leaves leaves parent case _))
    intro ended middle known
    have left : Left cases entered { start with cases := case :: start.cases } middle := by
      cases ended with
      | ok value => exact known.1 value rfl
      | error error => exact (known.2 error rfl).2
    have raised : ∀ error, ended = .error error → IsRaised error := fun error same =>
      (known.2 error same).1
    have ends : Effect.Ensures (fun state => state = middle)
        (do leaveTestCase cases case; Effect.ofExcept ended)
        (fun _ => Left cases (cases.id case :: entered) start)
        fun error after => IsRaised error ∧ Left cases (cases.id case :: entered) start after := by
      apply Effect.ensures_bind fun _ => Left cases (cases.id case :: entered) start
      · apply (leaveTestCase_ensures left.cases_eq).mono
        · exact fun _ same => same
        · exact fun _ _ removed => left.leave removed
        · exact fun _ _ failed => ⟨failed.1, left.leave failed.2⟩
      · intro _
        cases ended with
        | ok value => exact Effect.ensures_pure fun _ holds => holds
        | error error => exact Effect.ensures_raise fun _ holds => ⟨raised error rfl, holds⟩
    exact ends middle rfl

/-- **What nested test cases leave.** However the body of a test case ends, it has left all the test
cases that it has entered, and raises none of the errors of the manager. Registrations that are left
are those of the test case that is still running and of tests whose removal has not been completed;
and it takes no registrations from tests other than that one and the ones that it has entered. -/
theorem script_leaves [DecidableEq Case] (cases : Cases resources Case)
    (script : Script Case resources) : Leaves cases (script.entered cases) (script.run cases) := by
  induction script with
  | perform step keeps => exact perform_leaves keeps
  | addme shelf resource => exact asTestCase_leaves (resources.addme_others shelf resource)
  | removeme shelf resource => exact asTestCase_leaves (resources.removeme_others shelf resource)
  | enter case body inductionHypothesis => exact enterTestCase_leaves inductionHypothesis case
  | both first second firstHypothesis secondHypothesis =>
      exact both_leaves firstHypothesis secondHypothesis
  | recovering body handler bodyHypothesis handlerHypothesis =>
      exact recovering_leaves bodyHypothesis handlerHypothesis

end Left

/-! ### Two test cases -/

section Nested

/-- Shelves that are listed, with the faults that the next accesses meet. -/
def diskResources : SharedResources (Disk String Shelves.Shelf Shelves.Fault)
    (Shelves.Error ⊕ String) where
  directory disk := disk.store
  attempts _ _ := 1
  run body disk := disk.exec body
  traces body disk := disk.exec_traces body
  exception := .inl

/-- Test cases that are their ids, and subtests that raise again what their bodies raise. -/
def namedCases : Cases diskResources String where
  id case := case
  dummy := "dummy"
  enterSubTest _ _ world := (none, world)
  leaveSubTest _ exception world := (exception, world)
  enter_keeps _ _ _ := rfl
  leave_keeps _ _ _ := rfl

/-- The outer test case uses a network, and a port when the inner one has failed that uses the
network, too. -/
def nestedScript : Script String diskResources :=
  .both (.addme "stack" "net")
    (.recovering
      (.enter "inner" (.both (.addme "stack" "net")
        (.perform (fun world => (some (.inr "failed"), world)) fun _ => rfl)))
      (.addme "stack" "port"))

/-- A test of another process uses the network. -/
def nestedStart (faults : List (Option Shelves.Fault)) :
    State (Disk String Shelves.Shelf Shelves.Fault) String where
  cases := ["outer"]
  world := ⟨AList.insert "stack" (Shelves.Shelf.empty.setItem "net" {"elsewhere"}) ∅, faults⟩
  unremoved := []

/-- The removal of the inner test case opens the shelf twice in vain. -/
def removalFaults : List (Option Shelves.Fault) :=
  List.replicate 10 none ++ [some .databaseError, some .databaseError]

/-- How the script ends, who has not been removed, and who uses the network and the port. -/
def nestedEnd (faults : List (Option Shelves.Fault)) :
    Option (Option Unit × List String × Finset String × Finset String) :=
  (nestedScript.run namedCases (nestedStart faults)).map fun ended => (ended.1.toOption,
    ended.2.unremoved, diskResources.registered ended.2.world "stack" "net",
    diskResources.registered ended.2.world "stack" "port")

theorem nestedEnd_faultless :
    nestedEnd [] = some (some (), [], {"elsewhere", "outer"}, {"outer"}) := by
  decide +kernel

theorem nestedEnd_faulted :
    nestedEnd removalFaults =
      some (some (), ["inner"], {"elsewhere", "outer", "inner"}, {"outer"}) := by
  decide +kernel

/-- What the script leaves, when its removal meets no fault and when it does. -/
theorem script_leaves_nested :
    (∃ after, Left namedCases ["inner"] (nestedStart []) after ∧ after.unremoved = [] ∧
      diskResources.registered after.world "stack" "net" = {"elsewhere", "outer"}) ∧
    ∃ after, Left namedCases ["inner"] (nestedStart removalFaults) after ∧
      after.unremoved = ["inner"] ∧
      diskResources.registered after.world "stack" "net" = {"elsewhere", "outer", "inner"} := by
  have left : ∀ faults result after,
      nestedScript.run namedCases (nestedStart faults) = some (result, after) →
        Left namedCases ["inner"] (nestedStart faults) after := by
    intro faults result after ran
    obtain ⟨returns, raises⟩ := script_leaves namedCases nestedScript _ _ rfl result after ran
    cases result with
    | ok value => exact returns value rfl
    | error error => exact (raises error rfl).2
  constructor
  · obtain ⟨⟨result, after⟩, ran, same⟩ := Option.map_eq_some_iff.mp nestedEnd_faultless
    simp only [Prod.mk.injEq] at same
    exact ⟨after, left [] result after ran, same.2.1, same.2.2.1⟩
  · obtain ⟨⟨result, after⟩, ran, same⟩ := Option.map_eq_some_iff.mp nestedEnd_faulted
    simp only [Prod.mk.injEq] at same
    exact ⟨after, left removalFaults result after ran, same.2.1, same.2.2.1⟩

end Nested

end Tobiko.Common.TestCases
