import Tobiko.Common.Fixture.RequiredFixtures

/-!
Contract: the closure that `list_required_fixtures` computes.

Owns: finite sets of test methods, classes and fixtures with distinct loadable names that
the requirements do not leave; what leads to what in them; and that `list_required_fixtures`
ends with the sorted names of the fixtures that the given objects lead to.

Does not own: whether the answers of `get_required_fixtures` depend on earlier queries.
-/

namespace Tobiko.Common.RequiredFixtures

open Tobiko.Foundation

section Closure

variable {Cls Fixture Method : Type} [DecidableEq Cls] [DecidableEq Fixture]
  [DecidableEq Method]

/-- Whose attributes are read: those of the function for a bound method. -/
def Code.source (code : Code Cls Fixture Method) : Subject Cls Method → Subject Cls Method
  | .cls cls => .cls cls
  | .method method => .method (code.function method)

/-- An object that has the name and the requirements of `node`: the node itself, an instance
of its class or a bound method of its function. -/
structure Code.StandsFor (code : Code Cls Fixture Method)
    (object node : Node Cls Fixture Method) : Prop where
  name : code.nodeName object = code.nodeName node
  source : code.source (code.subject object) = code.source (code.subject node)
  isFixture : code.isFixture object = code.isFixture node

/-- What an element of `objects` stands for. -/
def Code.Means (code : Code Cls Fixture Method) (item : WorkItem Cls Fixture Method)
    (node : Node Cls Fixture Method) : Prop :=
  ∃ name object, code.getNameAndObject item = some (name, object) ∧
    name = code.nodeName node ∧ code.StandsFor object node

/-- The attributes change as they do when `get_required_fixtures` is called. -/
def Code.Asks (code : Code Cls Fixture Method) :
    Attributes Cls Method → Attributes Cls Method → Prop :=
  Relation.ReflTransGen fun before after =>
    ∃ subject, after = (code.getRequiredFixtures before subject).2

theorem Code.Asks.faithful {code : Code Cls Fixture Method}
    {attributes before : Attributes Cls Method} (asks : code.Asks attributes before)
    (faithful : Faithful code attributes) : Faithful code before := by
  induction asks with
  | refl => exact faithful
  | tail _ step inductionHypothesis =>
      obtain ⟨subject, rfl⟩ := step
      exact inductionHypothesis.ask subject

/-- The answers that `get_required_fixtures` can give for a node from `attributes` on. -/
def Code.Answers (code : Code Cls Fixture Method) (attributes : Attributes Cls Method)
    (node : Node Cls Fixture Method) (names : List String) : Prop :=
  ∃ before, code.Asks attributes before ∧
    names = (code.getRequiredFixtures before (code.subject node)).1

/-- What a node requires: a class and a fixture the names in the answer for the class, a test
method its default arguments that are fixtures and the prefix of its own name. -/
def Code.Requires (code : Code Cls Fixture Method) (answer : List String) (name : String) :
    Node Cls Fixture Method → Prop
  | .method method => parentName (code.methodName method) = some name ∨
      ∃ fixture, code.TakesDefault method fixture ∧ code.nodeName fixture = name
  | .cls _ | .fixture _ => name ∈ answer

/-- Each node has exactly one loadable name, and what the nodes require is among them. -/
structure Code.Closed (code : Code Cls Fixture Method) (attributes : Attributes Cls Method)
    (nodes : Finset (Node Cls Fixture Method)) : Prop where
  named : ∀ node ∈ nodes, ∀ name, code.loadObject name = some node ↔ name = code.nodeName node
  required : ∀ node ∈ nodes, ∀ answer, code.Answers attributes node answer →
    ∀ name, code.Requires answer name node → ∀ target, code.loadObject name = some target →
      target ∈ nodes

/-- A node leads to what it requires by its answer. -/
def Code.LeadsTo (code : Code Cls Fixture Method)
    (answers : Node Cls Fixture Method → List String)
    (node target : Node Cls Fixture Method) : Prop :=
  ∃ name, code.Requires (answers node) name node ∧ code.loadObject name = some target

/-- What the given objects lead to. -/
def Code.Reached (code : Code Cls Fixture Method) (nodes : Finset (Node Cls Fixture Method))
    (answers : Node Cls Fixture Method → List String)
    (objects : List (WorkItem Cls Fixture Method)) (node : Node Cls Fixture Method) : Prop :=
  ∃ start ∈ nodes, (∃ item ∈ objects, code.Means item start) ∧
    Relation.ReflTransGen (code.LeadsTo answers) start node

variable {code : Code Cls Fixture Method} {nodes : Finset (Node Cls Fixture Method)}
  {attributes : Attributes Cls Method}

theorem Code.Asks.ask {before : Attributes Cls Method} (asks : code.Asks attributes before)
    (subject : Subject Cls Method) :
    code.Asks attributes (code.getRequiredFixtures before subject).2 :=
  asks.tail ⟨subject, rfl⟩

omit [DecidableEq Cls] [DecidableEq Fixture] [DecidableEq Method] in
/-- Answers that agree on what is reached with the one reach the same with the other. -/
theorem reached_congr {first second : Node Cls Fixture Method → List String}
    {objects : List (WorkItem Cls Fixture Method)}
    (agree : ∀ node, code.Reached nodes first objects node → first node = second node)
    {node : Node Cls Fixture Method} :
    code.Reached nodes first objects node ↔ code.Reached nodes second objects node := by
  constructor
  · rintro ⟨start, inNodes, given, path⟩
    refine ⟨start, inNodes, given, ?_⟩
    induction path with
    | refl => exact .refl
    | tail before step inductionHypothesis =>
        obtain ⟨name, requires, loads⟩ := step
        rw [agree _ ⟨start, inNodes, given, before⟩] at requires
        exact inductionHypothesis.tail ⟨name, requires, loads⟩
  · rintro ⟨start, inNodes, given, path⟩
    refine ⟨start, inNodes, given, ?_⟩
    induction path with
    | refl => exact .refl
    | tail _ step inductionHypothesis =>
        obtain ⟨name, requires, loads⟩ := step
        rw [← agree _ ⟨start, inNodes, given, inductionHypothesis⟩] at requires
        exact inductionHypothesis.tail ⟨name, requires, loads⟩

/-! ### One visit -/

theorem getRequiredFixtures_source {first second : Subject Cls Method}
    (same : code.source first = code.source second) :
    (code.getRequiredFixtures attributes first).1 =
      (code.getRequiredFixtures attributes second).1 := by
  rw [getRequiredFixtures_fst, getRequiredFixtures_fst]
  cases first with
  | cls cls =>
      cases second with
      | cls other =>
          cases same
          rfl
      | method => cases same
  | method method =>
      cases second with
      | cls => cases same
      | method other =>
          have function : code.function method = code.function other := by
            injection same
          simp only [Code.getattr, Code.requiredNames, function]

omit [DecidableEq Cls] [DecidableEq Fixture] [DecidableEq Method] in
theorem parent_source {object node : Node Cls Fixture Method} {name : String}
    (same : code.source (code.subject object) = code.source (code.subject node)) :
    parent name object = parent name node := by
  cases object <;> cases node <;> first | rfl | cases same

/-- The names that a visit of a node appends are those that it requires. -/
theorem requires_iff (faithful : Faithful code attributes) {node : Node Cls Fixture Method}
    {name : String} :
    parent (code.nodeName node) node = some name ∨
        name ∈ (code.getRequiredFixtures attributes (code.subject node)).1 ↔
      code.Requires (code.getRequiredFixtures attributes (code.subject node)).1 name node := by
  cases node with
  | cls cls => simp [parent, Code.Requires]
  | fixture fixture => simp [parent, Code.Requires]
  | method method =>
      show parentName (code.methodName method) = some name ∨
        name ∈ (code.getRequiredFixtures attributes (.method method)).1 ↔ _
      rw [getRequiredFixtures_method faithful, mem_requiredNames_method]
      rfl

theorem Code.Closed.eq_of_name (closed : code.Closed attributes nodes)
    {first second : Node Cls Fixture Method} (inNodes : first ∈ nodes) (other : second ∈ nodes)
    (same : code.nodeName first = code.nodeName second) : first = second := by
  have loaded := (closed.named first inNodes _).mpr rfl
  rw [same, (closed.named second other _).mpr rfl] at loaded
  exact (Option.some.inj loaded).symm

/-- An item that stands for one of the nodes, if it stands for anything. -/
def Code.Allowed (code : Code Cls Fixture Method) (nodes : Finset (Node Cls Fixture Method))
    (item : WorkItem Cls Fixture Method) : Prop :=
  ∀ name object, code.getNameAndObject item = some (name, object) →
    ∃ node ∈ nodes, code.Means item node

/-- The names that a visit of `object` appends. -/
theorem mem_listBody {state : List String × Attributes Cls Method} {name : String}
    {object : Node Cls Fixture Method} {more : WorkItem Cls Fixture Method} :
    more ∈ (code.listBody state name object).1 ↔ ∃ required, more = .name required ∧
      (parent name object = some required ∨
        required ∈ (code.getRequiredFixtures state.2 (code.subject object)).1) := by
  simp only [Code.listBody, List.mem_map, List.mem_append, Option.mem_toList]
  constructor
  · rintro ⟨required, found, rfl⟩
    exact ⟨required, rfl, found⟩
  · rintro ⟨required, rfl, found⟩
    exact ⟨required, found, rfl⟩

theorem means_name {name : String} {target : Node Cls Fixture Method}
    (closed : code.Closed attributes nodes) (inNodes : target ∈ nodes)
    (loaded : code.loadObject name = some target) : code.Means (.name name) target :=
  ⟨name, target, by rw [Code.getNameAndObject, loaded]; rfl,
    (closed.named target inNodes name).mp loaded, ⟨rfl, rfl, rfl⟩⟩

/-- What a visit appends stands for nodes, too. -/
theorem Code.Closed.pushes (closed : code.Closed attributes nodes)
    (faithful : Faithful code attributes)
    {state : List String × Attributes Cls Method} (asks : code.Asks attributes state.2)
    {item : WorkItem Cls Fixture Method} {name : String} {object : Node Cls Fixture Method}
    (itemAllowed : code.Allowed nodes item)
    (resolved : code.getNameAndObject item = some (name, object)) :
    ∀ more ∈ (code.listBody state name object).1, code.Allowed nodes more := by
  intro more member other target loaded
  obtain ⟨node, inNodes, found, same, resolvedTo, named, stands⟩ := itemAllowed name object resolved
  rw [resolved] at resolvedTo
  obtain ⟨rfl, rfl⟩ := Prod.mk.inj (Option.some.inj resolvedTo)
  obtain ⟨required, rfl, requires⟩ := mem_listBody.mp member
  obtain ⟨loadedTo, loads, pair⟩ := Option.map_eq_some_iff.mp loaded
  cases pair
  rw [parent_source stands.source, named, getRequiredFixtures_source stands.source] at requires
  have targetInNodes : target ∈ nodes :=
    closed.required node inNodes _ ⟨state.2, asks, rfl⟩ _
      ((requires_iff (asks.faithful faithful)).mp requires) target loads
  exact ⟨target, targetInNodes, means_name closed targetInNodes loads⟩

/-! ### A course of the loop -/

/-- What `get_required_fixtures` returned at a visit. -/
def Code.answerAt (code : Code Cls Fixture Method)
    (visit : Visit String (Node Cls Fixture Method) (List String × Attributes Cls Method)) :
    List String :=
  (code.getRequiredFixtures visit.before.2 (code.subject visit.node)).1

/-- What was returned at the visit of a node. -/
def Code.answersIn (code : Code Cls Fixture Method)
    (visits : List (Visit String (Node Cls Fixture Method)
      (List String × Attributes Cls Method)))
    (node : Node Cls Fixture Method) : List String :=
  ((visits.find? fun visit => visit.key = code.nodeName node).map code.answerAt).getD []

variable {objects : List (WorkItem Cls Fixture Method)} {last : List String × Attributes Cls Method}
  {visits : List (Visit String (Node Cls Fixture Method) (List String × Attributes Cls Method))}

/-- The names that are listed are those of the visited fixtures. -/
theorem listed_eq {items : List (WorkItem Cls Fixture Method)} {visited : List String}
    {state : List String × Attributes Cls Method}
    (works : WorksThrough code.getNameAndObject code.listBody items visited state visits last) :
    last.1 = state.1 ++ (visits.filter fun visit => code.isFixture visit.node).map Visit.key := by
  induction works with
  | done => simp
  | unresolved | again => assumption
  | visit item items visited state visits last key node resolved fresh rest
      inductionHypothesis =>
      rw [inductionHypothesis]
      cases fixture : code.isFixture node with
      | false => simp [Code.listBody, fixture]
      | true => simp [Code.listBody, fixture]

theorem answersIn_eq
    (works : WorksThrough code.getNameAndObject code.listBody objects.reverse []
      ([], attributes) visits last)
    {visit : Visit String (Node Cls Fixture Method) (List String × Attributes Cls Method)}
    (member : visit ∈ visits) {node : Node Cls Fixture Method}
    (named : visit.key = code.nodeName node) :
    code.answersIn visits node = code.answerAt visit := by
  have found : visits.find? (fun other => other.key = code.nodeName node) = some visit := by
    have distinct := works.nodup.1
    clear works
    induction visits with
    | nil => cases member
    | cons head tail inductionHypothesis =>
        obtain ⟨fresh, rest⟩ := List.nodup_cons.mp distinct
        rcases List.mem_cons.mp member with rfl | inTail
        · exact List.find?_cons_of_pos (by simpa using named)
        · rw [List.find?_cons_of_neg, inductionHypothesis inTail rest]
          intro same
          apply fresh
          rw [of_decide_eq_true same, ← named]
          exact List.mem_map.mpr ⟨visit, inTail, rfl⟩
  simp [Code.answersIn, found]

section Course

variable (faithful : Faithful code attributes) (closed : code.Closed attributes nodes)
  (objectsAllowed : ∀ item ∈ objects, code.Allowed nodes item)
  (works : WorksThrough code.getNameAndObject code.listBody objects.reverse []
    ([], attributes) visits last)

include faithful closed objectsAllowed in
theorem exists_course : ∃ visits last, WorksThrough code.getNameAndObject code.listBody
    objects.reverse [] ([], attributes) visits last := by
  apply exists_worksThrough (code.Allowed nodes) (fun state => code.Asks attributes state.2)
    (nodes.image code.nodeName)
  · intro item name object itemAllowed resolved
    obtain ⟨node, inNodes, other, same, resolvedTo, named, stands⟩ := itemAllowed _ _ resolved
    rw [resolved] at resolvedTo
    obtain ⟨rfl, rfl⟩ := Prod.mk.inj (Option.some.inj resolvedTo)
    exact Finset.mem_image.mpr ⟨node, inNodes, named.symm⟩
  · intro state item name object asks itemAllowed resolved
    exact ⟨asks.ask (code.subject object),
      closed.pushes faithful asks itemAllowed resolved⟩
  · exact fun item member => objectsAllowed item (List.mem_reverse.mp member)
  · exact .refl

include faithful closed objectsAllowed works in
/-- At each visit the attributes are those after some queries, and one of the nodes is
visited. -/
theorem visit_stands :
    ∀ visit ∈ visits, code.Asks attributes visit.before.2 ∧ ∃ node ∈ nodes,
      visit.key = code.nodeName node ∧ code.StandsFor visit.node node := by
  intro visit member
  have sound := works.sound (fun state => code.Asks attributes state.2) (code.Allowed nodes)
    (fun state item name object asks itemAllowed resolved =>
      ⟨asks.ask (code.subject object),
        closed.pushes faithful asks itemAllowed resolved⟩)
    (fun item inItems => objectsAllowed item (List.mem_reverse.mp inItems)) .refl
  obtain ⟨before, item, itemAllowed, resolved⟩ := sound.2 visit member
  obtain ⟨node, inNodes, name, object, resolvedTo, named, stands⟩ := itemAllowed _ _ resolved
  rw [resolved] at resolvedTo
  obtain ⟨rfl, rfl⟩ := Prod.mk.inj (Option.some.inj resolvedTo)
  exact ⟨before, node, inNodes, named, stands⟩

include faithful closed objectsAllowed works in
/-- The visit of one of the nodes, with what it appends. -/
theorem visit_of_name {node : Node Cls Fixture Method} (inNodes : node ∈ nodes)
    (visited : code.nodeName node ∈ visits.map Visit.key) :
    ∃ visit ∈ visits, visit.key = code.nodeName node ∧ code.StandsFor visit.node node ∧
      code.Asks attributes visit.before.2 ∧
      code.answersIn visits node =
        (code.getRequiredFixtures visit.before.2 (code.subject node)).1 := by
  obtain ⟨visit, member, named⟩ := List.mem_map.mp visited
  obtain ⟨before, other, otherInNodes, same, stands⟩ :=
    visit_stands faithful closed objectsAllowed works visit member
  have identical := closed.eq_of_name otherInNodes inNodes (same.symm.trans named)
  subst identical
  refine ⟨visit, member, named, stands, before, ?_⟩
  rw [answersIn_eq works member named, Code.answerAt, getRequiredFixtures_source stands.source]

include faithful closed objectsAllowed works in
/-- What the objects lead to is visited. -/
theorem visited_of_reached {node : Node Cls Fixture Method}
    (reached : code.Reached nodes (code.answersIn visits) objects node) :
    node ∈ nodes ∧ code.nodeName node ∈ visits.map Visit.key := by
  obtain ⟨start, startInNodes, ⟨item, inObjects, name, object, resolved, named, _⟩, path⟩ :=
    reached
  induction path with
  | refl =>
      have visited := works.visits_items (List.mem_reverse.mpr inObjects) resolved
      rw [named] at visited
      exact ⟨startInNodes, visited.resolve_left List.not_mem_nil⟩
  | tail _ step inductionHypothesis =>
      obtain ⟨inNodes, visited⟩ := inductionHypothesis
      obtain ⟨required, requires, loads⟩ := step
      obtain ⟨visit, member, key, stands, before, answered⟩ :=
        visit_of_name faithful closed objectsAllowed works inNodes visited
      rw [answered] at requires
      have targetInNodes :=
        closed.required _ inNodes _ ⟨_, before, rfl⟩ _ requires _ loads
      have pushed : .name required ∈ (code.listBody visit.before visit.key visit.node).1 := by
        apply mem_listBody.mpr
        refine ⟨required, rfl, ?_⟩
        rw [key, parent_source stands.source, getRequiredFixtures_source stands.source]
        exact (requires_iff (before.faithful faithful)).mpr requires
      have resolvedTarget : code.getNameAndObject (.name required) = some (required, _) :=
        Option.map_eq_some_iff.mpr ⟨_, loads, rfl⟩
      have visitedTarget := works.visits_pushed member pushed resolvedTarget
      rw [(closed.named _ targetInNodes _).mp loads] at visitedTarget
      exact ⟨targetInNodes, visitedTarget.resolve_left List.not_mem_nil⟩

include objectsAllowed in
omit [DecidableEq Cls] [DecidableEq Fixture] [DecidableEq Method] in
theorem reached_of_given {answers : Node Cls Fixture Method → List String}
    {item : WorkItem Cls Fixture Method} (inObjects : item ∈ objects) :
    ∀ name object, code.getNameAndObject item = some (name, object) →
      ∃ node, code.Reached nodes answers objects node ∧
        name = code.nodeName node ∧ code.StandsFor object node := by
  intro name object resolved
  obtain ⟨node, inNodes, means⟩ := objectsAllowed item inObjects name object resolved
  obtain ⟨otherName, otherObject, resolvedTo, named, stands⟩ := id means
  rw [resolved] at resolvedTo
  obtain ⟨rfl, rfl⟩ := Prod.mk.inj (Option.some.inj resolvedTo)
  exact ⟨node, ⟨node, inNodes, ⟨item, inObjects, means⟩, .refl⟩, named, stands⟩

include faithful closed objectsAllowed works in
theorem reached_of_pushed
    {visit : Visit String (Node Cls Fixture Method) (List String × Attributes Cls Method)}
    (member : visit ∈ visits)
    (reached : ∃ node, code.Reached nodes (code.answersIn visits) objects node ∧
      visit.key = code.nodeName node ∧ code.StandsFor visit.node node) :
    ∀ more ∈ (code.listBody visit.before visit.key visit.node).1,
      ∀ name object, code.getNameAndObject more = some (name, object) →
      ∃ node, code.Reached nodes (code.answersIn visits) objects node ∧
        name = code.nodeName node ∧ code.StandsFor object node := by
  intro more pushed name target loaded
  obtain ⟨node, reachedNode, key, stands⟩ := reached
  obtain ⟨required, rfl, requires⟩ := mem_listBody.mp pushed
  obtain ⟨loadedTo, loads, pair⟩ := Option.map_eq_some_iff.mp loaded
  cases pair
  have leads : code.LeadsTo (code.answersIn visits) node target := by
    have before := (visit_stands faithful closed objectsAllowed works visit member).1
    rw [key, parent_source stands.source, getRequiredFixtures_source stands.source] at requires
    refine ⟨name, ?_, loads⟩
    rw [answersIn_eq works member key, Code.answerAt, getRequiredFixtures_source stands.source]
    exact (requires_iff (before.faithful faithful)).mp requires
  obtain ⟨start, startInNodes, given, path⟩ := reachedNode
  have reachedTarget : code.Reached nodes (code.answersIn visits) objects target :=
    ⟨start, startInNodes, given, path.tail leads⟩
  have targetInNodes :=
    (visited_of_reached faithful closed objectsAllowed works reachedTarget).1
  exact ⟨target, reachedTarget, (closed.named _ targetInNodes _).mp loads, rfl, rfl, rfl⟩

include faithful closed objectsAllowed works in
/-- What is visited stands for what the objects lead to. -/
theorem reached_of_visited :
    ∀ visit ∈ visits, ∃ node, code.Reached nodes (code.answersIn visits) objects node ∧
      visit.key = code.nodeName node ∧ code.StandsFor visit.node node := by
  intro visit member
  obtain ⟨item, reached, resolved⟩ := works.visits_reached
    (fun item => ∀ name object, code.getNameAndObject item = some (name, object) →
      ∃ node, code.Reached nodes (code.answersIn visits) objects node ∧
        name = code.nodeName node ∧ code.StandsFor object node)
    (fun item inItems => reached_of_given objectsAllowed (List.mem_reverse.mp inItems))
    (fun visit member item reached resolved => reached_of_pushed faithful closed objectsAllowed
      works member (reached _ _ resolved)) visit member
  exact reached _ _ resolved

include faithful closed objectsAllowed works in
/-- The listed names are those of the fixtures that the objects lead to. -/
theorem mem_listed {name : String} :
    name ∈ sortNames last.1 ↔ ∃ node, code.Reached nodes (code.answersIn visits) objects node ∧
      code.isFixture node = true ∧ code.nodeName node = name := by
  rw [mem_sortNames, listed_eq works, List.nil_append, List.mem_map]
  constructor
  · rintro ⟨visit, visited, rfl⟩
    obtain ⟨member, fixture⟩ := List.mem_filter.mp visited
    obtain ⟨node, reached, named, stands⟩ :=
      reached_of_visited faithful closed objectsAllowed works visit member
    exact ⟨node, reached, stands.isFixture ▸ fixture, named.symm⟩
  · rintro ⟨node, reached, fixture, rfl⟩
    obtain ⟨inNodes, visited⟩ :=
      visited_of_reached faithful closed objectsAllowed works reached
    obtain ⟨visit, member, named, stands, _⟩ :=
      visit_of_name faithful closed objectsAllowed works inNodes visited
    exact ⟨visit, List.mem_filter.mpr ⟨member, stands.isFixture ▸ fixture⟩, named⟩

include works in
theorem nodup_listed : (sortNames last.1).Nodup := by
  apply (List.perm_insertionSort (· ≤ ·) last.1).nodup_iff.mpr
  rw [listed_eq works, List.nil_append]
  exact works.nodup.1.sublist (List.filter_sublist.map _)

end Course

end Closure

/-- A test class, and two fixture classes that require each other. -/
inductive CycleClass where
  | test
  | first
  | second
  | testCase
  | sharedFixture
deriving DecidableEq, Repr

def CycleClass.name : CycleClass → String
  | .test => "module.Test"
  | .first => "module.First"
  | .second => "module.Second"
  | .testCase => "testtools.TestCase"
  | .sharedFixture => "tobiko.SharedFixture"

def cycle : Code CycleClass CycleClass Unit where
  mro
    | .test => [.test, .testCase]
    | .first => [.first, .sharedFixture]
    | .second => [.second, .sharedFixture]
    | cls => [cls]
  dict
    | .test => .ofPairs [("first", .requiredFixture .first)]
    | .first => .ofPairs [("second", .requiredFixture .second)]
    | .second => .ofPairs [("first", .requiredFixture .first)]
    | _ => .empty
  testCase := .testCase
  sharedFixture := .sharedFixture
  isFixtureClass cls := cls ∈ [CycleClass.first, .second, .sharedFixture]
  classOf := id
  className := CycleClass.name
  fixtureName := CycleClass.name
  methodName _ := "module.Test.test_first"
  function := id
  defaults _ := [none, some (.cls .second)]
  loadObject name :=
    if name = "module.Test" then some (.cls .test)
    else if name = "module.First" then some (.cls .first)
    else if name = "module.Second" then some (.cls .second)
    else if name = "module.Test.test_first" then some (.method ())
    else none

def cycleNodes : Finset (Node CycleClass CycleClass Unit) :=
  {.cls .test, .cls .first, .cls .second, .method ()}

theorem cycle_loads {name : String} {target : Node CycleClass CycleClass Unit}
    (loads : cycle.loadObject name = some target) :
    target ∈ cycleNodes ∧ name = cycle.nodeName target := by
  simp only [cycle] at loads
  split_ifs at loads with isTest isFirst isSecond isMethod
  · cases loads
    exact ⟨by decide, isTest⟩
  · cases loads
    exact ⟨by decide, isFirst⟩
  · cases loads
    exact ⟨by decide, isSecond⟩
  · cases loads
    exact ⟨by decide, isMethod⟩

theorem cycle_closed : cycle.Closed .init cycleNodes where
  named node inNodes name := by
    constructor
    · exact fun loads => (cycle_loads loads).2
    · rintro rfl
      revert node
      decide
  required _ _ _ _ _ _ _ loads := (cycle_loads loads).1

example : (cycle.listRequiredFixtures 9 [.name "module.Test.test_first"] .init).map Prod.fst =
    some ["module.First", "module.Second"] := by decide +kernel

end Tobiko.Common.RequiredFixtures
