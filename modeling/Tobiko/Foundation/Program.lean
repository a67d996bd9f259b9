import Mathlib.Logic.Function.Basic
import Mathlib.Logic.Relation

/-!
Contract: programs over a shared store of named cells.

Owns: the tree of atomic actions that a body performs, its one-step meaning
when it runs alone, the policies that bound what it may do (`Obeys`), the
replay of an execution on any store that agrees on the cells it may touch, the
inversion of undisturbed executions, and the rules for their postconditions.

Does not own: the interleaving of several programs, and which process holds
which lock. An acquisition or a release is only recorded as an event here.
-/

namespace Tobiko.Foundation

/-- A cell holds a value or is absent. -/
abbrev Store (Loc Val : Type) := Loc → Option Val

/-- What remains to be executed of a body.

`access` reads a cell and updates it in one atomic action, and continues with
the content it read; the action may instead raise a fault and leave the cell
as it was. `list` reads the names of the present cells that pass `keep`. -/
inductive Prog (Name Loc Val Fault Result : Type) where
  | ret (result : Result)
  | acquire (name : Name) (next : Prog Name Loc Val Fault Result)
  | release (name : Name) (next : Prog Name Loc Val Fault Result)
  | list (keep : Loc → Bool) (next : List Loc → Prog Name Loc Val Fault Result)
  | access (loc : Loc) (update : Option Val → Option Val)
      (next : Option Val → Prog Name Loc Val Fault Result)
      (handler : Fault → Prog Name Loc Val Fault Result)

/-- The visible part of one atomic action. -/
inductive Event (Name Loc Fault : Type) where
  | acquired (name : Name)
  | released (name : Name)
  | listed (locs : List Loc)
  | accessed (loc : Loc)
  | raised (loc : Loc) (fault : Fault)

/-- `locs` names every present cell that passes `keep`, each once, in any order. -/
structure Lists {Loc Val : Type} (keep : Loc → Bool) (store : Store Loc Val)
    (locs : List Loc) : Prop where
  nodup : locs.Nodup
  complete : ∀ loc, loc ∈ locs ↔ keep loc = true ∧ (store loc).isSome = true

/-- The two stores hold the same in every cell of `cells`. -/
def AgreeOn {Loc Val : Type} (cells : Loc → Prop) (left right : Store Loc Val) : Prop :=
  ∀ loc, cells loc → left loc = right loc

namespace Prog

variable {Name Loc Val Fault Result Answer : Type}

/-- Sequential composition: `next` takes over with the result of the first program. -/
def bind : Prog Name Loc Val Fault Answer → (Answer → Prog Name Loc Val Fault Result) →
    Prog Name Loc Val Fault Result
  | ret answer, next => next answer
  | acquire name rest, next => acquire name (rest.bind next)
  | release name rest, next => release name (rest.bind next)
  | list keep rest, next => list keep fun locs => (rest locs).bind next
  | access loc update rest handler, next =>
      access loc update (fun content => (rest content).bind next)
        (fun fault => (handler fault).bind next)

/-- What a program is allowed to do. -/
structure Policy (Loc Val : Type) where
  locks : Prop
  lists : (Loc → Bool) → Prop
  accesses : Loc → (Option Val → Option Val) → Prop

/-- Every action the program may ever perform is allowed. -/
def Obeys (policy : Policy Loc Val) : Prog Name Loc Val Fault Result → Prop
  | ret _ => True
  | acquire _ rest => policy.locks ∧ rest.Obeys policy
  | release _ rest => policy.locks ∧ rest.Obeys policy
  | list keep rest => policy.lists keep ∧
      ∀ locs, (∀ loc ∈ locs, keep loc = true) → (rest locs).Obeys policy
  | access loc update rest handler => policy.accesses loc update ∧
      (∀ content, (rest content).Obeys policy) ∧ ∀ fault, (handler fault).Obeys policy

/-- Every cell the program may read, list or update satisfies `cells`. -/
def within (cells : Loc → Prop) : Policy Loc Val :=
  ⟨True, fun keep => ∀ loc, keep loc = true → cells loc, fun loc _ => cells loc⟩

/-- The program neither acquires nor releases a lock. -/
def lockFree : Policy Loc Val := ⟨False, fun _ => True, fun _ _ => True⟩

/-- Every update the program may make satisfies `allowed`. -/
def updates (allowed : Loc → (Option Val → Option Val) → Prop) : Policy Loc Val :=
  ⟨True, fun _ => True, allowed⟩

theorem Obeys.bind {policy : Policy Loc Val} {program : Prog Name Loc Val Fault Answer}
    {next : Answer → Prog Name Loc Val Fault Result} (first : program.Obeys policy)
    (second : ∀ answer, (next answer).Obeys policy) : (program.bind next).Obeys policy := by
  induction program with
  | ret answer => exact second answer
  | acquire name rest inductionHypothesis => exact ⟨first.1, inductionHypothesis first.2⟩
  | release name rest inductionHypothesis => exact ⟨first.1, inductionHypothesis first.2⟩
  | list keep rest inductionHypothesis =>
      exact ⟨first.1, fun locs kept => inductionHypothesis locs (first.2 locs kept)⟩
  | access loc update rest handler restHypothesis handlerHypothesis =>
      exact ⟨first.1, fun content => restHypothesis content (first.2.1 content),
        fun fault => handlerHypothesis fault (first.2.2 fault)⟩

section Step

variable [DecidableEq Loc]

/-- One atomic action of a program that is not disturbed meanwhile. -/
inductive Step : Prog Name Loc Val Fault Result → Store Loc Val → Event Name Loc Fault →
    Prog Name Loc Val Fault Result → Store Loc Val → Prop
  | acquire (name rest store) : Step (acquire name rest) store (.acquired name) rest store
  | release (name rest store) : Step (release name rest) store (.released name) rest store
  | list (keep rest store locs) (lists : Lists keep store locs) :
      Step (list keep rest) store (.listed locs) (rest locs) store
  | access (loc update rest handler store) :
      Step (access loc update rest handler) store (.accessed loc) (rest (store loc))
        (Function.update store loc (update (store loc)))
  | raise (loc update rest handler store fault) :
      Step (access loc update rest handler) store (.raised loc fault) (handler fault) store

variable {program next : Prog Name Loc Val Fault Result} {store after other : Store Loc Val}
  {event : Event Name Loc Fault} {cells : Loc → Prop}

theorem Step.obeys {policy : Policy Loc Val} (step : Step program store event next after)
    (obeys : program.Obeys policy) : next.Obeys policy := by
  cases step with
  | acquire name rest => exact obeys.2
  | release name rest => exact obeys.2
  | list keep rest store locs lists =>
      exact obeys.2 locs fun loc member => ((lists.complete loc).mp member).1
  | access loc update rest handler => exact obeys.2.1 _
  | raise loc update rest handler store fault => exact obeys.2.2 fault

/-- An action of a program changes only cells the program may touch. -/
theorem Step.frame (step : Step program store event next after)
    (obeys : program.Obeys (within cells))
    {loc : Loc} (outside : ¬ cells loc) : after loc = store loc := by
  cases step with
  | access place update rest handler =>
      have elsewhere : loc ≠ place := by
        rintro rfl
        exact outside obeys.1
      simp [elsewhere]
  | acquire name rest => rfl
  | release name rest => rfl
  | list keep rest store locs lists => rfl
  | raise place update rest handler store fault => rfl

/-- A property of one cell that every allowed update keeps survives each action. -/
theorem Step.keeps (property : Loc → Option Val → Prop)
    {allowed : Loc → (Option Val → Option Val) → Prop} (step : Step program store event next after)
    (obeys : program.Obeys (updates allowed))
    (stable : ∀ loc update content, allowed loc update → property loc content →
      property loc (update content))
    {loc : Loc} (holds : property loc (store loc)) : property loc (after loc) := by
  cases step with
  | access place update rest handler =>
      by_cases same : loc = place
      · subst same
        simpa using stable loc update _ obeys.1 holds
      · simpa [same] using holds
  | acquire name rest => exact holds
  | release name rest => exact holds
  | list keep rest store locs lists => exact holds
  | raise place update rest handler store fault => exact holds

/-- The same action is possible on a store that agrees on the touched cells,
and the agreement lasts. -/
theorem Step.replay (step : Step program store event next after)
    (obeys : program.Obeys (within cells)) (agree : AgreeOn cells store other) :
    ∃ otherAfter, Step program other event next otherAfter ∧ AgreeOn cells after otherAfter := by
  cases step with
  | acquire name rest => exact ⟨other, .acquire .., agree⟩
  | release name rest => exact ⟨other, .release .., agree⟩
  | raise loc update rest handler store fault => exact ⟨other, .raise .., agree⟩
  | list keep rest store locs lists =>
      refine ⟨other, .list _ _ _ _ ⟨lists.nodup, fun loc => ?_⟩, agree⟩
      rw [lists.complete loc]
      by_cases kept : keep loc = true
      · rw [agree loc (obeys.1 loc kept)]
      · simp [kept]
  | access loc update rest handler =>
      have same : store loc = other loc := agree loc obeys.1
      refine ⟨Function.update other loc (update (other loc)), ?_, fun place touched => ?_⟩
      · rw [same]
        exact .access ..
      · by_cases here : place = loc
        · subst here
          simp [same]
        · simpa [here] using agree place touched

/-! ### Executions without interference -/

/-- One action of a program that has the store for itself. -/
def Alone (before after : Prog Name Loc Val Fault Result × Store Loc Val) : Prop :=
  ∃ event, Step before.1 before.2 event after.1 after.2

/-- The program, run alone from `store`, ends with `result` and leaves `after`. -/
def Runs (program : Prog Name Loc Val Fault Result) (store : Store Loc Val) (result : Result)
    (after : Store Loc Val) : Prop :=
  Relation.ReflTransGen Alone (program, store) (ret result, after)

variable {start finish : Prog Name Loc Val Fault Result × Store Loc Val}

theorem alone_obeys {policy : Policy Loc Val} (run : Relation.ReflTransGen Alone start finish)
    (obeys : start.1.Obeys policy) : finish.1.Obeys policy := by
  induction run with
  | refl => exact obeys
  | tail _ last inductionHypothesis =>
      obtain ⟨event, step⟩ := last
      exact step.obeys inductionHypothesis

theorem alone_frame (run : Relation.ReflTransGen Alone start finish)
    (obeys : start.1.Obeys (within cells)) {loc : Loc} (outside : ¬ cells loc) :
    finish.2 loc = start.2 loc := by
  induction run with
  | refl => rfl
  | tail before last inductionHypothesis =>
      obtain ⟨event, step⟩ := last
      rw [step.frame (alone_obeys before obeys) outside, inductionHypothesis]

theorem alone_replay (run : Relation.ReflTransGen Alone start finish)
    (obeys : start.1.Obeys (within cells)) (agree : AgreeOn cells start.2 other) :
    ∃ otherAfter, Relation.ReflTransGen Alone (start.1, other) (finish.1, otherAfter) ∧
      AgreeOn cells finish.2 otherAfter := by
  induction run with
  | refl => exact ⟨other, .refl, agree⟩
  | tail before last inductionHypothesis =>
      obtain ⟨event, step⟩ := last
      obtain ⟨middle, reached, agreeMiddle⟩ := inductionHypothesis
      obtain ⟨otherAfter, replayed, agreeAfter⟩ :=
        step.replay (alone_obeys before obeys) agreeMiddle
      exact ⟨otherAfter, reached.tail ⟨event, replayed⟩, agreeAfter⟩

/-! ### Inversion of undisturbed executions -/

variable {result : Result} {answer : Answer}

@[simp] theorem runs_ret {value : Result} :
    Runs (ret value : Prog Name Loc Val Fault Result) store result after ↔
      value = result ∧ store = after := by
  constructor
  · intro run
    rcases Relation.ReflTransGen.cases_head run with same | ⟨_, ⟨event, step⟩, -⟩
    · simp only [Prod.mk.injEq, ret.injEq] at same
      exact same
    · cases step
  · rintro ⟨rfl, rfl⟩
    exact .refl

@[simp] theorem runs_acquire {name : Name} {rest : Prog Name Loc Val Fault Result} :
    Runs (acquire name rest) store result after ↔ Runs rest store result after := by
  constructor
  · intro run
    rcases Relation.ReflTransGen.cases_head run with same | ⟨_, ⟨event, step⟩, later⟩
    · simp at same
    · cases step
      exact later
  · exact fun run => .head ⟨_, .acquire ..⟩ run

@[simp] theorem runs_release {name : Name} {rest : Prog Name Loc Val Fault Result} :
    Runs (release name rest) store result after ↔ Runs rest store result after := by
  constructor
  · intro run
    rcases Relation.ReflTransGen.cases_head run with same | ⟨_, ⟨event, step⟩, later⟩
    · simp at same
    · cases step
      exact later
  · exact fun run => .head ⟨_, .release ..⟩ run

@[simp] theorem runs_list {keep : Loc → Bool} {rest : List Loc → Prog Name Loc Val Fault Result} :
    Runs (list keep rest) store result after ↔
      ∃ locs, Lists keep store locs ∧ Runs (rest locs) store result after := by
  constructor
  · intro run
    rcases Relation.ReflTransGen.cases_head run with same | ⟨next, ⟨event, step⟩, later⟩
    · simp at same
    · obtain ⟨program, reached⟩ := next
      cases step with
      | list _ _ _ locs lists => exact ⟨locs, lists, later⟩
  · rintro ⟨locs, lists, run⟩
    exact .head ⟨_, .list _ _ _ locs lists⟩ run

@[simp] theorem runs_access {loc : Loc} {update : Option Val → Option Val}
    {rest : Option Val → Prog Name Loc Val Fault Result}
    {handler : Fault → Prog Name Loc Val Fault Result} :
    Runs (access loc update rest handler) store result after ↔
      Runs (rest (store loc)) (Function.update store loc (update (store loc))) result after ∨
        ∃ fault, Runs (handler fault) store result after := by
  constructor
  · intro run
    rcases Relation.ReflTransGen.cases_head run with same | ⟨next, ⟨event, step⟩, later⟩
    · simp at same
    · obtain ⟨program, reached⟩ := next
      cases step with
      | access => exact .inl later
      | raise _ _ _ _ _ fault => exact .inr ⟨fault, later⟩
  · rintro (run | ⟨fault, run⟩)
    · exact .head ⟨_, .access ..⟩ run
    · exact .head ⟨_, .raise ..⟩ run

theorem runs_bind {program : Prog Name Loc Val Fault Answer}
    {continuation : Answer → Prog Name Loc Val Fault Result} :
    Runs (program.bind continuation) store result after ↔
      ∃ answer middle, Runs program store answer middle ∧
        Runs (continuation answer) middle result after := by
  induction program generalizing store with
  | ret answer =>
      simp only [bind, runs_ret]
      constructor
      · exact fun run => ⟨answer, store, ⟨rfl, rfl⟩, run⟩
      · rintro ⟨_, _, ⟨rfl, rfl⟩, run⟩
        exact run
  | acquire name rest inductionHypothesis => simp [bind, inductionHypothesis]
  | release name rest inductionHypothesis => simp [bind, inductionHypothesis]
  | list keep rest inductionHypothesis =>
      simp only [bind, runs_list, inductionHypothesis]
      constructor
      · rintro ⟨locs, lists, answer, middle, first, second⟩
        exact ⟨answer, middle, ⟨locs, lists, first⟩, second⟩
      · rintro ⟨answer, middle, ⟨locs, lists, first⟩, second⟩
        exact ⟨locs, lists, answer, middle, first, second⟩
  | access loc update rest handler restHypothesis handlerHypothesis =>
      simp only [bind, runs_access, restHypothesis, handlerHypothesis]
      constructor
      · rintro (⟨answer, middle, first, second⟩ | ⟨fault, answer, middle, first, second⟩)
        · exact ⟨answer, middle, .inl first, second⟩
        · exact ⟨answer, middle, .inr ⟨fault, first⟩, second⟩
      · rintro ⟨answer, middle, first | ⟨fault, first⟩, second⟩
        · exact .inl ⟨answer, middle, first, second⟩
        · exact .inr ⟨fault, answer, middle, first, second⟩

/-! ### Postconditions of undisturbed executions -/

/-- Every undisturbed execution from `store` that ends does so with `post`. -/
def Ensures (program : Prog Name Loc Val Fault Result) (store : Store Loc Val)
    (post : Result → Store Loc Val → Prop) : Prop :=
  ∀ result after, Runs program store result after → post result after

variable {post weaker : Result → Store Loc Val → Prop}

theorem Ensures.mono (ensures : program.Ensures store post)
    (weaken : ∀ result after, post result after → weaker result after) :
    program.Ensures store weaker :=
  fun result after run => weaken result after (ensures result after run)

@[simp] theorem ensures_ret {value : Result} :
    (ret value : Prog Name Loc Val Fault Result).Ensures store post ↔ post value store := by
  constructor
  · exact fun ensures => ensures value store (runs_ret.mpr ⟨rfl, rfl⟩)
  · intro holds result after run
    obtain ⟨rfl, rfl⟩ := runs_ret.mp run
    exact holds

@[simp] theorem ensures_acquire {name : Name} {rest : Prog Name Loc Val Fault Result} :
    (acquire name rest).Ensures store post ↔ rest.Ensures store post := by
  simp [Ensures]

@[simp] theorem ensures_release {name : Name} {rest : Prog Name Loc Val Fault Result} :
    (release name rest).Ensures store post ↔ rest.Ensures store post := by
  simp [Ensures]

@[simp] theorem ensures_list {keep : Loc → Bool}
    {rest : List Loc → Prog Name Loc Val Fault Result} :
    (list keep rest).Ensures store post ↔
      ∀ locs, Lists keep store locs → (rest locs).Ensures store post := by
  simp only [Ensures, runs_list]
  constructor
  · exact fun ensures locs lists result after run => ensures result after ⟨locs, lists, run⟩
  · rintro ensures result after ⟨locs, lists, run⟩
    exact ensures locs lists result after run

@[simp] theorem ensures_access {loc : Loc} {update : Option Val → Option Val}
    {rest : Option Val → Prog Name Loc Val Fault Result}
    {handler : Fault → Prog Name Loc Val Fault Result} :
    (access loc update rest handler).Ensures store post ↔
      (rest (store loc)).Ensures (Function.update store loc (update (store loc))) post ∧
        ∀ fault, (handler fault).Ensures store post := by
  simp only [Ensures, runs_access]
  constructor
  · intro ensures
    exact ⟨fun result after run => ensures result after (.inl run),
      fun fault result after run => ensures result after (.inr ⟨fault, run⟩)⟩
  · rintro ⟨continues, handles⟩ result after (run | ⟨fault, run⟩)
    · exact continues result after run
    · exact handles fault result after run

theorem ensures_bind {program : Prog Name Loc Val Fault Answer}
    {continuation : Answer → Prog Name Loc Val Fault Result} :
    (program.bind continuation).Ensures store post ↔
      program.Ensures store fun answer middle => (continuation answer).Ensures middle post := by
  simp only [Ensures, runs_bind]
  constructor
  · exact fun ensures answer middle first result after second =>
      ensures result after ⟨answer, middle, first, second⟩
  · rintro ensures result after ⟨answer, middle, first, second⟩
    exact ensures answer middle first result after second

end Step

end Prog

end Tobiko.Foundation
