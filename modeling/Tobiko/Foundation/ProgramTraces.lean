import Mathlib.Data.List.AList
import Tobiko.Foundation.Program

/-!
Contract: the executions of a program with their events.

Owns: the events of an undisturbed execution, the rules for what an execution
ensures that meets no fault, and the interpreter of programs over a listed
store, which meets the faults that it is given.

The interpreter is sound: each of its results is an execution with the events
that it tells of.
-/

namespace Tobiko.Foundation

/-- Whether the action has raised. -/
def Event.isFault {Name Loc Fault : Type} : Event Name Loc Fault → Bool
  | .raised _ _ => true
  | _ => false

namespace Prog

variable {Name Loc Val Fault Result Answer : Type} [DecidableEq Loc]

/-- The program, run alone from `store`, does this with these events. -/
inductive Traces : Prog Name Loc Val Fault Result → Store Loc Val → List (Event Name Loc Fault) →
    Result → Store Loc Val → Prop
  | ret (result store) : Traces (ret result) store [] result store
  | step (program store event next middle events result after)
      (first : Step program store event next middle)
      (rest : Traces next middle events result after) :
      Traces program store (event :: events) result after

variable {program : Prog Name Loc Val Fault Result} {store after : Store Loc Val}
  {events : List (Event Name Loc Fault)} {result : Result}

theorem Traces.runs (traces : Traces program store events result after) :
    program.Runs store result after := by
  induction traces with
  | ret result store => exact .refl
  | step program store event next middle events result after first rest inductionHypothesis =>
      exact .head ⟨event, first⟩ inductionHypothesis

/-- Every undisturbed execution from `store` that ends and meets no fault does so with `post`. -/
def Delivers (program : Prog Name Loc Val Fault Result) (store : Store Loc Val)
    (post : Result → Store Loc Val → Prop) : Prop :=
  ∀ events result after, Traces program store events result after →
    events.any Event.isFault = false → post result after

variable {post weaker : Result → Store Loc Val → Prop}

theorem Delivers.mono (delivers : program.Delivers store post)
    (weaken : ∀ result after, post result after → weaker result after) :
    program.Delivers store weaker :=
  fun events result after traces faultless =>
    weaken result after (delivers events result after traces faultless)

/-- What every execution ensures is ensured by those without a fault, too. -/
theorem Delivers.and {also : Result → Store Loc Val → Prop} (delivers : program.Delivers store post)
    (ensures : program.Ensures store also) :
    program.Delivers store fun result after => post result after ∧ also result after :=
  fun events result after traces faultless =>
    ⟨delivers events result after traces faultless, ensures result after traces.runs⟩

theorem delivers_ret {value : Result} (holds : post value store) :
    (ret value : Prog Name Loc Val Fault Result).Delivers store post := by
  intro events result after traces faultless
  cases traces with
  | ret => exact holds
  | step _ _ event next middle events result after first rest => cases first

theorem delivers_acquire {name : Name} {rest : Prog Name Loc Val Fault Result}
    (continues : rest.Delivers store post) : (acquire name rest).Delivers store post := by
  intro events result after traces faultless
  cases traces with
  | step _ _ event next middle events result after first others =>
      cases first with
      | acquire => exact continues events result after others faultless

theorem delivers_release {name : Name} {rest : Prog Name Loc Val Fault Result}
    (continues : rest.Delivers store post) : (release name rest).Delivers store post := by
  intro events result after traces faultless
  cases traces with
  | step _ _ event next middle events result after first others =>
      cases first with
      | release => exact continues events result after others faultless

theorem delivers_list {keep : Loc → Bool} {rest : List Loc → Prog Name Loc Val Fault Result}
    (continues : ∀ locs, Lists keep store locs → (rest locs).Delivers store post) :
    (list keep rest).Delivers store post := by
  intro events result after traces faultless
  cases traces with
  | step _ _ event next middle events result after first others =>
      cases first with
      | list _ _ _ locs lists => exact continues locs lists events result after others faultless

/-- The handler of a fault does not matter. -/
theorem delivers_access {loc : Loc} {update : Option Val → Option Val}
    {rest : Option Val → Prog Name Loc Val Fault Result}
    {handler : Fault → Prog Name Loc Val Fault Result}
    (continues : (rest (store loc)).Delivers (Function.update store loc (update (store loc))) post) :
    (access loc update rest handler).Delivers store post := by
  intro events result after traces faultless
  cases traces with
  | step _ _ event next middle events result after first others =>
      cases first with
      | access => exact continues events result after others faultless
      | raise => cases faultless

theorem delivers_bind {program : Prog Name Loc Val Fault Answer}
    {continuation : Answer → Prog Name Loc Val Fault Result}
    (delivers : program.Delivers store fun answer middle =>
      (continuation answer).Delivers middle post) :
    (program.bind continuation).Delivers store post := by
  induction program generalizing store with
  | ret answer => exact delivers [] answer store (.ret answer store) rfl
  | acquire name rest inductionHypothesis =>
      apply delivers_acquire
      apply inductionHypothesis
      intro events answer middle traces faultless
      exact delivers _ answer middle (.step _ _ _ _ _ events _ _ (.acquire ..) traces) faultless
  | release name rest inductionHypothesis =>
      apply delivers_release
      apply inductionHypothesis
      intro events answer middle traces faultless
      exact delivers _ answer middle (.step _ _ _ _ _ events _ _ (.release ..) traces) faultless
  | list keep rest inductionHypothesis =>
      apply delivers_list
      intro locs lists
      apply inductionHypothesis
      intro events answer middle traces faultless
      exact delivers _ answer middle
        (.step _ _ _ _ _ events _ _ (.list keep rest _ locs lists) traces) faultless
  | access loc update rest handler restHypothesis handlerHypothesis =>
      apply delivers_access
      apply restHypothesis
      intro events answer middle traces faultless
      exact delivers _ answer middle (.step _ _ _ _ _ events _ _ (.access ..) traces) faultless

/-! ### An interpreter -/

end Prog

/-- A store that is listed, and what the next accesses meet: a fault, or none. -/
structure Disk (Loc Val Fault : Type) where
  cells : AList fun _ : Loc => Val
  faults : List (Option Fault)

namespace Disk

variable {Name Loc Val Fault Result : Type} [DecidableEq Loc]

def store (disk : Disk Loc Val Fault) : Store Loc Val := disk.cells.lookup

def write (disk : Disk Loc Val Fault) (loc : Loc) (content : Option Val) : Disk Loc Val Fault :=
  match content with
  | some value => ⟨disk.cells.insert loc value, disk.faults.tail⟩
  | none => ⟨disk.cells.erase loc, disk.faults.tail⟩

theorem store_write (disk : Disk Loc Val Fault) (loc : Loc) (content : Option Val) :
    (disk.write loc content).store = Function.update disk.store loc content := by
  funext other
  cases content with
  | some value =>
      by_cases same : other = loc
      · subst same
        rw [Function.update_self]
        exact AList.lookup_insert disk.cells
      · rw [Function.update_of_ne same]
        exact AList.lookup_insert_ne same
  | none =>
      by_cases same : other = loc
      · subst same
        rw [Function.update_self]
        exact AList.lookup_erase _ disk.cells
      · rw [Function.update_of_ne same]
        exact AList.lookup_erase_ne same

theorem lists_keys (disk : Disk Loc Val Fault) (keep : Loc → Bool) :
    Lists keep disk.store (disk.cells.keys.filter keep) where
  nodup := disk.cells.nodupKeys.filter keep
  complete loc := by
    rw [List.mem_filter, and_comm]
    exact and_congr_right fun _ => AList.lookup_isSome.symm

/-- An execution on a disk: its events with its result, and the disk behind it. -/
def exec : Prog Name Loc Val Fault Result → Disk Loc Val Fault →
    (List (Event Name Loc Fault) × Result) × Disk Loc Val Fault
  | .ret result, disk => (([], result), disk)
  | .acquire name rest, disk =>
      let ((events, result), after) := exec rest disk
      ((.acquired name :: events, result), after)
  | .release name rest, disk =>
      let ((events, result), after) := exec rest disk
      ((.released name :: events, result), after)
  | .list keep rest, disk =>
      let locs := disk.cells.keys.filter keep
      let ((events, result), after) := exec (rest locs) disk
      ((.listed locs :: events, result), after)
  | .access loc update rest handler, disk =>
      match disk.faults.head?.join with
      | some fault =>
          let ((events, result), after) := exec (handler fault) ⟨disk.cells, disk.faults.tail⟩
          ((.raised loc fault :: events, result), after)
      | none =>
          let content := disk.store loc
          let ((events, result), after) := exec (rest content) (disk.write loc (update content))
          ((.accessed loc :: events, result), after)

/-- **The interpreter is sound.** -/
theorem exec_traces (program : Prog Name Loc Val Fault Result) (disk : Disk Loc Val Fault) :
    program.Traces disk.store (exec program disk).1.1 (exec program disk).1.2
      (exec program disk).2.store := by
  induction program generalizing disk with
  | ret result => exact .ret result disk.store
  | acquire name rest inductionHypothesis =>
      exact .step _ _ _ _ _ _ _ _ (.acquire ..) (inductionHypothesis disk)
  | release name rest inductionHypothesis =>
      exact .step _ _ _ _ _ _ _ _ (.release ..) (inductionHypothesis disk)
  | list keep rest inductionHypothesis =>
      exact .step _ _ _ _ _ _ _ _ (.list keep rest _ _ (disk.lists_keys keep))
        (inductionHypothesis _ disk)
  | access loc update rest handler restHypothesis handlerHypothesis =>
      unfold exec
      cases disk.faults.head?.join with
      | some fault =>
          exact .step _ _ _ _ _ _ _ _ (.raise loc update rest handler _ fault)
            (handlerHypothesis fault ⟨disk.cells, disk.faults.tail⟩)
      | none =>
          have continues := restHypothesis (disk.store loc)
            (disk.write loc (update (disk.store loc)))
          rw [store_write] at continues
          exact .step _ _ _ _ _ _ _ _ (.access ..) continues

end Disk

end Tobiko.Foundation
