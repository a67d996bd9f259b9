import Mathlib.Data.List.Induction
import Tobiko.Foundation.Program
import Tobiko.Foundation.RecordLock

/-!
Contract: any number of workers that run bodies over one store, each body
inside one lock of a table of record locks.

Owns: the interleaved steps of all the workers, the property that two open
bodies never touch the same cell (`Isolated`), and the theorem that isolated
executions have the effect of the finished calls executed one after another,
in the order in which they finished (`serial_of_isolated`), and what such a
serial execution establishes.

Does not own: why an execution is isolated. `lockFree_isolated` covers the
bodies that leave their lock alone; other reasons are the caller's.
-/

namespace Tobiko.Foundation

open Relation

/-- What a call does: the lock it takes and the body it runs inside. -/
structure System (Name Loc Val Fault Result Call : Type) where
  lock : Call → Name
  body : Call → Prog Name Loc Val Fault Result

namespace System

variable {Name Loc Val Fault Result Call Worker : Type}

/-- The global state. `done` lists the finished calls, the oldest one first. -/
structure State (Name Loc Val Fault Result Call Worker : Type) where
  store : Store Loc Val
  owner : RecordLock.Table Name Worker
  running : Worker → Option (Call × Prog Name Loc Val Fault Result)
  done : List (Call × Result)

/-- The state in which the workers start: nobody runs or holds a lock. -/
def start (store : Store Loc Val) : State Name Loc Val Fault Result Call Worker where
  store := store
  owner := RecordLock.Table.free
  running := fun _ => none
  done := []

/-- What one step of a worker shows. -/
inductive Label (Name Loc Fault Result Call : Type) where
  | enter (call : Call)
  | exit (result : Result)
  | inside (event : Event Name Loc Fault)

/-- The lock table allows the worker to perform the event now. -/
def Allowed (owner : RecordLock.Table Name Worker) (worker : Worker) :
    Event Name Loc Fault → Prop
  | .acquired name => owner.Grants name worker
  | _ => True

variable [DecidableEq Name] [DecidableEq Loc] [DecidableEq Worker]

/-- The effect of the event on the lock table. -/
def ownerAfter (owner : RecordLock.Table Name Worker) (worker : Worker) :
    Event Name Loc Fault → RecordLock.Table Name Worker
  | .acquired name => owner.acquire name worker
  | .released name => owner.release name worker
  | _ => owner

variable (system : System Name Loc Val Fault Result Call) (issues : Worker → Call → Prop)

/-- One step of one worker: it enters a call it may issue, performs one action
of the body, or leaves the call. -/
inductive StepBy (worker : Worker) : Label Name Loc Fault Result Call →
    State Name Loc Val Fault Result Call Worker →
    State Name Loc Val Fault Result Call Worker → Prop
  | enter (state call) (idle : state.running worker = none) (issued : issues worker call)
      (granted : state.owner.Grants (system.lock call) worker) :
      StepBy worker (.enter call) state
        { state with
          owner := state.owner.acquire (system.lock call) worker
          running := Function.update state.running worker (some (call, system.body call)) }
  | inside (state call program event next after)
      (open_ : state.running worker = some (call, program))
      (step : Prog.Step program state.store event next after)
      (allowed : Allowed state.owner worker event) :
      StepBy worker (.inside event) state
        { state with
          store := after
          owner := ownerAfter state.owner worker event
          running := Function.update state.running worker (some (call, next)) }
  | exit (state call result) (finished : state.running worker = some (call, .ret result)) :
      StepBy worker (.exit result) state
        { state with
          owner := state.owner.release (system.lock call) worker
          running := Function.update state.running worker none
          done := state.done ++ [(call, result)] }

/-- One step of some worker. -/
def Step (before after : State Name Loc Val Fault Result Call Worker) : Prop :=
  ∃ worker label, StepBy system issues worker label before after

/-- The states of all the interleavings that start from `store`. -/
def Reachable (store : Store Loc Val) (state : State Name Loc Val Fault Result Call Worker) :
    Prop :=
  ReflTransGen (Step system issues) (start store) state

/-- Two calls may touch a common cell. -/
def Share (touches : Call → Loc → Prop) (left right : Call) : Prop :=
  ∃ loc, touches left loc ∧ touches right loc

omit [DecidableEq Name] [DecidableEq Loc] [DecidableEq Worker] in
theorem Share.symm {touches : Call → Loc → Prop} {left right : Call}
    (share : Share touches left right) : Share touches right left := by
  obtain ⟨loc, inLeft, inRight⟩ := share
  exact ⟨loc, inRight, inLeft⟩

/-- No two workers are inside bodies that may touch a common cell. -/
def Isolated (touches : Call → Loc → Prop)
    (state : State Name Loc Val Fault Result Call Worker) : Prop :=
  ∀ ⦃worker other call program otherCall otherProgram⦄, worker ≠ other →
    state.running worker = some (call, program) →
    state.running other = some (otherCall, otherProgram) → ¬ Share touches call otherCall

/-- The calls of `log` executed one after another, each with its result. -/
inductive Serial (store : Store Loc Val) : List (Call × Result) → Store Loc Val → Prop
  | nil : Serial store [] store
  | snoc {log middle call result after} (before : Serial store log middle)
      (runs : (system.body call).Runs middle result after) :
      Serial store (log ++ [(call, result)]) after

variable {system issues} {touches : Call → Loc → Prop} {worker : Worker}
  {label : Label Name Loc Fault Result Call}
  {before after : State Name Loc Val Fault Result Call Worker}

/-! ### What a step can do -/

/-- Other workers keep their place. -/
theorem StepBy.running_other (step : StepBy system issues worker label before after)
    {other : Worker} (different : other ≠ worker) :
    after.running other = before.running other := by
  cases step <;> simp [different]

/-- A body that is open after the step is either the one just entered or was open before. -/
theorem StepBy.running_cases (step : StepBy system issues worker label before after)
    {other : Worker} {call : Call} {program : Prog Name Loc Val Fault Result}
    (running : after.running other = some (call, program)) :
    (other = worker ∧ label = .enter call ∧ issues worker call ∧ program = system.body call) ∨
      ∃ earlier, before.running other = some (call, earlier) ∧
        (earlier = program ∨ ∃ event, other = worker ∧
          Prog.Step earlier before.store event program after.store) := by
  by_cases same : other = worker
  · subst same
    cases step with
    | enter _ entered idle issued granted =>
        simp only [Function.update_self, Option.some.injEq, Prod.mk.injEq] at running
        obtain ⟨rfl, rfl⟩ := running
        exact .inl ⟨rfl, rfl, issued, rfl⟩
    | inside _ _ earlier event _ _ open_ action allowed =>
        simp only [Function.update_self, Option.some.injEq, Prod.mk.injEq] at running
        obtain ⟨rfl, rfl⟩ := running
        exact .inr ⟨earlier, open_, .inr ⟨event, rfl, action⟩⟩
    | exit _ _ _ finished => simp at running
  · rw [step.running_other same] at running
    exact .inr ⟨program, running, .inl rfl⟩

/-- Every invariant of the open programs: it holds of each body that may be
entered, and each action of the program keeps it. -/
theorem running_invariant (property : Call → Prog Name Loc Val Fault Result → Prop)
    {store : Store Loc Val} {state : State Name Loc Val Fault Result Call Worker}
    (enters : ∀ call, property call (system.body call))
    (continues : ∀ call program store event next after, property call program →
      Prog.Step program store event next after → property call next)
    (reachable : Reachable system issues store state) {call : Call}
    {program : Prog Name Loc Val Fault Result}
    (running : state.running worker = some (call, program)) : property call program := by
  induction reachable generalizing worker program with
  | refl => simp [start] at running
  | tail _ last inductionHypothesis =>
      obtain ⟨mover, label, step⟩ := last
      rcases step.running_cases running with ⟨-, -, -, rfl⟩ | ⟨earlier, earlierRunning, same⟩
      · exact enters call
      · have earlierHolds := inductionHypothesis earlierRunning
        rcases same with rfl | ⟨event, -, action⟩
        · exact earlierHolds
        · exact continues _ _ _ _ _ _ earlierHolds action

/-- A worker is only inside calls that it may issue. -/
theorem running_issued {store : Store Loc Val}
    {state : State Name Loc Val Fault Result Call Worker}
    (reachable : Reachable system issues store state) {call : Call}
    {program : Prog Name Loc Val Fault Result}
    (running : state.running worker = some (call, program)) : issues worker call := by
  induction reachable generalizing worker program with
  | refl => simp [start] at running
  | tail _ last inductionHypothesis =>
      obtain ⟨mover, label, step⟩ := last
      rcases step.running_cases running with ⟨rfl, -, issued, -⟩ | ⟨earlier, earlierRunning, -⟩
      · exact issued
      · exact inductionHypothesis earlierRunning

/-- Open bodies stay within the cells their calls touch. -/
theorem running_within (within : ∀ call, (system.body call).Obeys (Prog.within (touches call)))
    {store : Store Loc Val} {state : State Name Loc Val Fault Result Call Worker}
    (reachable : Reachable system issues store state) {call : Call}
    {program : Prog Name Loc Val Fault Result}
    (running : state.running worker = some (call, program)) :
    program.Obeys (Prog.within (touches call)) := by
  refine running_invariant (fun call program => program.Obeys (Prog.within (touches call))) within
    ?_ reachable running
  intro call program store event next after holds step
  exact step.obeys holds

/-! ### Extending a run -/

section Extend

variable {store later : Store Loc Val} {state : State Name Loc Val Fault Result Call Worker}
  {call : Call} {program next : Prog Name Loc Val Fault Result}
  {owner : RecordLock.Table Name Worker}

/-- One action of the worker, seen from the body it has open. -/
def Works (worker : Worker) (before after :
    Prog Name Loc Val Fault Result × Store Loc Val × RecordLock.Table Name Worker) : Prop :=
  ∃ event, Prog.Step before.1 before.2.1 event after.1 after.2.1 ∧
    Allowed before.2.2 worker event ∧ after.2.2 = ownerAfter before.2.2 worker event

variable {finish : Prog Name Loc Val Fault Result × Store Loc Val × RecordLock.Table Name Worker}

theorem works_acquire {name : Name} (granted : owner.Grants name worker)
    (run : ReflTransGen (Works worker) (program, store, owner.acquire name worker) finish) :
    ReflTransGen (Works worker) (.acquire name program, store, owner) finish :=
  .head ⟨.acquired name, .acquire .., granted, rfl⟩ run

theorem works_release {name : Name}
    (run : ReflTransGen (Works worker) (program, store, owner.release name worker) finish) :
    ReflTransGen (Works worker) (.release name program, store, owner) finish :=
  .head ⟨.released name, .release .., trivial, rfl⟩ run

theorem works_list {keep : Loc → Bool} {rest : List Loc → Prog Name Loc Val Fault Result}
    {locs : List Loc} (lists : Lists keep store locs)
    (run : ReflTransGen (Works worker) (rest locs, store, owner) finish) :
    ReflTransGen (Works worker) (.list keep rest, store, owner) finish := by
  have first : Works worker (.list keep rest, store, owner) (rest locs, store, owner) :=
    ⟨.listed locs, .list keep rest store locs lists, trivial, rfl⟩
  exact .head first run

theorem works_access {loc : Loc} {update : Option Val → Option Val}
    {rest : Option Val → Prog Name Loc Val Fault Result}
    {handler : Fault → Prog Name Loc Val Fault Result}
    (run : ReflTransGen (Works worker)
      (rest (store loc), Function.update store loc (update (store loc)), owner) finish) :
    ReflTransGen (Works worker) (.access loc update rest handler, store, owner) finish := by
  have first : Works worker (.access loc update rest handler, store, owner)
      (rest (store loc), Function.update store loc (update (store loc)), owner) :=
    ⟨.accessed loc, .access loc update rest handler store, trivial, rfl⟩
  exact .head first run

/-- The state after `worker` has entered the call. -/
def State.entered (system : System Name Loc Val Fault Result Call)
    (state : State Name Loc Val Fault Result Call Worker) (worker : Worker) (call : Call) :
    State Name Loc Val Fault Result Call Worker :=
  { state with
    owner := state.owner.acquire (system.lock call) worker
    running := Function.update state.running worker (some (call, system.body call)) }

/-- The state after `worker` has left the call. -/
def State.left (system : System Name Loc Val Fault Result Call)
    (state : State Name Loc Val Fault Result Call Worker) (worker : Worker) (call : Call)
    (result : Result) : State Name Loc Val Fault Result Call Worker :=
  { state with
    owner := state.owner.release (system.lock call) worker
    running := Function.update state.running worker none
    done := state.done ++ [(call, result)] }

theorem Reachable.start (store : Store Loc Val) :
    Reachable system issues store (start store : State Name Loc Val Fault Result Call Worker) :=
  .refl

theorem Reachable.enter (reachable : Reachable system issues store state) (worker : Worker)
    (call : Call) (idle : state.running worker = none) (issued : issues worker call)
    (granted : state.owner.Grants (system.lock call) worker) :
    Reachable system issues store (state.entered system worker call) :=
  reachable.tail ⟨worker, .enter call, .enter state call idle issued granted⟩

theorem Reachable.works (reachable : Reachable system issues store state)
    (running : state.running worker = some (call, program))
    (run : ReflTransGen (Works worker) (program, state.store, state.owner)
      (next, later, owner)) :
    Reachable system issues store
      { state with
        store := later
        owner := owner
        running := Function.update state.running worker (some (call, next)) } := by
  generalize final : (next, later, owner) = finish at run
  induction run generalizing next later owner with
  | refl =>
      obtain ⟨rfl, rfl, rfl⟩ := by simpa only [Prod.mk.injEq] using final
      have same : Function.update state.running worker (some (call, next)) = state.running := by
        rw [← running, Function.update_eq_self]
      rw [same]
      exact reachable
  | @tail middle _ earlier last inductionHypothesis =>
      subst final
      obtain ⟨event, step, allowed, same⟩ := last
      have reached := (inductionHypothesis rfl).tail ⟨worker, .inside event,
        .inside _ call middle.1 event next later (Function.update_self ..) step allowed⟩
      simp only [Function.update_idem] at reached
      rw [← same] at reached
      exact reached

theorem Reachable.exit {result : Result} (reachable : Reachable system issues store state)
    (finished : state.running worker = some (call, .ret result)) :
    Reachable system issues store (state.left system worker call result) :=
  reachable.tail ⟨worker, .exit result, .exit state call result finished⟩

end Extend

/-! ### The lock of an open body -/

/-- The step leaves alone every lock that another worker holds. -/
theorem StepBy.owner_other (step : StepBy system issues worker label before after)
    {holder : Worker} {name : Name} (different : worker ≠ holder)
    (held : before.owner name = some holder) : after.owner name = some holder := by
  cases step with
  | enter _ call idle issued granted =>
      exact RecordLock.Table.acquire_keeps_holder granted different held
  | exit => exact RecordLock.Table.release_keeps_holder different held
  | inside _ _ _ event _ _ open_ action allowed =>
      cases event with
      | acquired acquired => exact RecordLock.Table.acquire_keeps_holder allowed different held
      | released released => exact RecordLock.Table.release_keeps_holder different held
      | listed locs => exact held
      | accessed loc => exact held
      | raised loc fault => exact held

theorem lockFree_ownerAfter {program next : Prog Name Loc Val Fault Result}
    {store later : Store Loc Val} {event : Event Name Loc Fault}
    (lockFree : program.Obeys Prog.lockFree)
    (step : Prog.Step program store event next later) (owner : RecordLock.Table Name Worker)
    (mover : Worker) : ownerAfter owner mover event = owner := by
  cases step with
  | acquire => exact lockFree.1.elim
  | release => exact lockFree.1.elim
  | list => rfl
  | access => rfl
  | raise => rfl

omit [DecidableEq Name] [DecidableEq Worker] in
theorem lockFree_allowed {program next : Prog Name Loc Val Fault Result}
    {store later : Store Loc Val} {event : Event Name Loc Fault}
    (lockFree : program.Obeys Prog.lockFree)
    (step : Prog.Step program store event next later) (owner : RecordLock.Table Name Worker)
    (mover : Worker) : Allowed owner mover event := by
  cases step with
  | acquire => exact lockFree.1.elim
  | release => trivial
  | list => trivial
  | access => trivial
  | raise => trivial

/-- A body that leaves the locks alone works as it runs without the other workers. -/
theorem works_of_alone
    {start finish : Prog Name Loc Val Fault Result × Store Loc Val} (worker : Worker)
    (run : ReflTransGen Prog.Alone start finish) (lockFree : start.1.Obeys Prog.lockFree)
    (owner : RecordLock.Table Name Worker) :
    ReflTransGen (Works worker) (start.1, start.2, owner) (finish.1, finish.2, owner) := by
  induction run with
  | refl => exact .refl
  | tail before last inductionHypothesis =>
      obtain ⟨event, step⟩ := last
      have free := Prog.alone_obeys before lockFree
      exact inductionHypothesis.tail ⟨event, step, lockFree_allowed free step owner worker,
        (lockFree_ownerAfter free step owner worker).symm⟩

/-- A worker that is inside a body which leaves the locks alone holds the lock
of the call, from the entry to the exit. -/
theorem lockFree_holds {store : Store Loc Val}
    {state : State Name Loc Val Fault Result Call Worker}
    (reachable : Reachable system issues store state) {call : Call}
    {program : Prog Name Loc Val Fault Result} (lockFree : (system.body call).Obeys Prog.lockFree)
    (running : state.running worker = some (call, program)) :
    program.Obeys Prog.lockFree ∧ state.owner (system.lock call) = some worker := by
  induction reachable generalizing program with
  | refl => simp [start] at running
  | tail _ last inductionHypothesis =>
      obtain ⟨mover, label, step⟩ := last
      by_cases same : worker = mover
      · subst same
        cases step with
        | enter _ entered idle issued granted =>
            simp only [Function.update_self, Option.some.injEq, Prod.mk.injEq] at running
            obtain ⟨rfl, rfl⟩ := running
            exact ⟨lockFree, RecordLock.Table.acquire_same⟩
        | inside _ _ earlier event _ _ open_ action allowed =>
            simp only [Function.update_self, Option.some.injEq, Prod.mk.injEq] at running
            obtain ⟨rfl, rfl⟩ := running
            obtain ⟨earlierFree, held⟩ := inductionHypothesis open_
            refine ⟨action.obeys earlierFree, ?_⟩
            exact (congrFun (lockFree_ownerAfter earlierFree action _ _) _).trans held
        | exit _ _ _ finished => simp at running
      · rw [step.running_other same] at running
        obtain ⟨programFree, held⟩ := inductionHypothesis running
        exact ⟨programFree, step.owner_other (Ne.symm same) held⟩

/-- **Exclusion.** If any two calls of different workers that share a cell take
the same lock and leave it alone, all interleavings are isolated. -/
theorem lockFree_isolated {store : Store Loc Val}
    {state : State Name Loc Val Fault Result Call Worker}
    (excludes : ∀ worker other call otherCall, worker ≠ other → issues worker call →
      issues other otherCall → Share touches call otherCall →
      system.lock call = system.lock otherCall ∧ (system.body call).Obeys Prog.lockFree)
    (reachable : Reachable system issues store state) : Isolated touches state := by
  intro worker other call program otherCall otherProgram different running otherRunning share
  have issued := running_issued reachable running
  have otherIssued := running_issued reachable otherRunning
  obtain ⟨sameLock, lockFree⟩ :=
    excludes worker other call otherCall different issued otherIssued share
  obtain ⟨-, otherFree⟩ :=
    excludes other worker otherCall call different.symm otherIssued issued share.symm
  obtain ⟨-, held⟩ := lockFree_holds reachable lockFree running
  obtain ⟨-, otherHeld⟩ := lockFree_holds reachable otherFree otherRunning
  rw [sameLock, otherHeld] at held
  exact different (Option.some.inj held).symm

/-! ### Isolated executions are serial -/

/-- The store is explained by a serial execution of the finished calls
(`base`), on top of which each open body has run undisturbed on its cells. -/
structure Explained (system : System Name Loc Val Fault Result Call)
    (touches : Call → Loc → Prop) (store : Store Loc Val)
    (state : State Name Loc Val Fault Result Call Worker) (base : Store Loc Val) : Prop where
  serial : Serial system store state.done base
  untouched : ∀ loc, (∀ worker call program, state.running worker = some (call, program) →
    ¬ touches call loc) → state.store loc = base loc
  progress : ∀ worker call program, state.running worker = some (call, program) →
    ∃ reached, ReflTransGen Prog.Alone (system.body call, base) (program, reached) ∧
      AgreeOn (touches call) reached state.store

theorem Explained.enter {store base : Store Loc Val} {call : Call}
    (explained : Explained system touches store before base)
    (step : StepBy system issues worker (.enter call) before after)
    (isolated : Isolated touches after) : Explained system touches store after base := by
  cases step with
  | enter _ _ idle issued granted =>
      have keeps : ∀ other, other ≠ worker →
          Function.update before.running worker (some (call, system.body call)) other =
            before.running other := fun other different => by simp [different]
      refine ⟨explained.serial, fun loc alone => explained.untouched loc ?_, ?_⟩
      · intro other otherCall program running
        have different : other ≠ worker := by
          rintro rfl
          rw [idle] at running
          contradiction
        exact alone other otherCall program ((keeps other different).trans running)
      · intro other otherCall program running
        by_cases same : other = worker
        · subst same
          simp only [Function.update_self, Option.some.injEq, Prod.mk.injEq] at running
          obtain ⟨rfl, rfl⟩ := running
          refine ⟨base, .refl, fun loc touched => (explained.untouched loc ?_).symm⟩
          -- isolation: no other open body touches a cell of the call just entered
          intro third thirdCall thirdProgram thirdRunning thirdTouches
          have different : third ≠ other := by
            rintro rfl
            rw [idle] at thirdRunning
            contradiction
          exact isolated different ((keeps third different).trans thirdRunning)
            (Function.update_self ..) ⟨loc, thirdTouches, touched⟩
        · exact explained.progress other otherCall program ((keeps other same).symm.trans running)

theorem Explained.inside {store base : Store Loc Val} {event : Event Name Loc Fault}
    (explained : Explained system touches store before base)
    (within : ∀ call program, before.running worker = some (call, program) →
      program.Obeys (Prog.within (touches call)))
    (step : StepBy system issues worker (.inside event) before after)
    (isolated : Isolated touches before) : Explained system touches store after base := by
  cases step with
  | inside _ call program _ next changed open_ action allowed =>
      have programWithin := within call program open_
      have outside : ∀ loc, ¬ touches call loc → changed loc = before.store loc :=
        fun loc => action.frame programWithin
      refine ⟨explained.serial, fun loc alone => ?_, ?_⟩
      · have notTouched : ¬ touches call loc := alone worker call next (Function.update_self ..)
        refine (outside loc notTouched).trans (explained.untouched loc ?_)
        intro other otherCall otherProgram running
        by_cases same : other = worker
        · subst same
          rw [open_] at running
          obtain ⟨rfl, -⟩ := Prod.mk.inj (Option.some.inj running)
          exact notTouched
        · exact alone other otherCall otherProgram (by simpa [same] using running)
      · intro other otherCall otherProgram running
        by_cases same : other = worker
        · subst same
          simp only [Function.update_self, Option.some.injEq, Prod.mk.injEq] at running
          obtain ⟨rfl, rfl⟩ := running
          obtain ⟨reached, run, agree⟩ := explained.progress _ _ _ open_
          obtain ⟨later, replayed, agreeLater⟩ :=
            action.replay programWithin fun loc touched => (agree loc touched).symm
          exact ⟨later, run.tail ⟨event, replayed⟩,
            fun loc touched => (agreeLater loc touched).symm⟩
        · have otherRunning : before.running other = some (otherCall, otherProgram) := by
            simpa [same] using running
          obtain ⟨reached, run, agree⟩ := explained.progress _ _ _ otherRunning
          refine ⟨reached, run, fun loc touched => (agree loc touched).trans ?_⟩
          refine (outside loc fun mine => ?_).symm
          exact isolated same otherRunning open_ ⟨loc, touched, mine⟩

theorem Explained.exit {store base : Store Loc Val} {result : Result}
    (explained : Explained system touches store before base)
    (within : ∀ call, (system.body call).Obeys (Prog.within (touches call)))
    (step : StepBy system issues worker (.exit result) before after)
    (isolated : Isolated touches before) :
    ∃ later, Explained system touches store after later := by
  cases step with
  | exit _ call _ finished =>
      obtain ⟨later, run, agree⟩ := explained.progress worker call _ finished
      have outside : ∀ loc, ¬ touches call loc → later loc = base loc :=
        fun loc notTouched => Prog.alone_frame run (within call) notTouched
      have otherRunning : ∀ {other otherCall program},
          Function.update before.running worker none other = some (otherCall, program) →
            other ≠ worker ∧ before.running other = some (otherCall, program) := by
        intro other otherCall program running
        by_cases same : other = worker
        · subst same
          simp at running
        · exact ⟨same, by simpa [same] using running⟩
      refine ⟨later, explained.serial.snoc run, fun loc alone => ?_, ?_⟩
      · by_cases touched : touches call loc
        · exact (agree loc touched).symm
        · refine Eq.trans (explained.untouched loc ?_) (outside loc touched).symm
          intro other otherCall program running
          by_cases same : other = worker
          · subst same
            rw [finished] at running
            obtain ⟨rfl, -⟩ := Prod.mk.inj (Option.some.inj running)
            exact touched
          · exact alone other otherCall program (by simpa [same] using running)
      · intro other otherCall program running
        obtain ⟨different, stillRunning⟩ := otherRunning running
        obtain ⟨reached, otherRun, otherAgree⟩ := explained.progress _ _ _ stillRunning
        -- the finished call changed no cell that this body touches
        have agreeBase : AgreeOn (touches otherCall) base later := by
          intro loc touched
          refine (outside loc fun mine => ?_).symm
          exact isolated different stillRunning finished ⟨loc, touched, mine⟩
        obtain ⟨otherReached, replayed, agreeReached⟩ :=
          Prog.alone_replay otherRun (within otherCall) agreeBase
        exact ⟨otherReached, replayed,
          fun loc touched => (agreeReached loc touched).symm.trans (otherAgree loc touched)⟩

theorem explained_of_isolated {store : Store Loc Val}
    {state : State Name Loc Val Fault Result Call Worker}
    (within : ∀ call, (system.body call).Obeys (Prog.within (touches call)))
    (isolated : ∀ state : State Name Loc Val Fault Result Call Worker,
      Reachable system issues store state → Isolated touches state)
    (reachable : Reachable system issues store state) :
    ∃ base, Explained system touches store state base := by
  induction reachable with
  | refl => exact ⟨store, .nil, fun _ _ => rfl, fun _ _ _ running => by simp [start] at running⟩
  | @tail before after earlier last inductionHypothesis =>
      obtain ⟨base, explained⟩ := inductionHypothesis
      obtain ⟨worker, label, step⟩ := last
      have reached : Reachable system issues store after := earlier.tail ⟨worker, label, step⟩
      cases label with
      | enter call => exact ⟨base, explained.enter step (isolated after reached)⟩
      | inside event =>
          exact ⟨base, explained.inside
            (fun call program running => running_within within earlier running) step
            (isolated before earlier)⟩
      | exit result => exact explained.exit within step (isolated before earlier)

/-- **Serial effect.** When no worker is inside a body, the store is the one
that the finished calls leave when they run one after another. -/
theorem serial_of_isolated {store : Store Loc Val}
    {state : State Name Loc Val Fault Result Call Worker}
    (within : ∀ call, (system.body call).Obeys (Prog.within (touches call)))
    (isolated : ∀ state : State Name Loc Val Fault Result Call Worker,
      Reachable system issues store state → Isolated touches state)
    (reachable : Reachable system issues store state)
    (idle : ∀ worker, state.running worker = none) :
    Serial system store state.done state.store := by
  obtain ⟨base, explained⟩ := explained_of_isolated within isolated reachable
  have same : state.store = base := by
    funext loc
    refine explained.untouched loc fun worker call program running => ?_
    rw [idle worker] at running
    contradiction
  rw [same]
  exact explained.serial

/-! ### What a serial execution establishes -/

omit [DecidableEq Name] [DecidableEq Worker]

variable {store final : Store Loc Val} {log later : List (Call × Result)}

/-- A serial execution can be cut between any two calls. -/
theorem Serial.split (serial : Serial system store (log ++ later) final) :
    ∃ middle, Serial system store log middle ∧ Serial system middle later final := by
  induction later using List.reverseRecOn generalizing final with
  | nil => exact ⟨final, by simpa using serial, .nil⟩
  | append_singleton later last inductionHypothesis =>
      generalize whole : log ++ (later ++ [last]) = entries at serial
      cases serial with
      | nil => simp at whole
      | snoc earlier runs =>
          rw [← List.append_assoc] at whole
          obtain ⟨rfl, single⟩ := List.append_inj' whole rfl
          obtain ⟨middle, first, second⟩ := inductionHypothesis earlier
          rw [single]
          exact ⟨middle, first, .snoc second runs⟩

/-- A property that every call of the log keeps lasts. -/
theorem Serial.keeps (property : Store Loc Val → Prop) (serial : Serial system store log final)
    (keeps : ∀ entry ∈ log, ∀ store, property store →
      (system.body entry.1).Ensures store fun _ => property)
    (holds : property store) : property final := by
  induction serial with
  | nil => exact holds
  | @snoc log middle call result after earlier runs inductionHypothesis =>
      have before := inductionHypothesis fun entry member =>
        keeps entry (List.mem_append_left _ member)
      exact keeps (call, result) (by simp) middle before result after runs

/-- A property that one call of the log establishes and the later ones keep holds at the end. -/
theorem Serial.established (property : Store Loc Val → Prop) {call : Call} {result : Result}
    (serial : Serial system store (log ++ (call, result) :: later) final)
    (establishes : ∀ store, (system.body call).Ensures store fun outcome after =>
      outcome = result → property after)
    (keeps : ∀ entry ∈ later, ∀ store, property store →
      (system.body entry.1).Ensures store fun _ => property) : property final := by
  rw [← List.singleton_append, ← List.append_assoc] at serial
  obtain ⟨middle, first, second⟩ := serial.split
  generalize whole : log ++ [(call, result)] = entries at first
  cases first with
  | nil => simp at whole
  | snoc earlier runs =>
      obtain ⟨-, single⟩ := List.append_inj' whole rfl
      simp only [List.cons.injEq, Prod.mk.injEq, and_true] at single
      obtain ⟨rfl, rfl⟩ := single
      exact second.keeps property keeps (establishes _ _ _ runs rfl)

end System

end Tobiko.Foundation
