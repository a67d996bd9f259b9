import Tobiko.Common.Shelves.Undisturbed

/-!
Contract: when the locks of `tobiko/common/_shelves.py` exclude the calls of
different workers from a shelf that both may access.

Owns: the property that no two workers are inside bodies that may access the
same shelf file and that the registrations are those of a serial execution, the
exact condition on the calls under which it holds in every interleaving, and an
interleaving that loses a registration.

The wrapper appends the first argument to the lock name. It is the shelf for
two of the functions and the test case id for two others, so the functions that
go through all the shelves do not exclude the ones that update one shelf.
-/

namespace Tobiko.Common.Shelves

open Relation
open Tobiko.Foundation
open Tobiko.Foundation.System (Reachable Isolated Share)

variable {Worker : Type} [DecidableEq Worker]

/-- In the final registrations a test case that was added and not removed later
is there, and one that was removed and not added later is not. -/
structure Registrations (log : List (Call × Outcome)) (final : Store String Shelf) : Prop where
  added : ∀ earlier later shelf resource testcaseId attempts tests,
    log = earlier ++ (.addmeToSharedResource shelf resource testcaseId attempts,
      .returned (some tests)) :: later →
    (∀ entry ∈ later, ¬ entry.1.removes testcaseId shelf resource) →
    testcaseId ∈ registered final shelf resource
  removed : ∀ earlier later shelf resource testcaseId attempts tests,
    log = earlier ++ (.removemeFromSharedResource shelf resource testcaseId attempts,
      .returned (some tests)) :: later →
    (∀ entry ∈ later, ¬ entry.1.adds testcaseId shelf resource) →
    testcaseId ∉ registered final shelf resource

/-- No two workers are inside bodies that may access the same shelf file, and
when nobody is inside a body the directory is the one that the finished calls
leave when they are executed one after another in some order. -/
structure Consistent (directory : Store String Shelf) (state : State Worker) : Prop where
  isolated : Isolated Call.accesses state
  serial : (∀ worker, state.running worker = none) →
    ∃ log, log.Perm state.done ∧ system.Serial directory log state.store ∧
      Registrations log state.store

/-- Calls of different workers that may access a common shelf file compute the
same lock name, and neither of them calls a decorated function itself. -/
def Excludes (issues : Worker → Call → Prop) : Prop :=
  ∀ worker other call otherCall, worker ≠ other → issues worker call → issues other otherCall →
    Share Call.accesses call otherCall →
    call.lock = otherCall.lock ∧ call.isNested = false ∧ otherCall.isNested = false

theorem registrations_of_serial {directory final : Store String Shelf}
    {log : List (Call × Outcome)} (serial : system.Serial directory log final) :
    Registrations log final := by
  constructor
  · rintro earlier later shelf resource testcaseId attempts tests rfl kept
    exact added_stays serial kept
  · rintro earlier later shelf resource testcaseId attempts tests rfl kept
    exact removed_stays_away serial kept

variable {issues : Worker → Call → Prop}

theorem isolated_of_excludes (excludes : Excludes issues) {directory : Store String Shelf}
    {state : State Worker} (reachable : Reachable system issues directory state) :
    Isolated Call.accesses state := by
  refine System.lockFree_isolated ?_ reachable
  intro worker other call otherCall different issued otherIssued share
  obtain ⟨sameLock, plain, -⟩ :=
    excludes worker other call otherCall different issued otherIssued share
  exact ⟨sameLock, Call.body_lockFree plain⟩

theorem consistent_of_excludes (excludes : Excludes issues) {directory : Store String Shelf}
    {state : State Worker} (reachable : Reachable system issues directory state) :
    Consistent directory state := by
  refine ⟨isolated_of_excludes excludes reachable, fun idle => ?_⟩
  have serial := System.serial_of_isolated Call.body_within
    (fun _ reached => isolated_of_excludes excludes reached) reachable idle
  exact ⟨state.done, .refl _, serial, registrations_of_serial serial⟩

/-! ### Calls that do not exclude each other -/

/-- Two calls with different locks can be entered at the same time. -/
theorem different_locks_admit {worker other : Worker} {call otherCall : Call}
    (different : worker ≠ other) (issued : issues worker call)
    (otherIssued : issues other otherCall) (locks : call.lock ≠ otherCall.lock)
    (directory : Store String Shelf) :
    ∃ state program otherProgram, Reachable system issues directory state ∧
      state.running worker = some (call, program) ∧
      state.running other = some (otherCall, otherProgram) := by
  have entered : Reachable system issues directory _ :=
    (Reachable.start directory).enter worker call rfl issued (.inl rfl)
  have free : (RecordLock.Table.free.acquire call.lock worker) otherCall.lock = none :=
    RecordLock.Table.acquire_other (Ne.symm locks)
  have idle : (System.State.entered system (System.start directory) worker call).running other =
      none := by
    simp [System.State.entered, System.start, different.symm]
  have both := entered.enter other otherCall idle otherIssued (.inl free)
  refine ⟨_, call.body, otherCall.body, both, ?_, ?_⟩
  · simp [System.State.entered, different, system]
  · simp [System.State.entered, system]

/-- The call that goes through all the shelves has given its lock up when it
comes back from the only shelf of the directory. -/
theorem removeFromAll_gives_up (worker : Worker) (testcaseId : String) (attempts : String → Nat)
    {shelf : String} {directory : Store String Shelf}
    (lists : Lists isSharedShelf directory [shelf])
    (content : directory shelf = some Shelf.empty) (lock : String) :
    ∃ owner, ReflTransGen (System.Works worker)
      (removeTestFromAllSharedResources lock testcaseId attempts, directory,
        RecordLock.Table.free.acquire lock worker)
      (.ret (.returned none), directory, owner) ∧ owner lock = none := by
  obtain ⟨handler, attempt⟩ :=
    removeTestFromShelfResources_attempt testcaseId shelf (attempts shelf)
  have same : Function.update directory shelf (some Shelf.empty) = directory := by
    rw [← content, Function.update_eq_self]
  have held : ((RecordLock.Table.free.acquire lock worker).acquire lock worker) lock =
      some worker := RecordLock.Table.acquire_same
  refine ⟨_, System.works_list lists (System.works_acquire (.inr (by simp)) ?_),
    RecordLock.Table.release_same held⟩
  rw [attempt]
  refine System.works_access (System.works_access ?_)
  simp only [content, Option.getD_some, same, Function.update_self, id]
  exact System.works_release .refl

/-- While the call that goes through all the shelves is still running, another
worker enters a call with the same lock. -/
theorem nested_call_admits {worker other : Worker} {testcaseId : String} {attempts : String → Nat}
    {otherCall : Call} (different : worker ≠ other)
    (issued : issues worker (.removeTestFromAllSharedResources testcaseId attempts))
    (otherIssued : issues other otherCall)
    (sameLock : (Call.removeTestFromAllSharedResources testcaseId attempts).lock = otherCall.lock)
    {shelf : String} (shared : isSharedShelf shelf = true) :
    ∃ directory state program otherProgram, Reachable system issues directory state ∧
      state.running worker =
        some (.removeTestFromAllSharedResources testcaseId attempts, program) ∧
      state.running other = some (otherCall, otherProgram) := by
  let call := Call.removeTestFromAllSharedResources testcaseId attempts
  let directory : Store String Shelf := Function.update (fun _ => none) shelf (some Shelf.empty)
  have lists : Lists isSharedShelf directory [shelf] := by
    refine ⟨List.nodup_singleton shelf, fun filename => ?_⟩
    by_cases same : filename = shelf
    · simp [same, directory, shared]
    · simp [same, directory]
  obtain ⟨owner, run, free⟩ :=
    removeFromAll_gives_up worker testcaseId attempts lists (Function.update_self ..) call.lock
  have entered : Reachable system issues directory _ :=
    (Reachable.start directory).enter worker call rfl issued (.inl rfl)
  have working := entered.works (Function.update_self ..) run
  have idle : Function.update (System.State.entered system (System.start directory) worker
      call).running worker (some (call, Prog.ret (Outcome.returned none))) other = none := by
    simp [System.State.entered, System.start, different.symm]
  rw [show call.lock = otherCall.lock from sameLock] at free
  have both := working.enter other otherCall idle otherIssued (.inl free)
  refine ⟨directory, _, .ret (.returned none), otherCall.body, both, ?_, ?_⟩
  · simp [System.State.entered, different, call]
  · simp [System.State.entered, system]

theorem excludes_of_isolated
    (isolated : ∀ (directory : Store String Shelf) (state : State Worker),
      Reachable system issues directory state → Isolated Call.accesses state) :
    Excludes issues := by
  intro worker other call otherCall different issued otherIssued share
  have sameLock : call.lock = otherCall.lock := by
    by_contra locks
    obtain ⟨state, program, otherProgram, reachable, running, otherRunning⟩ :=
      different_locks_admit different issued otherIssued locks fun _ => none
    exact isolated _ state reachable different running otherRunning share
  -- a call that goes through all the shelves lets the other one in
  have plain : ∀ {left right : Worker} {outer inner : Call}, left ≠ right → issues left outer →
      issues right inner → outer.lock = inner.lock → Share Call.accesses outer inner →
      outer.isNested = false := by
    intro left right outer inner apart outerIssued innerIssued lock share
    cases outer with
    | removeTestFromAllSharedResources testcaseId attempts =>
        obtain ⟨filename, ⟨listed, shared, stripped⟩, accessed⟩ := share
        obtain ⟨directory, state, program, otherProgram, reachable, running, otherRunning⟩ :=
          nested_call_admits apart outerIssued innerIssued lock shared
        exact (isolated directory state reachable apart running otherRunning
          ⟨filename, ⟨listed, shared, stripped⟩, accessed⟩).elim
    | addmeToSharedResource => rfl
    | removemeFromSharedResource => rfl
    | removeTestFromShelfResources => rfl
    | initializeShelves => rfl
  exact ⟨sameLock, plain different issued otherIssued sameLock share,
    plain different.symm otherIssued issued sameLock.symm share.symm⟩

/-- **Mutual exclusion and no lost update.** The calls that the workers may
issue keep every interleaving consistent exactly when calls of different workers
that may access a common shelf file have one lock and are not nested. -/
theorem consistent_iff_excludes (issues : Worker → Call → Prop) :
    (∀ (directory : Store String Shelf) (state : State Worker),
      Reachable system issues directory state → Consistent directory state) ↔
      Excludes issues := by
  constructor
  · intro consistent
    exact excludes_of_isolated fun directory state reachable =>
      (consistent directory state reachable).isolated
  · exact fun excludes directory state reachable => consistent_of_excludes excludes reachable

/-! ### A registration that is lost

One worker removes a test case from all the shelves and is stopped between the
read and the write of a resource, while another worker adds its test case. -/

/-- The removal from all the shelves can be stopped before it writes the only
resource of the only shelf; whatever happens meanwhile is overwritten. -/
theorem removeFromAll_pauses (worker : Worker) {testcaseId : String} (attempts : String → Nat)
    {shelf resource : String} {directory : Store String Shelf} {db : Shelf}
    {tests : Finset String} (lists : Lists isSharedShelf directory [shelf])
    (content : directory shelf = some db) (keys : db.resources.keys = [resource])
    (found : db.resources.lookup resource = some tests) (member : testcaseId ∈ tests)
    (lock : String) :
    ∃ paused, ReflTransGen (System.Works worker)
      (removeTestFromAllSharedResources lock testcaseId attempts, directory,
        RecordLock.Table.free.acquire lock worker)
      (paused, directory, (RecordLock.Table.free.acquire lock worker).acquire lock worker) ∧
      ∀ later owner, ReflTransGen (System.Works worker) (paused, later, owner)
        (.ret (.returned none), Function.update later shelf
          ((later shelf).map (·.setItem resource (tests.erase testcaseId))),
          owner.release lock worker) := by
  have same : Function.update directory shelf (some db) = directory := by
    rw [← content, Function.update_eq_self]
  obtain ⟨handler, attempt⟩ :=
    removeTestFromShelfResources_attempt testcaseId shelf (attempts shelf)
  obtain ⟨next, visit, last⟩ : ∃ next : Outcome → Body,
      removeFromShelves lock testcaseId attempts [shelf] = synched lock
        (removeTestFromShelfResources testcaseId (attempts shelf) shelf) next ∧
      next (.returned none) = .ret (.returned none) := ⟨_, rfl, rfl⟩
  let write : Body := setItem shelf handler resource (tests.erase testcaseId)
    (.ret (.returned none))
  refine ⟨write.bind fun outcome => .release lock (next outcome), ?_, ?_⟩
  · refine System.works_list lists ?_
    rw [visit, attempt]
    refine System.works_acquire (.inr (by simp)) ?_
    refine System.works_access (System.works_access ?_)
    simp only [content, Option.getD_some, same, Function.update_self, Option.map_some, keys, id]
    refine System.works_access ?_
    simp only [content, Option.bind_some, found, member, if_true, same, id]
    refine System.works_access ?_
    simp only [content, Option.bind_some, found, same, id]
    exact .refl
  · intro later owner
    refine System.works_access (System.works_release ?_)
    rw [last]

/-- While one worker removes "t0" from all the shelves, another one registers
"t1", and the registration is lost. -/
theorem removal_loses_registration :
    ¬ ∀ (directory : Store String Shelf) (state : State Nat),
      Reachable system (fun _ _ => True) directory state → Consistent directory state := by
  intro consistent
  let db : Shelf := ⟨(∅ : AList fun _ : String => Finset String).insert "stack" {"t0"}, none⟩
  let directory : Store String Shelf := Function.update (fun _ => none) "heat" (some db)
  let removal : Call := .removeTestFromAllSharedResources "t0" fun _ => 0
  let addition : Call := .addmeToSharedResource "heat" "stack" "t1" 0
  have lists : Lists isSharedShelf directory ["heat"] := by
    refine ⟨List.nodup_singleton _, fun filename => ?_⟩
    by_cases same : filename = "heat"
    · subst same
      simp only [directory, Function.update_self, Option.isSome_some, and_true, List.mem_singleton,
        true_iff]
      decide
    · simp [same, directory]
  have content : directory "heat" = some db := Function.update_self ..
  have found : db.resources.lookup "stack" = some {"t0"} := AList.lookup_insert _
  have keys : db.resources.keys = ["stack"] := rfl
  obtain ⟨paused, reads, writes⟩ := removeFromAll_pauses 1 (fun _ => 0) lists content keys found
    (Finset.mem_singleton_self "t0") removal.lock
  have removing : Reachable system (fun _ _ => True) directory _ :=
    ((Reachable.start directory).enter 1 removal rfl trivial (.inl rfl)).works
      (Function.update_self ..) reads
  have locks : addition.lock ≠ removal.lock := by decide
  have free : ((RecordLock.Table.free.acquire removal.lock 1).acquire removal.lock 1)
      addition.lock = none := by
    rw [RecordLock.Table.acquire_other locks, RecordLock.Table.acquire_other locks]
    rfl
  have adds := addmeToSharedResource_runs "heat" "stack" "t1" 0 directory
  have lockFree : addition.body.Obeys Prog.lockFree := Call.body_lockFree rfl
  have added := (removing.enter 0 addition rfl trivial (.inl free)).works (Function.update_self ..)
    (System.works_of_alone 0 adds lockFree _)
  have final := ((added.exit (Function.update_self ..)).works rfl (writes _ _)).exit
    (Function.update_self ..)
  obtain ⟨log, sameCalls, -, registrations⟩ := (consistent directory _ final).serial (by
    intro worker
    by_cases remover : worker = 1
    · simp [remover, System.State.left]
    · by_cases adder : worker = 0
      · simp [adder, System.State.left]
      · simp [adder, remover, System.State.left, System.State.entered, System.start])
  have calls : ∀ entry ∈ log, entry.1 = addition ∨ entry.1 = removal := by
    intro entry member
    have done := sameCalls.mem_iff.mp member
    simp only [System.State.left, System.State.entered, System.start, List.nil_append,
      List.mem_append, List.mem_singleton] at done
    rcases done with rfl | rfl
    · exact .inl rfl
    · exact .inr rfl
  have member : (addition, Outcome.returned
      (some (insert "t1" (registered directory "heat" "stack")))) ∈ log := by
    refine sameCalls.mem_iff.mpr ?_
    simp [System.State.left, System.State.entered, System.start]
  obtain ⟨earlier, later, rfl⟩ := List.append_of_mem member
  have stillThere := registrations.added earlier later "heat" "stack" "t1" 0 _ rfl ?_
  · simp [System.State.left, registered, Shelf.setItem] at stillThere
  · rintro entry laterMember ⟨-, tests, before, after⟩
    rcases calls entry (by simp [laterMember]) with same | same
    · rw [same] at after
      exact after (Finset.mem_insert_self "t1" tests)
    · rw [same] at after
      exact after (Finset.mem_erase.mpr ⟨by decide, before⟩)

end Tobiko.Common.Shelves
