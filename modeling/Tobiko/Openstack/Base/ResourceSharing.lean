import Tobiko.Openstack.Base.ResourceFixture

/-!
Contract: what becomes of the resource that several workers share.

Owns: what a step changes of the lock, of the resources and of what its worker knows, the invariant
of all runs, and the bound on the resources of one name.

Does not own: the steps, which are in `ResourceFixture`.

The lock keeps the resource unique, as long as no error is taken for the absence of the resource. It
does not keep a worker from the use of a resource that another one has deleted.
-/

namespace Tobiko.Openstack.Base

open Tobiko.Foundation

/-! ### One worker -/

/-- The worker is about to delete the resource, or has just done so. -/
def Phase.disposing : Phase → Bool
  | .deleting _ | .identified _ _ | .deleted _ => true
  | _ => false

/-- Inside `setUp`, before it raises. -/
def Phase.insideSetUp : Phase → Bool
  | .settingUp | .creating | .absent | .created _ | .checking | .registering | .registered => true
  | _ => false

/-- The resource has been checked in `setUp`. -/
def Phase.checked : Phase → Bool
  | .registering | .registered => true
  | _ => false

namespace Worker

variable (worker : Worker) (raised preventCreate : Bool) (caller : Caller)

/-- The worker is outside of the lock and of the deletion. -/
def Calm (phase : Phase) : Prop :=
  phase = .idle ∨ ∃ caller, phase = .removing caller

@[simp] theorem endCleanUp_phase : (worker.endCleanUp raised caller).phase = .idle := by
  unfold endCleanUp
  split <;> rfl

@[simp] theorem endCleanUp_resource :
    (worker.endCleanUp raised caller).resource = worker.resource := by
  unfold endCleanUp
  split <;> rfl

theorem beginCleanUp_calm : Calm (worker.beginCleanUp preventCreate caller).phase := by
  unfold beginCleanUp
  split
  · exact .inl (endCleanUp_phase ..)
  · split
    · exact .inl (endCleanUp_phase ..)
    · exact .inr ⟨caller, rfl⟩

@[simp] theorem beginCleanUp_resource :
    (worker.beginCleanUp preventCreate caller).resource = worker.resource := by
  unfold beginCleanUp
  split
  · exact endCleanUp_resource ..
  · split
    · exact endCleanUp_resource ..
    · rfl

theorem endCleanUp_setupExecuted
    (executed : (worker.endCleanUp raised caller).setupExecuted = true) :
    raised = true ∧ worker.setupExecuted = true := by
  unfold endCleanUp at executed
  split at executed
  · rename_i raises
    exact ⟨(Bool.and_eq_true_iff.mp raises).1, executed⟩
  · cases executed

theorem beginCleanUp_setupExecuted
    (executed : (worker.beginCleanUp preventCreate caller).setupExecuted = true) :
    worker.setupExecuted = true := by
  unfold beginCleanUp at executed
  split at executed
  · exact (endCleanUp_setupExecuted _ _ _ executed).2
  · split at executed
    · exact (endCleanUp_setupExecuted _ _ _ executed).2
    · exact executed

variable {worker}

theorem Calm.locked {phase : Phase} (calm : Calm phase) : phase.locked = false := by
  rcases calm with rfl | ⟨caller, rfl⟩ <;> rfl

theorem Calm.disposing {phase : Phase} (calm : Calm phase) : phase.disposing = false := by
  rcases calm with rfl | ⟨caller, rfl⟩ <;> rfl

theorem Calm.insideSetUp {phase : Phase} (calm : Calm phase) : phase.insideSetUp = false := by
  rcases calm with rfl | ⟨caller, rfl⟩ <;> rfl

/-- The identifiers that a worker keeps. -/
inductive Knows (worker : Worker) (id : Nat) : Prop where
  | resource (kept : worker.resource = some id)
  | created (new : worker.phase = .created id)
  | identified (caller : Caller) (found : worker.phase = .identified caller id)

theorem Knows.calm {id : Nat} (knows : worker.Knows id) (calm : Calm worker.phase) :
    worker.resource = some id := by
  rcases calm with idle | ⟨caller, removing⟩
  · cases knows with
    | resource kept => exact kept
    | created new => cases idle.symm.trans new
    | identified caller found => cases idle.symm.trans found
  · cases knows with
    | resource kept => exact kept
    | created new => cases removing.symm.trans new
    | identified caller found => cases removing.symm.trans found

/-- What holds of a worker: a resource is kept where the set up has been executed. -/
structure Sound (worker : Worker) : Prop where
  executed : worker.setupExecuted = true → worker.resource.isSome
  insideSetUp : worker.phase.insideSetUp = true → worker.setupExecuted = false
  checked : worker.phase.checked = true → worker.resource.isSome

end Worker

/-! ### One step -/

/-- The step neither creates nor deletes. -/
def Event.quiet : Event → Bool
  | .created _ | .deleted _ => false
  | _ => true

/-- The resources are the same. -/
structure Shared.Same (shared next : Shared) : Prop where
  existing : next.existing = shared.existing
  nextId : next.nextId = shared.nextId

theorem Shared.Same.rfl {shared : Shared} : shared.Same shared := ⟨Eq.refl _, Eq.refl _⟩

section Reads

variable {swallows : Bool} {existing : Finset Nat} {resource : Option Nat} {event : Event}
  {answer : Option (Option Nat)} {id : Nat}

theorem Lookup.quiet (lookup : Lookup swallows existing event answer) : event.quiet = true := by
  cases lookup <;> rfl

theorem Reads.quiet (reads : Reads swallows existing resource event answer) :
    event.quiet = true := by
  cases reads with
  | kept id known => rfl
  | looked unknown lookup => exact lookup.quiet

theorem Lookup.taken (lookup : Lookup swallows existing .swallowed answer) : swallows = true := by
  cases lookup with
  | swallowed taken => exact taken

theorem Reads.taken (reads : Reads swallows existing resource .swallowed answer) :
    swallows = true := by
  cases reads with
  | looked unknown lookup => exact lookup.taken

/-- A lookup removes no test. -/
theorem Reads.silent (reads : Reads swallows existing resource event answer) (testId : String)
    (left : Finset String) : event ≠ .removed testId left := by
  cases reads with
  | kept id known => exact fun impossible => by cases impossible
  | looked unknown lookup => cases lookup <;> exact fun impossible => by cases impossible

theorem Lookup.mem (lookup : Lookup swallows existing event (some (some id))) : id ∈ existing := by
  cases lookup with
  | found id member => exact member

/-- A resource that is read is the one that was kept, or it is there. -/
theorem Reads.mem (reads : Reads swallows existing resource event (some (some id))) :
    resource = some id ∨ id ∈ existing := by
  cases reads with
  | kept id known => exact .inl known
  | looked unknown lookup => exact .inr lookup.mem

/-- Where none is read, there is none, or an error has been taken for that. -/
theorem Reads.absent (reads : Reads swallows existing resource event (some none)) :
    event = .swallowed ∨ existing = ∅ := by
  cases reads with
  | looked unknown lookup =>
      cases lookup with
      | absent empty => exact .inr empty
      | swallowed taken => exact .inl rfl

end Reads

section Change

/-- What the worker keeps it has known before, or it is there. -/
def Kept (worker : Worker) (shared : Shared) (next : Worker) : Prop :=
  ∀ id, next.resource = some id → worker.Knows id ∨ id ∈ shared.existing

/-- What a step changes. -/
inductive Change (worker : Worker) (shared : Shared) : Event → Worker → Shared → Prop
  /-- The step is made outside of the lock and of the deletion. -/
  | plain {event : Event} {next : Worker} {nextShared : Shared} (quiet : event.quiet = true)
      (outside : worker.phase.locked = false) (stays : next.phase.locked = false)
      (apart : next.phase.disposing = false) (kept : Kept worker shared next)
      (same : shared.Same nextShared) (sameLock : nextShared.locked = shared.locked) :
      Change worker shared event next nextShared
  | locks (outside : worker.phase.locked = false) (free : shared.locked = false) :
      Change worker shared .internal (worker.goes .creating) shared.lock
  | unlocks {event : Event} {next : Worker} (quiet : event.quiet = true)
      (inside : worker.phase.locked = true) (leaves : next.phase.locked = false)
      (apart : next.phase.disposing = false) (kept : Kept worker shared next) :
      Change worker shared event next shared.unlock
  /-- No resource is found inside the lock. -/
  | absent {event : Event} (quiet : event.quiet = true) (inside : worker.phase.locked = true)
      (none_ : event = .swallowed ∨ shared.existing = ∅) :
      Change worker shared event ((worker.keeps none).goes .absent) shared
  | creates (absent : worker.phase = .absent) :
      Change worker shared (.created shared.nextId) (worker.goes (.created shared.nextId))
        shared.create
  /-- No test is left. -/
  | disposes {caller : Caller} (outside : worker.phase.locked = false)
      (left : (shared.remove worker.testId).tests = ∅) :
      Change worker shared (.removed worker.testId (shared.remove worker.testId).tests)
        (worker.goes (.deleting caller)) (shared.remove worker.testId)
  | identifies {event : Event} {caller : Caller} {id : Nat} (quiet : event.quiet = true)
      (silent : ∀ testId left, event ≠ .removed testId left)
      (deleting : worker.phase = .deleting caller)
      (known : worker.resource = some id ∨ id ∈ shared.existing) :
      Change worker shared event ((worker.keeps (some id)).goes (.identified caller id)) shared
  | deletes {caller : Caller} {id : Nat} (identified : worker.phase = .identified caller id) :
      Change worker shared (.deleted id) (worker.goes (.deleted caller)) (shared.delete id)

variable {swallows preventCreate raised : Bool} {caller : Caller} {event : Event}
  {worker next : Worker} {shared nextShared : Shared}

theorem Kept.of_eq (same : next.resource = worker.resource) : Kept worker shared next :=
  fun _ known => .inl (.resource (same ▸ known))

theorem Kept.of_none (none_ : next.resource = none) : Kept worker shared next := by
  intro id known
  cases none_.symm.trans known

theorem Kept.of_reads {resource : Option Nat}
    (reads : Reads swallows shared.existing worker.resource event (some resource))
    (same : next.resource = resource) : Kept worker shared next := by
  intro id known
  rw [same] at known
  subst known
  exact reads.mem.imp .resource (fun member => member)

theorem Change.calm (quiet : event.quiet = true) (outside : worker.phase.locked = false)
    (calm : Worker.Calm next.phase) (kept : Kept worker shared next) :
    Change worker shared event next shared :=
  .plain quiet outside calm.locked calm.disposing kept .rfl rfl

/-- A `setUp` that raises outside of the lock. -/
theorem Change.fails (quiet : event.quiet = true) (outside : worker.phase.locked = false) :
    Change worker shared event (worker.beginCleanUp preventCreate caller) shared :=
  .calm quiet outside (Worker.beginCleanUp_calm ..) (.of_eq (Worker.beginCleanUp_resource ..))

/-- A `setUp` that raises inside of it. -/
theorem Change.failsInside (quiet : event.quiet = true) (inside : worker.phase.locked = true) :
    Change worker shared event (worker.beginCleanUp preventCreate caller) shared.unlock :=
  .unlocks quiet inside (Worker.beginCleanUp_calm ..).locked (Worker.beginCleanUp_calm ..).disposing
    (.of_eq (Worker.beginCleanUp_resource ..))

theorem Change.ends (quiet : event.quiet = true) (outside : worker.phase.locked = false) :
    Change worker shared event (worker.endCleanUp raised caller) shared :=
  .calm quiet outside (.inl (Worker.endCleanUp_phase ..)) (.of_eq (Worker.endCleanUp_resource ..))

theorem outside_of_eq {phase : Phase} (place : worker.phase = phase)
    (outside : phase.locked = false) : worker.phase.locked = false :=
  place ▸ outside

theorem Step.change (step : Step swallows event (worker, shared) (next, nextShared)) :
    Change worker shared event next nextShared := by
  cases step with
  | enter _ _ testId idle =>
      exact .calm rfl (outside_of_eq idle rfl) (.inl idle) (.of_eq rfl)
  | leave _ _ idle =>
      exact .plain rfl (outside_of_eq idle rfl) (outside_of_eq idle rfl) (by rw [idle]; rfl)
        (.of_eq rfl) ⟨rfl, rfl⟩ rfl
  | setUpSkips _ _ idle executed =>
      exact .calm rfl (outside_of_eq idle rfl) (.inl idle) (.of_eq rfl)
  | setUpStarts _ _ idle pending =>
      exact .plain rfl (outside_of_eq idle rfl) rfl rfl (.of_eq rfl) .rfl rfl
  | setUpFails _ _ _ settingUp => exact .fails rfl (outside_of_eq settingUp rfl)
  | prevented _ _ _ resource settingUp reads =>
      exact .plain reads.quiet (outside_of_eq settingUp rfl) rfl rfl (.of_reads reads rfl) .rfl rfl
  | preventedRaises _ _ _ settingUp reads =>
      exact .fails reads.quiet (outside_of_eq settingUp rfl)
  | locks _ _ settingUp free => exact .locks (outside_of_eq settingUp rfl) free
  | quotaRaises _ _ _ creating => exact .failsInside rfl (by rw [creating]; rfl)
  | finds _ _ _ id creating reads =>
      exact .unlocks reads.quiet (by rw [creating]; rfl) rfl rfl (.of_reads reads rfl)
  | findsNone _ _ _ creating reads =>
      exact .absent reads.quiet (by rw [creating]; rfl) reads.absent
  | findRaises _ _ _ _ creating reads => exact .failsInside reads.quiet (by rw [creating]; rfl)
  | creates _ _ absent => exact .creates absent
  | creationRaises _ _ _ absent => exact .failsInside rfl (by rw [absent]; rfl)
  | creationReturns _ _ id created =>
      refine .unlocks rfl (by rw [created]; rfl) rfl rfl ?_
      intro other same
      cases same
      exact .inl (.created created)
  | creationFinds _ _ id _ resource created lookup =>
      refine .unlocks lookup.quiet (by rw [created]; rfl) rfl rfl ?_
      intro other same
      have found : resource = some other := same
      subst found
      exact .inr lookup.mem
  | createdRaises _ _ id _ created => exact .failsInside rfl (by rw [created]; rfl)
  | checks _ _ _ id checking reads =>
      exact .plain reads.quiet (outside_of_eq checking rfl) rfl rfl (.of_reads reads rfl) .rfl rfl
  | notFound _ _ _ _ checking reads =>
      exact .calm reads.quiet (outside_of_eq checking rfl) (Worker.beginCleanUp_calm ..)
        (.of_none (Worker.beginCleanUp_resource ..))
  | checkRaises _ _ _ _ checking reads => exact .fails reads.quiet (outside_of_eq checking rfl)
  | registers _ _ registering =>
      exact .plain rfl (outside_of_eq registering rfl) rfl rfl (.of_eq rfl) ⟨rfl, rfl⟩ rfl
  | registrationRaises _ _ _ registering => exact .fails rfl (outside_of_eq registering rfl)
  | setUpReturns _ _ registered =>
      exact .calm rfl (outside_of_eq registered rfl) (.inl rfl) (.of_eq rfl)
  | setUpRaises _ _ _ registered => exact .fails rfl (outside_of_eq registered rfl)
  | cleanUpStarts _ _ _ _ idle => exact .fails rfl (outside_of_eq idle rfl)
  | removes _ _ caller removing =>
      have outside := outside_of_eq removing rfl
      unfold Worker.afterRemoval
      split
      · rename_i left
        exact .disposes outside left
      · exact .plain rfl outside (by rw [Worker.endCleanUp_phase]; rfl)
          (by rw [Worker.endCleanUp_phase]; rfl) (.of_eq (Worker.endCleanUp_resource ..))
          ⟨rfl, rfl⟩ rfl
  | removalRaises _ _ _ removing => exact .ends rfl (outside_of_eq removing rfl)
  | identifies _ _ _ _ id deleting reads =>
      exact .identifies reads.quiet reads.silent deleting reads.mem
  | nothingThere _ _ _ _ deleting reads =>
      exact .calm reads.quiet (outside_of_eq deleting rfl) (.inl (Worker.endCleanUp_phase ..))
        (.of_none (Worker.endCleanUp_resource ..))
  | identificationRaises _ _ _ _ deleting reads =>
      exact .ends reads.quiet (outside_of_eq deleting rfl)
  | deletes _ _ _ id identified => exact .deletes identified
  | deletionFails _ _ _ id identified => exact .ends rfl (outside_of_eq identified rfl)
  | deletionReturns _ _ _ deleted =>
      exact .calm rfl (outside_of_eq deleted rfl) (.inl (Worker.endCleanUp_phase ..))
        (.of_none (Worker.endCleanUp_resource ..))
  | deletionRaises _ _ _ deleted => exact .ends rfl (outside_of_eq deleted rfl)

/-! ### The worker that steps -/

theorem Worker.Sound.init (testId : String) : (Worker.init testId).Sound where
  executed impossible := by cases impossible
  insideSetUp impossible := by cases impossible
  checked impossible := by cases impossible

theorem Worker.Sound.calm (sound : worker.Sound) (calm : Worker.Calm next.phase)
    (kept : next.setupExecuted = true → worker.setupExecuted = true ∧
      next.resource = worker.resource) : next.Sound where
  executed isSetUp := by
    obtain ⟨executed, same⟩ := kept isSetUp
    rw [same]
    exact sound.executed executed
  insideSetUp impossible := by
    rw [calm.insideSetUp] at impossible
    cases impossible
  checked impossible := by
    rcases calm with idle | ⟨caller, removing⟩
    · rw [idle] at impossible
      cases impossible
    · rw [removing] at impossible
      cases impossible

theorem Worker.Sound.ends (sound : worker.Sound) : (worker.endCleanUp raised caller).Sound :=
  sound.calm (.inl (Worker.endCleanUp_phase ..)) fun executed =>
    ⟨(Worker.endCleanUp_setupExecuted _ _ _ executed).2, Worker.endCleanUp_resource ..⟩

theorem Worker.Sound.fails (sound : worker.Sound) :
    (worker.beginCleanUp preventCreate caller).Sound :=
  sound.calm (Worker.beginCleanUp_calm ..) fun executed =>
    ⟨Worker.beginCleanUp_setupExecuted _ _ _ executed, Worker.beginCleanUp_resource ..⟩

/-- Inside `setUp` the worker may keep another resource, or none. -/
theorem Worker.Sound.reads (pending : worker.setupExecuted = false) {phase : Phase}
    {resource : Option Nat} (checked : phase.checked = true → resource.isSome) :
    ((worker.keeps resource).goes phase).Sound where
  executed executed := by
    have same : worker.setupExecuted = true := executed
    rw [pending] at same
    cases same
  insideSetUp _ := pending
  checked := checked

theorem Worker.Sound.goes (sound : worker.Sound) {phase : Phase}
    (inside : phase.insideSetUp = true → worker.setupExecuted = false)
    (checked : phase.checked = true → worker.resource.isSome) : (worker.goes phase).Sound where
  executed := sound.executed
  insideSetUp := inside
  checked := checked

theorem Step.sound (step : Step swallows event (worker, shared) (next, nextShared))
    (sound : worker.Sound) : next.Sound := by
  have pending {phase : Phase} (place : worker.phase = phase) (inside : phase.insideSetUp = true) :
      worker.setupExecuted = false :=
    sound.insideSetUp (place ▸ inside)
  cases step with
  | enter => exact ⟨sound.executed, sound.insideSetUp, sound.checked⟩
  | leave => exact sound
  | setUpSkips => exact sound
  | setUpStarts _ _ idle pending => exact sound.goes (fun _ => pending) fun no => by cases no
  | setUpFails => exact sound.fails
  | prevented _ _ _ resource settingUp reads =>
      exact .reads (pending settingUp rfl) fun no => by cases no
  | preventedRaises => exact sound.fails
  | locks _ _ settingUp free =>
      exact sound.goes (fun _ => pending settingUp rfl) fun no => by cases no
  | quotaRaises => exact sound.fails
  | finds _ _ _ id creating reads => exact .reads (pending creating rfl) fun no => by cases no
  | findsNone _ _ _ creating reads => exact .reads (pending creating rfl) fun no => by cases no
  | findRaises => exact sound.fails
  | creates _ _ absent => exact sound.goes (fun _ => pending absent rfl) fun no => by cases no
  | creationRaises => exact sound.fails
  | creationReturns _ _ id created => exact .reads (pending created rfl) fun no => by cases no
  | creationFinds _ _ id _ resource created lookup =>
      exact .reads (pending created rfl) fun no => by cases no
  | createdRaises => exact sound.fails
  | checks _ _ _ id checking reads => exact .reads (pending checking rfl) fun _ => rfl
  | notFound _ _ _ _ checking reads =>
      have unread : ((worker.keeps none).goes .checking).Sound :=
        .reads (pending checking rfl) fun no => by cases no
      have same : worker.keeps none = (worker.keeps none).goes .checking := by
        rw [← checking]
        rfl
      rw [same]
      exact unread.fails
  | checkRaises => exact sound.fails
  | registers _ _ registering =>
      exact sound.goes (fun _ => pending registering rfl) fun _ =>
        sound.checked (by rw [registering]; rfl)
  | registrationRaises => exact sound.fails
  | setUpReturns _ _ registered =>
      have checked : worker.resource.isSome := sound.checked (by rw [registered]; rfl)
      exact ⟨fun _ => checked, fun no => (by cases no), fun no => (by cases no)⟩
  | setUpRaises => exact sound.fails
  | cleanUpStarts => exact sound.fails
  | removes _ _ caller removing =>
      unfold Worker.afterRemoval
      split
      · exact sound.goes (fun no => by cases no) fun no => by cases no
      · exact sound.ends
  | removalRaises => exact sound.ends
  | identifies => exact ⟨fun _ => rfl, fun no => (by cases no), fun no => (by cases no)⟩
  | nothingThere _ _ caller =>
      refine sound.calm (.inl (Worker.endCleanUp_phase ..)) fun executed => ?_
      cases (Worker.endCleanUp_setupExecuted _ _ _ executed).1
  | identificationRaises => exact sound.ends
  | deletes => exact sound.goes (fun no => by cases no) fun no => by cases no
  | deletionFails => exact sound.ends
  | deletionReturns _ _ caller =>
      refine sound.calm (.inl (Worker.endCleanUp_phase ..)) fun executed => ?_
      cases (Worker.endCleanUp_setupExecuted _ _ _ executed).1
  | deletionRaises => exact sound.ends

/-- An error is taken for the absence of the resource only where the class does so. -/
theorem Step.taken (step : Step swallows .swallowed (worker, shared) (next, nextShared)) :
    swallows = true := by
  cases step with
  | prevented _ _ _ _ _ reads => exact reads.taken
  | preventedRaises _ _ _ _ reads => exact reads.taken
  | finds _ _ _ _ _ reads => exact reads.taken
  | findsNone _ _ _ _ reads => exact reads.taken
  | findRaises _ _ _ _ _ reads => exact reads.taken
  | creationFinds _ _ _ _ _ _ lookup => cases lookup.taken
  | checks _ _ _ _ _ reads => exact reads.taken
  | notFound _ _ _ _ _ reads => exact reads.taken
  | checkRaises _ _ _ _ _ reads => exact reads.taken
  | identifies _ _ _ _ _ _ reads => exact reads.taken
  | nothingThere _ _ _ _ _ reads => exact reads.taken
  | identificationRaises _ _ _ _ _ reads => exact reads.taken

end Change

/-! ### All workers -/

section Runs

variable {Name : Type}

/-- How many errors have been taken for the absence of the resource. -/
def swallowedCount (history : History Name) : Nat :=
  history.countP fun entry => entry.2 = .swallowed

theorem swallowedCount_le (name : Name) (event : Event) (history : History Name) :
    swallowedCount history ≤ swallowedCount ((name, event) :: history) := by
  unfold swallowedCount
  rw [List.countP_cons]
  exact Nat.le_add_right _ _

theorem swallowedCount_swallowed (name : Name) (history : History Name) :
    swallowedCount ((name, .swallowed) :: history) = swallowedCount history + 1 := by
  simp [swallowedCount]

/-- The resource is there, or a worker has deleted it. -/
def Accounted (shared : Shared) (history : History Name) (id : Nat) : Prop :=
  id < shared.nextId ∧ (id ∈ shared.existing ∨ ∃ deleter, (deleter, .deleted id) ∈ history)

theorem Accounted.there {shared : Shared} {history : History Name} {id : Nat}
    (member : id ∈ shared.existing) : Accounted shared history id :=
  ⟨shared.fresh id member, .inl member⟩

/-- A step accounts for the resources that have been accounted for. -/
theorem Change.accounted {worker next : Worker} {shared nextShared : Shared} {event : Event}
    {history : History Name} (change : Change worker shared event next nextShared) (name : Name)
    {id : Nat} (accounted : Accounted shared history id) :
    Accounted nextShared ((name, event) :: history) id := by
  obtain ⟨below, there⟩ := accounted
  have later : (∃ deleter, (deleter, Event.deleted id) ∈ history) →
      ∃ deleter, (deleter, Event.deleted id) ∈ (name, event) :: history :=
    fun ⟨deleter, deleted⟩ => ⟨deleter, List.mem_cons_of_mem _ deleted⟩
  cases change with
  | plain quiet outside stays apart kept same sameLock =>
      unfold Accounted
      rw [same.existing, same.nextId]
      exact ⟨below, there.imp_right later⟩
  | locks outside free => exact ⟨below, there.imp_right later⟩
  | unlocks quiet inside leaves apart kept => exact ⟨below, there.imp_right later⟩
  | absent quiet inside none_ => exact ⟨below, there.imp_right later⟩
  | creates absent =>
      exact ⟨Nat.lt_succ_of_lt below, there.imp Finset.mem_insert_of_mem later⟩
  | disposes outside left => exact ⟨below, there.imp_right later⟩
  | identifies quiet silent deleting known => exact ⟨below, there.imp_right later⟩
  | @deletes caller gone identified =>
      refine ⟨below, ?_⟩
      by_cases same : id = gone
      · subst same
        exact .inr ⟨name, List.mem_cons_self⟩
      · exact there.imp (fun member => Finset.mem_erase.mpr ⟨same, member⟩) later

variable [DecidableEq Name]

/-- What is left of the tests after the last removal of a worker. -/
def lastRemoval (name : Name) : History Name → Option (Finset String)
  | [] => none
  | (other, .removed _ left) :: before =>
      if other = name then some left else lastRemoval name before
  | _ :: before => lastRemoval name before

/-- A worker asks for a deletion behind a removal that has left no test. -/
def DeletesUnused (history : History Name) : Prop :=
  Workers.InOrder (fun before name event => ∀ id, event = .deleted id →
    lastRemoval name before = some ∅) history

/-- What holds in every state that is reached. -/
structure Sound (state : State Name) : Prop where
  worker : ∀ name, (state.workers name).Sound
  locked : ∀ name, (state.workers name).phase.locked = true → state.shared.locked = true
  alone : ∀ name other, (state.workers name).phase.locked = true →
    (state.workers other).phase.locked = true → name = other
  bound : state.shared.existing.card ≤ 1 + swallowedCount state.history
  absent : ∀ name, (state.workers name).phase = .absent →
    state.shared.existing.card ≤ swallowedCount state.history
  known : ∀ name id, (state.workers name).Knows id → Accounted state.shared state.history id
  unused : ∀ name, (state.workers name).phase.disposing = true →
    lastRemoval name state.history = some ∅

theorem Sound.start (tests : Name → String) {shared : Shared} (unique : shared.existing.card ≤ 1) :
    Sound (Workers.State.start (fun name => Worker.init (tests name)) shared : State Name) where
  worker name := .init (tests name)
  locked _ impossible := by cases impossible
  alone _ _ impossible := by cases impossible
  bound := unique
  absent _ impossible := by cases impossible
  known _ _ knows := by
    cases knows with
    | resource kept => cases kept
    | created new => cases new
    | identified caller found => cases found
  unused _ impossible := by cases impossible

section Moved

variable {swallows : Bool} {state : State Name} {name : Name} {event : Event} {worker : Worker}
  {shared : Shared}

theorem lastRemoval_other {other : Name} {history : History Name} (different : name ≠ other) :
    lastRemoval other ((name, event) :: history) = lastRemoval other history := by
  cases event with
  | removed testId left => exact if_neg different
  | _ => rfl

theorem lastRemoval_silent {history : History Name}
    (silent : ∀ testId left, event ≠ .removed testId left) (other : Name) :
    lastRemoval other ((name, event) :: history) = lastRemoval other history := by
  cases event with
  | removed testId left => exact absurd rfl (silent testId left)
  | _ => rfl

/-- No other worker is inside the lock with one that is. -/
theorem Sound.others_outside (sound : Sound state)
    (inside : (state.workers name).phase.locked = true) {other : Name} (different : other ≠ name) : (state.workers other).phase.locked = false := by
  by_contra locked
  exact different (sound.alone other name (Bool.not_eq_false _ ▸ locked) inside)

/-- The lock behind a step. -/
structure LockKept (state : State Name) (name : Name) (worker : Worker) (shared : Shared) :
    Prop where
  own : worker.phase.locked = true → shared.locked = true ∧
    ∀ other, other ≠ name → (state.workers other).phase.locked = false
  others : ∀ other, other ≠ name → (state.workers other).phase.locked = true → shared.locked = true

theorem Change.lockKept (change : Change (state.workers name) state.shared event worker shared)
    (sound : Sound state) : LockKept state name worker shared := by
  have outsideOthers (outside : (state.workers name).phase.locked = true) (other : Name)
      (different : other ≠ name) : (state.workers other).phase.locked = false :=
    sound.others_outside outside different
  cases change with
  | plain quiet outside stays apart kept same sameLock =>
      refine ⟨fun impossible => ?_, fun other _ locked => sameLock ▸ sound.locked other locked⟩
      rw [stays] at impossible
      cases impossible
  | locks outside free =>
      refine ⟨fun _ => ⟨rfl, fun other _ => ?_⟩, fun _ _ _ => rfl⟩
      by_contra locked
      have held := sound.locked other (Bool.not_eq_false _ ▸ locked)
      rw [free] at held
      cases held
  | unlocks quiet inside leaves apart kept =>
      refine ⟨fun impossible => ?_, fun other different locked => ?_⟩
      · rw [leaves] at impossible
        cases impossible
      · rw [outsideOthers inside other different] at locked
        cases locked
  | absent quiet inside none_ =>
      exact ⟨fun _ => ⟨sound.locked name inside, outsideOthers inside⟩,
        fun other _ locked => sound.locked other locked⟩
  | creates absent =>
      have inside : (state.workers name).phase.locked = true := by
        rw [absent]
        rfl
      exact ⟨fun _ => ⟨sound.locked name inside, outsideOthers inside⟩,
        fun other _ locked => sound.locked other locked⟩
  | disposes outside left =>
      exact ⟨fun no => (by cases no), fun other _ locked => sound.locked other locked⟩
  | identifies quiet silent deleting known =>
      exact ⟨fun no => (by cases no), fun other _ locked => sound.locked other locked⟩
  | deletes identified =>
      exact ⟨fun no => (by cases no), fun other _ locked => sound.locked other locked⟩

/-- The number of resources behind a step, and behind a step that leaves its worker without one. -/
theorem Change.bound (change : Change (state.workers name) state.shared event worker shared)
    (sound : Sound state) :
    shared.existing.card ≤ 1 + swallowedCount ((name, event) :: state.history) ∧
      (worker.phase = .absent →
        shared.existing.card ≤ swallowedCount ((name, event) :: state.history)) := by
  have more := swallowedCount_le name event state.history
  have before := sound.bound
  cases change with
  | plain quiet outside stays apart kept same sameLock =>
      refine ⟨by rw [same.existing]; omega, fun impossible => ?_⟩
      rw [impossible] at stays
      cases stays
  | locks outside free => exact ⟨Nat.le_trans before (by omega), fun no => by cases no⟩
  | unlocks quiet inside leaves apart kept =>
      refine ⟨Nat.le_trans before (by omega), fun impossible => ?_⟩
      rw [impossible] at leaves
      cases leaves
  | absent quiet inside none_ =>
      have few : state.shared.existing.card ≤ swallowedCount ((name, event) :: state.history) := by
        rcases none_ with rfl | empty
        · rw [swallowedCount_swallowed]
          omega
        · rw [empty]
          exact Nat.zero_le _
      exact ⟨by omega, fun _ => few⟩
  | creates absent =>
      refine ⟨?_, fun no => by cases no⟩
      have few := sound.absent name absent
      have one := Finset.card_insert_le state.shared.nextId state.shared.existing
      show (insert state.shared.nextId state.shared.existing).card ≤ _
      omega
  | disposes outside left => exact ⟨Nat.le_trans before (by omega), fun no => by cases no⟩
  | identifies quiet silent deleting known =>
      exact ⟨Nat.le_trans before (by omega), fun no => by cases no⟩
  | @deletes caller id identified =>
      refine ⟨?_, fun no => by cases no⟩
      have fewer : (state.shared.existing.erase id).card ≤ state.shared.existing.card :=
        Finset.card_erase_le
      show (state.shared.existing.erase id).card ≤ _
      omega

/-- No resource is created while another worker has found none. -/
theorem Change.others_absent (change : Change (state.workers name) state.shared event worker shared)
    (sound : Sound state) {other : Name} (different : other ≠ name)
    (absent : (state.workers other).phase = .absent) :
    shared.existing.card ≤ swallowedCount ((name, event) :: state.history) := by
  have few := sound.absent other absent
  have more := swallowedCount_le name event state.history
  cases change with
  | plain quiet outside stays apart kept same sameLock =>
      rw [same.existing]
      omega
  | locks outside free => exact Nat.le_trans few more
  | unlocks quiet inside leaves apart kept => exact Nat.le_trans few more
  | absent quiet inside none_ => exact Nat.le_trans few more
  | creates creating =>
      have inside : (state.workers name).phase.locked = true := by
        rw [creating]
        rfl
      have outside := sound.others_outside inside different
      rw [absent] at outside
      cases outside
  | disposes outside left => exact Nat.le_trans few more
  | identifies quiet silent deleting known => exact Nat.le_trans few more
  | @deletes caller id identified =>
      have fewer : (state.shared.existing.erase id).card ≤ state.shared.existing.card :=
        Finset.card_erase_le
      exact Nat.le_trans fewer (Nat.le_trans few more)

/-- What a worker keeps after a step is accounted for before it, but for a new resource. -/
theorem Change.knows (change : Change (state.workers name) state.shared event worker shared)
    (sound : Sound state) {id : Nat} (knows : worker.Knows id) :
    Accounted state.shared state.history id ∨ event = .created id := by
  have accounted (kept : (state.workers name).Knows id) :
      Accounted state.shared state.history id := sound.known name id kept
  have ofKept (kept : Kept (state.workers name) state.shared worker)
      (stays : worker.phase.locked = false) (apart : worker.phase.disposing = false) :
      Accounted state.shared state.history id := by
    cases knows with
    | resource known => exact (kept id known).elim accounted .there
    | created new =>
        rw [new] at stays
        cases stays
    | identified caller found =>
        rw [found] at apart
        cases apart
  cases change with
  | plain quiet outside stays apart kept same sameLock => exact .inl (ofKept kept stays apart)
  | locks outside free =>
      cases knows with
      | resource known => exact .inl (accounted (.resource known))
      | created new => cases new
      | identified caller found => cases found
  | unlocks quiet inside leaves apart kept => exact .inl (ofKept kept leaves apart)
  | absent quiet inside none_ =>
      cases knows with
      | resource known => cases known
      | created new => cases new
      | identified caller found => cases found
  | creates absent =>
      cases knows with
      | resource known => exact .inl (accounted (.resource known))
      | created new =>
          cases new
          exact .inr rfl
      | identified caller found => cases found
  | disposes outside left =>
      cases knows with
      | resource known => exact .inl (accounted (.resource known))
      | created new => cases new
      | identified caller found => cases found
  | identifies quiet silent deleting known =>
      cases knows with
      | resource same =>
          cases same
          exact .inl (known.elim (fun kept => accounted (.resource kept)) .there)
      | created new => cases new
      | identified caller found =>
          cases found
          exact .inl (known.elim (fun kept => accounted (.resource kept)) .there)
  | deletes identified =>
      cases knows with
      | resource known => exact .inl (accounted (.resource known))
      | created new => cases new
      | identified caller found => cases found

/-- A worker that disposes of the resource has seen that no test is left. -/
theorem Change.unused (change : Change (state.workers name) state.shared event worker shared)
    (sound : Sound state) (disposing : worker.phase.disposing = true) :
    lastRemoval name ((name, event) :: state.history) = some ∅ := by
  have before (same : (state.workers name).phase.disposing = true) :
      lastRemoval name state.history = some ∅ := sound.unused name same
  cases change with
  | plain quiet outside stays apart kept same sameLock =>
      rw [apart] at disposing
      cases disposing
  | locks outside free => cases disposing
  | unlocks quiet inside leaves apart kept =>
      rw [apart] at disposing
      cases disposing
  | absent quiet inside none_ => cases disposing
  | creates absent => cases disposing
  | disposes outside left => exact (if_pos rfl).trans (congrArg some left)
  | identifies quiet silent deleting known =>
      rw [lastRemoval_silent silent]
      exact before (by rw [deleting]; rfl)
  | deletes identified => exact before (by rw [identified]; rfl)

/-- What holds of all workers is kept by the step of one. -/
theorem Sound.moved (sound : Sound state)
    (step : Step swallows event (state.workers name, state.shared) (worker, shared)) :
    Sound (state.moved name event worker shared) := by
  have change := step.change
  have lock := change.lockKept sound
  have bound := change.bound sound
  constructor
  · exact Workers.forall_moved _ (step.sound (sound.worker name)) fun other _ => sound.worker other
  · apply Workers.forall_moved fun _ (moved : Worker) => moved.phase.locked = true →
      shared.locked = true
    · exact fun locked => (lock.own locked).1
    · exact lock.others
  · intro left right leftLocked rightLocked
    by_cases leftMoves : left = name
    · by_contra different
      rw [leftMoves, Workers.moved_self] at leftLocked
      have rightStays : right ≠ name := fun same => different (leftMoves.trans same.symm)
      rw [Workers.moved_other rightStays, (lock.own leftLocked).2 right rightStays] at rightLocked
      cases rightLocked
    · rw [Workers.moved_other leftMoves] at leftLocked
      by_cases rightMoves : right = name
      · rw [rightMoves, Workers.moved_self] at rightLocked
        rw [(lock.own rightLocked).2 left leftMoves] at leftLocked
        cases leftLocked
      · rw [Workers.moved_other rightMoves] at rightLocked
        exact sound.alone left right leftLocked rightLocked
  · exact bound.1
  · apply Workers.forall_moved fun _ (moved : Worker) => moved.phase = .absent →
      shared.existing.card ≤ swallowedCount ((name, event) :: state.history)
    · exact bound.2
    · exact fun other different absent => change.others_absent sound different absent
  · apply Workers.forall_moved fun _ (moved : Worker) => ∀ id, moved.Knows id →
      Accounted shared ((name, event) :: state.history) id
    · intro id knows
      rcases change.knows sound knows with accounted | rfl
      · exact change.accounted name accounted
      · cases change with
        | plain quiet => cases quiet
        | unlocks quiet => cases quiet
        | absent quiet => cases quiet
        | identifies quiet => cases quiet
        | creates absent => exact .there (Finset.mem_insert_self _ _)
    · exact fun other _ id knows => change.accounted name (sound.known other id knows)
  · apply Workers.forall_moved fun other (moved : Worker) => moved.phase.disposing = true →
      lastRemoval other ((name, event) :: state.history) = some ∅
    · exact change.unused sound
    · intro other different disposing
      rw [lastRemoval_other different.symm]
      exact sound.unused other disposing

end Moved

/-! ### All runs -/

/-- What a run has made of the resource. -/
structure Shares (state : State Name) : Prop where
  bound : state.shared.existing.card ≤ 1 + swallowedCount state.history
  kept : ∀ name, (state.workers name).setupExecuted = true → ∃ id,
    (state.workers name).resource = some id ∧ Accounted state.shared state.history id
  agree : swallowedCount state.history = 0 → ∀ name other,
    (state.workers name).setupExecuted = true → (state.workers other).setupExecuted = true →
    (state.workers name).resource = (state.workers other).resource ∨
      ∃ id deleter, (deleter, .deleted id) ∈ state.history ∧
        ((state.workers name).resource = some id ∨ (state.workers other).resource = some id)
  unused : DeletesUnused state.history

variable {swallows : Bool} {tests : Name → String} {shared : Shared} {state : State Name}

theorem Reaches.sound (unique : shared.existing.card ≤ 1)
    (reaches : Reaches swallows tests shared state) : Sound state :=
  Workers.Reachable.invariant reaches (Sound.start tests unique)
    fun _ _ _ _ _ sound _ step => sound.moved step

theorem Reaches.unswallowed (reaches : Reaches false tests shared state) :
    swallowedCount state.history = 0 := by
  apply Workers.Reachable.invariant reaches
  · rfl
  · intro before name event worker after none_ _ step
    have other : event ≠ .swallowed := by
      rintro rfl
      cases step.taken
    show swallowedCount ((name, event) :: before.history) = 0
    unfold swallowedCount at none_ ⊢
    rw [List.countP_cons, none_]
    simp [other]

/-- A worker whose set up has been executed keeps a resource. -/
theorem Sound.kept (sound : Sound state) (name : Name)
    (executed : (state.workers name).setupExecuted = true) : ∃ id,
      (state.workers name).resource = some id ∧ Accounted state.shared state.history id := by
  obtain ⟨id, kept⟩ := Option.isSome_iff_exists.mp ((sound.worker name).executed executed)
  exact ⟨id, kept, sound.known name id (.resource kept)⟩

/-- Two of them keep the same one, or a deleted one. -/
theorem Sound.agree (sound : Sound state) (none_ : swallowedCount state.history = 0)
    {name other : Name} (executed : (state.workers name).setupExecuted = true)
    (otherExecuted : (state.workers other).setupExecuted = true) :
    (state.workers name).resource = (state.workers other).resource ∨
      ∃ id deleter, (deleter, .deleted id) ∈ state.history ∧
        ((state.workers name).resource = some id ∨ (state.workers other).resource = some id) := by
  obtain ⟨id, own, -, there⟩ := sound.kept name executed
  obtain ⟨otherId, others, -, otherThere⟩ := sound.kept other otherExecuted
  rcases there with there | ⟨deleter, deleted⟩
  · rcases otherThere with otherThere | ⟨deleter, deleted⟩
    · have one := sound.bound
      rw [none_] at one
      have same : id = otherId := Finset.card_le_one.mp one id there otherId otherThere
      exact .inl (by rw [own, others, same])
    · exact .inr ⟨otherId, deleter, deleted, .inr others⟩
  · exact .inr ⟨id, deleter, deleted, .inl own⟩

/-- **The shared resource.** In every interleaving of the workers, whatever raises, there is one
resource of the name at most, but for one more for each error that has been taken for its absence;
where the class names the exceptions that stand for it there is no such error. A worker whose set up
has been executed keeps a resource that is there, or that a worker has deleted; without such errors
the workers keep the same one as long as it is there. A worker deletes only behind its own removal
that has left no test. -/
theorem resource_shared (unique : shared.existing.card ≤ 1)
    (reaches : Reaches swallows tests shared state) :
    Shares state ∧ (swallows = false → swallowedCount state.history = 0) := by
  have sound := reaches.sound unique
  constructor
  · refine ⟨sound.bound, sound.kept, fun none_ _ _ => sound.agree none_, ?_⟩
    unfold DeletesUnused
    refine Workers.Reachable.inOrder reaches rfl (fun _ earlier => Reaches.sound unique earlier) ?_
    rintro before name event worker after sound _ step id rfl
    cases step.change with
    | plain quiet => cases quiet
    | unlocks quiet => cases quiet
    | absent quiet => cases quiet
    | identifies quiet => cases quiet
    | deletes identified => exact sound.unused name (by rw [identified]; rfl)
  · rintro rfl
    exact reaches.unswallowed

/-- No resource has been created yet. -/
def nothingShared : Shared :=
  ⟨∅, 0, false, ∅, fun _ member => absurd member (Finset.notMem_empty _)⟩

/-- A worker sets the resource up. -/
theorem resource_shared_setUp : ∃ state : State Bool,
    Reaches false (fun _ => "test") nothingShared state ∧ Shares state ∧
      (state.workers true).resource = some 0 ∧ state.shared.existing = {0} ∧
      state.shared.tests = {"test"} := by
  have start : Reaches false (fun _ : Bool => "test") nothingShared
      (Workers.State.start (fun _ => Worker.init "test") nothingShared) := .refl
  have starts := start.next true (.setUpStarts _ _ rfl rfl) trivial
  have locks := starts.next true (.locks _ _ rfl rfl) trivial
  have finds := locks.next true (.findsNone _ _ _ rfl (.looked rfl (.absent rfl))) trivial
  have creates := finds.next true (.creates _ _ rfl) trivial
  have returns := creates.next true (.creationReturns _ _ 0 rfl) trivial
  have checks := returns.next true (.checks _ _ _ 0 rfl (.kept 0 rfl)) trivial
  have registers := checks.next true (.registers _ _ rfl) trivial
  have ended := registers.next true (.setUpReturns _ _ rfl) trivial
  exact ⟨_, ended, (resource_shared (by decide) ended).1, rfl, rfl, rfl⟩

end Runs

end Tobiko.Openstack.Base
