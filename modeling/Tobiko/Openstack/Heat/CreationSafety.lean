import Tobiko.Openstack.Heat.StackCreation

/-!
Contract: what is known when `try_create_stack` creates a stack and when it returns one.

Owns: the course of the requests of a call, what the cached stack has to do with the last
answer of the server, what each function ensures of both, and the safety of the whole.

Does not own: what becomes of a stack after it was observed.
-/

namespace Tobiko.Openstack.Heat.Creation

open Tobiko.Common Tobiko.Common.Time Tobiko.Foundation

/-! ### Courses -/

/-- The stack that the last answer of the server told of, or else the cached one. -/
def observed (cached : Option Stack) (events : List Event) : Option Stack :=
  events.foldl (fun last event => match event with
    | .got answer => answer
    | _ => last) cached

@[simp] theorem observed_got {cached answer : Option Stack} {events : List Event} :
    observed cached (events ++ [.got answer]) = answer := by
  simp [observed]

@[simp] theorem observed_deleteSent {cached : Option Stack} {events : List Event} {id : String} :
    observed cached (events ++ [.deleteSent id]) = observed cached events := by
  simp [observed]

@[simp] theorem observed_prepares {cached : Option Stack} {events : List Event} :
    observed cached (events ++ [.prepares]) = observed cached events := by
  simp [observed]

@[simp] theorem observed_createSent {cached : Option Stack} {events : List Event} :
    observed cached (events ++ [.createSent]) = observed cached events := by
  simp [observed]

/-- What a property of the events so far survives: answers and deletions. -/
structure Lasting (allowed : List Event → Prop) : Prop where
  got : ∀ events answer, allowed events → allowed (events ++ [.got answer])
  deleteSent : ∀ events id, allowed events → allowed (events ++ [.deleteSent id])

section Course

variable {World : Type}

/-- Since the call started, with a cached stack and a log, the events are allowed, and a
stack that is cached now is the last one that was observed. -/
structure Course (start : HeatState World) (allowed : List Event → Prop)
    (events : List Event) (state : HeatState World) : Prop where
  log : state.log = start.log ++ events
  allowed : allowed events
  stack : state.stack = none ∨ state.stack = observed start.stack events

def During (start : HeatState World) (allowed : List Event → Prop) (state : HeatState World) :
    Prop :=
  ∃ events, Course start allowed events state

/-- The last answer is cached; when there is no stack the server has just said so. -/
def Answered (start : HeatState World) (allowed : List Event → Prop) (answer : Option Stack)
    (state : HeatState World) : Prop :=
  ∃ events, Course start allowed events state ∧ state.stack = answer ∧
    observed start.stack events = answer ∧
    (answer = none → ∃ waits, events = waits ++ [.got none])

/-- What is raised is not the failure of an assertion. -/
def Failing (start : HeatState World) (allowed : List Event → Prop) (error : HeatError)
    (state : HeatState World) : Prop :=
  error ≠ .assertion ∧ During start allowed state

variable {start : HeatState World} {allowed : List Event → Prop} {heat : Environment World}

theorem Answered.during {answer : Option Stack} {state : HeatState World}
    (answered : Answered start allowed answer state) : During start allowed state :=
  ⟨answered.choose, answered.choose_spec.1⟩

theorem during_start (nothing : allowed []) : During start allowed start :=
  ⟨[], by simp, nothing, .inr rfl⟩

/-- Only the world has changed. -/
theorem Course.ofWorld {events : List Event} {state : HeatState World}
    (course : Course start allowed events state) (world : World) :
    Course start allowed events { state with world } :=
  ⟨course.log, course.allowed, course.stack⟩

theorem untimed_during : Retry.Untimed heat.stateClock (During start allowed) where
  time := fun _ ⟨events, course⟩ => ⟨events, course.ofWorld _⟩
  sleep := fun _ _ ⟨events, course⟩ => ⟨events, course.ofWorld _⟩

/-! ### Requests -/

theorem ask_ensures {Answer : Type} {request : World → Answer × World}
    {raises : HeatError → HeatState World → Prop} :
    Effect.Ensures (During start allowed) (Environment.ask request)
      (fun _ => During start allowed) raises :=
  Effect.ensures_update fun _ ⟨events, course⟩ => ⟨events, course.ofWorld _⟩

theorem getStack_ensures (lasting : Lasting allowed) :
    Effect.Ensures (During start allowed) heat.getStack (Answered start allowed)
      (Failing start allowed) := by
  refine Effect.ensures_bind _ ask_ensures fun answer => ?_
  cases answer with
  | none => exact Effect.ensures_raise fun _ during => ⟨by simp, during⟩
  | some answer =>
      refine Effect.ensures_bind (fun _ => Answered start allowed answer)
        (Effect.ensures_modify ?_) fun _ => Effect.ensures_pure fun _ answered => answered
      rintro state ⟨events, course⟩
      refine ⟨events ++ [.got answer], ⟨?_, lasting.got _ _ course.allowed, ?_⟩, rfl, ?_, ?_⟩
      · simp [course.log]
      · simp
      · simp
      · rintro rfl
        exact ⟨events, rfl⟩

theorem deleteStack_ensures
    (lasting : ∀ events id, allowed events → allowed (events ++ [.deleteSent id])) (id : String) :
    Effect.Ensures (During start allowed) (heat.deleteStack id) (fun _ => During start allowed)
      (Failing start allowed) := by
  refine Effect.ensures_bind (fun _ => During start allowed) (Effect.ensures_modify ?_)
    fun _ => Effect.ensures_bind _ ask_ensures fun answer => ?_
  · rintro state ⟨events, course⟩
    refine ⟨events ++ [.deleteSent (if id = "" then heat.stackName else id)], ?_,
      lasting _ _ course.allowed, .inl rfl⟩
    simp [course.log]
  · cases answer with
    | deleted => exact Effect.ensures_pure fun _ during => during
    | notFound => exact Effect.ensures_pure fun _ during => during
    | raises => exact Effect.ensures_raise fun _ during => ⟨by simp, during⟩

/-! ### Waiting -/

theorem cachedStack_ensures (lasting : Lasting allowed) (cached : Bool) :
    Effect.Ensures (During start allowed) (heat.cachedStack cached) (Answered start allowed)
      (Failing start allowed) := by
  refine Effect.ensures_bind (fun read state => During start allowed state ∧ read = state)
    (Effect.ensures_get fun _ during => ⟨during, rfl⟩) fun read => ?_
  split
  · rename_i stack kept
    refine Effect.ensures_pure ?_
    rintro state ⟨⟨events, course⟩, rfl⟩
    have seen := course.stack.resolve_left (by simp [kept])
    exact ⟨events, course, kept, seen.symm.trans kept, by simp⟩
  · exact (getStack_ensures lasting).mono (fun _ during => during.1) (fun _ _ same => same)
      fun _ _ same => same

/-- What the loop of `wait_for_stack_status` leaves with. -/
theorem waitBody_ensures (lasting : Lasting allowed) (expected : List String)
    (attempt : RetryAttempt) (cached : Bool) :
    Effect.Ensures (During start allowed) (heat.waitBody expected attempt cached)
      (Retry.Turn.Holds (fun _ => During start allowed) (Answered start allowed))
      (Failing start allowed) := by
  refine Effect.ensures_bind _ (cachedStack_ensures lasting cached) fun stack => ?_
  have leaves : Effect.Ensures (Answered start allowed stack)
      (pure (.leave stack) : Effect HeatError (HeatState World) (Retry.Turn Bool (Option Stack)))
      (Retry.Turn.Holds (fun _ => During start allowed) (Answered start allowed))
      (Failing start allowed) := Effect.ensures_pure fun _ answered => answered
  dsimp only
  split
  · exact leaves
  · split
    · exact leaves
    · split
      · exact leaves
      · exact Effect.ensures_pure fun _ answered => answered.during

/-- The check passes only for what is expected. -/
theorem checkStack_ok {expected : List String} {stack : Option Stack}
    (passed : Environment.checkStack expected stack = .ok ()) :
    (stack = none → deleteComplete ∈ expected) ∧
      ∀ found, stack = some found → found.status ∈ expected := by
  cases stack with
  | none =>
      refine ⟨fun _ => ?_, fun found same => by cases same⟩
      by_contra absent
      simp [Environment.checkStack, absent] at passed
  | some stack =>
      refine ⟨fun same => (by cases same), fun found same => ?_⟩
      cases same
      by_contra absent
      simp only [Environment.checkStack, checkStackStatus, absent, if_false] at passed
      split at passed
      · cases passed
      · split at passed
        · cases passed
        · cases passed

theorem checkStackStatus_error {stack : Stack} {expected : List String} {error : HeatError}
    (failed : checkStackStatus stack expected = .error error) : error ≠ .assertion := by
  rintro rfl
  unfold checkStackStatus at failed
  split at failed
  · cases failed
  · split at failed
    · cases failed
    · split at failed
      · cases failed
      · cases failed

theorem checkStack_error {expected : List String} {stack : Option Stack} {error : HeatError}
    (failed : Environment.checkStack expected stack = .error error) : error ≠ .assertion := by
  cases stack with
  | none =>
      rintro rfl
      simp only [Environment.checkStack] at failed
      split at failed
      · cases failed
      · cases failed
  | some stack =>
      cases checked : checkStackStatus stack expected with
      | ok status =>
          simp only [Environment.checkStack, checked] at failed
          cases failed
      | error other =>
          simp only [Environment.checkStack, checked] at failed
          cases failed
          exact checkStackStatus_error checked

theorem waitForStackStatus_ensures (lasting : Lasting allowed) (turns : Nat)
    (expected : List String) (check cached : Bool) (timeout interval : Option ℚ) :
    Effect.Ensures (During start allowed)
      (heat.waitForStackStatus turns expected check cached timeout interval)
      (fun stack state => Answered start allowed stack state ∧
        (check = true → Environment.checkStack expected stack = .ok ()))
      (Failing start allowed) := by
  refine Effect.ensures_bind (Answered start allowed)
    (Retry.loop_ensures (fun _ => During start allowed) (fun _ => untimed_during)
      (waitBody_ensures lasting expected) (fun _ _ _ during => ⟨by simp [loopErrors], during⟩)
      turns cached) fun stack => ?_
  refine Effect.ensures_bind _ (Effect.ensures_ofExcept ?_) fun _ => Effect.ensures_pure ?_
  · intro error failed state answered
    refine ⟨?_, answered.during⟩
    split at failed
    · exact checkStack_error failed
    · cases failed
  · rintro state ⟨passed, answered⟩
    refine ⟨answered, fun checks => ?_⟩
    rw [if_pos checks] at passed
    exact passed

/-- What the loop of `wait_until_stack_deleted` leaves with. -/
theorem deletionBody_ensures (lasting : Lasting allowed) (turns : Nat) (check : Bool)
    (attempt : RetryAttempt) (cached : Bool) :
    Effect.Ensures (During start allowed) (heat.deletionBody turns check attempt cached)
      (Retry.Turn.Holds (fun _ => During start allowed) fun _ => Answered start allowed none)
      (Failing start allowed) := by
  refine Effect.ensures_bind _ (waitForStackStatus_ensures lasting turns _ check cached _ _)
    fun stack => ?_
  cases stack with
  | none => exact Effect.ensures_pure fun _ answered => answered.1
  | some stack =>
      dsimp only
      split
      · exact Effect.ensures_raise fun _ answered => ⟨by simp, answered.1.during⟩
      · split
        · exact Effect.ensures_raise fun _ answered => ⟨by simp, answered.1.during⟩
        · exact Effect.ensures_pure fun _ answered => answered.1.during

theorem waitUntilStackDeleted_ensures (lasting : Lasting allowed) (turns : Nat)
    (check cached : Bool) (timeout interval : Option ℚ) :
    Effect.Ensures (During start allowed)
      (heat.waitUntilStackDeleted turns check cached timeout interval)
      (fun _ => Answered start allowed none) (Failing start allowed) :=
  Retry.loop_ensures (fun _ => During start allowed) (fun _ => untimed_during)
    (deletionBody_ensures lasting turns check)
    (fun _ _ _ during => ⟨by simp [loopErrors], during⟩) turns cached

/-! ### Creation -/

/-- The stack that the server told of last has an expected status. -/
def Validated (start : HeatState World) (allowed : List Event → Prop) (stack : Option Stack)
    (state : HeatState World) : Prop :=
  ∃ found, stack = some found ∧ found.status ∈ Environment.expectedCreatedStatus ∧
    During start (fun events => allowed events ∧ observed start.stack events = some found) state

theorem During.mono {weaker : List Event → Prop} {state : HeatState World}
    (during : During start allowed state)
    (weakened : ∀ events, allowed events → weaker events) : During start weaker state := by
  obtain ⟨events, course⟩ := during
  exact ⟨events, course.log, weakened events course.allowed, course.stack⟩

theorem Failing.mono {weaker : List Event → Prop} {error : HeatError} {state : HeatState World}
    (failing : Failing start allowed error state)
    (weakened : ∀ events, allowed events → weaker events) : Failing start weaker error state :=
  ⟨failing.1, failing.2.mono weakened⟩

theorem Validated.mono {weaker : List Event → Prop} {stack : Option Stack}
    {state : HeatState World} (validated : Validated start allowed stack state)
    (weakened : ∀ events, allowed events → weaker events) :
    Validated start weaker stack state := by
  obtain ⟨found, same, status, during⟩ := validated
  exact ⟨found, same, status, during.mono fun events holds => ⟨weakened events holds.1, holds.2⟩⟩

theorem validateCreatedStack_ensures (lasting : Lasting allowed) (turns : Nat) :
    Effect.Ensures (During start allowed) (heat.validateCreatedStack turns)
      (Validated start allowed) (Failing start allowed) := by
  refine (waitForStackStatus_ensures lasting turns Environment.expectedCreatedStatus true true
    none none).mono (fun _ during => during) ?_ fun _ _ failing => failing
  rintro stack state ⟨⟨events, course, _, seen, _⟩, passed⟩
  obtain ⟨absent, present⟩ := checkStack_ok (passed rfl)
  cases stack with
  | none => exact absurd (absent rfl) (by decide)
  | some found =>
      exact ⟨found, rfl, present found rfl, events, course.log, ⟨course.allowed, seen⟩,
        course.stack⟩

theorem polls_ensures (lasting : Lasting allowed) (count : Nat) :
    Effect.Ensures (During start allowed) (heat.polls count) (fun _ => During start allowed)
      (Failing start allowed) := by
  induction count with
  | zero => exact Effect.ensures_pure fun _ during => during
  | succ count inductionHypothesis =>
      refine Effect.ensures_bind _ (getStack_ensures lasting) fun answer => ?_
      exact inductionHypothesis.mono (fun _ answered => answered.during) (fun _ _ same => same)
        fun _ _ same => same

theorem runHook_ensures (lasting : Lasting allowed) (hook : Hook) :
    Effect.Ensures (During start allowed) (heat.runHook hook) (fun _ => During start allowed)
      (Failing start allowed) := by
  refine Effect.ensures_bind _ ask_ensures fun called => ?_
  refine Effect.ensures_bind _ (polls_ensures lasting called.1) fun _ => ?_
  split
  · exact Effect.ensures_raise fun _ during => ⟨by simp, during⟩
  · exact Effect.ensures_pure fun _ during => during

theorem validateNewStack_ensures (lasting : Lasting allowed) (turns : Nat) (id : String) :
    Effect.Ensures (During start allowed) (heat.validateNewStack turns id)
      (Validated start allowed) (Failing start allowed) := by
  refine Effect.ensures_bind _
    (Effect.ensures_attempt (validateCreatedStack_ensures lasting turns)) fun result => ?_
  cases result with
  | error error =>
      dsimp only
      split
      · rename_i invalid
        have distinct : error ≠ .assertion := by
          rintro rfl
          cases invalid
        refine Effect.ensures_bind (fun _ => During start allowed) ?_
          fun _ => Effect.ensures_raise fun _ during => ⟨distinct, during⟩
        exact (deleteStack_ensures lasting.deleteSent id).mono
          (fun _ ended => (ended.2 error rfl).2) (fun _ _ same => same) fun _ _ same => same
      · exact Effect.ensures_raise fun _ ended => ended.2 error rfl
  | ok stack =>
      cases stack with
      | none =>
          refine Effect.ensures_raise fun _ ended => ?_
          obtain ⟨found, same, _⟩ := ended.1 none rfl
          cases same
      | some stack =>
          dsimp only
          split
          · intro state ended
            obtain ⟨found, same, status, during⟩ := ended.1 _ rfl
            cases same
            refine Effect.ensures_bind _ ((deleteStack_ensures ?_ id).mono (fun _ same => same)
              (fun _ _ same => same) fun _ _ failing => failing.mono fun _ holds => holds.1)
              (fun _ => Effect.ensures_pure fun _ later => ⟨stack, rfl, status, later⟩) state during
            exact fun events id holds => ⟨lasting.deleteSent _ _ holds.1, by simpa using holds.2⟩
          · exact Effect.ensures_pure fun _ ended => ended.1 _ rfl

/-! ### The whole call -/

/-- No preparation for a new stack has begun. -/
def Waiting (events : List Event) : Prop := .createSent ∉ events ∧ .prepares ∉ events

/-- The preparations began when the server had just said that there is no stack. -/
def Prepared (events : List Event) : Prop :=
  ∃ waits rest, events = waits ++ .got none :: .prepares :: rest ∧ Waiting waits

/-- A stack is only created after that. -/
def Safe (events : List Event) : Prop := .createSent ∈ events → Prepared events

theorem lasting_waiting : Lasting Waiting where
  got events answer waiting := by simpa [Waiting] using waiting
  deleteSent events id waiting := by simpa [Waiting] using waiting

theorem Prepared.append {events : List Event} (prepared : Prepared events) (event : Event) :
    Prepared (events ++ [event]) := by
  obtain ⟨waits, rest, rfl, waiting⟩ := prepared
  exact ⟨waits, rest ++ [event], by simp, waiting⟩

theorem lasting_prepared : Lasting Prepared where
  got _ answer prepared := prepared.append (.got answer)
  deleteSent _ id prepared := prepared.append (.deleteSent id)

theorem safe_of_waiting {events : List Event} (waiting : Waiting events) : Safe events :=
  fun created => absurd created waiting.1

theorem safe_of_prepared {events : List Event} (prepared : Prepared events) : Safe events :=
  fun _ => prepared

theorem record_ensures {event : Event} {raises : HeatError → HeatState World → Prop}
    {later : List Event → Prop}
    (allowedLater : ∀ events, allowed events → later (events ++ [event]))
    (unseen : ∀ events, observed start.stack (events ++ [event]) = observed start.stack events) :
    Effect.Ensures (During start allowed) (Environment.record event) (fun _ => During start later)
      raises := by
  refine Effect.ensures_modify ?_
  rintro state ⟨events, course⟩
  refine ⟨events ++ [event], by simp [course.log], allowedLater events course.allowed, ?_⟩
  rw [unseen]
  exact course.stack

theorem sendCreate_ensures :
    Effect.Ensures (During start Prepared) heat.sendCreate (fun _ => During start Prepared)
      (Failing start Prepared) :=
  Effect.ensures_bind _ (record_ensures (fun _ prepared => prepared.append .createSent)
    fun _ => observed_createSent) fun _ => ask_ensures

/-- What follows the begin of the preparations. -/
theorem prepared_ensures (turns : Nat) :
    Effect.Ensures (During start Prepared)
      (do
        heat.runHook .getStackParameters
        heat.runHook .ensureQuotaLimits
        heat.runHook .prepareExternalResources
        match ← heat.sendCreate with
        | .raises => Effect.raise .raised
        | .conflict => heat.validateCreatedStack turns
        | .created id => heat.validateNewStack turns id)
      (Validated start Prepared) (Failing start Prepared) := by
  refine Effect.ensures_bind _ (runHook_ensures lasting_prepared _) fun _ => ?_
  refine Effect.ensures_bind _ (runHook_ensures lasting_prepared _) fun _ => ?_
  refine Effect.ensures_bind _ (runHook_ensures lasting_prepared _) fun _ => ?_
  refine Effect.ensures_bind _ sendCreate_ensures fun answer => ?_
  cases answer with
  | created id => exact validateNewStack_ensures lasting_prepared turns id
  | conflict => exact validateCreatedStack_ensures lasting_prepared turns
  | raises => exact Effect.ensures_raise fun _ during => ⟨by simp, during⟩

/-- After the waits the assertion holds, and a stack is returned only when it is valid. -/
theorem createNewStack_ensures (turns : Nat) :
    Effect.Ensures (Answered start Waiting none) (heat.createNewStack turns)
      (Validated start Safe) (Failing start Safe) := by
  refine Effect.ensures_bind (fun read state => Answered start Waiting none state ∧ read = state)
    (Effect.ensures_get fun _ answered => ⟨answered, rfl⟩) fun read => ?_
  split
  · rename_i present
    refine Effect.ensures_raise ?_
    rintro state ⟨⟨events, course, absent, _⟩, rfl⟩
    exact absurd absent present
  · refine Effect.ensures_bind (fun _ => During start Prepared) (Effect.ensures_modify ?_)
      fun _ => (prepared_ensures turns).mono (fun _ during => during)
        (fun _ _ validated => validated.mono fun _ => safe_of_prepared)
        fun _ _ failing => failing.mono fun _ => safe_of_prepared
    rintro state ⟨⟨events, course, absent, _, ends⟩, rfl⟩
    obtain ⟨waits, rfl⟩ := ends rfl
    refine ⟨waits ++ [.got none] ++ [.prepares], by simp [course.log], ⟨waits, [], by simp, ?_⟩,
      .inl absent⟩
    simpa [Waiting] using course.allowed

theorem tryCreateStack_ensures (turns : Nat) :
    Effect.Ensures (During start Waiting) (heat.tryCreateStack turns)
      (Validated start Safe) (Failing start Safe) := by
  have failing : ∀ error state, Failing start Waiting error state →
      Failing start Safe error state := fun _ _ failing => failing.mono fun _ => safe_of_waiting
  refine Effect.ensures_bind _ ((waitForStackStatus_ensures lasting_waiting turns _ true true
    none none).mono (fun _ during => during) (fun _ _ answered => answered.1) failing)
    fun stack => ?_
  cases stack with
  | none => exact createNewStack_ensures turns
  | some stack =>
      dsimp only
      split
      · exact (validateCreatedStack_ensures lasting_waiting turns).mono
          (fun _ answered => answered.during)
          (fun _ _ validated => validated.mono fun _ => safe_of_waiting) failing
      · have recreates : Effect.Ensures (During start Waiting)
            (do
              heat.waitUntilStackDeleted turns true true none none
              heat.createNewStack turns) (Validated start Safe) (Failing start Safe) :=
          Effect.ensures_bind _ ((waitUntilStackDeleted_ensures lasting_waiting turns true true
            none none).mono (fun _ during => during) (fun _ _ same => same) failing)
            fun _ => createNewStack_ensures turns
        split
        · refine Effect.ensures_bind _ ?_ fun _ => recreates
          exact (deleteStack_ensures lasting_waiting.deleteSent stack.id).mono
            (fun _ answered => answered.during) (fun _ _ during => during) failing
        · exact recreates.mono (fun _ answered => answered.during) (fun _ _ same => same)
            fun _ _ same => same

end Course

/-- **Safe creation.** Whatever the server, the hooks and the clock do and whatever stack was
cached, `try_create_stack` sends `stacks.create` only when its waits have ended with the
answer that there is no stack, its assertion never fails, and it returns only a stack that
was in an expected status when it was observed last. `wait_for_stack_status` with its check
returns only a stack in an expected status, or none where the deletion is expected. -/
theorem try_create_stack_safe {World : Type} (heat : Environment World) (turns : Nat) :
    (∀ state result after, heat.tryCreateStack turns state = some (result, after) →
      ∃ events, after.log = state.log ++ events ∧
        (.createSent ∈ events → ∃ waits rest,
          events = waits ++ .got none :: .prepares :: rest ∧
            .createSent ∉ waits ∧ .prepares ∉ waits) ∧
        result ≠ .error .assertion ∧
        ∀ stack, result = .ok stack → ∃ found, stack = some found ∧
          observed state.stack events = some found ∧
          found.status ∈ [createInProgress, createComplete]) ∧
    ∀ expected cached timeout interval state stack after,
      heat.waitForStackStatus turns expected true cached timeout interval state =
        some (.ok stack, after) →
      (stack = none → deleteComplete ∈ expected) ∧
        ∀ found, stack = some found → found.status ∈ expected := by
  refine ⟨fun state result after ended => ?_, fun expected cached timeout interval state stack
    after ended => ?_⟩
  · have waiting : During state Waiting state := during_start (by simp [Waiting])
    obtain ⟨returned, raised⟩ := tryCreateStack_ensures turns state waiting result after ended
    cases result with
    | error error =>
        obtain ⟨distinct, events, course⟩ := raised error rfl
        refine ⟨events, course.log, course.allowed, by simpa using distinct, ?_⟩
        intro stack same
        cases same
    | ok stack =>
        obtain ⟨found, same, status, events, course⟩ := returned stack rfl
        refine ⟨events, course.log, course.allowed.1, by simp, ?_⟩
        intro other returns
        cases returns
        exact ⟨found, same, course.allowed.2, status⟩
  · have waiting : During state Waiting state := during_start (by simp [Waiting])
    have answered := (waitForStackStatus_ensures lasting_waiting turns expected true cached timeout
      interval state waiting _ after ended).1 stack rfl
    exact checkStack_ok (answered.2 rfl)

/-- A server that answers as it is told, and creates stacks. -/
def scripted : Environment (ℚ × List (Option Stack)) where
  clock :=
    { now := fun world => world.1
      time := fun world => (world.1, world)
      sleep := fun seconds world => (world.1 + seconds, world.2)
      time_after := fun _ => le_rfl
      time_before := fun _ => le_rfl
      sleep_after := fun _ _ => le_rfl }
  get world := (world.2.head?, (world.1, world.2.tail))
  create world := (.created "new", world)
  delete _ world := (.deleted, world)
  hook _ world := ((0, false), world)
  stackName := "stack"
  waitTimeout := none
  waitInterval := none

/-- A failed stack is deleted, and a new one created. -/
example : (scripted.tryCreateStack 3 ⟨none, [], 0, [some ⟨"old", "CREATE_FAILED"⟩, none,
    some ⟨"new", "CREATE_IN_PROGRESS"⟩]⟩).map (fun ended => ended.2.log) =
      some [.got (some ⟨"old", "CREATE_FAILED"⟩), .deleteSent "old", .got none, .prepares,
        .createSent, .got (some ⟨"new", "CREATE_IN_PROGRESS"⟩)] := by
  decide +kernel

end Tobiko.Openstack.Heat.Creation
